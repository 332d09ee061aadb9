/-
  TagAudit.Proofs.Regex.Closing — reading an expression that something is written after.

  An expression that has to match a whole text is read with a closing mark after it. A reader keeps to
  its text (`Kept`) if, before the mark, it reads what it reads at the end of the text, and leaves the
  mark. Readers put together from such readers keep to their texts, too. White space is the exception:
  a comment that is open at the end of the text swallows the mark (`skipExtended_closing`). A reader
  that may end in white space keeps to its text or leaves a comment open (`KeptOrOpen`); where
  something has to be read after the white space, it keeps to its text (`Kept.space`).
-/

import TagAudit.Regex.Reader

namespace TagAudit.Regex

/-- What is written after an expression that has to match a whole text. -/
def closingMark : List Char := [')', '$']

/-- The state in which the closing mark comes after the text that is left. -/
def State.closed (s : State) : State := { s with rest := s.rest ++ closingMark }

@[simp] theorem State.closed_rest (s : State) : s.closed.rest = s.rest ++ closingMark := rfl

/-- A number sign has no line feed after it: a comment could start there and still be open at the end. -/
def CommentOpen (cs : List Char) : Prop := ∃ before after, cs = before ++ '#' :: after ∧ '\n' ∉ after

theorem CommentOpen.of_suffix {cs ds : List Char} (h : CommentOpen ds) (hs : ds <:+ cs) : CommentOpen cs := by
  obtain ⟨before, rfl⟩ := hs
  obtain ⟨b, after, rfl, hn⟩ := h
  exact ⟨before ++ b, after, by simp, hn⟩

/-- Whenever `x` succeeds in the state `s`, `y` gives the same before the closing mark and leaves the mark. -/
def Kept {α : Type} (start : List Char) (s : State) (x y : Reading α) : Prop :=
  ∀ a s', x s = some (a, s') → s'.rest <:+ start ∧ y s.closed = some (a, s'.closed)

/-- A reader that gives the same before the closing mark as `x` does at the end. -/
def KeptBy {α : Type} (x y : Reading α) : Prop := ∀ s, Kept s.rest s x y

/-- A reader that gives the same before the closing mark as at the end. -/
def Keeps {α : Type} (x : Reading α) : Prop := KeptBy x x

/-- What `y` does before the closing mark in the state `s` is what `x` does at the end, or else a comment that is
    open at the end has swallowed the mark. -/
def KeptOrOpen {α : Type} (s : State) (x y : Reading α) : Prop :=
  ∀ a s', x s = some (a, s') → s'.rest <:+ s.rest ∧
    (y s.closed = some (a, s'.closed) ∨ s'.rest = [] ∧ CommentOpen s.rest ∧ y s.closed = some (a, s'))

/-- One reader after the other. -/
theorem run_bind {α β : Type} (x : Reading α) (f : α → Reading β) (s : State) :
    (x >>= f) s = (x s).bind fun p => f p.1 p.2 := rfl

theorem run_map {α β : Type} (f : α → β) (x : Reading α) (s : State) :
    (f <$> x) s = (x s).bind fun p => some (f p.1, p.2) := rfl

namespace Kept

variable {α β : Type} {start : List Char} {s : State}

theorem failure {y : Reading α} : Kept start s Alternative.failure y := fun _ _ h => nomatch h

theorem widen {start' : List Char} {x y : Reading α} (h : Kept start' s x y) (hs : start' <:+ start) :
    Kept start s x y :=
  fun a s' hr => ⟨(h a s' hr).1.trans hs, (h a s' hr).2⟩

theorem pure (a : α) : Kept s.rest s (Pure.pure a) (Pure.pure a) := by
  intro b s' h
  obtain ⟨rfl, rfl⟩ := Prod.mk.inj (Option.some.inj h)
  exact ⟨List.suffix_refl _, rfl⟩

theorem bind {x y : Reading α} {f g : α → Reading β} (hx : Kept s.rest s x y)
    (hf : ∀ a s', x s = some (a, s') → Kept s'.rest s' (f a) (g a)) : Kept s.rest s (x >>= f) (y >>= g) := by
  intro b s'' h
  rw [run_bind] at h ⊢
  obtain ⟨⟨a, s'⟩, hr, h⟩ := Option.bind_eq_some_iff.mp h
  obtain ⟨hsuffix, hq⟩ := hx a s' hr
  obtain ⟨hsuffix', hq'⟩ := hf a s' hr b s'' h
  rw [hq]
  exact ⟨hsuffix'.trans hsuffix, hq'⟩

theorem map (f : α → β) {x y : Reading α} (hx : Kept start s x y) : Kept start s (f <$> x) (f <$> y) := by
  intro b s' h
  rw [run_map] at h ⊢
  obtain ⟨⟨a, s1⟩, hr, h⟩ := Option.bind_eq_some_iff.mp h
  obtain ⟨rfl, rfl⟩ := Prod.mk.inj (Option.some.inj h)
  obtain ⟨hsuffix, hq⟩ := hx a s1 hr
  rw [hq]
  exact ⟨hsuffix, rfl⟩

theorem rest {f g : List Char → Reading β} (h : ∀ cs, s.rest = cs → Kept s.rest s (f cs) (g (cs ++ closingMark))) :
    Kept s.rest s (Regex.rest >>= f) (Regex.rest >>= g) := h s.rest rfl

theorem flags {f g : Flags → Reading β} (h : Kept s.rest s (f s.flags) (g s.flags)) :
    Kept s.rest s (Regex.flags >>= f) (Regex.flags >>= g) := h

theorem setRest {cs : List Char} {f g : Unit → Reading β} (hs : cs <:+ start)
    (h : Kept cs { s with rest := cs } (f ()) (g ())) :
    Kept start s (Regex.setRest cs >>= f) (Regex.setRest (cs ++ closingMark) >>= g) := h.widen hs

theorem get {f g : State → Reading β} (h : Kept start s (f s) (g s.closed)) :
    Kept start s (MonadState.get >>= f) (MonadState.get >>= g) := h

theorem modified {f g : State → State} (hs : (f s).rest <:+ start) (hfg : g s.closed = (f s).closed) :
    Kept start s (modify f) (modify g) := by
  intro a s' h
  obtain ⟨rfl, rfl⟩ := Prod.mk.inj (Option.some.inj h)
  exact ⟨hs, congrArg (fun s => some (PUnit.unit, s)) hfg⟩

theorem guarded {p q : Prop} [Decidable p] [Decidable q] {f g : PUnit → Reading β}
    (h : ¬p → ¬q ∧ Kept start s (f ⟨⟩) (g ⟨⟩)) :
    Kept start s (if p then Alternative.failure >>= f else f ⟨⟩) (if q then Alternative.failure >>= g else g ⟨⟩) := by
  by_cases hp : p
  · rw [if_pos hp]
    exact fun _ _ h => nomatch h
  · obtain ⟨hq, hfg⟩ := h hp
    rw [if_neg hp, if_neg hq]
    exact hfg

theorem ite {p q : Prop} [Decidable p] [Decidable q] {x x' y y' : Reading β} (hpq : p ↔ q)
    (hx : p → Kept start s x x') (hy : ¬p → Kept start s y y') :
    Kept start s (if p then x else y) (if q then x' else y') := by
  by_cases hp : p
  · rw [if_pos hp, if_pos (hpq.mp hp)]
    exact hx hp
  · rw [if_neg hp, if_neg (mt hpq.mpr hp)]
    exact hy hp

/-- After a reader that may leave a comment open comes one that needs something to read. -/
theorem bind_open {x y : Reading α} {f g : α → Reading β} (hx : KeptOrOpen s x y)
    (hend : ∀ a s', s'.rest = [] → f a s' = none)
    (hf : ∀ a s', x s = some (a, s') → s'.rest ≠ [] → Kept s'.rest s' (f a) (g a)) :
    Kept s.rest s (x >>= f) (y >>= g) := by
  intro b s'' h
  rw [run_bind] at h ⊢
  obtain ⟨⟨a, s'⟩, hr, h⟩ := Option.bind_eq_some_iff.mp h
  have hne : s'.rest ≠ [] := fun hnil => by
    rw [hend a s' hnil] at h
    contradiction
  obtain ⟨hsuffix, hq⟩ := hx a s' hr
  obtain ⟨hsuffix', hq'⟩ := hf a s' hr hne b s'' h
  rw [hq.resolve_right fun hopen => hne hopen.1]
  exact ⟨hsuffix'.trans hsuffix, hq'⟩

end Kept

namespace KeptOrOpen

variable {α β : Type} {s : State}

theorem of_kept {x y : Reading α} (h : Kept s.rest s x y) : KeptOrOpen s x y :=
  fun a s' hr => ⟨(h a s' hr).1, .inl (h a s' hr).2⟩

theorem bind {x y : Reading α} {f g : α → Reading β} (hx : Kept s.rest s x y)
    (hf : ∀ a s', x s = some (a, s') → KeptOrOpen s' (f a) (g a)) : KeptOrOpen s (x >>= f) (y >>= g) := by
  intro b s'' h
  rw [run_bind] at h ⊢
  obtain ⟨⟨a, s'⟩, hr, h⟩ := Option.bind_eq_some_iff.mp h
  obtain ⟨hsuffix, hq⟩ := hx a s' hr
  obtain ⟨hsuffix', hq'⟩ := hf a s' hr b s'' h
  rw [hq]
  exact ⟨hsuffix'.trans hsuffix, hq'.imp_right fun ⟨hnil, hopen, hq'⟩ => ⟨hnil, hopen.of_suffix hsuffix, hq'⟩⟩

theorem setRest {cs : List Char} {f g : Unit → Reading β} (hs : cs <:+ s.rest)
    (h : KeptOrOpen { s with rest := cs } (f ()) (g ())) :
    KeptOrOpen s (Regex.setRest cs >>= f) (Regex.setRest (cs ++ closingMark) >>= g) := by
  intro a s' hr
  obtain ⟨hsuffix, hq⟩ := h a s' hr
  exact ⟨hsuffix.trans hs, hq.imp_right fun ⟨hnil, hopen, hq⟩ => ⟨hnil, hopen.of_suffix hs, hq⟩⟩

theorem of_rest {f g : List Char → Reading β} (h : ∀ cs, s.rest = cs → KeptOrOpen s (f cs) (g (cs ++ closingMark))) :
    KeptOrOpen s (Regex.rest >>= f) (Regex.rest >>= g) := h s.rest rfl

end KeptOrOpen

theorem flags_bind {α : Type} (f : Flags → Reading α) (s : State) : (flags >>= f) s = f s.flags s := rfl

theorem rest_bind {α : Type} (f : List Char → Reading α) (s : State) : (rest >>= f) s = f s.rest s := rfl

/-- At the end of the text nothing is left to go on with. -/
theorem rest_bind_nil {α : Type} {s : State} {f : List Char → Reading α} (hs : s.rest = []) :
    (rest >>= f) s = f [] s := by
  show f s.rest s = f [] s
  rw [hs]

/-! ## Text before the closing mark -/

theorem dropWhile_closing {p : Char → Bool} (hp : p ')' = false) (cs : List Char) :
    (cs ++ closingMark).dropWhile p = cs.dropWhile p ++ closingMark := by
  induction cs with
  | nil => simp [closingMark, hp]
  | cons c cs ih =>
    simp only [List.cons_append, List.dropWhile_cons, ih]
    split <;> rfl

theorem takeWhile_append_of_dropWhile {p : Char → Bool} {cs : List Char} (h : cs.dropWhile p ≠ []) (ds : List Char) :
    (cs ++ ds).takeWhile p = cs.takeWhile p := by
  induction cs with
  | nil => exact absurd rfl h
  | cons c cs ih =>
    simp only [List.cons_append, List.takeWhile_cons, List.dropWhile_cons] at h ⊢
    split
    · rename_i hc
      rw [ih (by simpa [hc] using h)]
    · rfl

theorem dropWhile_append_of_ne_nil {p : Char → Bool} {cs : List Char} (h : cs.dropWhile p ≠ []) (ds : List Char) :
    (cs ++ ds).dropWhile p = cs.dropWhile p ++ ds := by
  induction cs with
  | nil => exact absurd rfl h
  | cons c cs ih =>
    simp only [List.cons_append, List.dropWhile_cons] at h ⊢
    split
    · rename_i hc
      exact ih (by simpa [hc] using h)
    · rfl

theorem suffix_spacedRun (p : Char → Bool) (comment : Bool) (cs : List Char) : (spacedRun p comment cs).2 <:+ cs := by
  induction cs generalizing comment with
  | nil => simp [spacedRun]
  | cons c cs ih =>
    have hsuffix (comment : Bool) : (spacedRun p comment cs).2 <:+ c :: cs := (ih comment).trans (List.suffix_cons c cs)
    rw [spacedRun]
    split
    · exact hsuffix _
    · split
      · exact hsuffix _
      · split
        · exact hsuffix _
        · split
          · exact hsuffix _
          · exact List.suffix_refl _

theorem Flags.suffix_run (f : Flags) (p : Char → Bool) (cs : List Char) : (f.run p cs).2 <:+ cs := by
  unfold run
  split
  · exact suffix_spacedRun p false cs
  · exact List.dropWhile_suffix p

theorem spacedRun_append {p : Char → Bool} {comment : Bool} {cs : List Char} (h : (spacedRun p comment cs).2 ≠ [])
    (ds : List Char) :
    spacedRun p comment (cs ++ ds) = ((spacedRun p comment cs).1, (spacedRun p comment cs).2 ++ ds) := by
  induction cs generalizing comment with
  | nil => exact absurd rfl h
  | cons c cs ih =>
    rw [spacedRun] at h ⊢
    rw [List.cons_append, spacedRun]
    by_cases hcomment : comment
    · simp only [hcomment, if_true] at h ⊢
      exact ih h
    by_cases hblank : Text.isBlank c
    · simp only [hcomment, hblank, if_true, Bool.false_eq_true, if_false] at h ⊢
      exact ih h
    by_cases hsign : c = '#'
    · simp only [hcomment, hsign, if_true, Bool.false_eq_true, if_false] at h ⊢
      exact ih h
    by_cases hc : p c
    · simp only [hcomment, hblank, hsign, hc, if_true, Bool.false_eq_true, if_false] at h ⊢
      rw [ih h]
    · simp only [hcomment, hblank, hsign, hc, Bool.false_eq_true, if_false, List.cons_append]

/-- A run that something ends is the same before what is written after it. -/
theorem Flags.run_append (f : Flags) {p : Char → Bool} {cs : List Char} (h : (f.run p cs).2 ≠ []) (ds : List Char) :
    f.run p (cs ++ ds) = ((f.run p cs).1, (f.run p cs).2 ++ ds) := by
  unfold run at h ⊢
  by_cases hx : f.extended
  · simp only [hx, if_true] at h ⊢
    exact spacedRun_append h ds
  · simp only [hx, Bool.false_eq_true, if_false] at h ⊢
    rw [takeWhile_append_of_dropWhile h, dropWhile_append_of_ne_nil h]

/-- Where nothing is seen the closing mark is. -/
theorem Flags.peek?_closing (f : Flags) (cs : List Char) : f.peek? (cs ++ closingMark) = f.peek? cs ∨
    f.peek? cs = none ∧ f.peek? (cs ++ closingMark) = some ')' := by
  have head (cs : List Char) : (cs ++ closingMark).head? = cs.head? ∨ cs.head? = none ∧ (cs ++ closingMark).head? = some ')' := by
    cases cs with
    | nil => exact .inr ⟨rfl, rfl⟩
    | cons c cs => exact .inl rfl
  unfold peek?
  by_cases hx : f.extended
  · rw [if_pos hx, if_pos hx, dropWhile_closing (by decide)]
    rcases cs.dropWhile Text.isBlank with _ | ⟨c, after⟩
    · exact .inr ⟨rfl, rfl⟩
    · by_cases hc : c = '#'
      · subst hc
        simp only [List.cons_append]
        rw [dropWhile_closing (by decide)]
        exact head _
      · simp only [hc, List.cons_append, List.cons.injEq, false_and, imp_false, not_false_eq_true, implies_true,
          List.head?_cons, true_or]
  · rw [if_neg hx, if_neg hx]
    exact head cs

theorem afterMark?_closing {mark : List Char} (hm : ')' ∉ mark) (cs : List Char) :
    Text.afterMark? mark (cs ++ closingMark) = (Text.afterMark? mark cs).map (· ++ closingMark) := by
  induction mark generalizing cs with
  | nil => simp [Text.afterMark?]
  | cons m mark ih =>
    simp only [List.mem_cons, not_or] at hm
    cases cs with
    | nil => simp [Text.afterMark?, closingMark, Ne.symm hm.1]
    | cons c cs =>
      simp only [List.cons_append, Text.afterMark?]
      split
      · exact ih hm.2 cs
      · rfl

theorem suffix_of_afterMark? {mark cs rest : List Char} (h : Text.afterMark? mark cs = some rest) : rest <:+ cs :=
  ⟨mark, (Text.afterMark?_eq_some.mp h).symm⟩

/-- White space and comments end before the closing mark, or a comment swallows it. -/
theorem skipExtended_closing (comment : Bool) (cs : List Char) : skipExtended comment cs <:+ cs ∧
    (skipExtended comment (cs ++ closingMark) = skipExtended comment cs ++ closingMark ∨
      skipExtended comment cs = [] ∧ skipExtended comment (cs ++ closingMark) = [] ∧
        (CommentOpen cs ∨ comment ∧ '\n' ∉ cs)) := by
  induction cs generalizing comment with
  | nil =>
    refine ⟨by simp [skipExtended], ?_⟩
    cases comment with
    | false => exact .inl (by decide)
    | true => exact .inr ⟨rfl, by decide, .inr ⟨rfl, List.not_mem_nil⟩⟩
  | cons c cs ih =>
    have hopen : CommentOpen cs → CommentOpen (c :: cs) := fun h => h.of_suffix (List.suffix_cons c cs)
    have hsuffix (b : Bool) : skipExtended b cs <:+ c :: cs := (ih b).1.trans (List.suffix_cons c cs)
    cases comment with
    | true =>
      simp only [List.cons_append, skipExtended, if_pos]
      refine ⟨hsuffix _, (ih (c != '\n')).2.imp_right fun ⟨h, h', hend⟩ => ⟨h, h', ?_⟩⟩
      rcases hend with hend | ⟨hc, hn⟩
      · exact .inl (hopen hend)
      · exact .inr ⟨trivial, by simpa [eq_comm] using ⟨bne_iff_ne.mp hc, hn⟩⟩
    | false =>
      simp only [List.cons_append, skipExtended, Bool.false_eq_true, if_false]
      by_cases hb : Text.isBlank c
      · rw [if_pos hb, if_pos hb]
        refine ⟨hsuffix _, (ih false).2.imp_right fun ⟨h, h', hend⟩ => ⟨h, h', .inl ?_⟩⟩
        exact hopen (hend.resolve_right fun h => Bool.false_ne_true h.1)
      · rw [if_neg hb, if_neg hb]
        by_cases hc : c = '#'
        · rw [if_pos hc, if_pos hc]
          refine ⟨hsuffix _, (ih true).2.imp_right fun ⟨h, h', hend⟩ => ⟨h, h', .inl ?_⟩⟩
          exact hend.elim hopen fun ⟨_, hn⟩ => ⟨[], cs, by rw [hc]; rfl, hn⟩
        · rw [if_neg hc, if_neg hc]
          exact ⟨List.suffix_refl _, .inl rfl⟩

theorem keptOrOpen_space (s : State) : KeptOrOpen s space space := by
  have hspace (s : State) :
      space s = some ((), if s.flags.extended then { s with rest := skipExtended false s.rest } else s) := rfl
  intro a s' h
  rw [hspace] at h ⊢
  obtain ⟨rfl, rfl⟩ := Prod.mk.inj (Option.some.inj h)
  by_cases hx : s.flags.extended
  · have hx' : s.closed.flags.extended := hx
    obtain ⟨hsuffix, hskip⟩ := skipExtended_closing false s.rest
    rw [if_pos hx, if_pos hx']
    refine ⟨hsuffix, ?_⟩
    rcases hskip with hskip | ⟨hnil, hskip, hopen⟩
    · left
      simp only [State.closed, hskip]
    · right
      refine ⟨hnil, hopen.resolve_right fun h => Bool.false_ne_true h.1, ?_⟩
      simp only [State.closed, hskip, hnil]
  · have hx' : ¬ s.closed.flags.extended := hx
    rw [if_neg hx, if_neg hx']
    exact ⟨List.suffix_refl _, .inl rfl⟩

theorem space_isSome (s : State) : ∃ s', space s = some ((), s') := ⟨_, rfl⟩

theorem space_nil {s : State} (hs : s.rest = []) : space s = some ((), s) := by
  have hspace : space s = some ((), if s.flags.extended then { s with rest := skipExtended false s.rest } else s) := rfl
  obtain ⟨_, flags, names⟩ := s
  obtain rfl : _ = [] := hs
  rw [hspace]
  split <;> rfl

/-- White space before a reader that needs something to read. -/
theorem Kept.space {β : Type} {s : State} {f g : Unit → Reading β} (hend : ∀ s', s'.rest = [] → f () s' = none)
    (h : ∀ s' c cs, s'.rest = c :: cs → Kept s'.rest s' (f ()) (g ())) :
    Kept s.rest s (Regex.space >>= f) (Regex.space >>= g) := by
  refine Kept.bind_open (keptOrOpen_space s) (fun _ => hend) fun _ s' _ hne => ?_
  obtain ⟨c, cs, hs⟩ := List.exists_cons_of_ne_nil hne
  exact h s' c cs hs

/-- White space before a reader that may be at the end: what comes after the mark that a comment swallowed is read
    at the end as well. -/
theorem KeptOrOpen.bind_space {β : Type} {s : State} {f g : Unit → Reading β}
    (hend : ∀ (s' s'' : State) (b : β), s'.rest = [] → f () s' = some (b, s'') →
      s'' = s' ∧ g () s' = some (b, s') ∧ g () s'.closed = some (b, s'.closed))
    (h : ∀ s' c cs, s'.rest = c :: cs → KeptOrOpen s' (f ()) (g ())) :
    KeptOrOpen s (Regex.space >>= f) (Regex.space >>= g) := by
  intro b s'' hb
  rw [run_bind] at hb ⊢
  obtain ⟨⟨⟨⟩, s'⟩, hspace, hb⟩ := Option.bind_eq_some_iff.mp hb
  obtain ⟨hsuffix, hq⟩ := keptOrOpen_space s _ _ hspace
  rcases hrest : s'.rest with _ | ⟨c, cs⟩
  · obtain ⟨rfl, hg, hclosed⟩ := hend s' s'' b hrest hb
    refine ⟨hsuffix, ?_⟩
    rcases hq with hq | ⟨hnil, hopen, hq⟩
    · rw [hq]
      exact .inl hclosed
    · rw [hq]
      exact .inr ⟨hnil, hopen, hg⟩
  · rw [hq.resolve_right fun hopen => List.cons_ne_nil c cs (hrest ▸ hopen.1)]
    obtain ⟨hsuffix', hq'⟩ := h s' c cs hrest b s'' hb
    exact ⟨hsuffix'.trans hsuffix, hq'.imp_right fun ⟨hnil, hopen, hq'⟩ => ⟨hnil, hopen.of_suffix hsuffix, hq'⟩⟩

/-! ## Characters -/

theorem keeps_next : Keeps next := by
  intro s
  unfold next
  refine Kept.rest fun cs hs => ?_
  cases cs with
  | nil => exact .failure
  | cons c cs => exact .setRest (hs ▸ List.suffix_cons c cs) (.pure _)

theorem keeps_accept {mark : String} (hm : ')' ∉ mark.toList) : Keeps (accept mark) := by
  intro s
  unfold accept
  refine Kept.rest fun cs hs => ?_
  rw [afterMark?_closing hm]
  cases h : Text.afterMark? mark.toList cs with
  | none => exact .pure _
  | some ds => exact .setRest (hs ▸ suffix_of_afterMark? h) (.pure _)

theorem keeps_nextSpaced : Keeps nextSpaced := by
  intro s
  unfold nextSpaced
  refine Kept.bind (keeps_next s) fun c s' _ => Kept.space (fun s' hs => rest_bind_nil hs) fun s' d cs hs => ?_
  refine Kept.rest fun es hes => Kept.guarded fun _ => ?_
  exact ⟨by simp [closingMark], Kept.pure c⟩

end TagAudit.Regex
