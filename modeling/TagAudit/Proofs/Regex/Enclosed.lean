/-
  TagAudit.Proofs.Regex.Enclosed — a readable text as a part of a larger expression.

  Alternatives are read before a closing mark as at the end of the text, unless a comment is open there
  (`keptOrOpen_readAlternatives`), and more fuel changes nothing (`extends_readAlternatives`).

  Proved: `readWhole?_cases`: a text that can be read on its own can be read as an expression that has
  to match as a whole, and this is the same expression enclosed; or else the text ends in a comment,
  and it cannot be read as such an expression at all.
-/

import TagAudit.Proofs.Regex.Classes

namespace TagAudit.Regex

/-! ## Expressions -/

theorem keeps_ofPrimitive (p : Primitive) : Keeps (ofPrimitive p) := by
  intro s
  unfold ofPrimitive
  cases p with
  | literal c byte => exact Kept.flags (Kept.guarded fun h => ⟨h, .pure _⟩)
  | cls c => exact .pure _
  | assertion a => exact .pure _

theorem keeps_dot : Keeps dot := by
  intro s
  unfold dot
  exact Kept.flags (Kept.guarded fun h => ⟨h, .pure _⟩)

theorem count_nil {s : State} (hs : s.rest = []) : count s = none := by
  have hrun : s.flags.run Text.isDigit ([].dropWhile Text.isBlank) = ([], []) := by
    unfold Flags.run
    split <;> rfl
  rw [count, flags_bind, rest_bind_nil hs, hrun]
  rfl

theorem keeps_count : Keeps count := by
  intro s
  unfold count
  refine Kept.flags (Kept.rest fun cs hcs => ?_)
  dsimp only
  rw [dropWhile_closing (by decide)]
  generalize hdigits : s.flags.run Text.isDigit (cs.dropWhile Text.isBlank) = found
  have hsuffix := s.flags.suffix_run Text.isDigit (cs.dropWhile Text.isBlank)
  rw [hdigits] at hsuffix
  refine Kept.guarded fun hne => ?_
  rw [List.isEmpty_iff] at hne ⊢
  have hrun : found.2 ≠ [] := fun hnil => hne (by rw [hnil]; rfl)
  rw [s.flags.run_append (hdigits ▸ hrun), hdigits, dropWhile_closing (by decide)]
  refine ⟨by simp [hne], Kept.setRest ?_ (Kept.ite Iff.rfl (fun _ => .pure _) fun _ => .failure)⟩
  exact hcs ▸ ((List.dropWhile_suffix _).trans hsuffix).trans (List.dropWhile_suffix _)

/-- The end of the bounds of a repetition. -/
theorem keeps_boundsEnd (least : Nat) (most : Option Nat) : Keeps (do
    let '\x7d' :: cs ← rest | failure
    setRest cs
    if most.any fun most => decide (most < least) then failure
    return (least, most)) := by
  intro s
  refine Kept.rest fun cs hcs => ?_
  split
  · simp only [List.cons_append]
    refine Kept.setRest (hcs ▸ List.suffix_cons _ _) (Kept.guarded fun h => ⟨h, .pure _⟩)
  · exact .failure

theorem keeps_bounds : Keeps bounds := by
  intro s
  unfold bounds
  refine Kept.space (fun s' hs => ?_) fun s1 c cs hs => ?_
  · rw [run_bind, count_nil hs]
    rfl
  refine Kept.bind (keeps_count s1) fun least s2 _ => Kept.rest fun ds hds => ?_
  have hend := keeps_boundsEnd least
  dsimp only
  split
  · simp only [List.cons_append]
    refine Kept.setRest (hds ▸ List.suffix_cons _ _) (Kept.space (fun s' hs => ?_) fun s3 c cs hs => ?_)
    · rw [rest_bind_nil hs]
      show (some <$> count >>= _) s' = none
      rw [run_bind, run_map, count_nil hs]
      rfl
    refine Kept.rest fun es hes => ?_
    split
    · simp only [List.cons_append]
      exact Kept.bind (.pure _) fun most s _ => hend most s
    next _ hno =>
      split
      next _ _ heq =>
        obtain ⟨tail, htail, -⟩ := eq_cons_of_closing (by decide) heq
        exact (hno tail htail).elim
      next => exact Kept.bind (Kept.map some (keeps_count s3)) fun most s _ => hend most s
  next _ hno =>
    split
    next _ _ heq =>
      obtain ⟨tail, htail, -⟩ := eq_cons_of_closing (by decide) heq
      exact (hno tail htail).elim
    next => exact Kept.bind (.pure _) fun most s _ => hend most s

/-- The name of a group ends before the closing mark. -/
theorem keeps_groupName : Keeps groupName := by
  intro s
  unfold groupName
  refine Kept.rest fun cs hcs => ?_
  dsimp only
  rcases hdrop : cs.dropWhile (· != '>') with _ | ⟨d, after⟩
  · exact .failure
  have hne := hdrop ▸ List.cons_ne_nil d after
  have hafter : after <:+ s.rest := by
    have h := List.dropWhile_suffix (l := cs) (· != '>')
    rw [hdrop] at h
    exact hcs ▸ (List.suffix_cons d after).trans h
  rw [takeWhile_append_of_dropWhile hne, dropWhile_append_of_ne_nil hne, hdrop]
  by_cases hd : d = '>'
  · subst hd
    simp only [List.cons_append]
    split
    · exact .failure
    · refine Kept.guarded fun h => ⟨h, ?_⟩
      exact Kept.get (Kept.guarded fun h => ⟨h, Kept.modified hafter rfl⟩)
  · simp only [hd, List.cons_append, List.cons.injEq, false_and, imp_false, not_false_eq_true, implies_true]
    exact .failure

theorem groupFlags_closing {f : Flags} {negated dangling : Bool} {seen cs : List Char}
    {found : Flags × Bool × Char × List Char} (h : groupFlags f negated dangling seen cs = some found) :
    found.2.2.2 <:+ cs ∧ groupFlags f negated dangling seen (cs ++ closingMark) =
      some (found.1, found.2.1, found.2.2.1, found.2.2.2 ++ closingMark) := by
  induction cs generalizing f negated dangling seen with
  | nil => contradiction
  | cons c cs ih =>
    rw [List.cons_append]
    by_cases hend : c = ':' ∨ c = ')'
    · obtain rfl | rfl := hend
      all_goals
        rw [groupFlags] at h ⊢
        split at h
        · contradiction
        · obtain rfl := Option.some.inj h
          rw [if_neg ‹_›]
          exact ⟨List.suffix_cons _ _, rfl⟩
    by_cases hminus : c = '-'
    · subst hminus
      rw [groupFlags] at h ⊢
      split at h
      · contradiction
      · rw [if_neg ‹_›]
        exact (ih h).imp_left fun hs => hs.trans (List.suffix_cons _ _)
    · obtain ⟨hcolon, hclose⟩ := not_or.mp hend
      rw [groupFlags] at h ⊢ <;> try assumption
      split at h
      · contradiction
      · obtain ⟨f', hf', h⟩ := Option.bind_eq_some_iff.mp h
        rw [if_neg ‹_›, hf']
        exact (ih h).imp_left fun hs => hs.trans (List.suffix_cons _ _)

theorem keeps_repeated (items : Items) (least : Nat) (most : Option Nat) : Keeps (repeated items least most) := by
  intro s
  unfold repeated
  split
  · exact Kept.bind (keeps_accept (by decide) s) fun _ _ _ => .pure _
  · exact .failure

/-- At the end of the text, or before the closing mark, no question mark follows. -/
theorem repeated_end {items items' : Items} {least : Nat} {most : Option Nat} {s s' : State} (hs : s.rest = [])
    (h : repeated items least most s = some (items', s')) :
    s' = s ∧ repeated items least most s.closed = some (items', s.closed) := by
  unfold repeated at h ⊢
  have hclosed : s.closed.rest = closingMark := by simp [hs]
  split at h
  · rw [run_bind, accept, rest_bind_nil hs] at h
    obtain ⟨rfl, rfl⟩ := Prod.mk.inj (Option.some.inj h)
    refine ⟨rfl, ?_⟩
    rw [run_bind, accept, rest_bind, hclosed]
    rfl
  · contradiction

/-- What a group has in it, its closing parenthesis, and the flags from before it. -/
def groupEnd (inner : Reading Regex) (outer : Flags) : Reading (Option Regex) := do
  let r ← inner
  let ')' ← next | failure
  modify fun s => { s with flags := outer }
  return some (.group r)

theorem keptBy_groupEnd {inner inner' : Reading Regex} (hinner : ∀ s, KeptOrOpen s inner inner') (outer : Flags) :
    KeptBy (groupEnd inner outer) (groupEnd inner' outer) := by
  intro s
  refine Kept.bind_open (hinner s) (fun r s' hs => ?_) fun r s' _ _ => Kept.bind (keeps_next s') fun c s2 _ => ?_
  · rw [run_bind, next, rest_bind_nil hs]
    rfl
  · split
    · exact Kept.bind (Kept.modified (List.suffix_refl _) rfl) fun _ _ _ => .pure _
    · exact .failure

theorem accept_bind_nil {α : Type} {s : State} (hs : s.rest = []) {mark : String} (hm : mark.toList ≠ [])
    (f : Bool → Reading α) : (accept mark >>= f) s = f false s := by
  obtain ⟨c, cs, hcs⟩ := List.exists_cons_of_ne_nil hm
  rw [run_bind, accept, rest_bind_nil hs, hcs]
  rfl

/-- A group is not closed at the end of the text. -/
theorem groupEnd_of_end {inner : Reading Regex} (outer : Flags) {s s' : State} {r : Regex}
    (h : inner s = some (r, s')) (hs : s'.rest = []) : groupEnd inner outer s = none := by
  rw [groupEnd, run_bind, h, Option.bind, run_bind, next, rest_bind_nil hs]
  rfl

theorem groupEnd_nil {inner inner' : Reading Regex} (hinner : ∀ s, KeptOrOpen s inner inner') {s : State}
    (hs : s.rest = []) : groupEnd inner s.flags s = none := by
  cases hr : inner s with
  | none => rw [groupEnd, run_bind, hr, Option.bind]
  | some found =>
    have hsuffix := (hinner s found.1 found.2 hr).1
    rw [hs, List.suffix_nil] at hsuffix
    exact groupEnd_of_end s.flags hr hsuffix

theorem startsWith_closing {mark : List Char} (hm : ')' ∉ mark) (cs : List Char) :
    Text.startsWith (cs ++ closingMark) mark = Text.startsWith cs mark := by
  rw [Text.startsWith, afterMark?_closing hm, Option.isSome_map]
  rfl

theorem keptBy_readGroup {inner inner' : Reading Regex} (hinner : ∀ s, KeptOrOpen s inner inner') :
    KeptBy (readGroup inner) (readGroup inner') := by
  have hclosed := keptBy_groupEnd hinner
  intro s
  unfold readGroup
  refine Kept.space (fun s' hs => ?_) fun s' c cs hs => Kept.flags (Kept.rest fun ds hds => ?_)
  · rw [flags_bind, rest_bind_nil hs, if_neg (by decide)]
    dsimp only
    rw [accept_bind_nil hs (by decide), if_neg Bool.false_ne_true, accept_bind_nil hs (by decide),
      if_neg Bool.false_ne_true, accept_bind_nil hs (by decide), if_neg Bool.false_ne_true]
    exact groupEnd_nil hinner hs
  obtain rfl : c :: cs = ds := hs.symm.trans hds
  refine Kept.guarded fun hmark => ?_
  refine ⟨?_, ?_⟩
  · simp (disch := decide) only [List.any_cons, startsWith_closing] at hmark ⊢
    exact hmark
  dsimp only
  have hclosed := hclosed s'.flags
  refine Kept.bind (keeps_accept (by decide) s') fun found s1 _ => Kept.ite Iff.rfl (fun _ => ?_) fun _ => ?_
  · exact Kept.bind (keeps_groupName s1) fun _ s _ => hclosed s
  refine Kept.bind (keeps_accept (by decide) s1) fun found s2 _ => Kept.ite Iff.rfl (fun _ => ?_) fun _ => ?_
  · exact Kept.bind (keeps_groupName s2) fun _ s _ => hclosed s
  refine Kept.bind (keeps_accept (by decide) s2) fun found s3 _ => Kept.ite Iff.rfl (fun _ => ?_) fun _ => hclosed s3
  refine Kept.rest fun es hes => ?_
  rcases hflags : groupFlags s'.flags false false [] es with _ | ⟨f, unset, mark, after⟩
  · exact .failure
  obtain ⟨hsuffix, hflags'⟩ := groupFlags_closing hflags
  rw [hflags']
  refine Kept.bind (Kept.modified (hes ▸ hsuffix) rfl) fun _ s4 _ => Kept.ite Iff.rfl (fun _ => ?_) fun _ => hclosed s4
  exact Kept.guarded fun h => ⟨h, .pure _⟩

/-- At the end of the text alternatives end, and they end before the closing mark. -/
theorem readAlternatives_end [Package] {n m : Nat} (hnm : n ≤ m) {done : List Regex} {items : Items} {s s' : State}
    {r : Regex} (hs : s.rest = []) (h : readAlternatives n done items s = some (r, s')) :
    s' = s ∧ readAlternatives m done items s = some (r, s) ∧ readAlternatives m done items s.closed = some (r, s.closed) := by
  cases n with
  | zero => contradiction
  | succ n =>
    obtain ⟨m, rfl⟩ : ∃ k, m = k + 1 := ⟨m - 1, by omega⟩
    have hclosed : s.closed.rest = closingMark := by simp [hs]
    have hspace : space s.closed = some ((), s.closed) := by
      have hskip : skipExtended false closingMark = closingMark := rfl
      have hspace : space s.closed = some ((), if s.flags.extended then
          { s.closed with rest := skipExtended false s.closed.rest } else s.closed) := rfl
      rw [hspace, hclosed, hskip, ← hclosed, ite_self]
    rw [readAlternatives, run_bind, space_nil hs, Option.bind, rest_bind_nil hs] at h
    obtain ⟨rfl, rfl⟩ := Prod.mk.inj (Option.some.inj h)
    refine ⟨rfl, ?_, ?_⟩
    · rw [readAlternatives, run_bind, space_nil hs, Option.bind, rest_bind_nil hs]
      rfl
    · rw [readAlternatives, run_bind, hspace, Option.bind, rest_bind, hclosed]
      rfl

/-- Reading alternatives before the closing mark: what is read at the end of the text is read there too, with as much
    fuel or more. -/
theorem keptOrOpen_readAlternatives [Package] {n m : Nat} (hnm : n ≤ m) (done : List Regex) (items : Items) (s : State) :
    KeptOrOpen s (readAlternatives n done items) (readAlternatives m done items) := by
  induction n generalizing m done items s with
  | zero => exact fun _ _ h => nomatch h
  | succ n ih =>
    obtain ⟨m, rfl⟩ : ∃ k, m = k + 1 := ⟨m - 1, by omega⟩
    replace ih (done : List Regex) (items : Items) (s : State) := ih (m := m) (by omega) done items s
    have hgroup := keptBy_readGroup (ih [] [])
    unfold readAlternatives
    have hadd {x : Reading Regex} (hx : Keeps x) (s : State) : KeptOrOpen s
        (x >>= fun r => readAlternatives n done (some r :: items))
        (x >>= fun r => readAlternatives m done (some r :: items)) :=
      .bind (hx s) fun r s _ => ih done _ s
    have hrepeated (least : Nat) (most : Option Nat) (s : State) : KeptOrOpen s
        (repeated items least most >>= readAlternatives n done)
        (repeated items least most >>= readAlternatives m done) :=
      .bind (keeps_repeated items least most s) fun items s _ => ih done items s
    -- Only here, before an item or the end, and after bounds is there white space with nothing to be
    -- read after it.
    refine KeptOrOpen.bind_space (fun s' s'' b hs h => ?_) fun s' c cs hs => KeptOrOpen.of_rest fun ds hds => ?_
    · have hclosed : s'.closed.rest = closingMark := by simp [hs]
      rw [rest_bind_nil hs] at h ⊢
      obtain ⟨rfl, rfl⟩ := Prod.mk.inj (Option.some.inj h)
      refine ⟨rfl, rfl, ?_⟩
      rw [rest_bind, hclosed]
      rfl
    obtain rfl : c :: cs = ds := hs.symm.trans hds
    have htail : cs <:+ s'.rest := hs ▸ List.suffix_cons c cs
    simp only [List.cons_append]
    split
    next => contradiction
    -- the end of a group
    next _ _ heq =>
      obtain ⟨rfl, rfl⟩ := List.cons.inj heq
      exact .of_kept (.pure _)
    -- the next alternative
    next _ _ heq =>
      obtain ⟨rfl, rfl⟩ := List.cons.inj heq
      exact .setRest htail (ih _ _ _)
    -- a group
    next _ _ heq =>
      obtain ⟨rfl, rfl⟩ := List.cons.inj heq
      exact .setRest htail (.bind (hgroup _) fun g s _ => ih done _ s)
    -- a class in brackets
    next _ _ heq =>
      obtain ⟨rfl, rfl⟩ := List.cons.inj heq
      refine .setRest htail (.bind (keptBy_bracketClass ?_ _) fun c s _ => ih done _ s)
      rw [List.length_append]
      omega
    -- the repetitions: three by their marks and one by its bounds
    next _ _ heq =>
      obtain ⟨rfl, rfl⟩ := List.cons.inj heq
      exact .setRest htail (hrepeated 0 (some 1) _)
    next _ _ heq =>
      obtain ⟨rfl, rfl⟩ := List.cons.inj heq
      exact .setRest htail (hrepeated 0 none _)
    next _ _ heq =>
      obtain ⟨rfl, rfl⟩ := List.cons.inj heq
      exact .setRest htail (hrepeated 1 none _)
    next _ _ heq =>
      obtain ⟨rfl, rfl⟩ := List.cons.inj heq
      refine .setRest htail (.bind (keeps_bounds _) fun found s _ => ?_)
      refine .bind_space (fun s' s'' b hs h => ?_) fun s' _ _ _ => hrepeated found.1 found.2 s'
      rw [run_bind] at h
      obtain ⟨⟨items', s1⟩, hitems, hrest⟩ := Option.bind_eq_some_iff.mp h
      obtain ⟨rfl, hitems'⟩ := repeated_end hs hitems
      obtain ⟨rfl, hread, hread'⟩ := readAlternatives_end (show n ≤ m by omega) hs hrest
      rw [run_bind, run_bind, hitems, hitems']
      exact ⟨rfl, hread, hread'⟩
    -- an escape
    next _ _ heq =>
      obtain ⟨rfl, rfl⟩ := List.cons.inj heq
      exact .setRest htail (.bind (keeps_escape _) fun p s _ => hadd (keeps_ofPrimitive p) s)
    -- the point and the two anchors
    next _ _ heq =>
      obtain ⟨rfl, rfl⟩ := List.cons.inj heq
      exact .setRest htail (hadd keeps_dot _)
    next _ _ heq =>
      obtain ⟨rfl, rfl⟩ := List.cons.inj heq
      exact .setRest htail (ih _ _ _)
    next _ _ heq =>
      obtain ⟨rfl, rfl⟩ := List.cons.inj heq
      exact .setRest htail (ih _ _ _)
    -- a character that stands for itself
    next heq =>
      obtain ⟨rfl, rfl⟩ := List.cons.inj heq
      simp only
      exact .setRest htail (hadd (keeps_ofPrimitive _) _)

/-! ## Fuel -/

/-- Whatever `x` reads, `y` reads as well. -/
def Extends {α : Type} (x y : Reading α) : Prop := ∀ s p, x s = some p → y s = some p

namespace Extends

variable {α β : Type}

theorem refl (x : Reading α) : Extends x x := fun _ _ h => h

theorem bind {x y : Reading α} {f g : α → Reading β} (hx : Extends x y) (hf : ∀ a, Extends (f a) (g a)) :
    Extends (x >>= f) (y >>= g) := by
  intro s p h
  rw [run_bind] at h ⊢
  obtain ⟨⟨a, s'⟩, hr, h⟩ := Option.bind_eq_some_iff.mp h
  rw [hx s _ hr]
  exact hf a s' p h

theorem after (x : Reading α) {f g : α → Reading β} (h : ∀ a, Extends (f a) (g a)) : Extends (x >>= f) (x >>= g) :=
  (Extends.refl x).bind h

theorem ite {p : Prop} [Decidable p] {x x' y y' : Reading α} (hx : Extends x x') (hy : Extends y y') :
    Extends (if p then x else y) (if p then x' else y') := by
  split
  · exact hx
  · exact hy

end Extends

theorem extends_readGroup {inner inner' : Reading Regex} (h : Extends inner inner') :
    Extends (readGroup inner) (readGroup inner') := by
  have hend (outer : Flags) : Extends (groupEnd inner outer) (groupEnd inner' outer) := h.bind fun _ => .refl _
  unfold readGroup
  refine .after _ fun _ => .after _ fun outer => .after _ fun cs => .ite (.refl _) ?_
  refine .after _ fun _ => .ite (.after _ fun _ => hend outer) ?_
  refine .after _ fun _ => .ite (.after _ fun _ => hend outer) ?_
  refine .after _ fun _ => .ite (.after _ fun cs => ?_) (hend outer)
  split
  · exact .after _ fun _ => .ite (.refl _) (hend outer)
  · exact .refl _

/-- More fuel does not change what is read. -/
theorem extends_readAlternatives [Package] {n m : Nat} (hnm : n ≤ m) (done : List Regex) (items : Items) :
    Extends (readAlternatives n done items) (readAlternatives m done items) := by
  induction n generalizing m done items with
  | zero => exact fun _ _ h => nomatch h
  | succ n ih =>
    obtain ⟨m, rfl⟩ : ∃ k, m = k + 1 := ⟨m - 1, by omega⟩
    replace ih (done : List Regex) (items : Items) := ih (m := m) (by omega) done items
    unfold readAlternatives
    refine .after _ fun _ => .after _ fun cs => ?_
    split
    -- the end of the text and of a group
    · exact .refl _
    · exact .refl _
    -- the next alternative, a group, a class in brackets
    · exact .after _ fun _ => ih _ _
    · exact .after _ fun _ => (extends_readGroup (ih [] [])).bind fun _ => ih _ _
    · exact .after _ fun _ => .after _ fun _ => ih _ _
    -- the repetitions: three by their marks and one by its bounds
    · exact .after _ fun _ => .after _ fun _ => ih _ _
    · exact .after _ fun _ => .after _ fun _ => ih _ _
    · exact .after _ fun _ => .after _ fun _ => ih _ _
    · exact .after _ fun _ => .after _ fun _ => .after _ fun _ => .after _ fun _ => ih _ _
    -- an escape, then one character
    · exact .after _ fun _ => .after _ fun _ => .after _ fun _ => ih _ _
    all_goals exact .after _ fun _ => .after _ fun _ => ih _ _

/-! ## Whole texts -/

def State.initial (cs : List Char) : State := ⟨cs, Flags.start, []⟩

theorem parse?_eq_some [Package] {text : String} {r : Regex} : parse? text = some r ↔
    ∃ s, readAlternatives (text.toList.length + 1) [] [] (.initial text.toList) = some (r, s) ∧ s.rest = [] := by
  have hparse : parse? text = (readAlternatives (text.toList.length + 1) [] [] (.initial text.toList)).bind fun p =>
    if p.2.rest.isEmpty then some p.1 else none := rfl
  rw [hparse, Option.bind_eq_some_iff]
  simp only [Option.ite_none_right_eq_some, List.isEmpty_iff]
  constructor
  · rintro ⟨⟨r', s⟩, hs, hnil, hr⟩
    obtain rfl := Option.some.inj hr
    exact ⟨s, hs, hnil⟩
  · rintro ⟨s, hs, hnil⟩
    exact ⟨(r, s), hs, hnil, rfl⟩

theorem read?_eq_some [Package] {text : String} {r : Regex} : read? text = some r ↔
    Package.admits text ∧ parse? text = some r := by
  rw [read?, Option.ite_none_right_eq_some]

/-- A text ends in a comment: what is written after it is not read. -/
def LeavesOpen [Package] (text : String) : Prop := (parse? (text ++ ")$")).isSome

/-- The expression that matches a text as a whole where `r` does. -/
def enclosed (r : Regex) : Regex := .concat [.assertion .textStart, .group r, .assertion .textEnd]

theorem readAlternatives_caret [Package] (n : Nat) (cs : List Char) : readAlternatives (n + 1) [] [] (.initial ('^' :: cs)) =
    readAlternatives n [] [some (.assertion .textStart)] (.initial cs) := rfl

theorem readAlternatives_group [Package] (n : Nat) (items : Items) (cs : List Char) :
    readAlternatives (n + 1) [] items (.initial ('(' :: '?' :: ':' :: cs)) =
      (groupEnd (readAlternatives n [] []) Flags.start (.initial cs)).bind fun p =>
        readAlternatives n [] (p.1 :: items) p.2 := rfl

theorem readAlternatives_dollar [Package] (n : Nat) (items : Items) (names : List (List Char)) :
    readAlternatives (n + 2) [] items ⟨['$'], Flags.start, names⟩ =
      some (ofItems (some (.assertion .textEnd) :: items), ⟨[], Flags.start, names⟩) := rfl

/-- A group reads what its alternatives read, if its parenthesis follows. -/
theorem groupEnd_of_closed {inner : Reading Regex} (outer : Flags) {s s' : State} {r : Regex}
    (h : inner s = some (r, s'.closed)) (hs : s'.rest = []) :
    groupEnd inner outer s = some (some (.group r), ⟨['$'], outer, s'.names⟩) := by
  have hnext : next s'.closed = some (')', { s' with rest := ['$'] }) := by
    rw [next, rest_bind, State.closed, hs]
    rfl
  rw [groupEnd, run_bind, h, Option.bind, run_bind, hnext]
  rfl

theorem toList_enclosed (text : String) :
    ("^(?:" ++ text ++ ")$").toList = '^' :: '(' :: '?' :: ':' :: (text.toList ++ closingMark) := by
  rw [String.toList_append, String.toList_append]
  rfl

theorem toList_closing (text : String) : (text ++ ")$").toList = text.toList ++ closingMark := by
  rw [String.toList_append]
  rfl

/-- A readable text can be read as a part of a larger expression, unless it ends in a comment or the
    larger one is beyond the limits. -/
theorem readWhole?_cases [Package] {text : String} {r : Regex} (h : read? text = some r) :
    ¬LeavesOpen text ∧ (Package.admits ("^(?:" ++ text ++ ")$") → readWhole? text = some (enclosed r)) ∨
      LeavesOpen text ∧ CommentOpen text.toList ∧ readWhole? text = none := by
  obtain ⟨-, hparse⟩ := read?_eq_some.mp h
  obtain ⟨s, hread, hnil⟩ := parse?_eq_some.mp hparse
  have hmore {n m : Nat} (hnm : n ≤ m) {p : Regex × State}
      (hp : readAlternatives n [] [] (.initial (text.toList ++ closingMark)) = some p) :
      readAlternatives m [] [] (.initial (text.toList ++ closingMark)) = some p :=
    extends_readAlternatives hnm [] [] _ p hp
  have hclosed : (State.initial text.toList).closed = .initial (text.toList ++ closingMark) := rfl
  have hlength : (text.toList ++ closingMark).length = text.toList.length + 2 := List.length_append
  obtain ⟨-, hkept | ⟨-, hcomment, hopen⟩⟩ :=
    keptOrOpen_readAlternatives (Nat.le_refl _) [] [] (.initial text.toList) r s hread
  · rw [hclosed] at hkept
    refine .inl ⟨?_, fun hadmits => read?_eq_some.mpr ⟨hadmits, parse?_eq_some.mpr ⟨⟨[], Flags.start, s.names⟩, ?_, rfl⟩⟩⟩
    · rintro hopen
      obtain ⟨r', hr'⟩ := Option.isSome_iff_exists.mp hopen
      obtain ⟨s', hs', hnil'⟩ := parse?_eq_some.mp hr'
      rw [toList_closing] at hs'
      have hsame := hs'.symm.trans (hmore (by omega) hkept)
      obtain ⟨rfl, rfl⟩ := Prod.mk.inj (Option.some.inj hsame)
      simp [closingMark] at hnil'
    · have hgroup := groupEnd_of_closed Flags.start
        (hmore (m := text.toList.length + 5) (by omega) hkept) hnil
      rw [toList_enclosed, List.length_cons, List.length_cons, List.length_cons, List.length_cons, hlength,
        readAlternatives_caret, readAlternatives_group, hgroup]
      exact readAlternatives_dollar _ _ _
  · rw [hclosed] at hopen
    refine .inr ⟨?_, hcomment, ?_⟩
    · have hread' : parse? (text ++ ")$") = some r := by
        refine parse?_eq_some.mpr ⟨s, ?_, hnil⟩
        rw [toList_closing]
        exact hmore (by omega) hopen
      exact Option.isSome_iff_exists.mpr ⟨r, hread'⟩
    · refine Option.eq_none_iff_forall_ne_some.mpr fun v hv => ?_
      obtain ⟨-, hv⟩ := read?_eq_some.mp hv
      obtain ⟨s', hs', -⟩ := parse?_eq_some.mp hv
      have hgroup := groupEnd_of_end Flags.start
        (hmore (m := text.toList.length + 5) (by omega) hopen) hnil
      rw [toList_enclosed, List.length_cons, List.length_cons, List.length_cons, List.length_cons, hlength,
        readAlternatives_caret, readAlternatives_group, hgroup] at hs'
      contradiction

end TagAudit.Regex
