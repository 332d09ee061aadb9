/-
  TagAudit.Proofs.Regex.Classes — escapes and classes in brackets before a closing mark.

  An escape or a class is complete where it ends, so all their readers keep to their texts
  (`keeps_escape`, `keptBy_bracketClass`).
-/

import TagAudit.Proofs.Regex.Closing

namespace TagAudit.Regex

/-! ## Escapes -/

theorem keeps_charOf (n : Nat) : Keeps (charOf n) := by
  intro s
  unfold charOf
  split
  · exact .pure _
  · exact .failure

theorem keeps_hexOf (cs : List Char) : Keeps (hexOf cs) := by
  intro s
  unfold hexOf
  cases cs.mapM Text.hexDigit? with
  | none => exact .failure
  | some ds => exact .pure _

/-- What stands before the closing mark stands there without it. -/
theorem eq_cons_of_closing {c : Char} (hc : c ≠ ')') {cs ds : List Char} (h : cs ++ closingMark = c :: ds) :
    ∃ tail, cs = c :: tail ∧ ds = tail ++ closingMark := by
  cases cs with
  | nil => exact absurd (List.cons.inj h).1.symm hc
  | cons d tail =>
    obtain ⟨rfl, htail⟩ := List.cons.inj h
    exact ⟨tail, rfl, htail.symm⟩

theorem next_nil {s : State} (hs : s.rest = []) : next s = none := by
  rw [next, rest_bind_nil hs]
  rfl

theorem spacedChars_nil {n : Nat} (hn : 0 < n) {s : State} (hs : s.rest = []) : spacedChars n s = none := by
  obtain ⟨n, rfl⟩ := Nat.exists_eq_add_one.mpr hn
  rw [spacedChars, run_bind, space_nil hs, Option.bind, run_bind, next_nil hs, Option.bind]

theorem keeps_spacedChars (n : Nat) : Keeps (spacedChars n) := by
  induction n with
  | zero => exact fun _ => .pure _
  | succ n ih =>
    intro s
    unfold spacedChars
    refine Kept.space (fun s' hs => ?_) fun s' _ _ _ => Kept.bind (keeps_next s') fun c s1 _ => ?_
    · rw [run_bind, next_nil hs]
      rfl
    · exact Kept.bind (ih s1) fun cs _ _ => .pure _

/-- What braces hold ends before the closing mark. -/
theorem keeps_braced : Keeps braced := by
  intro s
  unfold braced
  refine Kept.flags (Kept.rest fun cs hcs => ?_)
  dsimp only
  have hsuffix := s.flags.suffix_run (· != '\x7d') cs
  rcases hrun : s.flags.run (· != '\x7d') cs with ⟨inner, _ | ⟨c, after⟩⟩
  · exact .failure
  rw [hrun] at hsuffix
  rw [s.flags.run_append (by rw [hrun]; exact List.cons_ne_nil c after), hrun]
  by_cases hc : c = '\x7d'
  · subst hc
    simp only [List.cons_append]
    exact Kept.setRest (hcs ▸ (List.suffix_cons _ after).trans hsuffix) (.pure _)
  · simp only [hc, List.cons_append, List.cons.injEq, false_and, imp_false, not_false_eq_true, implies_true]
    exact .failure

theorem keeps_hexEscape {count : Nat} (hcount : 0 < count) : Keeps (hexEscape count) := by
  intro s
  unfold hexEscape
  have hliteral (cs : List Char) (byte : Bool) : Keeps (do return Primitive.literal (← charOf (← hexOf cs)) byte) :=
    fun s => Kept.bind (keeps_hexOf cs s) fun n s _ => Kept.bind (keeps_charOf n s) fun c s _ => .pure _
  refine Kept.space (fun s' hs => ?_) fun s' c cs hs => Kept.rest fun ds hds => ?_
  · rw [rest_bind_nil hs]
    show (spacedChars count >>= _) s' = none
    rw [run_bind, spacedChars_nil hcount hs]
    rfl
  obtain rfl : c :: cs = ds := hs.symm.trans hds
  by_cases hc : c = '\x7b'
  · subst hc
    simp only [List.cons_append]
    refine Kept.setRest (hs ▸ List.suffix_cons _ cs) (Kept.bind (keeps_braced _) fun digits s1 _ => ?_)
    exact Kept.guarded fun h => ⟨h, hliteral _ _ s1⟩
  · simp only [hc, List.cons_append, List.cons.injEq, false_and, imp_false, not_false_eq_true, implies_true]
    exact Kept.bind (keeps_spacedChars count s') fun digits s1 _ => hliteral _ _ s1

theorem keeps_letterClass (kind : CharClass.Kind) (negated : Bool) :
    Keeps (letterClass kind negated) := by
  intro s
  unfold letterClass
  exact Kept.flags (Kept.guarded fun h => ⟨h, .pure _⟩)

theorem keeps_namedClass [Package] (flags : Flags) (negated : Bool) (name : List Char) : Keeps
    (match namedClass? name with
      | some (found, otherwise) => return foldAndNegate flags (negated != otherwise) found
      | _ => failure : Reading CharClass) := by
  cases namedClass? name with
  | none => exact fun _ => .failure
  | some found => exact fun _ => .pure _

theorem keeps_unicodeClass [Package] (negated : Bool) : Keeps (unicodeClass negated) := by
  intro s
  unfold unicodeClass
  refine Kept.space (fun s' hs => ?_) fun s' c cs hs => ?_
  · rw [next, run_bind, rest_bind_nil hs]
    rfl
  · refine Kept.bind (keeps_next s') fun c s1 _ => Kept.flags (Kept.guarded fun h => ⟨h, ?_⟩)
    have hnamed := keeps_namedClass s1.flags negated
    dsimp only
    by_cases hc : c = '\x7b'
    · rw [if_pos hc]
      exact Kept.bind (keeps_braced s1) fun name s _ => hnamed name s
    · rw [if_neg hc]
      by_cases hb : c = '\\'
      · rw [if_pos hb]
        exact .failure
      · rw [if_neg hb]
        exact Kept.bind (.pure _) fun name s _ => hnamed name s

/-- White space that may be there before something. -/
theorem skipIf_closing (extended : Bool) (cs : List Char) : ∃ ds, ds <:+ cs ∧
    (if extended then skipExtended false cs else cs) = ds ∧
      ((if extended then skipExtended false (cs ++ closingMark) else cs ++ closingMark) = ds ++ closingMark ∨
        ds = [] ∧ (if extended then skipExtended false (cs ++ closingMark) else cs ++ closingMark) = []) := by
  cases extended with
  | false => exact ⟨cs, List.suffix_refl _, rfl, .inl rfl⟩
  | true =>
    obtain ⟨hsuffix, hskip⟩ := skipExtended_closing false cs
    exact ⟨_, hsuffix, rfl, hskip.imp_right fun h => ⟨h.1, h.2.1⟩⟩

theorem keeps_wordBoundary : Keeps wordBoundary := by
  intro s
  unfold wordBoundary
  refine Kept.flags (Kept.rest fun cs hs => ?_)
  have hplain : Keeps (pure (.wordBoundary s.flags.unicode) : Reading Assertion) := fun _ => .pure _
  rcases cs with _ | ⟨c, cs⟩
  · exact hplain s
  by_cases hc : c = '\x7b'
  · subst hc
    simp only [List.cons_append]
    obtain ⟨ds, hsuffix, hds, hclosed⟩ := skipIf_closing s.flags.extended cs
    rw [hds]
    generalize (if s.flags.extended then skipExtended false (cs ++ closingMark) else cs ++ closingMark) = es
      at hclosed ⊢
    rcases hclosed with rfl | ⟨rfl, -⟩
    · rcases ds with _ | ⟨d, ds⟩
      · exact .failure
      simp only [List.cons_append]
      by_cases hd : (!(d.isAlpha || d == '-')) = true
      · rw [if_pos hd, if_pos hd]
        exact hplain s
      rw [if_neg hd, if_neg hd, ← List.cons_append]
      have hrun := s.flags.suffix_run (fun c => c.isAlpha || c == '-') (d :: ds)
      rcases hname : s.flags.run (fun c => c.isAlpha || c == '-') (d :: ds) with ⟨name, _ | ⟨e, after⟩⟩
      · exact .failure
      rw [hname] at hrun
      rw [s.flags.run_append (by rw [hname]; exact List.cons_ne_nil e after), hname]
      by_cases he : e = '\x7d'
      · subst he
        simp only [List.cons_append]
        have hafter : after <:+ s.rest :=
          (((List.suffix_cons _ _).trans hrun).trans hsuffix).trans (hs ▸ List.suffix_cons _ cs)
        refine Kept.setRest hafter ?_
        split <;> first | exact .failure | exact .pure _
      · simp only [he, List.cons_append, List.cons.injEq, false_and, imp_false, not_false_eq_true, implies_true]
        exact .failure
    · exact .failure
  · simp only [hc, List.cons_append, List.cons.injEq, false_and, imp_false, not_false_eq_true, implies_true]
    exact hplain s

theorem keeps_escape [Package] : Keeps escape := by
  intro s
  unfold escape
  refine Kept.flags (Kept.bind (keeps_next s) fun c s' _ => (show Keeps _ from ?_) s')
  have hclass (x : Reading CharClass) (hx : Keeps x) : Keeps (do return Primitive.cls (← x)) :=
    fun s => Kept.bind (hx s) fun _ _ _ => .pure _
  have hboundary : Keeps (do return Primitive.assertion (← wordBoundary)) :=
    fun s => Kept.bind (keeps_wordBoundary s) fun _ _ _ => .pure _
  have hescaped (c : Char) : Keeps (if isEscapable c then return Primitive.literal c false else failure) := by
    split
    · exact fun _ => .pure _
    · exact fun _ => .failure
  split
  all_goals first
    | exact fun _ => .pure _
    | exact keeps_hexEscape (by decide)
    | exact hclass _ (keeps_unicodeClass _)
    | exact hclass _ (keeps_letterClass _ _)
    | exact hboundary
    | exact hescaped _

/-! ## Classes in brackets -/

theorem keeps_classItem [Package] : Keeps classItem := by
  intro s
  unfold classItem
  refine Kept.bind (keeps_next s) fun c s' _ => (show Keeps _ from ?_) s'
  split
  · exact keeps_escape
  · exact fun _ => .pure _

theorem keeps_classLiteral (p : Primitive) : Keeps (classLiteral p) := by
  intro s
  unfold classLiteral
  cases p with
  | literal c byte => exact Kept.flags (Kept.guarded fun h => ⟨h, .pure _⟩)
  | cls c => exact .failure
  | assertion a => exact .failure

/-- An item of a class that is no range. -/
theorem keeps_singleItem (first : Primitive) : Keeps
    (match first with
      | .cls c => return c
      | p => do
        let n ← classLiteral p
        return .between n n : Reading CharClass) := by
  split
  · exact fun _ => .pure _
  · exact fun s => Kept.bind (keeps_classLiteral _ s) fun _ _ _ => .pure _

theorem keeps_classRange [Package] : Keeps classRange := by
  intro s
  unfold classRange
  have hitem := keeps_singleItem
  refine Kept.bind (keeps_classItem s) fun first s1 _ => Kept.space (fun s' hs => rest_bind_nil hs) fun s2 c cs hs => ?_
  refine Kept.rest fun ds hds => Kept.guarded fun _ => ⟨by simp [closingMark], Kept.flags ?_⟩
  obtain rfl : c :: cs = ds := hs.symm.trans hds
  simp only [List.cons_append, List.drop_succ_cons, List.drop_zero, List.head?_cons]
  have hpeek : (s2.flags.peek? (cs ++ closingMark) == some ']') = (s2.flags.peek? cs == some ']') ∧
      (s2.flags.peek? (cs ++ closingMark) == some '-') = (s2.flags.peek? cs == some '-') := by
    rcases s2.flags.peek?_closing cs with hsame | ⟨hnone, hclosed⟩
    · rw [hsame]
      exact ⟨rfl, rfl⟩
    · rw [hnone, hclosed]
      exact ⟨rfl, rfl⟩
  rw [hpeek.1, hpeek.2]
  refine Kept.ite Iff.rfl (fun _ => hitem first s2) fun _ => Kept.setRest (hs ▸ List.suffix_cons c cs) ?_
  refine Kept.bind (keeps_classLiteral first _) fun low s3 _ => Kept.space (fun s' hs => ?_) fun s4 _ _ _ => ?_
  · rw [run_bind, classItem, run_bind, next_nil hs]
    rfl
  · refine Kept.bind (keeps_classItem s4) fun last s5 _ => Kept.bind (keeps_classLiteral last s5) fun high s6 _ => ?_
    exact Kept.guarded fun h => ⟨h, .pure _⟩

/-- The class whose name goes up to the next colon, in `[:alpha:]` or `[:^alpha:]`. -/
def classAfterColon? (negated : Bool) (cs : List Char) : Option ((Bool × CharClass) × List Char) :=
  match cs.dropWhile (· != ':') with
  | ':' :: ']' :: after => do
    let c ← CharClass.ofBracketName? (String.ofList (cs.takeWhile (· != ':')))
    some ((negated, c), after)
  | _ => none

theorem bracketName?_of_ne {c : Char} (hc : c ≠ ':') (cs : List Char) : bracketName? (c :: cs) = none := by
  unfold bracketName?
  simp only [hc, List.cons.injEq, false_and, imp_false, not_false_eq_true, implies_true]

theorem bracketName?_colon (cs : List Char) : bracketName? (':' :: cs) =
    if cs.head? = some '^' then classAfterColon? true cs.tail else classAfterColon? false cs := by
  rcases cs with _ | ⟨c, cs⟩
  · rfl
  by_cases hc : c = '^'
  · subst hc
    rfl
  · rw [List.head?_cons, if_neg (mt Option.some.inj hc)]
    unfold bracketName?
    simp only [hc, List.cons.injEq, false_and, imp_false, not_false_eq_true, implies_true]
    rfl

theorem classAfterColon?_closing (negated : Bool) (cs : List Char) : classAfterColon? negated (cs ++ closingMark) =
    (classAfterColon? negated cs).map fun found => (found.1, found.2 ++ closingMark) := by
  unfold classAfterColon?
  rcases hdrop : cs.dropWhile (· != ':') with _ | ⟨d, ds⟩
  · have : (cs ++ closingMark).dropWhile (· != ':') = [] := by
      rw [List.dropWhile_append, hdrop]
      rfl
    rw [this]
    rfl
  · have hne := hdrop ▸ List.cons_ne_nil d ds
    rw [takeWhile_append_of_dropWhile hne, dropWhile_append_of_ne_nil hne, hdrop]
    by_cases hd : d = ':'
    · subst hd
      rcases ds with _ | ⟨e, ds⟩
      · rfl
      · by_cases he : e = ']'
        · subst he
          simp only [List.cons_append, Option.bind_eq_bind, Option.map_bind]
          rfl
        · simp only [List.cons_append, List.cons.injEq, he, false_and, and_false, imp_false, not_false_eq_true,
            implies_true, Option.map_none]
    · simp only [List.cons_append, List.cons.injEq, hd, false_and, imp_false, not_false_eq_true, implies_true,
        Option.map_none]

theorem bracketName?_closing (cs : List Char) :
    bracketName? (cs ++ closingMark) = (bracketName? cs).map fun found => (found.1, found.2 ++ closingMark) := by
  rcases cs with _ | ⟨c, cs⟩
  · rfl
  by_cases hc : c = ':'
  · subst hc
    rcases cs with _ | ⟨d, cs⟩
    · rfl
    · rw [List.cons_append, bracketName?_colon, bracketName?_colon, List.cons_append, List.head?_cons, List.head?_cons]
      split
      · exact classAfterColon?_closing true cs
      · exact classAfterColon?_closing false (d :: cs)
  · rw [List.cons_append, bracketName?_of_ne hc, bracketName?_of_ne hc]
    rfl

theorem suffix_of_classAfterColon? {negated : Bool} {cs : List Char} {found : (Bool × CharClass) × List Char}
    (h : classAfterColon? negated cs = some found) : found.2 <:+ cs := by
  unfold classAfterColon? at h
  split at h
  · rename_i after hdrop
    obtain ⟨c, -, h⟩ := Option.bind_eq_some_iff.mp h
    obtain rfl := Option.some.inj h
    have hsuffix := List.dropWhile_suffix (l := cs) (· != ':')
    rw [hdrop] at hsuffix
    exact ((List.suffix_cons _ _).trans (List.suffix_cons _ _)).trans hsuffix
  · contradiction

theorem suffix_of_bracketName? {cs : List Char} {found : (Bool × CharClass) × List Char}
    (h : bracketName? cs = some found) : found.2 <:+ cs := by
  rcases cs with _ | ⟨c, cs⟩
  · contradiction
  by_cases hc : c = ':'
  · subst hc
    rw [bracketName?_colon] at h
    split at h
    · exact ((suffix_of_classAfterColon? h).trans (List.tail_suffix cs)).trans (List.suffix_cons _ cs)
    · exact (suffix_of_classAfterColon? h).trans (List.suffix_cons _ cs)
  · rw [bracketName?_of_ne hc] at h
    contradiction

theorem keeps_wholeClass (negated : Bool) (c : CharClass) : Keeps (wholeClass negated c) := by
  intro s
  unfold wholeClass
  exact Kept.flags (Kept.guarded fun h => ⟨h, .pure _⟩)

theorem keptBy_classItems [Package] {nested nested' : Reading CharClass} (hnested : KeptBy nested nested') {n m : Nat}
    (hnm : n ≤ m) (before : Option (ClassOp × CharClass)) (items : CharClass) :
    KeptBy (classItems nested n before items) (classItems nested' m before items) := by
  induction n generalizing m before items with
  | zero => exact fun _ => .failure
  | succ n ih =>
    obtain ⟨m, rfl⟩ : ∃ k, m = k + 1 := ⟨m - 1, by omega⟩
    replace ih {before items} := @ih m (by omega) before items
    intro s
    unfold classItems
    refine Kept.space (fun s' hs => ?_) fun s' c cs hs => Kept.flags (Kept.rest fun ds hds => ?_)
    · rw [flags_bind, rest_bind_nil hs]
      rfl
    obtain rfl : c :: cs = ds := hs.symm.trans hds
    simp only [List.cons_append]
    have htail : cs <:+ s'.rest := hs ▸ List.suffix_cons c cs
    split
    next => contradiction
    -- a class in the class, written out or by its name
    next _ _ heq =>
      obtain ⟨rfl, rfl⟩ := List.cons.inj heq
      simp only [bracketName?_closing]
      rcases hname : bracketName? cs with _ | ⟨⟨negated, c⟩, after⟩
      · exact Kept.setRest htail (Kept.bind (hnested _) fun c s _ => ih s)
      · refine Kept.setRest ((suffix_of_bracketName? hname).trans htail) ?_
        exact Kept.bind (keeps_wholeClass negated c _) fun c s _ => ih s
    -- the end of the class
    next _ _ heq =>
      obtain ⟨rfl, rfl⟩ := List.cons.inj heq
      exact Kept.setRest htail (.pure _)
    -- the operators: intersection, difference and symmetric difference
    next _ _ heq =>
      obtain ⟨rfl, rfl⟩ := List.cons.inj heq
      exact Kept.setRest ((List.suffix_cons _ _).trans htail) (ih _)
    next _ _ heq =>
      obtain ⟨rfl, rfl⟩ := List.cons.inj heq
      exact Kept.setRest ((List.suffix_cons _ _).trans htail) (ih _)
    next _ _ heq =>
      obtain ⟨rfl, rfl⟩ := List.cons.inj heq
      exact Kept.setRest ((List.suffix_cons _ _).trans htail) (ih _)
    -- an item; before the closing mark the text takes the same way
    next _ _ hopen hclose hand hminus htilde =>
      split
      next => contradiction
      next _ _ heq => exact (hopen cs (by rw [(List.cons.inj heq).1])).elim
      next _ _ heq => exact (hclose cs (by rw [(List.cons.inj heq).1])).elim
      next _ _ heq =>
        obtain ⟨rfl, hcs⟩ := List.cons.inj heq
        obtain ⟨tail, rfl, -⟩ := eq_cons_of_closing (by decide) hcs
        exact (hand tail rfl).elim
      next _ _ heq =>
        obtain ⟨rfl, hcs⟩ := List.cons.inj heq
        obtain ⟨tail, rfl, -⟩ := eq_cons_of_closing (by decide) hcs
        exact (hminus tail rfl).elim
      next _ _ heq =>
        obtain ⟨rfl, hcs⟩ := List.cons.inj heq
        obtain ⟨tail, rfl, -⟩ := eq_cons_of_closing (by decide) hcs
        exact (htilde tail rfl).elim
      next => exact Kept.bind (keeps_classRange s') fun c s _ => ih s

theorem rest_of_next {s s' : State} {c : Char} (h : next s = some (c, s')) : s.rest = c :: s'.rest := by
  unfold next at h
  rw [rest_bind] at h
  cases hs : s.rest with
  | nil => rw [hs] at h; contradiction
  | cons d cs =>
    rw [hs] at h
    obtain ⟨rfl, rfl⟩ := Prod.mk.inj (Option.some.inj h)
    rfl

theorem length_of_nextSpaced {s s' : State} {c : Char} (h : nextSpaced s = some (c, s')) :
    s'.rest.length < s.rest.length := by
  unfold nextSpaced at h
  rw [run_bind] at h
  obtain ⟨⟨d, s1⟩, hnext, h⟩ := Option.bind_eq_some_iff.mp h
  obtain ⟨s2, hspace⟩ := space_isSome s1
  have hsuffix := (keptOrOpen_space s1 () s2 hspace).1
  rw [run_bind, hspace, Option.bind, rest_bind] at h
  have hs' : s' = s2 := by
    split at h
    · contradiction
    · exact (Prod.mk.inj (Option.some.inj h)).2.symm
  rw [rest_of_next hnext, hs', List.length_cons]
  exact Nat.lt_succ_of_le hsuffix.length_le

/-- The hyphens that follow each other are read before the closing mark with as much fuel as there is text, or more. -/
theorem kept_leadingHyphens {n m : Nat} (hnm : n ≤ m) (items : CharClass) {s : State} (hs : s.rest.length ≤ n) :
    Kept s.rest s (leadingHyphens n items) (leadingHyphens m items) := by
  induction n generalizing m items s with
  | zero =>
    have hnil : s.rest = [] := List.length_eq_zero_iff.mp (Nat.le_zero.mp hs)
    cases m with
    | zero => exact .pure _
    | succ m =>
      unfold leadingHyphens
      intro a s' h
      rw [rest_bind]
      have hclosed : s.closed.rest = closingMark := by simp [hnil]
      rw [hclosed]
      exact Kept.pure items a s' h
  | succ n ih =>
    obtain ⟨m, rfl⟩ : ∃ k, m = k + 1 := ⟨m - 1, by omega⟩
    unfold leadingHyphens
    refine Kept.rest fun cs hcs => ?_
    split
    · simp only [List.cons_append]
      refine Kept.bind (keeps_nextSpaced s) fun c s' hs' => ?_
      have hlength := length_of_nextSpaced hs'
      exact ih (by omega) _ (by omega)
    next _ hno =>
      split
      · rename_i heq
        obtain ⟨tail, rfl, -⟩ := eq_cons_of_closing (by decide) heq
        exact (hno tail rfl).elim
      · exact .pure _

def bracketItems [Package] (depth : Nat) (negated : Bool) : Reading CharClass := do
  let hyphens ← leadingHyphens (← rest).length .none
  let items ← match hyphens, ← rest with
    | .runs [], ']' :: _ => do
      let _ ← nextSpaced
      pure (CharClass.single ']')
    | items, _ => pure items
  let items ← classItems (bracketClass depth) ((← rest).length + 1) none items
  wholeClass negated items

theorem bracketClass_succ [Package] (depth : Nat) : bracketClass (depth + 1) = (do
    space
    match ← rest with
    | '^' :: _ => do
      let _ ← nextSpaced
      bracketItems depth true
    | [] => failure
    | _ => bracketItems depth false) := by
  rfl

theorem keptBy_bracketItems [Package] {n m : Nat} (hnested : KeptBy (bracketClass n) (bracketClass m)) (negated : Bool) :
    KeptBy (bracketItems n negated) (bracketItems m negated) := by
  intro s
  unfold bracketItems
  refine Kept.rest fun cs hcs => ?_
  refine Kept.bind (kept_leadingHyphens (by simp) _ (Nat.le_of_eq (congrArg List.length hcs))) fun hyphens s1 _ => ?_
  refine Kept.rest fun ds hds => ?_
  have hitems (items : CharClass) : KeptBy (do
      let items ← classItems (bracketClass n) ((← rest).length + 1) none items
      wholeClass negated items) (do
      let items ← classItems (bracketClass m) ((← rest).length + 1) none items
      wholeClass negated items) := by
    intro s
    refine Kept.rest fun es hes => Kept.bind (keptBy_classItems hnested (by simp) _ _ s) fun items s _ => ?_
    exact keeps_wholeClass negated items s
  dsimp only
  split
  · simp only [List.cons_append]
    exact Kept.bind (keeps_nextSpaced s1) fun _ s _ => Kept.bind (.pure _) fun items s _ => hitems items s
  next _ hyphens _ hno =>
    split
    next heq _ =>
      obtain ⟨tail, htail, -⟩ := eq_cons_of_closing (by decide) heq
      exact (hno tail rfl htail).elim
    next => exact Kept.bind (.pure _) fun items s _ => hitems items s

/-- A class is read before the closing mark with as much fuel or more. -/
theorem keptBy_bracketClass [Package] {n m : Nat} (hnm : n ≤ m) : KeptBy (bracketClass n) (bracketClass m) := by
  induction n generalizing m with
  | zero => exact fun _ => .failure
  | succ n ih =>
    obtain ⟨m, rfl⟩ : ∃ k, m = k + 1 := ⟨m - 1, by omega⟩
    have hitems := keptBy_bracketItems (ih (m := m) (by omega))
    intro s
    rw [bracketClass_succ, bracketClass_succ]
    refine Kept.space (fun s' hs => ?_) fun s' c cs hs => Kept.rest fun ds hds => ?_
    · rw [rest_bind_nil hs]
      rfl
    obtain rfl : c :: cs = ds := hs.symm.trans hds
    simp only [List.cons_append]
    split
    next _ _ heq =>
      obtain ⟨rfl, rfl⟩ := List.cons.inj heq
      exact Kept.bind (keeps_nextSpaced s') fun _ s _ => hitems true s
    next => contradiction
    next _ hno _ =>
      split
      next _ _ heq => exact (hno cs (by rw [(List.cons.inj heq).1])).elim
      next => contradiction
      next => exact hitems false s'

end TagAudit.Regex
