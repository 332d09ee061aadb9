/-
  TagAudit.Proofs.Json.Reading — what the value of a JSON text is.

  An object has each key once, with its last value (`Source.value?_obj`). A value is plain (`Plain`)
  if there is no fraction in it and it is nested no deeper than a bound. The readers meet what the
  printer wrote part by part: characters of strings (`stringUnits_escape`), digits (`unsigned_digits`),
  items and members up to the closing mark (`items_intercalate`, `members_intercalate`). How deep a
  value may be nested is not asked when its text is read, but when its value is (`value?_source`).
-/

import TagAudit.Json.Printer
import TagAudit.Json.Reader

namespace TagAudit

/-! ## Digits -/

theorem natOfDigits_digits (n : Nat) : Text.natOfDigits (Decimal.digits n) = n := by
  have h : Nat.ofDigitChars 10 (Nat.toDigits 10 n) 0 = n := Nat.ofDigitChars_ten_toDigits
  rw [Nat.ofDigitChars_eq_foldl] at h
  simpa [Text.natOfDigits, Decimal.digits, Text.digitValue, Nat.mul_comm] using h

theorem isDigit_of_mem_digits {n : Nat} {c : Char} (h : c ∈ Decimal.digits n) : Text.isDigit c = true :=
  Nat.isDigit_of_mem_toDigits (by decide) (by decide) h

theorem exists_digits_eq_cons (n : Nat) : ∃ d ds, Decimal.digits n = d :: ds ∧ Text.isDigit d = true := by
  obtain ⟨d, ds, h⟩ := List.exists_cons_of_ne_nil (Nat.toDigits_ne_nil (n := n) (b := 10))
  exact ⟨d, ds, h, isDigit_of_mem_digits (h ▸ List.mem_cons_self)⟩

/-- Only zero is written with a zero in front. -/
theorem eq_zero_of_digits {n : Nat} {ds : List Char} (h : Decimal.digits n = '0' :: ds) : n = 0 ∧ ds = [] := by
  unfold Decimal.digits at h
  induction n using Nat.strongRecOn generalizing ds with
  | ind n ih =>
    by_cases hn : n < 10
    · rw [Nat.toDigits_of_lt_base hn] at h
      obtain ⟨hd, hds⟩ := List.cons.inj h
      have hzero : ∀ m < 10, Nat.digitChar m = '0' → m = 0 := by decide
      exact ⟨hzero n hn hd, hds.symm⟩
    · rw [Nat.toDigits_of_base_le (by decide) (by omega)] at h
      obtain ⟨d, es, hfirst⟩ := List.exists_cons_of_ne_nil (Nat.toDigits_ne_nil (n := n / 10) (b := 10))
      rw [hfirst, List.cons_append] at h
      obtain ⟨rfl, -⟩ := List.cons.inj h
      have := (ih (n / 10) (by omega) hfirst).1
      omega

def NoDigit (cs : List Char) : Prop := ∀ c ∈ cs.head?, Text.isDigit c = false

theorem digitRun_append {ds rest : List Char} (hds : ∀ c ∈ ds, Text.isDigit c = true) (hrest : NoDigit rest) :
    Text.digitRun (ds ++ rest) = (ds, rest) := by
  have hstop : Text.digitRun rest = ([], rest) := by
    cases rest with
    | nil => rfl
    | cons c rest => simp [Text.digitRun, hrest c rfl]
  unfold Text.digitRun at hstop ⊢
  rw [List.takeWhile_append_of_pos hds, List.dropWhile_append_of_pos hds, (Prod.mk.inj hstop).1, (Prod.mk.inj hstop).2,
    List.append_nil]

/-! ## Texts with separators -/

/-- The first of several texts and what separates it from the others. -/
theorem intercalate_map_cons {α : Type} (sep : List Char) (f : α → List Char) (a b : α) (l : List α) (rest : List Char) :
    sep.intercalate ((a :: b :: l).map f) ++ rest = f a ++ (sep ++ (sep.intercalate ((b :: l).map f) ++ rest)) := by
  simp

theorem length_le_intercalate {α : Type} (sep : List Char) (f : α → List Char) {a : α} {l : List α} (h : a ∈ l) :
    (f a).length ≤ (sep.intercalate (l.map f)).length := by
  induction l with
  | nil => contradiction
  | cons b l ih =>
    cases l with
    | nil => simp [List.mem_singleton.mp h]
    | cons c l =>
      have hcons : sep.intercalate ((b :: c :: l).map f) = _ :=
        intercalate_map_cons sep f b c l [] ▸ (List.append_nil _).symm
      rw [hcons]
      rcases List.mem_cons.mp h with rfl | h
      · simp
      · have := ih h
        simp only [List.append_nil, List.length_append]
        omega

theorem exists_intercalate_eq_append {α : Type} (sep : List Char) (f : α → List Char) (a : α) (l : List α) :
    ∃ tail, sep.intercalate ((a :: l).map f) = f a ++ tail := by
  cases l with
  | nil => exact ⟨[], by simp⟩
  | cons b l => exact ⟨sep ++ sep.intercalate ((b :: l).map f), by simp⟩

theorem count_le_intercalate {α : Type} (c : Char) (sep : List Char) (f : α → List Char) (l : List α) :
    l.length ≤ ((c :: sep).intercalate (l.map f)).length + 1 := by
  induction l with
  | nil => simp
  | cons b l ih =>
    cases l with
    | nil => simp
    | cons c l =>
      simp only [List.map_cons, List.intercalate_cons_cons, List.length_append, List.length_cons] at ih ⊢
      omega

namespace Json

open Text Decimal

/-! ## Members -/

namespace Source

/-- A member of a JSON object, if its key and its value can be told. -/
def member? (depth : Nat) (m : Option String × Source) : Option (String × Json) := do
  some ((← m.1), (← m.2.value? depth))

theorem memberValues?_eq (depth : Nat) (members : List (Option String × Source)) (done : List (String × Json)) :
    memberValues? depth members done = (members.mapM (member? depth)).map (OrderedMap.insertAll done) := by
  induction members generalizing done with
  | nil => rfl
  | cons m ms ih =>
    obtain ⟨k, j⟩ := m
    cases k with
    | none => rfl
    | some k =>
      cases hj : j.value? depth with
      | none => simp [memberValues?, member?, hj]
      | some v =>
        simp only [memberValues?, member?, List.mapM_cons, hj, ih]
        cases ms.mapM (member? depth) <;> rfl

/-- An object has a value if its members have, each key once. -/
theorem value?_obj (depth : Nat) (members : List (Option String × Source)) :
    value? (depth + 1) (.obj members) =
      (members.mapM (member? depth)).map fun ms => .obj (OrderedMap.ofEntries ms) := by
  rw [value?, memberValues?_eq, Option.map_map]
  rfl

end Source

/-! ## Plain values -/

/-- A value without fractions, whose integers fit 64 bits and whose objects have each key once,
    with arrays and objects nested at most as deep as told. -/
inductive Plain : Nat → Json → Prop
  | null {depth : Nat} : Plain depth .null
  | bool {depth : Nat} (b : Bool) : Plain depth (.bool b)
  | integer {depth : Nat} {n : Int} (h : Number.fits n) : Plain depth (.number (.integer n))
  | str {depth : Nat} (s : String) : Plain depth (.str s)
  | arr {depth : Nat} {items : List Json} (h : ∀ j ∈ items, Plain depth j) : Plain (depth + 1) (.arr items)
  | obj {depth : Nat} {members : List (String × Json)} (hkeys : (OrderedMap.keys members).Nodup)
      (h : ∀ m ∈ members, Plain depth m.2) : Plain (depth + 1) (.obj members)

mutual
def hasNull : Json → Bool
  | .null => true
  | .arr items => itemsHaveNull items
  | .obj members => membersHaveNull members
  | _ => false
def itemsHaveNull : List Json → Bool
  | [] => false
  | j :: js => hasNull j || itemsHaveNull js
def membersHaveNull : List (String × Json) → Bool
  | [] => false
  | (_, j) :: ms => hasNull j || membersHaveNull ms
end

mutual
/-- A value as it is read, before its parts are asked for. -/
def source : Json → Source
  | .null => .null
  | .bool b => .bool b
  | .number n => .number (some n)
  | .str s => .str (some s)
  | .arr items => .arr (sourceItems items)
  | .obj members => .obj (sourceMembers members)
def sourceItems : List Json → List Source
  | [] => []
  | j :: js => source j :: sourceItems js
def sourceMembers : List (String × Json) → List (Option String × Source)
  | [] => []
  | (k, j) :: ms => (some k, source j) :: sourceMembers ms
end

theorem compactItems_eq_map (items : List Json) : compactItems items = items.map compact := by
  induction items with
  | nil => rfl
  | cons j js ih => rw [compactItems, ih, List.map_cons]

theorem compactMembers_eq_map (members : List (String × Json)) :
    compactMembers members = members.map fun m => quote m.1 ++ ":" ++ m.2.compact := by
  induction members with
  | nil => rfl
  | cons m ms ih => rw [compactMembers, ih, List.map_cons]

theorem sourceItems_eq_map (items : List Json) : sourceItems items = items.map source := by
  induction items with
  | nil => rfl
  | cons j js ih => rw [sourceItems, ih, List.map_cons]

theorem sourceMembers_eq_map (members : List (String × Json)) :
    sourceMembers members = members.map fun m => (some m.1, source m.2) := by
  induction members with
  | nil => rfl
  | cons m ms ih => rw [sourceMembers, ih, List.map_cons]

/-! ## Strings -/

/-- Characters that are written with the number of their code. -/
theorem hexDigit?_hexChar {n : Nat} (h : n < 16) : hexDigit? (hexChar n) = some n := by
  revert n
  decide

theorem ofCode_of_lt {n : Nat} (h : n < 0x20) : Unit.ofCode n = .char (Char.ofNat n) := by
  rw [Unit.ofCode, if_neg (by omega), if_neg (by omega)]

theorem stringUnits_escaped {e c : Char} (h : escapedChar? e = some c) (cs : List Char) :
    stringUnits ('\\' :: e :: cs) = (stringUnits cs).map fun x => (.char c :: x.1, x.2) := by
  have hcode : ∀ (a b c d : Char) (ds : List Char), e = 'u' → cs = a :: b :: c :: d :: ds → False := by
    rintro _ _ _ _ _ rfl _
    contradiction
  rw [stringUnits.eq_3 _ _ hcode, h]
  exact Option.map_eq_bind.symm

theorem stringUnits_code (c : Char) (h : c.toNat < 0x20) (cs : List Char) :
    stringUnits ('\\' :: 'u' :: '0' :: '0' :: hexChar (c.toNat / 16) :: hexChar (c.toNat % 16) :: cs) =
      (stringUnits cs).map fun x => (.char c :: x.1, x.2) := by
  have hzero : hexDigit? '0' = some 0 := by decide
  have hhigh : hexDigit? (hexChar (c.toNat / 16)) = some (c.toNat / 16) := hexDigit?_hexChar (by omega)
  have hlow : hexDigit? (hexChar (c.toNat % 16)) = some (c.toNat % 16) := hexDigit?_hexChar (by omega)
  have hcode : c.toNat / 16 * 16 + c.toNat % 16 = c.toNat := by omega
  rw [stringUnits]
  simp only [hzero, hhigh, hlow, Option.bind_eq_bind, Option.bind_some, Nat.zero_mul, Nat.zero_add, hcode, ofCode_of_lt h,
    Char.ofNat_toNat]
  exact Option.map_eq_bind.symm

theorem stringUnits_plain {c : Char} (hquote : c ≠ '"') (hslash : c ≠ '\\') (h : ¬ c.toNat < 0x20) (cs : List Char) :
    stringUnits (c :: cs) = (stringUnits cs).map fun x => (.char c :: x.1, x.2) := by
  rw [stringUnits.eq_4, if_neg h]
  · exact hquote
  · rintro _ _ _ _ _ rfl
    contradiction
  · rintro _ _ rfl
    contradiction

theorem stringUnits_escapeChar (c : Char) (cs : List Char) :
    stringUnits (escapeChar c ++ cs) = (stringUnits cs).map fun x => (.char c :: x.1, x.2) := by
  unfold escapeChar
  split
  iterate 7 exact stringUnits_escaped rfl cs
  rename_i hquote hslash _ _ _ _ _
  split
  · rename_i h
    exact stringUnits_code c h cs
  · rename_i h
    exact stringUnits_plain hquote hslash h cs

theorem stringUnits_escape (cs rest : List Char) :
    stringUnits (cs.flatMap escapeChar ++ '"' :: rest) = some (cs.map .char, rest) := by
  induction cs with
  | nil => rw [List.flatMap_nil, List.nil_append, stringUnits, List.map_nil]
  | cons c cs ih => rw [List.flatMap_cons, List.append_assoc, stringUnits_escapeChar, ih, Option.map_some, List.map_cons]

theorem joinUnits_char (cs : List Char) : joinUnits (cs.map .char) = some cs := by
  induction cs with
  | nil => rfl
  | cons c cs ih => rw [List.map_cons, joinUnits, ih, Option.map_some]

theorem toList_quote (s : String) : (quote s).toList = '"' :: (s.toList.flatMap escapeChar ++ ['"']) := by
  rw [quote, String.toList_ofList, List.cons_append]

/-- A string in quotes, after its opening quote. -/
theorem string_quote (s : String) (rest : List Char) :
    string (s.toList.flatMap escapeChar ++ '"' :: rest) = some (some s, rest) := by
  simp only [string, stringUnits_escape, Option.map_some, joinUnits_char, String.ofList_toList]

/-! ## Numbers -/

theorem le_foldl_digits (ds : List Char) (n : Nat) : n ≤ ds.foldl (fun n d => n * 10 + digitValue d) n := by
  induction ds generalizing n with
  | nil => exact Nat.le_refl n
  | cons d ds ih =>
    have hstep : n ≤ n * 10 + digitValue d := by omega
    exact Nat.le_trans hstep (ih _)

theorem significand_of_lt {ds : List Char} {n : Nat} (h : ds.foldl (fun n d => n * 10 + digitValue d) n < UInt64.size) :
    significand n ds = (ds.foldl (fun n d => n * 10 + digitValue d) n, []) := by
  induction ds generalizing n with
  | nil => rfl
  | cons d ds ih =>
    have hfirst : n * 10 + digitValue d < UInt64.size := Nat.lt_of_le_of_lt (le_foldl_digits ds _) h
    rw [significand, if_pos hfirst, ih h]
    rfl

theorem significand_digits {n : Nat} (h : n < UInt64.size) : significand 0 (digits n) = (n, []) := by
  have hn := natOfDigits_digits n
  unfold natOfDigits at hn
  have hlt : (digits n).foldl (fun n d => n * 10 + digitValue d) 0 < UInt64.size := hn.symm ▸ h
  rw [significand_of_lt hlt, hn]

/-- What follows a value inside an array or object. -/
def Follows (rest : List Char) : Prop := ∃ c cs, rest = c :: cs ∧ (c = ',' ∨ c = ']' ∨ c = '\x7d')

theorem Follows.noDigit {rest : List Char} (h : Follows rest) : NoDigit rest := by
  obtain ⟨c, cs, rfl, hc⟩ := h
  rintro _ ⟨⟩
  rcases hc with rfl | rfl | rfl <;> rfl

theorem unsigned_digits (negative : Bool) (n : Nat) {rest : List Char} (h : Follows rest) :
    unsigned negative (digits n ++ rest) = some (numberOf negative (digits n) none none, rest) := by
  have hrun : digitRun (digits n ++ rest) = _ := digitRun_append (fun _ => isDigit_of_mem_digits) h.noDigit
  obtain ⟨c, cs, rfl, hc⟩ := h
  by_cases hn : n = 0
  · subst hn
    rcases hc with rfl | rfl | rfl <;> rfl
  · obtain ⟨d, ds, hds, -⟩ := exists_digits_eq_cons n
    have hd : d ≠ '0' := by
      rintro rfl
      exact hn (eq_zero_of_digits hds).1
    unfold unsigned
    split
    · rename_i heq
      rw [hds, List.cons_append] at heq
      exact absurd (List.cons.inj heq).1 hd
    · rename_i heq
      simp [hds] at heq
    · rw [hrun, hds]
      rcases hc with rfl | rfl | rfl <;> rfl

theorem fits_iff {n : Int} : Number.fits n ↔ -9223372036854775808 ≤ n ∧ n < 18446744073709551616 := by
  have h63 : (pow2 63 : Int) = 9223372036854775808 := rfl
  have h64 : (pow2 64 : Int) = 18446744073709551616 := rfl
  rw [Number.fits, h63, h64, Bool.and_eq_true, decide_eq_true_eq, decide_eq_true_eq]

theorem numberOf_digits {n : Int} (h : Number.fits n) :
    numberOf (decide (n < 0)) (digits n.natAbs) none none = some (.integer n) := by
  rw [fits_iff] at h
  have hsize : n.natAbs < UInt64.size := by
    rw [UInt64.size]
    omega
  unfold numberOf
  simp only [significand_digits hsize]
  by_cases hn : n < 0
  · have hbound : ¬ (n.natAbs = 0 ∨ pow2 63 < n.natAbs) := by
      have h63 : pow2 63 = 9223372036854775808 := rfl
      omega
    have hvalue : -(n.natAbs : Int) = n := by omega
    rw [decide_eq_true hn]
    exact (if_neg hbound).trans (by rw [hvalue])
  · have hvalue : (n.natAbs : Int) = n := by omega
    simp [hn, hvalue]

theorem value_digits (depth n : Nat) (rest : List Char) : value (depth + 1) (digits n ++ rest) =
    (unsigned false (digits n ++ rest)).map fun x => (.number x.1, x.2) := by
  obtain ⟨d, ds, hds, hd⟩ := exists_digits_eq_cons n
  rw [hds, List.cons_append]
  unfold value
  split
  all_goals first
    | rfl
    | rename_i heq
      obtain ⟨rfl, -⟩ := List.cons.inj heq
      contradiction

theorem value_integer (depth : Nat) {n : Int} (h : Number.fits n) {rest : List Char} (hrest : Follows rest) :
    value (depth + 1) ((Number.integerText n).toList ++ rest) = some (.number (some (.integer n)), rest) := by
  have hnumber := numberOf_digits h
  by_cases hn : n < 0
  · have htext : (Number.integerText n).toList ++ rest = '-' :: (digits n.natAbs ++ rest) := by
      rw [Number.integerText, if_pos hn, String.toList_ofList, List.cons_append]
    have hvalue : value (depth + 1) ('-' :: (digits n.natAbs ++ rest)) =
        (unsigned true (digits n.natAbs ++ rest)).map fun x => (.number x.1, x.2) := rfl
    rw [decide_eq_true hn] at hnumber
    rw [htext, hvalue, unsigned_digits true _ hrest, hnumber, Option.map_some]
  · have htext : (Number.integerText n).toList ++ rest = digits n.natAbs ++ rest := by
      rw [Number.integerText, if_neg hn, String.toList_ofList]
    rw [decide_eq_false hn] at hnumber
    rw [htext, value_digits, unsigned_digits false _ hrest, hnumber, Option.map_some]

/-! ## Arrays and objects -/

/-- What the text of a plain value starts with. -/
def startsValue (c : Char) : Bool := ['n', 't', 'f', '-', '"', '[', '\x7b'].contains c || isDigit c

theorem toList_compact_arr (items : List Json) : (compact (.arr items)).toList =
    '[' :: ([','].intercalate (items.map fun j => j.compact.toList) ++ [']']) := by
  simp [compact, compactItems_eq_map, Function.comp_def]

def memberText (m : String × Json) : List Char :=
  '"' :: (m.1.toList.flatMap escapeChar ++ '"' :: ':' :: m.2.compact.toList)

theorem length_compact_le (m : String × Json) : m.2.compact.toList.length ≤ (memberText m).length := by
  simp only [memberText, List.length_cons, List.length_append]
  omega

theorem toList_compact_obj (members : List (String × Json)) : (compact (.obj members)).toList =
    '\x7b' :: ([','].intercalate (members.map memberText) ++ ['\x7d']) := by
  have hmember : (String.toList ∘ fun (m : String × Json) => quote m.1 ++ ":" ++ m.2.compact) = memberText := by
    funext m
    simp [memberText, toList_quote]
  simp [compact, compactMembers_eq_map, hmember]

theorem exists_integerText_eq_cons (n : Int) :
    ∃ c cs, (Number.integerText n).toList = c :: cs ∧ (c = '-' ∨ isDigit c = true) := by
  rw [Number.integerText, String.toList_ofList]
  split
  · exact ⟨_, _, rfl, .inl rfl⟩
  · obtain ⟨d, ds, hds, hd⟩ := exists_digits_eq_cons n.natAbs
    exact ⟨d, ds, hds, .inr hd⟩

theorem startsValue_of_integer {c : Char} (h : c = '-' ∨ isDigit c = true) : startsValue c := by
  rcases h with rfl | h
  · rfl
  · rw [startsValue, h, Bool.or_true]

theorem exists_compact_eq_cons {depth : Nat} {j : Json} (h : Plain depth j) :
    ∃ c cs, j.compact.toList = c :: cs ∧ startsValue c := by
  cases h with
  | null => exact ⟨_, _, rfl, rfl⟩
  | bool b => cases b <;> exact ⟨_, _, rfl, rfl⟩
  | integer =>
    obtain ⟨c, cs, hn, hc⟩ := exists_integerText_eq_cons _
    exact ⟨c, cs, hn, startsValue_of_integer hc⟩
  | str s => exact ⟨_, _, toList_quote s, rfl⟩
  | arr => exact ⟨_, _, toList_compact_arr _, rfl⟩
  | obj => exact ⟨_, _, toList_compact_obj _, rfl⟩

theorem skipSpace_of_startsValue {c : Char} (h : startsValue c) (cs : List Char) : skipSpace (c :: cs) = c :: cs := by
  have hspace : isSpace c = false := by
    rw [← Bool.not_eq_true]
    intro hc
    simp only [isSpace, Bool.or_eq_true, beq_iff_eq] at hc
    obtain ((rfl | rfl) | rfl) | rfl := hc <;> contradiction
  rw [skipSpace, List.dropWhile_cons, hspace]
  rfl

theorem skipSpace_compact {depth : Nat} {j : Json} (h : Plain depth j) (rest : List Char) :
    skipSpace (j.compact.toList ++ rest) = j.compact.toList ++ rest := by
  obtain ⟨c, cs, hj, hc⟩ := exists_compact_eq_cons h
  rw [hj, List.cons_append, skipSpace_of_startsValue hc]

/-- A reader of values, told what it makes of a value with something behind it. -/
def Reads (read : List Char → Option (Source × List Char)) (j : Json) : Prop :=
  ∀ rest, Follows rest → read (j.compact.toList ++ rest) = some (source j, rest)

theorem items_intercalate {read : List Char → Option (Source × List Char)} {depth : Nat} {j : Json} {js : List Json}
    (hplain : ∀ k ∈ j :: js, Plain depth k) (hread : ∀ k ∈ j :: js, Reads read k) {fuel : Nat}
    (hfuel : js.length < fuel) (rest : List Char) :
    items read fuel ([','].intercalate ((j :: js).map fun k => k.compact.toList) ++ ']' :: rest) =
      some ((j :: js).map source, rest) := by
  obtain ⟨fuel, rfl⟩ : ∃ f, fuel = f + 1 := ⟨fuel - 1, by omega⟩
  have hskip := skipSpace_compact (hplain j List.mem_cons_self)
  have hfirst := hread j List.mem_cons_self
  induction js generalizing j fuel with
  | nil =>
    have hj := hfirst (']' :: rest) ⟨']', rest, rfl, .inr (.inl rfl)⟩
    rw [List.map_singleton, List.intercalate_singleton, items, hskip, hj]
    rfl
  | cons k ks ih =>
    obtain ⟨fuel, rfl⟩ : ∃ f, fuel = f + 1 := ⟨fuel - 1, by simp at hfuel; omega⟩
    have hk : k ∈ j :: k :: ks := by simp
    have hrest := ih (fun i hi => hplain i (List.mem_cons_of_mem _ hi)) (fun i hi => hread i (List.mem_cons_of_mem _ hi))
      fuel (by simpa using hfuel) (skipSpace_compact (hplain k hk)) (hread k hk)
    have hj := hfirst _ ⟨',', [','].intercalate ((k :: ks).map fun k => k.compact.toList) ++ ']' :: rest, rfl, .inl rfl⟩
    rw [intercalate_map_cons, List.singleton_append, items, hskip, hj]
    simp only [Option.bind_eq_bind, Option.bind_some]
    exact (congrArg (Option.map fun x => (source j :: x.1, x.2)) hrest).trans rfl

theorem members_intercalate {read : List Char → Option (Source × List Char)} {depth : Nat} {m : String × Json}
    {ms : List (String × Json)} (hplain : ∀ n ∈ m :: ms, Plain depth n.2) (hread : ∀ n ∈ m :: ms, Reads read n.2)
    {fuel : Nat} (hfuel : ms.length < fuel) (rest : List Char) :
    members read fuel ([','].intercalate ((m :: ms).map memberText) ++ '\x7d' :: rest) =
      some ((m :: ms).map fun n => (some n.1, source n.2), rest) := by
  obtain ⟨fuel, rfl⟩ : ∃ f, fuel = f + 1 := ⟨fuel - 1, by omega⟩
  have hquote (cs : List Char) : skipSpace ('"' :: cs) = '"' :: cs := rfl
  have hcolon (cs : List Char) : skipSpace (':' :: cs) = ':' :: cs := rfl
  have hskip := skipSpace_compact (hplain m List.mem_cons_self)
  have hfirst := hread m List.mem_cons_self
  have htext (cs : List Char) : memberText m ++ cs =
      '"' :: (m.1.toList.flatMap escapeChar ++ '"' :: ':' :: (m.2.compact.toList ++ cs)) := by
    simp [memberText]
  induction ms generalizing m fuel with
  | nil =>
    have hj := hfirst ('\x7d' :: rest) ⟨'\x7d', rest, rfl, .inr (.inr rfl)⟩
    rw [List.map_singleton, List.intercalate_singleton, htext, members, hquote]
    simp only [string_quote, hcolon, hskip, hj, Option.bind_eq_bind, Option.bind_some]
    rfl
  | cons n ns ih =>
    obtain ⟨fuel, rfl⟩ : ∃ f, fuel = f + 1 := ⟨fuel - 1, by simp at hfuel; omega⟩
    have hn : n ∈ m :: n :: ns := by simp
    have hrest := ih (fun i hi => hplain i (List.mem_cons_of_mem _ hi)) (fun i hi => hread i (List.mem_cons_of_mem _ hi))
      fuel (by simpa using hfuel) (skipSpace_compact (hplain n hn)) (hread n hn) (fun cs => by simp [memberText])
    have hj := hfirst _ ⟨',', [','].intercalate ((n :: ns).map memberText) ++ '\x7d' :: rest, rfl, .inl rfl⟩
    rw [intercalate_map_cons, List.singleton_append, htext, members, hquote]
    simp only [string_quote, hcolon, hskip, hj, Option.bind_eq_bind, Option.bind_some]
    exact (congrArg (Option.map fun x => ((some m.1, source m.2) :: x.1, x.2)) hrest).trans rfl

/-! ## Reading a text -/

theorem value_array {cs : List Char} (h : ∃ c tail, cs = c :: tail ∧ startsValue c) (fuel : Nat) :
    value (fuel + 1) ('[' :: cs) = (items (value fuel) cs.length cs).map fun x => (.arr x.1, x.2) := by
  obtain ⟨c, tail, rfl, hc⟩ := h
  have hend : c ≠ ']' := by
    rintro rfl
    contradiction
  have hskip := skipSpace_of_startsValue hc tail
  unfold value
  simp only [hskip]
  split
  · rename_i heq
    exact absurd (List.cons.inj heq).1 hend
  · rfl

theorem value_object {cs : List Char} (h : ∃ tail, cs = '"' :: tail) (fuel : Nat) :
    value (fuel + 1) ('\x7b' :: cs) = (members (value fuel) cs.length cs).map fun x => (.obj x.1, x.2) := by
  obtain ⟨tail, rfl⟩ := h
  rfl

theorem reads_arr {depth fuel : Nat} {items : List Json} (h : ∀ j ∈ items, Plain depth j)
    (hread : ∀ j ∈ items, Reads (value fuel) j) : Reads (value (fuel + 1)) (.arr items) := by
  intro rest _
  cases items with
  | nil => rfl
  | cons j js =>
    have htext : (compact (.arr (j :: js))).toList ++ rest =
        '[' :: ([','].intercalate ((j :: js).map fun k => k.compact.toList) ++ ']' :: rest) := by
      simp [toList_compact_arr]
    have hstart : ∃ c tail, [','].intercalate ((j :: js).map fun k => k.compact.toList) ++ ']' :: rest = c :: tail ∧
        startsValue c := by
      obtain ⟨c, cs, hj, hc⟩ := exists_compact_eq_cons (h j List.mem_cons_self)
      obtain ⟨tail, htail⟩ := exists_intercalate_eq_append [','] (fun k => k.compact.toList) j js
      exact ⟨c, cs ++ tail ++ ']' :: rest, by rw [htail, hj]; rfl, hc⟩
    have hcount := count_le_intercalate ',' [] (fun k => k.compact.toList) (j :: js)
    rw [htext, value_array hstart, items_intercalate h hread]
    · simp [source, sourceItems_eq_map]
    · simp only [List.length_cons, List.length_append] at hcount ⊢
      omega

theorem reads_obj {depth fuel : Nat} {members : List (String × Json)} (h : ∀ m ∈ members, Plain depth m.2)
    (hread : ∀ m ∈ members, Reads (value fuel) m.2) (rest : List Char) :
    value (fuel + 1) ((compact (.obj members)).toList ++ rest) = some (source (.obj members), rest) := by
  cases members with
  | nil => rfl
  | cons m ms =>
    have htext : (compact (.obj (m :: ms))).toList ++ rest =
        '\x7b' :: ([','].intercalate ((m :: ms).map memberText) ++ '\x7d' :: rest) := by
      simp [toList_compact_obj]
    have hstart : ∃ tail, [','].intercalate ((m :: ms).map memberText) ++ '\x7d' :: rest = '"' :: tail := by
      obtain ⟨tail, htail⟩ := exists_intercalate_eq_append [','] memberText m ms
      exact ⟨_, by rw [htail]; rfl⟩
    have hcount := count_le_intercalate ',' [] memberText (m :: ms)
    rw [htext, value_object hstart, members_intercalate h hread]
    · simp [source, sourceMembers_eq_map]
    · simp only [List.length_cons, List.length_append] at hcount ⊢
      omega

/-- A plain value is read back. No more depth is needed than the text is long. -/
theorem reads_value {depth : Nat} {j : Json} (h : Plain depth j) {fuel : Nat} (hfuel : j.compact.toList.length < fuel) :
    Reads (value fuel) j := by
  obtain ⟨fuel, rfl⟩ : ∃ f, fuel = f + 1 := ⟨fuel - 1, by omega⟩
  induction h generalizing fuel with
  | null => exact fun rest _ => rfl
  | bool b =>
    intro rest _
    cases b <;> rfl
  | integer h => exact fun rest hrest => value_integer fuel h hrest
  | str s =>
    intro rest _
    have htext : (compact (.str s)).toList ++ rest = '"' :: (s.toList.flatMap escapeChar ++ '"' :: rest) := by
      simp [compact, toList_quote]
    have hvalue : value (fuel + 1) ('"' :: (s.toList.flatMap escapeChar ++ '"' :: rest)) =
        (string (s.toList.flatMap escapeChar ++ '"' :: rest)).map fun x => (.str x.1, x.2) := rfl
    rw [htext, hvalue, string_quote]
    rfl
  | arr h ih =>
    refine reads_arr h fun j hj => ?_
    have hlength := length_le_intercalate [','] (fun k => k.compact.toList) hj
    rw [toList_compact_arr] at hfuel
    simp only [List.length_cons, List.length_append] at hfuel
    obtain ⟨fuel, rfl⟩ : ∃ f, fuel = f + 1 := ⟨fuel - 1, by omega⟩
    exact ih j hj fuel (by omega)
  | obj hkeys h ih =>
    refine fun rest _ => reads_obj h (fun m hm => ?_) rest
    have hlength := length_le_intercalate [','] memberText hm
    have hmember := length_compact_le m
    rw [toList_compact_obj] at hfuel
    simp only [List.length_cons, List.length_append] at hfuel
    obtain ⟨fuel, rfl⟩ : ∃ f, fuel = f + 1 := ⟨fuel - 1, by omega⟩
    exact ih m hm fuel (by omega)

/-- The text of a plain object as a whole. -/
theorem source_of_compact {depth : Nat} {members : List (String × Json)} (h : Plain depth (.obj members)) :
    Source.read? (compact (.obj members)) = some (source (.obj members)) := by
  cases h with
  | obj hkeys h =>
    have hmembers : ∀ m ∈ members, Reads (value (compact (.obj members)).toList.length) m.2 := by
      intro m hm
      have hlength := length_le_intercalate [','] memberText hm
      have hmember := length_compact_le m
      refine reads_value (h m hm) ?_
      rw [toList_compact_obj]
      simp only [List.length_cons, List.length_append]
      omega
    have hread := reads_obj h hmembers []
    have hskip : skipSpace (compact (.obj members)).toList = (compact (.obj members)).toList := by
      rw [toList_compact_obj]
      rfl
    rw [List.append_nil] at hread
    unfold Source.read?
    simp only [hskip, hread]
    rfl

/-! ## Depth -/

/-- A plain value has the value that was written, if no more depth is allowed than it may have. -/
theorem value?_source {depth : Nat} {j : Json} (h : Plain depth j) : (source j).value? depth = some j := by
  induction h with
  | null => rfl
  | bool => rfl
  | integer => rfl
  | str => rfl
  | arr h ih =>
    rename_i depth items
    have hitems : Source.itemValues? depth (items.map source) = some items := by
      clear h
      induction items with
      | nil => rfl
      | cons j js ihjs =>
        rw [List.map_cons, Source.itemValues?, ih j List.mem_cons_self, ihjs fun k hk => ih k (List.mem_cons_of_mem _ hk)]
        rfl
    rw [source, sourceItems_eq_map, Source.value?, hitems, Option.map_some]
  | obj hkeys h ih =>
    rename_i depth members
    have hmembers : (members.map fun m => (some m.1, source m.2)).mapM (Source.member? depth) = some members := by
      clear h hkeys
      induction members with
      | nil => rfl
      | cons m ms ihms =>
        rw [List.map_cons, List.mapM_cons, Source.member?, ih m List.mem_cons_self,
          ihms fun n hn => ih n (List.mem_cons_of_mem _ hn)]
        rfl
    rw [source, sourceMembers_eq_map, Source.value?_obj, hmembers, Option.map_some, OrderedMap.ofEntries_of_nodup hkeys]

/-- A plain object is read back from its text, if it is not nested too deep. -/
theorem read?_compact {members : List (String × Json)} (h : Plain Source.depthLimit (.obj members)) :
    read? (compact (.obj members)) = some (.obj members) := by
  rw [read?, source_of_compact h, Option.bind_eq_bind, Option.bind_some, value?_source h]

/-! ## Sorted members -/

theorem sortedItems_eq_map (items : List Json) : sortedItems items = items.map sorted := by
  induction items with
  | nil => rfl
  | cons j js ih => rw [sortedItems, ih, List.map_cons]

theorem insertSorted_perm {key : String} {ms : List (String × Json)} (h : key ∉ OrderedMap.keys ms) (value : Json) :
    (insertSorted key value ms).Perm ((key, value) :: ms) := by
  induction ms with
  | nil => exact .refl _
  | cons m ms ih =>
    obtain ⟨hne, hms⟩ := not_or.mp (mt List.mem_cons.mpr h)
    unfold insertSorted
    split
    · exact .refl _
    · exact ((ih hms).cons m).trans (.swap (key, value) m ms)

/-- Members with different keys are sorted without losing any. -/
theorem sortedMembers_perm {ms done : List (String × Json)} (h : (OrderedMap.keys (done ++ ms)).Nodup) :
    (sortedMembers ms done).Perm (done ++ ms.map fun m => (m.1, m.2.sorted)) := by
  induction ms generalizing done with
  | nil => rw [List.map_nil, List.append_nil]; exact .refl _
  | cons m ms ih =>
    have hm : m.1 ∉ OrderedMap.keys done := by
      intro hmem
      rw [OrderedMap.keys, List.map_append, List.nodup_append] at h
      exact h.2.2 _ hmem m.1 List.mem_cons_self rfl
    have hfirst := insertSorted_perm hm m.2.sorted
    have hkeys : (OrderedMap.keys (insertSorted m.1 m.2.sorted done ++ ms)).Nodup := by
      have hperm : (OrderedMap.keys (insertSorted m.1 m.2.sorted done ++ ms)).Perm
          (OrderedMap.keys (done ++ m :: ms)) := by
        have := ((hfirst.append_right ms).trans List.perm_middle.symm).map Prod.fst
        simpa [OrderedMap.keys] using this
      exact hperm.nodup_iff.mpr h
    rw [sortedMembers, List.map_cons]
    exact (ih hkeys).trans ((hfirst.append_right _).trans List.perm_middle.symm)

end Json
end TagAudit
