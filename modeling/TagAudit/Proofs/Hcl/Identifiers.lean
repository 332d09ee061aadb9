/-
  TagAudit.Proofs.Hcl.Identifiers — names of attributes, and references to them.

  An attribute has an identifier for its name (`attributes_named`), and an identifier is read
  back as it stands. So `local.name` is read as a reference to the local of any name that a
  file can declare (`read?_local`).
-/

import Mathlib.Data.List.TakeWhile
import TagAudit.Hcl.Document

namespace TagAudit.Hcl

/-! ## Characters -/

theorem isUpper_iff {c : Char} : c.isUpper ↔ 65 ≤ c.toNat ∧ c.toNat ≤ 90 := by
  show decide ('A'.val ≤ c.val ∧ c.val ≤ 'Z'.val) = true ↔ _
  rw [decide_eq_true_eq, UInt32.le_iff_toNat_le, UInt32.le_iff_toNat_le]
  rfl

theorem isLower_iff {c : Char} : c.isLower ↔ 97 ≤ c.toNat ∧ c.toNat ≤ 122 := by
  show (decide ('a'.val ≤ c.val) && decide (c.val ≤ 'z'.val)) = true ↔ _
  rw [Bool.and_eq_true, decide_eq_true_eq, decide_eq_true_eq, UInt32.le_iff_toNat_le, UInt32.le_iff_toNat_le]
  rfl

theorem isDigit_iff {c : Char} : Text.isDigit c ↔ 48 ≤ c.toNat ∧ c.toNat ≤ 57 := by
  show (decide ('0' ≤ c) && decide (c ≤ '9')) = true ↔ _
  rw [Bool.and_eq_true, decide_eq_true_eq, decide_eq_true_eq, Char.le_def, Char.le_def, UInt32.le_iff_toNat_le,
    UInt32.le_iff_toNat_le]
  rfl

theorem isIdentStart_iff {c : Char} :
    isIdentStart c ↔ 65 ≤ c.toNat ∧ c.toNat ≤ 90 ∨ 97 ≤ c.toNat ∧ c.toNat ≤ 122 ∨ c = '_' := by
  show ((c.isUpper || c.isLower) || c == '_') = true ↔ _
  rw [Bool.or_eq_true, Bool.or_eq_true, isUpper_iff, isLower_iff, beq_iff_eq, or_assoc]

theorem isIdentChar_iff {c : Char} : isIdentChar c ↔ isIdentStart c ∨ Text.isDigit c ∨ c = '-' := by
  show (((c.isAlpha || Text.isDigit c) || c == '_') || c == '-') = true ↔ (c.isAlpha || c == '_') = true ∨ _
  simp only [Bool.or_eq_true, beq_iff_eq, or_assoc, or_left_comm]

theorem isIdentChar_of_start {c : Char} (h : isIdentStart c) : isIdentChar c := isIdentChar_iff.mpr (.inl h)

theorem isBlank_of_isIdentChar {c : Char} (h : isIdentChar c) : Text.isBlank c = false := by
  rw [isIdentChar_iff, isIdentStart_iff, isDigit_iff] at h
  simp only [Text.isBlank, Bool.or_eq_false_iff, Bool.and_eq_false_iff, decide_eq_false_iff_not, beq_eq_false_iff_ne]
  obtain (h | h | rfl) | h | rfl := h
  · omega
  · omega
  · decide
  · omega
  · decide

theorem isDigit_of_isIdentStart {c : Char} (h : isIdentStart c) : Text.isDigit c = false := by
  rw [isIdentStart_iff] at h
  rw [← Bool.not_eq_true, isDigit_iff]
  obtain h | h | rfl := h
  · omega
  · omega
  · decide

/-! ## Identifiers -/

/-- A letter or underscore, and letters, digits, underscores and dashes after it. -/
def IsIdent (s : String) : Prop := ∃ c cs, s.toList = c :: cs ∧ isIdentStart c ∧ ∀ d ∈ cs, isIdentChar d

theorem ok_of_do {ε α β : Type} {x : Except ε α} {f : α → Except ε β} {b : β} (h : (x >>= f) = .ok b) :
    ∃ a, x = .ok a ∧ f a = .ok b := by
  cases x with
  | error r => contradiction
  | ok a => exact ⟨a, rfl, h⟩

theorem ok_of_toOption {ε α : Type} {x : Except ε α} {a : α} (h : x.toOption = some a) : x = .ok a := by
  cases x with
  | error r => contradiction
  | ok b => exact congrArg Except.ok (Option.some.inj h)

theorem isIdent_of_ident {cs rest : List Char} {name : String} (h : ident cs = .ok (name, rest)) : IsIdent name := by
  unfold ident at h
  split at h
  · rename_i c cs'
    split at h
    · rename_i hc
      obtain ⟨rfl, -⟩ := Prod.mk.inj (Except.ok.inj h)
      exact ⟨c, cs'.takeWhile isIdentChar, String.toList_ofList, hc, fun d hd => List.mem_takeWhile_imp hd⟩
    · contradiction
  · contradiction

theorem IsIdent.forall_isIdentChar {s : String} (h : IsIdent s) : ∀ c ∈ s.toList, isIdentChar c := by
  obtain ⟨c, cs, hs, hc, hcs⟩ := h
  rw [hs]
  exact List.forall_mem_cons.mpr ⟨isIdentChar_of_start hc, hcs⟩

/-- An identifier before something that does not go on with it. -/
theorem ident_append {s : String} (h : IsIdent s) {rest : List Char} (hr : ∀ c ∈ rest.head?, isIdentChar c = false) :
    ident (s.toList ++ rest) = .ok (s, rest) := by
  obtain ⟨c, cs, hs, hc, hcs⟩ := h
  have htake : rest.takeWhile isIdentChar = [] := by
    cases rest with
    | nil => rfl
    | cons d ds => rw [List.takeWhile_cons, hr d rfl]; rfl
  have hdrop : rest.dropWhile isIdentChar = rest := by
    cases rest with
    | nil => rfl
    | cons d ds => rw [List.dropWhile_cons, hr d rfl]; rfl
  rw [hs, List.cons_append, ident, if_pos hc, List.takeWhile_append_of_pos hcs, List.dropWhile_append_of_pos hcs, htake,
    hdrop, List.append_nil, ← hs, String.ofList_toList]

/-! ## Attributes -/

/-- The name of an attribute, or of all attributes of a block, is an identifier. -/
def Item.Named : Item → Prop
  | .attribute a => IsIdent a.name
  | .block _ _ body _ => ∀ a ∈ Body.attributes body, IsIdent a.name

theorem Body.attributes_named {b : Body} (h : ∀ i ∈ b, i.Named) : ∀ a ∈ b.attributes, IsIdent a.name := by
  intro a ha
  obtain ⟨i, hi, ha⟩ := List.mem_filterMap.mp ha
  split at ha
  · obtain rfl := Option.some.inj ha
    exact h _ hi
  · contradiction

section
variable {size : Nat} {inner : List Char → Except (List Char) (Body × List Char)}

theorem oneLineBody_named {cs rest : List Char} {body : Body} (h : oneLineBody size cs = .ok (body, rest)) :
    ∀ i ∈ body, i.Named := by
  unfold oneLineBody at h
  split at h
  · obtain ⟨rfl, -⟩ := Prod.mk.inj (Except.ok.inj h)
    simp
  · obtain ⟨⟨name, rest'⟩, hname, h⟩ := ok_of_do h
    obtain ⟨⟨value, tail⟩, -, h⟩ := ok_of_do h
    obtain ⟨tail', -, h⟩ := ok_of_do h
    obtain ⟨rfl, -⟩ := Prod.mk.inj (Except.ok.inj h)
    exact List.forall_mem_singleton.mpr (isIdent_of_ident hname)

theorem block_named (hinner : ∀ cs body rest, inner cs = .ok (body, rest) → ∀ i ∈ body, i.Named) {kind : String}
    {start : Nat} {cs rest : List Char} {i : Item} (h : block size inner kind start cs = .ok (i, rest)) : i.Named := by
  unfold block at h
  obtain ⟨⟨ls, rest'⟩, -, h⟩ := ok_of_do h
  simp only at h
  split at h
  · obtain ⟨⟨body, tail⟩, hbody, h⟩ := ok_of_do h
    obtain ⟨tail', -, h⟩ := ok_of_do h
    obtain ⟨rfl, -⟩ := Prod.mk.inj (Except.ok.inj h)
    exact Body.attributes_named (hinner _ _ _ hbody)
  · obtain ⟨⟨body, tail⟩, hbody, h⟩ := ok_of_do h
    obtain ⟨rfl, -⟩ := Prod.mk.inj (Except.ok.inj h)
    exact Body.attributes_named (oneLineBody_named hbody)

theorem item_named (hinner : ∀ cs body rest, inner cs = .ok (body, rest) → ∀ i ∈ body, i.Named) {cs rest : List Char}
    {i : Item} (h : item size inner cs = .ok (i, rest)) : i.Named := by
  unfold item at h
  obtain ⟨⟨name, rest'⟩, hname, h⟩ := ok_of_do h
  simp only at h
  split at h
  · obtain ⟨⟨value, tail⟩, -, h⟩ := ok_of_do h
    obtain ⟨rfl, -⟩ := Prod.mk.inj (Except.ok.inj h)
    exact isIdent_of_ident hname
  · exact block_named hinner h

/-- The items end here, or there is one with others on the lines after it. -/
theorem itemsFrom_cases {fuel : Nat} {names : List String} {cs rest : List Char} {body : Body}
    (h : itemsFrom size inner (fuel + 1) names cs = .ok (body, rest)) : body = [] ∧ rest = skipWhite cs ∨
      ∃ i is mid after names', body = i :: is ∧ item size inner (skipWhite cs) = .ok (i, mid) ∧
        afterLine? mid = some after ∧ itemsFrom size inner fuel names' after = .ok (is, rest) := by
  unfold itemsFrom at h
  split at h
  · rename_i heq
    obtain ⟨rfl, rfl⟩ := Prod.mk.inj (Except.ok.inj h)
    exact .inl ⟨rfl, heq.symm⟩
  · rename_i heq
    obtain ⟨rfl, rfl⟩ := Prod.mk.inj (Except.ok.inj h)
    exact .inl ⟨rfl, heq.symm⟩
  · obtain ⟨⟨i, mid⟩, hi, h⟩ := ok_of_do h
    dsimp -zeta only at h
    split at h
    · rename_i after hafter
      extract_lets goOn at h
      have hgoOn {names' : List String} (h : goOn names' = .ok (body, rest)) :
          ∃ is, body = i :: is ∧ itemsFrom size inner fuel names' after = .ok (is, rest) := by
        obtain ⟨⟨is, tail⟩, his, h⟩ := ok_of_do h
        obtain ⟨rfl, rfl⟩ := Prod.mk.inj (Except.ok.inj h)
        exact ⟨is, rfl, his⟩
      split at h
      · split at h
        · contradiction
        · obtain ⟨is, hbody, his⟩ := hgoOn h
          exact .inr ⟨_, is, mid, after, _, hbody, hi, hafter, his⟩
      · obtain ⟨is, hbody, his⟩ := hgoOn h
        exact .inr ⟨_, is, mid, after, _, hbody, hi, hafter, his⟩
    · contradiction

theorem itemsFrom_named (hinner : ∀ cs body rest, inner cs = .ok (body, rest) → ∀ i ∈ body, i.Named) :
    ∀ {fuel : Nat} {names : List String} {cs rest : List Char} {body : Body},
      itemsFrom size inner fuel names cs = .ok (body, rest) → ∀ i ∈ body, i.Named
  | 0, _, _, _, _, h => by simp [itemsFrom] at h
  | fuel + 1, names, cs, rest, body, h => by
    obtain ⟨rfl, -⟩ | ⟨i, is, mid, after, names', rfl, hi, -, his⟩ := itemsFrom_cases h
    · simp
    · exact List.forall_mem_cons.mpr ⟨item_named hinner hi, itemsFrom_named hinner his⟩

end

theorem bodyAt_named {size : Nat} : ∀ {depth : Nat} {cs rest : List Char} {body : Body},
    bodyAt size depth cs = .ok (body, rest) → ∀ i ∈ body, i.Named
  | 0, _, _, _, h => by simp [bodyAt] at h
  | depth + 1, _, _, _, h => itemsFrom_named (fun _ _ _ hin => bodyAt_named hin) h

theorem bodyAt_of_read? {text : String} {body : Body} (h : Body.read? text = some body) :
    bodyAt (Text.byteSize text.toList) (text.toList.length + 1) text.toList = .ok (body, []) := by
  have hread : Body.read text.toList = .ok body := ok_of_toOption h
  unfold Body.read at hread
  split at hread
  · rename_i hbody
    rw [hbody, Except.ok.inj hread]
  · contradiction
  · contradiction

/-- A block of a body is an item of it. -/
theorem Body.mem_of_mem_blocks {body : Body} {b : Block} (h : b ∈ body.blocks) :
    .block b.kind b.labels b.body b.span ∈ body := by
  obtain ⟨i, hi, hblock⟩ := List.mem_filterMap.mp h
  split at hblock
  · contradiction
  · obtain rfl := Option.some.inj hblock
    exact hi

/-- The attributes of the blocks of a text have identifiers for names. -/
theorem attributes_named {text : String} {body : Body} (h : Body.read? text = some body) :
    ∀ b ∈ body.blocks, ∀ a ∈ b.body.attributes, IsIdent a.name :=
  fun _ hb => bodyAt_named (bodyAt_of_read? h) _ (Body.mem_of_mem_blocks hb)

/-! ## References -/

theorem ne_of_isIdentStart {c d : Char} (h : isIdentStart c) (hd : isIdentStart d = false) : c ≠ d := by
  rintro rfl
  rw [hd] at h
  contradiction

def skippedMarks : List Char := [' ', '\t', '\n', '\r', '/', '#']

/-- Nothing is passed over before another character. -/
theorem skip_of_not_mem {c : Char} (h : c ∉ skippedMarks) (lines : Bool) (cs : List Char) :
    skip lines (c :: cs) = c :: cs := by
  simp only [skippedMarks, List.mem_cons, List.not_mem_nil, or_false, not_or] at h
  obtain ⟨hspace, htab, hfeed, hreturn, hslash, hhash⟩ := h
  cases lines <;> simp [skip, skipUpTo, afterLineComment?, hspace, htab, hfeed, hreturn, hslash, hhash]

theorem skip_ident {c : Char} (h : isIdentStart c) (lines : Bool) (cs : List Char) : skip lines (c :: cs) = c :: cs := by
  have hmarks : skippedMarks.all (fun d => !isIdentStart d) := rfl
  refine skip_of_not_mem (fun hc => ?_) lines cs
  simpa [h] using List.all_eq_true.mp hmarks c hc

section
variable (inner : Bool → List Char → Except (List Char) (Expr × List Char))

theorem skip_dot (cs : List Char) : skip false ('.' :: cs) = '.' :: cs := by
  simp [skip, skipUpTo]

theorem isIdent_local : IsIdent "local" := ⟨'l', ['o', 'c', 'a', 'l'], by decide, by decide, by simp [isIdentChar]⟩

theorem toList_local : "local".toList = ['l', 'o', 'c', 'a', 'l'] := by decide

/-- The word `local` before a step. -/
theorem operand_local (fuel : Nat) (rest : List Char) :
    operand inner false (fuel + 1) none ("local".toList ++ '.' :: rest) = .ok (.variable "local", '.' :: rest) := by
  have hident : ident ("local".toList ++ '.' :: rest) = .ok ("local", '.' :: rest) :=
    ident_append isIdent_local (by rintro c ⟨⟩; rfl)
  have hnamed : named inner false ("local".toList ++ '.' :: rest) = .ok (.variable "local", '.' :: rest) := by
    simp only [named, hident, bind, Except.bind, skip_dot]
    rfl
  rw [toList_local] at hnamed ⊢
  exact congrArg (fun read => read >>= fun x => Except.ok (applied none x.1, x.2)) hnamed

theorem path_nil (fuel : Nat) : path inner false (fuel + 1) [] = .ok ([], []) := rfl

/-- A single step by name. -/
theorem path_ident {s : String} (h : IsIdent s) (fuel : Nat) :
    path inner false (fuel + 2) ('.' :: s.toList) = .ok ([.attribute s], []) := by
  have hident : ident s.toList = .ok (s, []) := by
    rw [← List.append_nil s.toList]
    exact ident_append h (by simp)
  obtain ⟨c, cs, hs, hc, -⟩ := h
  rw [hs] at hident ⊢
  have hdigits : Text.digitRun (c :: cs) = ([], c :: cs) := by
    simp [Text.digitRun, isDigit_of_isIdentStart hc]
  rw [path, skip_dot]
  simp only [skip_ident hc]
  split
  · rename_i hstar
    exact absurd (List.cons.inj hstar).1 (ne_of_isIdentStart hc rfl)
  · simp only [hdigits, List.isEmpty_nil, if_true, hident, bind, Except.bind, path_nil]

theorem exprWith_local {s : String} (h : IsIdent s) : exprWith inner false ("local".toList ++ '.' :: s.toList) =
    .ok (.access (.variable "local") [.attribute s], []) := by
  have hpath : path inner false (('.' :: s.toList).length + 1) ('.' :: s.toList) = .ok ([.attribute s], []) :=
    path_ident inner h s.toList.length
  have hend : continuation inner false (.access (.variable "local") [.attribute s]) [] =
      .ok (.access (.variable "local") [.attribute s], []) := rfl
  obtain ⟨c, cs, hs, hc, -⟩ := h
  unfold exprWith
  rw [operand_local]
  simp only [bind, Except.bind, skip_dot]
  split
  · rename_i hdots
    rw [hs] at hdots
    exact absurd (List.cons.inj (List.cons.inj hdots).2).1 (ne_of_isIdentStart hc rfl)
  · simp only [hpath]
    exact hend

end

theorem read?_local {s : String} (h : IsIdent s) :
    Expr.read? ("local." ++ s) = some (.access (.variable "local") [.attribute s]) := by
  have htext : ("local." ++ s).toList = "local".toList ++ '.' :: s.toList := by
    rw [String.toList_append]
    rfl
  unfold Expr.read? expr exprAt
  rw [htext, exprWith_local _ h]

end TagAudit.Hcl
