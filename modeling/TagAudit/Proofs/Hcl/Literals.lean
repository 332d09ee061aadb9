/-
  TagAudit.Proofs.Hcl.Literals — plain values are read back from the literals that write them.

  A literal (`literal`) stands on one line: texts and keys in quotes, with marks of interpolations
  and directives escaped (`quotedBody`), numbers by their digits, items and entries with commas
  between them. Something follows it that no expression goes on with (`Stops`), so each reader
  takes the literal, leaves the rest (`Reads`) and makes of it the expression that it stands for
  (`exprOf`). That is said for one kind of value after the other, with readers of the parts told
  what they make of them (`reads_text`, `reads_integer`, `reads_list`, `reads_object`), and then for
  all values (`reads_literal`), however deep they are nested.

  Proved: `ofLiteral?_exprOf`: the value of a literal is what was written, and a literal with a null
  in it has none; `read_attributesText`: a file that sets names to values is read as just these
  attributes, in order.
-/

import TagAudit.Hcl.Printer
import TagAudit.Literal
import TagAudit.Proofs.Hcl.Identifiers
import TagAudit.Proofs.Hcl.Nulls
import TagAudit.Proofs.Json.Reading

namespace TagAudit.Hcl

/-! ## Literals of values -/

mutual
/-- A value written as a literal, on one line. -/
def literal : Json → String
  | .null => "null"
  | .bool b => if b then "true" else "false"
  | .number n => n.jsonText
  | .str s => quoteText s
  | .arr items => "[" ++ String.intercalate ", " (literalItems items) ++ "]"
  | .obj members => "\x7b" ++ String.intercalate ", " (literalEntries members) ++ "\x7d"
def literalItems : List Json → List String
  | [] => []
  | j :: js => literal j :: literalItems js
def literalEntries : List (String × Json) → List String
  | [] => []
  | (k, j) :: ms => (quoteText k ++ " = " ++ literal j) :: literalEntries ms
end

mutual
/-- The expression that the literal of a value is. -/
def exprOf : Json → Expr
  | .null => .null
  | .bool b => .bool b
  | .number n => .number n
  | .str s => .text s
  | .arr items => .list (exprsOf items)
  | .obj members => .object (entriesOf members)
def exprsOf : List Json → List Expr
  | [] => []
  | j :: js => exprOf j :: exprsOf js
def entriesOf : List (String × Json) → List (Key × Expr)
  | [] => []
  | (k, j) :: ms => (.expr (.text k), exprOf j) :: entriesOf ms
end

@[simp] theorem literalItems_eq_map (items : List Json) : literalItems items = items.map literal := by
  induction items with
  | nil => rfl
  | cons j js ih => rw [literalItems, ih, List.map_cons]

@[simp] theorem literalEntries_eq_map (members : List (String × Json)) :
    literalEntries members = members.map fun m => quoteText m.1 ++ " = " ++ literal m.2 := by
  induction members with
  | nil => rfl
  | cons m ms ih => rw [literalEntries, ih, List.map_cons]

@[simp] theorem exprsOf_eq_map (items : List Json) : exprsOf items = items.map exprOf := by
  induction items with
  | nil => rfl
  | cons j js ih => rw [exprsOf, ih, List.map_cons]

/-! ## Texts -/

/-- A text between quotes: escaped characters, and marks of interpolations and directives with their
    first character twice. -/
def quotedBody : List Char → List Char
  | '$' :: '\x7b' :: cs => '$' :: '$' :: '\x7b' :: quotedBody cs
  | '%' :: '\x7b' :: cs => '%' :: '%' :: '\x7b' :: quotedBody cs
  | c :: cs => Json.escapeChar c ++ quotedBody cs
  | [] => []

theorem codePoint?_code (c : Char) (h : c.toNat < 0x20) (cs : List Char) :
    codePoint? 4 ('0' :: '0' :: Json.hexChar (c.toNat / 16) :: Json.hexChar (c.toNat % 16) :: cs) = some (c, cs) := by
  have hzero : Text.hexDigit? '0' = some 0 := by decide
  have hhigh : Text.hexDigit? (Json.hexChar (c.toNat / 16)) = some (c.toNat / 16) := Json.hexDigit?_hexChar (by omega)
  have hlow : Text.hexDigit? (Json.hexChar (c.toNat % 16)) = some (c.toNat % 16) := Json.hexDigit?_hexChar (by omega)
  have hcode : c.toNat / 16 * 16 + c.toNat % 16 = c.toNat := by omega
  have hvalid : c.toNat.isValidChar := .inl (by omega)
  simp [codePoint?, hzero, hhigh, hlow, hcode, hvalid]

/-- A character is written as it is, or after a backslash as something that is read back. -/
theorem escapeChar_cases (c : Char) : Json.escapeChar c = [c] ∧ c ≠ '"' ∧ c ≠ '\\' ∨
    ∃ es, Json.escapeChar c = '\\' :: es ∧ (∀ e ∈ es, e ≠ '$' ∧ e ≠ '%') ∧ ∀ cs, escaped? (es ++ cs) = some (c, cs) := by
  unfold Json.escapeChar
  split
  iterate 7 exact .inr ⟨_, rfl, by simp, fun _ => rfl⟩
  rename_i hquote hslash _ _ _ _ _
  split
  · rename_i h
    refine .inr ⟨_, rfl, ?_, codePoint?_code c h⟩
    have hhex : ∀ n < 16, Json.hexChar n ≠ '$' ∧ Json.hexChar n ≠ '%' := by decide
    have hhigh := hhex (c.toNat / 16) (by omega)
    have hlow := hhex (c.toNat % 16) (by omega)
    simp [hhigh, hlow]
  · exact .inl ⟨rfl, hquote, hslash⟩

theorem escapeMarks_cons {c : Char} (h : c ≠ '$') (h' : c ≠ '%') (cs : List Char) :
    escapeMarks (c :: cs) = c :: escapeMarks cs := by
  rw [escapeMarks.eq_3 _ _ (fun _ hc => absurd hc h) (fun _ hc => absurd hc h')]

theorem escapeMarks_append {es : List Char} (h : ∀ e ∈ es, e ≠ '$' ∧ e ≠ '%') (cs : List Char) :
    escapeMarks (es ++ cs) = es ++ escapeMarks cs := by
  induction es with
  | nil => rfl
  | cons e es ih =>
    obtain ⟨⟨hdollar, hpercent⟩, hes⟩ := List.forall_mem_cons.mp h
    rw [List.cons_append, escapeMarks_cons hdollar hpercent, ih hes, List.cons_append]

/-- A brace comes only from a brace. -/
theorem eq_brace_of_escape {cs rest : List Char} (h : cs.flatMap Json.escapeChar = '\x7b' :: rest) :
    ∃ ds, cs = '\x7b' :: ds := by
  cases cs with
  | nil => contradiction
  | cons c ds =>
    rw [List.flatMap_cons] at h
    rcases escapeChar_cases c with ⟨hc, -, -⟩ | ⟨es, hc, -, -⟩
    · rw [hc] at h
      exact ⟨ds, (List.cons.inj h).1 ▸ rfl⟩
    · rw [hc] at h
      exact absurd (List.cons.inj h).1 (by decide)

@[elab_as_elim]
theorem quotedBody_induction {motive : List Char → Prop} (nil : motive [])
    (interpolation : ∀ cs, motive cs → motive ('$' :: '\x7b' :: cs))
    (directive : ∀ cs, motive cs → motive ('%' :: '\x7b' :: cs))
    (other : ∀ c cs, (∀ ds, c = '$' → cs = '\x7b' :: ds → False) → (∀ ds, c = '%' → cs = '\x7b' :: ds → False) →
      motive cs → motive (c :: cs)) (cs : List Char) : motive cs :=
  quotedBody.induct motive interpolation directive other nil cs

/-- A character that begins no mark. -/
theorem quotedBody_cons {c : Char} {cs : List Char} (hdollar : ∀ ds, c = '$' → cs = '\x7b' :: ds → False)
    (hpercent : ∀ ds, c = '%' → cs = '\x7b' :: ds → False) :
    quotedBody (c :: cs) = Json.escapeChar c ++ quotedBody cs := by
  rw [quotedBody]
  · exact hdollar
  · exact hpercent

theorem escapeMarks_escape (cs : List Char) : escapeMarks (cs.flatMap Json.escapeChar) = quotedBody cs := by
  induction cs using quotedBody_induction with
  | nil => rfl
  | interpolation cs ih =>
    rw [quotedBody, ← ih]
    rfl
  | directive cs ih =>
    rw [quotedBody, ← ih]
    rfl
  | other c cs hdollar hpercent ih =>
    rw [quotedBody_cons hdollar hpercent, List.flatMap_cons, ← ih]
    rcases escapeChar_cases c with ⟨hc, -, -⟩ | ⟨es, hc, hes, -⟩
    · have hbrace {rest : List Char} (h : cs.flatMap Json.escapeChar = '\x7b' :: rest) : ∃ ds, cs = '\x7b' :: ds :=
        eq_brace_of_escape h
      rw [hc, List.singleton_append, List.singleton_append, escapeMarks.eq_3]
      · intro rest hd h
        obtain ⟨ds, hds⟩ := hbrace h
        exact hdollar ds hd hds
      · intro rest hd h
        obtain ⟨ds, hds⟩ := hbrace h
        exact hpercent ds hd hds
    · rw [hc]
      exact escapeMarks_append (List.forall_mem_cons.mpr ⟨by decide, hes⟩) _

@[simp] theorem toList_quoteText (s : String) : (quoteText s).toList = '"' :: (quotedBody s.toList ++ ['"']) := by
  rw [quoteText, String.toList_ofList, escapeMarks_escape, List.cons_append]

/-- A text between quotes begins with a brace only where the text does. -/
theorem eq_brace_of_quotedBody {cs rest tail : List Char} (h : quotedBody cs ++ '"' :: rest = '\x7b' :: tail) :
    ∃ ds, cs = '\x7b' :: ds := by
  induction cs using quotedBody_induction with
  | nil => exact absurd (List.cons.inj h).1 (by decide)
  | interpolation cs => exact absurd (List.cons.inj h).1 (by decide)
  | directive cs => exact absurd (List.cons.inj h).1 (by decide)
  | other c cs hdollar hpercent =>
    rw [quotedBody_cons hdollar hpercent] at h
    rcases escapeChar_cases c with ⟨hc, -, -⟩ | ⟨es, hc, -, -⟩
    · rw [hc] at h
      exact ⟨cs, (List.cons.inj h).1 ▸ rfl⟩
    · rw [hc] at h
      exact absurd (List.cons.inj h).1 (by decide)

/-- It never begins with the mark of an interpolation or directive. -/
theorem quotedBody_ne_mark (cs rest tail : List Char) : quotedBody cs ++ '"' :: rest ≠ '$' :: '\x7b' :: tail ∧
    quotedBody cs ++ '"' :: rest ≠ '%' :: '\x7b' :: tail := by
  induction cs using quotedBody_induction with
  | nil => simp [quotedBody]
  | interpolation cs => simp [quotedBody]
  | directive cs => simp [quotedBody]
  | other c cs hdollar hpercent =>
    rw [quotedBody_cons hdollar hpercent]
    rcases escapeChar_cases c with ⟨hc, -, -⟩ | ⟨es, hc, -, -⟩
    · rw [hc]
      constructor
      · intro h
        obtain ⟨hd, h⟩ := List.cons.inj h
        obtain ⟨ds, hds⟩ := eq_brace_of_quotedBody h
        exact hdollar ds hd hds
      · intro h
        obtain ⟨hd, h⟩ := List.cons.inj h
        obtain ⟨ds, hds⟩ := eq_brace_of_quotedBody h
        exact hpercent ds hd hds
    · simp [hc]

/-- A character in quotes, if it begins no mark. -/
theorem quotedLiteral_escapeChar {c : Char} {cs : List Char} (hdollar : ∀ ds, c = '$' → cs = '\x7b' :: ds → False)
    (hpercent : ∀ ds, c = '%' → cs = '\x7b' :: ds → False) (fuel : Nat) (rest : List Char) :
    quotedLiteral (fuel + 1) (Json.escapeChar c ++ (quotedBody cs ++ '"' :: rest)) =
      quotedLiteral fuel (quotedBody cs ++ '"' :: rest) >>= fun x => .ok (c :: x.1, x.2) := by
  have hbrace {tail : List Char} (h : c :: (quotedBody cs ++ '"' :: rest) = c :: '\x7b' :: tail) :
      ∃ ds, cs = '\x7b' :: ds := eq_brace_of_quotedBody (List.cons.inj h).2
  rcases escapeChar_cases c with ⟨hc, hquote, hslash⟩ | ⟨es, hc, -, hes⟩
  · rw [hc, List.singleton_append]
    conv => lhs; unfold quotedLiteral
    split
    · rename_i heq
      exact absurd (List.cons.inj heq).1 hquote
    · rename_i heq
      exact absurd (List.cons.inj heq).2 (quotedBody_ne_mark cs rest _).1
    · rename_i heq
      exact absurd (List.cons.inj heq).2 (quotedBody_ne_mark cs rest _).2
    · rename_i heq
      obtain rfl := (List.cons.inj heq).1
      obtain ⟨ds, hds⟩ := hbrace heq
      exact (hdollar ds rfl hds).elim
    · rename_i heq
      obtain rfl := (List.cons.inj heq).1
      obtain ⟨ds, hds⟩ := hbrace heq
      exact (hpercent ds rfl hds).elim
    · rename_i heq
      exact absurd (List.cons.inj heq).1 hslash
    · rename_i heq
      obtain ⟨rfl, rfl⟩ := List.cons.inj heq
      rfl
    · contradiction
  · have hread := hes (quotedBody cs ++ '"' :: rest)
    rw [hc, List.cons_append]
    conv => lhs; unfold quotedLiteral
    simp only [hread]

/-- A text between quotes is read up to its closing quote. -/
theorem quotedLiteral_quotedBody (cs rest : List Char) {fuel : Nat} (hfuel : cs.length < fuel) :
    quotedLiteral fuel (quotedBody cs ++ '"' :: rest) = .ok (cs, '"' :: rest) := by
  obtain ⟨fuel, rfl⟩ : ∃ f, fuel = f + 1 := ⟨fuel - 1, by omega⟩
  induction cs using quotedBody_induction generalizing fuel with
  | nil => rfl
  | interpolation cs ih =>
    obtain ⟨fuel, rfl⟩ : ∃ f, fuel = f + 1 := ⟨fuel - 1, by simp at hfuel; omega⟩
    have hrest : quotedLiteral (fuel + 1) (quotedBody cs ++ '"' :: rest) = _ := ih fuel (by simp at hfuel; omega)
    rw [quotedBody]
    exact congrArg (fun r => r >>= fun x => Except.ok ('$' :: '\x7b' :: x.1, x.2)) hrest
  | directive cs ih =>
    obtain ⟨fuel, rfl⟩ : ∃ f, fuel = f + 1 := ⟨fuel - 1, by simp at hfuel; omega⟩
    have hrest : quotedLiteral (fuel + 1) (quotedBody cs ++ '"' :: rest) = _ := ih fuel (by simp at hfuel; omega)
    rw [quotedBody]
    exact congrArg (fun r => r >>= fun x => Except.ok ('%' :: '\x7b' :: x.1, x.2)) hrest
  | other c cs hdollar hpercent ih =>
    obtain ⟨fuel, rfl⟩ : ∃ f, fuel = f + 1 := ⟨fuel - 1, by simp at hfuel; omega⟩
    have hrest : quotedLiteral (fuel + 1) (quotedBody cs ++ '"' :: rest) = _ := ih fuel (by simp at hfuel; omega)
    rw [quotedBody_cons hdollar hpercent, List.append_assoc, quotedLiteral_escapeChar hdollar hpercent, hrest]
    rfl

theorem length_le_quotedBody (cs : List Char) : cs.length ≤ (quotedBody cs).length := by
  induction cs using quotedBody_induction with
  | nil => exact Nat.le_refl _
  | interpolation cs ih => simp only [quotedBody, List.length_cons]; omega
  | directive cs ih => simp only [quotedBody, List.length_cons]; omega
  | other c cs hdollar hpercent ih =>
    rw [quotedBody_cons hdollar hpercent, List.length_append, List.length_cons]
    rcases escapeChar_cases c with ⟨hc, -, -⟩ | ⟨es, hc, -, -⟩
    · simp only [hc, List.length_singleton]
      omega
    · simp only [hc, List.length_cons]
      omega

section
variable (inner : Bool → List Char → Except (List Char) (Expr × List Char))

theorem parts_quote (fuel : Nat) (rest : List Char) :
    parts inner (fuel + 1) (fun cs => quotedLiteral (cs.length + 1) cs) ('"' :: rest) = .ok ([], '"' :: rest) := rfl

theorem parts_quotedBody {cs : List Char} (hcs : cs ≠ []) (rest : List Char) (fuel : Nat) :
    ∃ raw, parts inner (fuel + 2) (fun cs => quotedLiteral (cs.length + 1) cs) (quotedBody cs ++ '"' :: rest) =
      .ok ([(.literal (String.ofList cs), raw)], '"' :: rest) := by
  have hread : quotedLiteral ((quotedBody cs ++ '"' :: rest).length + 1) (quotedBody cs ++ '"' :: rest) =
      .ok (cs, '"' :: rest) := by
    have hlength := length_le_quotedBody cs
    refine quotedLiteral_quotedBody cs rest ?_
    simp only [List.length_append, List.length_cons]
    omega
  refine ⟨escapeMarks cs, ?_⟩
  unfold parts
  split
  · rename_i heq
    exact absurd heq (quotedBody_ne_mark cs rest _).1
  · rename_i heq
    exact absurd heq (quotedBody_ne_mark cs rest _).2
  · have hempty : cs.isEmpty = false := List.isEmpty_eq_false_iff.mpr hcs
    simp only [hread, bind, Except.bind, hempty, parts_quote]
    rfl

/-- A text between quotes is a template of one literal, or of none. -/
theorem quotedTemplate_quotedBody (cs rest : List Char) :
    quotedTemplate inner (quotedBody cs ++ '"' :: rest) = .ok (.text (String.ofList cs), rest) := by
  by_cases hcs : cs = []
  · subst hcs
    rfl
  · obtain ⟨fuel, hfuel⟩ : ∃ fuel, (quotedBody cs ++ '"' :: rest).length + 1 = fuel + 2 :=
      ⟨(quotedBody cs ++ rest).length, by simp only [List.length_append, List.length_cons]; omega⟩
    obtain ⟨raw, hparts⟩ := parts_quotedBody inner hcs rest fuel
    unfold quotedTemplate
    rw [hfuel, hparts]
    rfl

/-! ## What follows a literal -/

/-- What follows a literal in a list, in an object or on its line, or a key before its value. -/
inductive Stops : List Char → Prop
  | comma (cs : List Char) : Stops (',' :: cs)
  | bracket (cs : List Char) : Stops (']' :: cs)
  | brace (cs : List Char) : Stops ('\x7d' :: cs)
  | line (cs : List Char) : Stops ('\n' :: cs)
  | equals (cs : List Char) : Stops (' ' :: '=' :: ' ' :: cs)

theorem Stops.noDigit {rest : List Char} (h : Stops rest) : NoDigit rest := by
  cases h <;> (rintro _ ⟨⟩; rfl)

theorem Stops.noIdent {rest : List Char} (h : Stops rest) : ∀ c ∈ rest.head?, isIdentChar c = false := by
  cases h <;> (rintro _ ⟨⟩; rfl)

theorem Stops.path {rest : List Char} (h : Stops rest) : path inner false (rest.length + 1) rest = .ok ([], rest) := by
  cases h <;> rfl

theorem Stops.continuation {rest : List Char} (h : Stops rest) (e : Expr) :
    continuation inner false e rest = .ok (e, rest) := by
  cases h <;> rfl

/-- An operand before something that does not go on with it. -/
theorem exprWith_of_operand {cs rest : List Char} {e : Expr} (hrest : Stops rest)
    (h : operand inner false (cs.length + 1) none cs = .ok (e, rest)) : exprWith inner false cs = .ok (e, rest) := by
  have hpath := hrest.path inner
  have hend := hrest.continuation inner e
  unfold exprWith
  rw [h]
  simp only [bind, Except.bind, hpath]
  split
  · rfl
  · exact hend

theorem operand_of_term {c : Char} (hnot : c ≠ '!') (hminus : c ≠ '-') {cs rest : List Char} {e : Expr}
    (h : term inner false (c :: cs) = .ok (e, rest)) (fuel : Nat) :
    operand inner false (fuel + 1) none (c :: cs) = .ok (e, rest) := by
  unfold operand
  split
  · rename_i heq
    exact absurd (List.cons.inj heq).1 hnot
  · rename_i heq
    exact absurd (List.cons.inj heq).1 hminus
  · rw [h]
    rfl

/-! ## Literals that are single words -/

theorem number_digits {n : Nat} (h : n < UInt64.size) {rest : List Char} (hrest : Stops rest) :
    number (Decimal.digits n ++ rest) = .ok (.integer n, rest) := by
  have hrun : Text.digitRun (Decimal.digits n ++ rest) = _ :=
    digitRun_append (fun _ => isDigit_of_mem_digits) hrest.noDigit
  have hfraction : fractionDigits rest = none := by cases hrest <;> rfl
  have hpower : Text.exponent rest = none := by cases hrest <;> rfl
  obtain ⟨d, ds, hds, -⟩ := exists_digits_eq_cons n
  have hsome : (Decimal.digits n).isEmpty = false := by
    rw [hds]
    rfl
  unfold number
  simp [hrun, hfraction, hpower, hsome, natOfDigits_digits, h]

theorem skip_of_startsValue {c : Char} (h : Json.startsValue c) (lines : Bool) (cs : List Char) :
    skip lines (c :: cs) = c :: cs := by
  have hmarks : skippedMarks.all (fun d => !Json.startsValue d) := rfl
  refine skip_of_not_mem (fun hc => ?_) lines cs
  simpa [h] using List.all_eq_true.mp hmarks c hc

theorem skip_digits (lines : Bool) (n : Nat) (rest : List Char) :
    skip lines (Decimal.digits n ++ rest) = Decimal.digits n ++ rest := by
  obtain ⟨d, ds, hds, hd⟩ := exists_digits_eq_cons n
  rw [hds]
  exact skip_of_startsValue (by rw [Json.startsValue, hd, Bool.or_true]) lines _

/-- A reader of expressions, told what it makes of a literal with something behind it. -/
def Reads (read : List Char → Except (List Char) (Expr × List Char)) (j : Json) : Prop :=
  ∀ rest, Stops rest → read ((literal j).toList ++ rest) = .ok (exprOf j, rest)

def wordExpr : String → Expr
  | "null" => .null
  | "true" => .bool true
  | "false" => .bool false
  | name => .variable name

theorem named_of_stops {name : String} (h : IsIdent name) {rest : List Char} (hrest : Stops rest) :
    named inner false (name.toList ++ rest) = .ok (wordExpr name, rest) := by
  unfold named
  rw [ident_append h hrest.noIdent]
  simp only [bind, Except.bind]
  split
  · rename_i heq
    cases hrest <;> cases heq
  · unfold wordExpr
    split <;> simp [*]

theorem term_ident {c : Char} (h : isIdentStart c) (cs : List Char) :
    term inner false (c :: cs) = named inner false (c :: cs) := by
  unfold term
  split
  -- the marks that start a text, a list, an object, parentheses or a heredoc
  iterate 5
    rename_i heq
    exact absurd (List.cons.inj heq).1 (ne_of_isIdentStart h rfl)
  · rename_i heq
    obtain ⟨rfl, rfl⟩ := List.cons.inj heq
    rw [isDigit_of_isIdentStart h, if_neg Bool.false_ne_true]
  · contradiction

/-- A literal that is a word. -/
theorem reads_word {j : Json} (h : IsIdent (literal j)) (hj : wordExpr (literal j) = exprOf j) :
    Reads (exprWith inner false) j := by
  intro rest hrest
  have hnamed := named_of_stops inner h hrest
  obtain ⟨c, cs, hword, hc, -⟩ := h
  rw [hword, hj, List.cons_append] at hnamed
  rw [hword, List.cons_append]
  refine exprWith_of_operand inner hrest (operand_of_term inner ?_ ?_ ?_ _)
  · exact ne_of_isIdentStart hc rfl
  · exact ne_of_isIdentStart hc rfl
  · rw [term_ident inner hc, hnamed]

theorem reads_null : Reads (exprWith inner false) .null :=
  reads_word inner ⟨'n', ['u', 'l', 'l'], rfl, rfl, List.all_eq_true.mp rfl⟩ rfl

theorem reads_bool (b : Bool) : Reads (exprWith inner false) (.bool b) := by
  cases b with
  | false => exact reads_word inner ⟨'f', ['a', 'l', 's', 'e'], rfl, rfl, List.all_eq_true.mp rfl⟩ rfl
  | true => exact reads_word inner ⟨'t', ['r', 'u', 'e'], rfl, rfl, List.all_eq_true.mp rfl⟩ rfl

theorem reads_text (s : String) : Reads (exprWith inner false) (.str s) := by
  intro rest hrest
  have htext : (literal (.str s)).toList ++ rest = '"' :: (quotedBody s.toList ++ '"' :: rest) := by
    simp [literal, toList_quoteText]
  have hterm : term inner false ('"' :: (quotedBody s.toList ++ '"' :: rest)) = .ok (.text s, rest) := by
    have := quotedTemplate_quotedBody inner s.toList rest
    rwa [String.ofList_toList] at this
  rw [htext]
  exact exprWith_of_operand inner hrest (operand_of_term inner (by decide) (by decide) hterm _)

theorem term_digit {d : Char} (hd : Text.isDigit d = true) (cs : List Char) :
    term inner false (d :: cs) = number (d :: cs) >>= fun x => .ok (.number x.1, x.2) := by
  unfold term
  split
  iterate 5
    rename_i heq
    obtain ⟨rfl, -⟩ := List.cons.inj heq
    contradiction
  · rename_i heq
    obtain ⟨rfl, rfl⟩ := List.cons.inj heq
    rw [if_pos hd]
  · contradiction

theorem reads_integer {n : Int} (h : Number.fits n) : Reads (exprWith inner false) (.number (.integer n)) := by
  intro rest hrest
  rw [Json.fits_iff] at h
  have hnumber := number_digits (n := n.natAbs) (by rw [UInt64.size]; omega) hrest
  refine exprWith_of_operand inner hrest ?_
  obtain ⟨d, ds, hds, hd⟩ := exists_digits_eq_cons n.natAbs
  by_cases hn : n < 0
  · have htext : (literal (.number (.integer n))).toList ++ rest = '-' :: (Decimal.digits n.natAbs ++ rest) := by
      show (Number.integerText n).toList ++ rest = _
      rw [Number.integerText, if_pos hn, String.toList_ofList, List.cons_append]
    have hskip : skipBlank (Decimal.digits n.natAbs ++ rest) = _ := skip_digits false n.natAbs rest
    have hhead : (((Decimal.digits n.natAbs ++ rest).head?.map Text.isDigit).getD false) = true := by
      rw [hds]
      exact hd
    have hnegated : (Number.integer n.natAbs).negated = .integer n := by
      have h63 : (Decimal.pow2 63 : Int) = 9223372036854775808 := rfl
      have hvalue : -(n.natAbs : Int) = n := by omega
      rw [Number.negated, if_neg (by omega), hvalue]
    rw [htext]
    simp only [operand, hskip, hhead, if_true, hnumber, bind, Except.bind, hnegated]
    rfl
  · have htext : (literal (.number (.integer n))).toList ++ rest = Decimal.digits n.natAbs ++ rest := by
      show (Number.integerText n).toList ++ rest = _
      rw [Number.integerText, if_neg hn, String.toList_ofList]
    have hvalue : (n.natAbs : Int) = n := by omega
    rw [hds, List.cons_append] at htext hnumber
    rw [htext]
    refine operand_of_term inner ?_ ?_ ?_ _
    · rintro rfl
      contradiction
    · rintro rfl
      contradiction
    · rw [term_digit inner hd, hnumber, hvalue]
      rfl

/-! ## Lists and objects -/

theorem toList_literal_arr (items : List Json) : (literal (.arr items)).toList =
    '[' :: ([',', ' '].intercalate (items.map fun j => (literal j).toList) ++ [']']) := by
  simp [literal, literalItems_eq_map, Function.comp_def]

def entryText (m : String × Json) : List Char :=
  '"' :: (quotedBody m.1.toList ++ '"' :: ' ' :: '=' :: ' ' :: (literal m.2).toList)

theorem length_literal_le (m : String × Json) : (literal m.2).toList.length ≤ (entryText m).length := by
  simp only [entryText, List.length_cons, List.length_append]
  omega

theorem toList_literal_obj (members : List (String × Json)) : (literal (.obj members)).toList =
    '\x7b' :: ([',', ' '].intercalate (members.map entryText) ++ ['\x7d']) := by
  have hentry : (String.toList ∘ fun (m : String × Json) => quoteText m.1 ++ " = " ++ literal m.2) = entryText := by
    funext m
    simp [entryText, toList_quoteText]
  simp [literal, literalEntries_eq_map, hentry]

theorem exists_literal_eq_cons {depth : Nat} {j : Json} (h : Json.Plain depth j) :
    ∃ c cs, (literal j).toList = c :: cs ∧ Json.startsValue c := by
  cases h with
  | null => exact ⟨_, _, rfl, rfl⟩
  | bool b => cases b <;> exact ⟨_, _, rfl, rfl⟩
  | integer =>
    obtain ⟨c, cs, hn, hc⟩ := Json.exists_integerText_eq_cons _
    exact ⟨c, cs, hn, Json.startsValue_of_integer hc⟩
  | str s => exact ⟨_, _, toList_quoteText s, rfl⟩
  | arr => exact ⟨_, _, toList_literal_arr _, rfl⟩
  | obj => exact ⟨_, _, toList_literal_obj _, rfl⟩

/-- A literal is not taken for the start of a comprehension. -/
theorem afterKeyword?_literal {depth : Nat} {j : Json} (h : Json.Plain depth j) (rest : List Char) :
    afterKeyword? ['f', 'o', 'r'] ((literal j).toList ++ rest) = none := by
  have hne {c : Char} {cs : List Char} (hc : c ≠ 'f') : afterKeyword? ['f', 'o', 'r'] (c :: cs) = none := by
    simp [afterKeyword?, Text.afterMark?, hc.symm]
  cases h with
  | null => rfl
  | bool b => cases b <;> rfl
  | integer =>
    obtain ⟨c, cs, hn, hc⟩ := Json.exists_integerText_eq_cons _
    have htext : (literal (.number (.integer _))).toList = c :: cs := hn
    rw [htext]
    refine hne ?_
    rintro rfl
    rcases hc with hc | hc <;> contradiction
  | str s =>
    rw [literal, toList_quoteText]
    exact hne (by decide)
  | arr =>
    rw [toList_literal_arr]
    exact hne (by decide)
  | obj =>
    rw [toList_literal_obj]
    exact hne (by decide)

variable {inner}

theorem spaced_literal {depth : Nat} {j : Json} (h : Json.Plain depth j) (hread : Reads (inner false) j)
    {rest : List Char} (hrest : Stops rest) :
    spaced inner ((literal j).toList ++ rest) = .ok (exprOf j, skipWhite rest) := by
  have hskip : skipWhite ((literal j).toList ++ rest) = (literal j).toList ++ rest := by
    obtain ⟨c, cs, hj, hc⟩ := exists_literal_eq_cons h
    rw [hj]
    exact skip_of_startsValue hc true _
  unfold spaced
  rw [hskip, hread rest hrest]
  rfl

theorem skip_space (lines : Bool) (cs : List Char) : skip lines (' ' :: cs) = skip lines cs := rfl

theorem skip_literals (lines : Bool) {depth : Nat} {j : Json} (h : Json.Plain depth j) (js : List Json)
    (rest : List Char) :
    skip lines ([',', ' '].intercalate ((j :: js).map fun k => (literal k).toList) ++ rest) =
      [',', ' '].intercalate ((j :: js).map fun k => (literal k).toList) ++ rest := by
  obtain ⟨c, cs, hj, hc⟩ := exists_literal_eq_cons h
  obtain ⟨tail, htail⟩ := exists_intercalate_eq_append [',', ' '] (fun k => (literal k).toList) j js
  have hstart : [',', ' '].intercalate ((j :: js).map fun k => (literal k).toList) ++ rest =
      c :: (cs ++ tail ++ rest) := by
    rw [htail, hj]
    rfl
  rw [hstart]
  exact skip_of_startsValue hc lines _

theorem items_literals {depth : Nat} {j : Json} {js : List Json} (hplain : ∀ k ∈ j :: js, Json.Plain depth k)
    (hread : ∀ k ∈ j :: js, Reads (inner false) k) {fuel : Nat} (hfuel : js.length < fuel) (rest : List Char)
    {cs : List Char}
    (hcs : skipWhite cs = [',', ' '].intercalate ((j :: js).map fun k => (literal k).toList) ++ ']' :: rest) :
    items inner ']' false fuel cs = .ok (((j :: js).map exprOf, false), rest) := by
  obtain ⟨fuel, rfl⟩ : ∃ f, fuel = f + 1 := ⟨fuel - 1, by omega⟩
  have hj := hplain j List.mem_cons_self
  have hspaced (rest : List Char) (hrest : Stops rest) := spaced_literal hj (hread j List.mem_cons_self) hrest
  obtain ⟨c, tail, hc, hstart⟩ := exists_literal_eq_cons hj
  have hend : c ≠ ']' := by
    rintro rfl
    contradiction
  rw [hc] at hspaced
  cases js with
  | nil =>
    have hlast : spaced inner (c :: (tail ++ ']' :: rest)) = .ok (exprOf j, ']' :: rest) := hspaced _ (.bracket rest)
    rw [List.map_singleton, List.intercalate_singleton, hc] at hcs
    unfold items
    simp only [hcs, List.cons_append, if_neg hend, hlast, bind, Except.bind]
    rfl
  | cons k ks =>
    obtain ⟨others, hothers⟩ : ∃ others,
        [',', ' '].intercalate ((k :: ks).map fun k => (literal k).toList) ++ ']' :: rest = others := ⟨_, rfl⟩
    have hfirst : spaced inner (c :: (tail ++ ',' :: ' ' :: others)) = .ok (exprOf j, ',' :: ' ' :: others) :=
      hspaced _ (.comma _)
    have hrest : items inner ']' false fuel (' ' :: others) = _ := items_literals
      (fun i hi => hplain i (List.mem_cons_of_mem _ hi)) (fun i hi => hread i (List.mem_cons_of_mem _ hi))
      (by simpa using hfuel) rest
      ((skip_space true others).trans (hothers ▸ skip_literals true (hplain k (by simp)) ks (']' :: rest)))
    rw [intercalate_map_cons, hothers, hc] at hcs
    unfold items
    simp only [hcs, List.cons_append, List.nil_append, if_neg hend, hfirst, bind, Except.bind, hrest]
    rfl

theorem reads_list {depth : Nat} {items : List Json} (h : ∀ j ∈ items, Json.Plain depth j)
    (hread : ∀ j ∈ items, Reads (inner false) j) : Reads (exprWith inner false) (.arr items) := by
  intro rest hrest
  have htext : (literal (.arr items)).toList ++ rest =
      '[' :: ([',', ' '].intercalate (items.map fun j => (literal j).toList) ++ ']' :: rest) := by
    simp [toList_literal_arr]
  rw [htext]
  refine exprWith_of_operand inner hrest (operand_of_term inner (by decide) (by decide) ?_ _)
  cases items with
  | nil => rfl
  | cons j js =>
    have hj := h j List.mem_cons_self
    have hskip : skipWhite ([',', ' '].intercalate ((j :: js).map fun j => (literal j).toList) ++ ']' :: rest) = _ :=
      skip_literals true hj js (']' :: rest)
    have hkeyword : afterKeyword? ['f', 'o', 'r']
        ([',', ' '].intercalate ((j :: js).map fun j => (literal j).toList) ++ ']' :: rest) = none := by
      obtain ⟨tail, htail⟩ := exists_intercalate_eq_append [',', ' '] (fun j => (literal j).toList) j js
      rw [htail, List.append_assoc]
      exact afterKeyword?_literal hj _
    have hfuel : js.length <
        ([',', ' '].intercalate ((j :: js).map fun j => (literal j).toList) ++ ']' :: rest).length + 1 := by
      have hcount := count_le_intercalate ',' [' '] (fun j => (literal j).toList) (j :: js)
      simp only [List.length_cons, List.length_append] at hcount ⊢
      omega
    have hitems := items_literals h hread hfuel rest hskip
    show list inner _ = _
    unfold list
    simp only [hskip, hkeyword, hitems, bind, Except.bind]
    rw [exprOf, exprsOf_eq_map]

theorem skip_entries (lines : Bool) (m : String × Json) (ms : List (String × Json)) (rest : List Char) :
    skip lines ([',', ' '].intercalate ((m :: ms).map entryText) ++ rest) =
      [',', ' '].intercalate ((m :: ms).map entryText) ++ rest := by
  obtain ⟨tail, htail⟩ := exists_intercalate_eq_append [',', ' '] entryText m ms
  rw [htail]
  exact skip_of_startsValue rfl lines _

/-- A key, and the value after it. -/
theorem read_entry {depth : Nat} {m : String × Json} (h : Json.Plain depth m.2) (hkey : Reads (inner false) (.str m.1))
    (hread : Reads (inner false) m.2) {rest : List Char} (hrest : Stops rest) :
    ∃ after value, entryText m ++ rest = '"' :: after ∧
      inner false ('"' :: after) = .ok (.text m.1, ' ' :: '=' :: ' ' :: value) ∧
      inner false (skipBlank (' ' :: value)) = .ok (exprOf m.2, rest) := by
  refine ⟨quotedBody m.1.toList ++ '"' :: ' ' :: '=' :: ' ' :: ((literal m.2).toList ++ rest),
    (literal m.2).toList ++ rest, by simp [entryText], ?_, ?_⟩
  · have hread := hkey (' ' :: '=' :: ' ' :: ((literal m.2).toList ++ rest)) (.equals _)
    rw [literal, toList_quoteText, exprOf] at hread
    simpa using hread
  · have hskip : skipBlank (' ' :: ((literal m.2).toList ++ rest)) = (literal m.2).toList ++ rest := by
      obtain ⟨c, tail, hm, hc⟩ := exists_literal_eq_cons h
      rw [hm]
      exact skip_of_startsValue hc false _
    rw [hskip, hread rest hrest]

theorem entries_literals {depth : Nat} {m : String × Json} {ms : List (String × Json)}
    (hplain : ∀ n ∈ m :: ms, Json.Plain depth n.2) (hkeys : ∀ n ∈ m :: ms, Reads (inner false) (.str n.1))
    (hread : ∀ n ∈ m :: ms, Reads (inner false) n.2) {fuel : Nat} (hfuel : ms.length < fuel) (rest : List Char)
    {cs : List Char} (hcs : skipWhite cs = [',', ' '].intercalate ((m :: ms).map entryText) ++ '\x7d' :: rest) :
    entries inner fuel cs = .ok (entriesOf (m :: ms), rest) := by
  obtain ⟨fuel, rfl⟩ : ∃ f, fuel = f + 1 := ⟨fuel - 1, by omega⟩
  have hentry (rest : List Char) (hrest : Stops rest) := read_entry (hplain m List.mem_cons_self)
    (hkeys m List.mem_cons_self) (hread m List.mem_cons_self) hrest
  cases ms with
  | nil =>
    obtain ⟨after, value, htext, hkey, hvalue⟩ := hentry ('\x7d' :: rest) (.brace rest)
    have hequals : skipBlank (' ' :: '=' :: ' ' :: value) = '=' :: ' ' :: value := rfl
    have hend : skipBlank ('\x7d' :: rest) = '\x7d' :: rest := rfl
    rw [List.map_singleton, List.intercalate_singleton, htext] at hcs
    unfold entries
    split
    · rename_i heq
      exact absurd (List.cons.inj (hcs.symm.trans heq)).1 (by decide)
    · simp only [hcs, hkey, hequals, hvalue, hend, bind, Except.bind]
      rfl
  | cons n ns =>
    obtain ⟨others, hothers⟩ : ∃ others,
        [',', ' '].intercalate ((n :: ns).map entryText) ++ '\x7d' :: rest = others := ⟨_, rfl⟩
    obtain ⟨after, value, htext, hkey, hvalue⟩ := hentry (',' :: ' ' :: others) (.comma _)
    have hequals : skipBlank (' ' :: '=' :: ' ' :: value) = '=' :: ' ' :: value := rfl
    have hcomma : skipBlank (',' :: ' ' :: others) = ',' :: ' ' :: others := rfl
    have hrest : entries inner fuel (' ' :: others) = _ := entries_literals
      (fun i hi => hplain i (List.mem_cons_of_mem _ hi)) (fun i hi => hkeys i (List.mem_cons_of_mem _ hi))
      (fun i hi => hread i (List.mem_cons_of_mem _ hi)) (by simpa using hfuel) rest
      ((skip_space true others).trans (hothers ▸ skip_entries true n ns ('\x7d' :: rest)))
    rw [intercalate_map_cons, hothers] at hcs
    simp only [List.cons_append, List.nil_append, htext] at hcs
    unfold entries
    split
    · rename_i heq
      exact absurd (List.cons.inj (hcs.symm.trans heq)).1 (by decide)
    · simp only [hcs, hkey, hequals, hvalue, hcomma, hrest, bind, Except.bind]
      rfl

theorem insertEntry_entriesOf {done : List (String × Json)} {m : String × Json} (h : m.1 ∉ OrderedMap.keys done) :
    Expr.insertEntry (entriesOf done) (.expr (.text m.1)) (exprOf m.2) = entriesOf (done ++ [m]) := by
  induction done with
  | nil => rfl
  | cons d ds ih =>
    obtain ⟨hne, hds⟩ := not_or.mp (mt List.mem_cons.mpr h)
    have hsame : Key.same (.expr (.text d.1)) (.expr (.text m.1)) = false := by
      simp [Key.same, Expr.same, Ne.symm hne]
    rw [entriesOf, Expr.insertEntry, hsame, if_neg Bool.false_ne_true, ih hds, List.cons_append, entriesOf]

/-- Entries with different keys are an object as they stand. -/
theorem ofEntries_entriesOf {members : List (String × Json)} (h : (OrderedMap.keys members).Nodup) :
    Expr.ofEntries (entriesOf members) = exprOf (.obj members) := by
  have hfold (ms done : List (String × Json)) (hnodup : (OrderedMap.keys (done ++ ms)).Nodup) :
      (entriesOf ms).foldl (fun es e => Expr.insertEntry es e.1 e.2) (entriesOf done) = entriesOf (done ++ ms) := by
    induction ms generalizing done with
    | nil => rw [List.append_nil]; rfl
    | cons m ms ih =>
      have hm : m.1 ∉ OrderedMap.keys done := by
        intro hmem
        rw [OrderedMap.keys, List.map_append, List.nodup_append] at hnodup
        exact hnodup.2.2 _ hmem m.1 List.mem_cons_self rfl
      have hsplit : done ++ m :: ms = done ++ [m] ++ ms := by simp
      rw [entriesOf, List.foldl_cons, insertEntry_entriesOf hm, ih _ (hsplit ▸ hnodup), hsplit]
  rw [Expr.ofEntries, exprOf]
  exact congrArg Expr.object (hfold members [] h)

theorem reads_object {depth : Nat} {members : List (String × Json)} (hkeys : (OrderedMap.keys members).Nodup)
    (h : ∀ m ∈ members, Json.Plain depth m.2) (hnames : ∀ m ∈ members, Reads (inner false) (.str m.1))
    (hread : ∀ m ∈ members, Reads (inner false) m.2) : Reads (exprWith inner false) (.obj members) := by
  intro rest hrest
  have htext : (literal (.obj members)).toList ++ rest =
      '\x7b' :: ([',', ' '].intercalate (members.map entryText) ++ '\x7d' :: rest) := by
    simp [toList_literal_obj]
  rw [htext]
  refine exprWith_of_operand inner hrest (operand_of_term inner (by decide) (by decide) ?_ _)
  cases members with
  | nil => rfl
  | cons m ms =>
    have hskip : skipWhite ([',', ' '].intercalate ((m :: ms).map entryText) ++ '\x7d' :: rest) = _ :=
      skip_entries true m ms ('\x7d' :: rest)
    have hkeyword : afterKeyword? ['f', 'o', 'r']
        ([',', ' '].intercalate ((m :: ms).map entryText) ++ '\x7d' :: rest) = none := by
      obtain ⟨tail, htail⟩ := exists_intercalate_eq_append [',', ' '] entryText m ms
      rw [htail]
      rfl
    have hfuel : ms.length < ([',', ' '].intercalate ((m :: ms).map entryText) ++ '\x7d' :: rest).length + 1 := by
      have hcount := count_le_intercalate ',' [' '] entryText (m :: ms)
      simp only [List.length_cons, List.length_append] at hcount ⊢
      omega
    have hentries := entries_literals h hnames hread hfuel rest hskip
    show object inner _ = _
    unfold object
    simp only [hskip, hkeyword, hentries, bind, Except.bind, ofEntries_entriesOf hkeys]

end

/-- A plain value is read back from its literal. No more depth is needed than the literal is long. -/
theorem reads_literal {depth : Nat} {j : Json} (h : Json.Plain depth j) {fuel : Nat}
    (hfuel : (literal j).toList.length < fuel) : Reads (exprAt fuel false) j := by
  obtain ⟨fuel, rfl⟩ : ∃ f, fuel = f + 1 := ⟨fuel - 1, by omega⟩
  induction h generalizing fuel with
  | null => exact reads_null (exprAt fuel)
  | bool b => exact reads_bool (exprAt fuel) b
  | integer h => exact reads_integer (exprAt fuel) h
  | str s => exact reads_text (exprAt fuel) s
  | arr h ih =>
    refine reads_list h fun j hj => ?_
    have hlength := length_le_intercalate [',', ' '] (fun j => (literal j).toList) hj
    rw [toList_literal_arr] at hfuel
    simp only [List.length_cons, List.length_append] at hfuel
    obtain ⟨fuel, rfl⟩ : ∃ f, fuel = f + 1 := ⟨fuel - 1, by omega⟩
    exact ih j hj fuel (by omega)
  | obj hkeys h ih =>
    rename_i depth members
    have hmember {m : String × Json} (hm : m ∈ members) : ∃ f, fuel = f + 1 ∧ (literal m.2).toList.length < f + 1 := by
      have hlength := length_le_intercalate [',', ' '] entryText hm
      have hvalue := length_literal_le m
      rw [toList_literal_obj] at hfuel
      simp only [List.length_cons, List.length_append] at hfuel
      exact ⟨fuel - 1, by omega, by omega⟩
    refine reads_object hkeys h (fun m hm => ?_) fun m hm => ?_
    · obtain ⟨fuel, rfl, -⟩ := hmember hm
      exact reads_text (exprAt fuel) m.1
    · obtain ⟨fuel, rfl, hlt⟩ := hmember hm
      exact ih m hm fuel hlt

/-- A literal on its line. -/
theorem expr_literal {depth : Nat} {j : Json} (h : Json.Plain depth j) (rest : List Char) :
    expr ((literal j).toList ++ '\n' :: rest) = .ok (exprOf j, '\n' :: rest) :=
  reads_literal h (by simp only [List.length_append, List.length_cons]; omega) _ (.line rest)

@[simp] theorem keys_ofJsonMembers (members : List (String × Json)) :
    OrderedMap.keys (Value.ofJsonMembers members) = OrderedMap.keys members := by
  induction members with
  | nil => rfl
  | cons m ms ih => exact congrArg (m.1 :: ·) ih

theorem writtenItems?_exprsOf {items : List Json}
    (h : ∀ j ∈ items, Value.written? (exprOf j) = some (Value.ofJson j)) :
    Value.writtenItems? (exprsOf items) = some (Value.ofJsonItems items) := by
  induction items with
  | nil => rfl
  | cons j js ih =>
    rw [exprsOf, Value.writtenItems?, h j List.mem_cons_self, ih fun k hk => h k (List.mem_cons_of_mem _ hk)]
    rfl

theorem writtenEntries?_entriesOf {members : List (String × Json)}
    (h : ∀ m ∈ members, Value.written? (exprOf m.2) = some (Value.ofJson m.2)) :
    Value.writtenEntries? (entriesOf members) = some (Value.ofJsonMembers members) := by
  induction members with
  | nil => rfl
  | cons m ms ih =>
    have hkey : Value.literalKey? (.expr (.text m.1)) = some m.1 := rfl
    rw [entriesOf, Value.writtenEntries?, hkey, h m List.mem_cons_self, ih fun n hn => h n (List.mem_cons_of_mem _ hn)]
    rfl

/-- A plain JSON value, with its nulls, is what its literal is written as. -/
theorem written?_exprOf {depth : Nat} {j : Json} (h : Json.Plain depth j) :
    Value.written? (exprOf j) = some (Value.ofJson j) := by
  induction h with
  | null => rfl
  | bool b => rfl
  | integer => rfl
  | str s => rfl
  | arr h ih =>
    rw [exprOf, Value.written?, writtenItems?_exprsOf ih]
    rfl
  | obj hkeys h ih =>
    rename_i depth members
    have hnodup : (OrderedMap.keys (Value.ofJsonMembers members)).Nodup := by
      simpa using hkeys
    rw [exprOf, Value.written?, writtenEntries?_entriesOf ih, Option.map_some, OrderedMap.ofEntries_of_nodup hnodup]
    rfl

mutual
@[simp] theorem hasNull_exprOf : ∀ j : Json, (exprOf j).hasNull = j.hasNull
  | .null => by rfl
  | .bool _ => by rfl
  | .number _ => by rfl
  | .str _ => by rfl
  | .arr items => by rw [exprOf, Expr.hasNull, itemsHaveNull_exprsOf items, Json.hasNull]
  | .obj members => by rw [exprOf, Expr.hasNull, entriesHaveNull_entriesOf members, Json.hasNull]
@[simp] theorem itemsHaveNull_exprsOf : ∀ items : List Json, Expr.itemsHaveNull (exprsOf items) = Json.itemsHaveNull items
  | [] => by rfl
  | j :: js => by
    rw [exprsOf, Expr.itemsHaveNull, hasNull_exprOf j, itemsHaveNull_exprsOf js, Json.itemsHaveNull]
@[simp] theorem entriesHaveNull_entriesOf : ∀ members : List (String × Json),
    Expr.entriesHaveNull (entriesOf members) = Json.membersHaveNull members
  | [] => by rfl
  | (_, j) :: ms => by
    rw [entriesOf, Expr.entriesHaveNull, hasNull_exprOf j, entriesHaveNull_entriesOf ms, Json.membersHaveNull]
end

/-- A plain value is the value of its literal, if there is no null in it; else its literal has none. -/
theorem ofLiteral?_exprOf {depth : Nat} {j : Json} (h : Json.Plain depth j) :
    Value.ofLiteral? (exprOf j) = if j.hasNull then none else some (Value.ofJson j) := by
  rw [Value.ofLiteral?_eq, hasNull_exprOf, written?_exprOf h]

/-! ## Attributes -/

/-- A line that sets an attribute to a value. -/
def attributeLine (m : String × Json) : String := m.1 ++ " = " ++ literal m.2 ++ "\n"

def attributesText (members : List (String × Json)) : String := String.join (members.map attributeLine)

theorem toList_attributesText_cons (m : String × Json) (ms : List (String × Json)) :
    (attributesText (m :: ms)).toList = (attributeLine m).toList ++ (attributesText ms).toList := by
  rw [attributesText, List.map_cons, String.join_cons, String.toList_append]
  rfl

theorem toList_attributeLine (m : String × Json) (rest : List Char) : (attributeLine m).toList ++ rest =
    m.1.toList ++ ' ' :: '=' :: ' ' :: ((literal m.2).toList ++ '\n' :: rest) := by
  simp [attributeLine]

theorem length_le_attributesText (members : List (String × Json)) :
    members.length ≤ (attributesText members).toList.length := by
  induction members with
  | nil => exact Nat.zero_le _
  | cons m ms ih =>
    rw [toList_attributesText_cons, toList_attributeLine]
    simp only [List.length_append, List.length_cons]
    omega

section
variable (size : Nat) (inner : List Char → Except (List Char) (Body × List Char))

theorem item_attributeLine {depth : Nat} {m : String × Json} (hname : IsIdent m.1) (h : Json.Plain depth m.2)
    (rest : List Char) :
    ∃ span, item size inner ((attributeLine m).toList ++ rest) =
      .ok (.attribute ⟨m.1, exprOf m.2, span⟩, '\n' :: rest) := by
  have hident : ident (m.1.toList ++ ' ' :: '=' :: ' ' :: ((literal m.2).toList ++ '\n' :: rest)) =
      .ok (m.1, ' ' :: '=' :: ' ' :: ((literal m.2).toList ++ '\n' :: rest)) :=
    ident_append hname (by rintro _ ⟨⟩; rfl)
  have hequals (cs : List Char) : skipBlank (' ' :: '=' :: cs) = '=' :: cs := rfl
  have hmark (cs : List Char) : expect ['='] ('=' :: cs) = .ok cs := rfl
  have hskip : skipBlank (' ' :: ((literal m.2).toList ++ '\n' :: rest)) = (literal m.2).toList ++ '\n' :: rest := by
    obtain ⟨c, tail, hm, hc⟩ := exists_literal_eq_cons h
    rw [hm]
    exact skip_of_startsValue hc false _
  refine ⟨⟨bytesBefore size ((attributeLine m).toList ++ rest), bytesBefore size ('\n' :: rest)⟩, ?_⟩
  rw [toList_attributeLine]
  unfold item attributeValue
  simp only [hident, hequals, hmark, hskip, expr_literal h, bind, Except.bind]

/-- The first of several lines. -/
theorem itemsFrom_attributeLine {depth : Nat} {m : String × Json} (hname : IsIdent m.1) (h : Json.Plain depth m.2)
    {names : List String} (hnew : m.1 ∉ names) (fuel : Nat) (rest : List Char) :
    ∃ span, itemsFrom size inner (fuel + 1) names ((attributeLine m).toList ++ rest) =
      itemsFrom size inner fuel (m.1 :: names) rest >>= fun x =>
        .ok (.attribute ⟨m.1, exprOf m.2, span⟩ :: x.1, x.2) := by
  obtain ⟨span, hitem⟩ := item_attributeLine size inner hname h rest
  have hline : afterLine? ('\n' :: rest) = some rest := rfl
  have hnew : names.contains m.1 = false := by
    rw [List.contains_eq_mem, decide_eq_false_iff_not]
    exact hnew
  obtain ⟨c, cs, hc, hstart, -⟩ := hname
  obtain ⟨tail, hfirst⟩ : ∃ tail, (attributeLine m).toList ++ rest = c :: tail := by
    rw [toList_attributeLine, hc]
    exact ⟨_, rfl⟩
  have hskip : skipWhite ((attributeLine m).toList ++ rest) = (attributeLine m).toList ++ rest := by
    rw [hfirst]
    exact skip_ident hstart true _
  refine ⟨span, ?_⟩
  conv => lhs; unfold itemsFrom
  split
  · rename_i heq
    rw [hskip, hfirst] at heq
    contradiction
  · rename_i heq
    rw [hskip, hfirst] at heq
    exact absurd (List.cons.inj heq).1 (ne_of_isIdentStart hstart rfl)
  · simp only [hskip, hitem, hline, hnew, bind, Except.bind]
    rfl

/-- Lines with different names are read as the attributes that they set. -/
theorem itemsFrom_attributesText {depth : Nat} {members : List (String × Json)} (hnames : ∀ m ∈ members, IsIdent m.1)
    (h : ∀ m ∈ members, Json.Plain depth m.2) {names : List String}
    (hdistinct : (names.reverse ++ OrderedMap.keys members).Nodup) {fuel : Nat} (hfuel : members.length < fuel) :
    ∃ body, itemsFrom size inner fuel names (attributesText members).toList = .ok (body, []) ∧
      body.attributes.map (fun a => (a.name, a.value)) = members.map fun m => (m.1, exprOf m.2) := by
  obtain ⟨fuel, rfl⟩ : ∃ f, fuel = f + 1 := ⟨fuel - 1, by omega⟩
  induction members generalizing names fuel with
  | nil => exact ⟨[], rfl, rfl⟩
  | cons m ms ih =>
    obtain ⟨fuel, rfl⟩ : ∃ f, fuel = f + 1 := ⟨fuel - 1, by simp at hfuel; omega⟩
    have hkeys : names.reverse ++ OrderedMap.keys (m :: ms) = (m.1 :: names).reverse ++ OrderedMap.keys ms := by
      simp [OrderedMap.keys]
    have hnew : m.1 ∉ names := fun hmem =>
      (List.nodup_append.mp hdistinct).2.2 m.1 (List.mem_reverse.mpr hmem) m.1 List.mem_cons_self rfl
    obtain ⟨body, hbody, hattributes⟩ := ih (fun n hn => hnames n (List.mem_cons_of_mem _ hn))
      (fun n hn => h n (List.mem_cons_of_mem _ hn)) (hkeys ▸ hdistinct) fuel (by simpa using hfuel)
    obtain ⟨span, hfirst⟩ := itemsFrom_attributeLine size inner (hnames m List.mem_cons_self) (h m List.mem_cons_self) hnew
      (fuel + 1) (attributesText ms).toList
    refine ⟨.attribute ⟨m.1, exprOf m.2, span⟩ :: body, ?_, ?_⟩
    · rw [toList_attributesText_cons, hfirst, hbody]
      rfl
    · exact congrArg ((m.1, exprOf m.2) :: ·) hattributes

end

/-- Values written as a file of attributes are read back as its attributes. -/
theorem read_attributesText {depth : Nat} {members : List (String × Json)} (hdistinct : (OrderedMap.keys members).Nodup)
    (hnames : ∀ m ∈ members, IsIdent m.1) (h : ∀ m ∈ members, Json.Plain depth m.2) :
    ∃ body, Body.read (attributesText members).toList = .ok body ∧
      body.attributes.map (fun a => (a.name, a.value)) = members.map fun m => (m.1, exprOf m.2) := by
  have hfuel : members.length < (attributesText members).toList.length + 1 :=
    Nat.lt_succ_of_le (length_le_attributesText members)
  have hempty : (([] : List String).reverse ++ OrderedMap.keys members).Nodup := hdistinct
  obtain ⟨body, hbody, hattributes⟩ := itemsFrom_attributesText (Text.byteSize (attributesText members).toList)
    (bodyAt (Text.byteSize (attributesText members).toList) (attributesText members).toList.length) hnames h
    hempty hfuel
  refine ⟨body, ?_, hattributes⟩
  unfold Body.read bodyAt
  rw [hbody]

end TagAudit.Hcl
