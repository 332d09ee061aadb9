/-
  TagAudit.Proofs.Hcl.Nulls — literals with null in them.

  A null inside a list or object is to be kept as unresolved text; `Value.written?` is the value that
  a literal is written as. `ofLiteral?_eq` says what becomes of it: one null, at whatever depth, leaves
  the whole literal without value, and any other literal has the value that it is written as.
-/

import TagAudit.Literal

namespace TagAudit

open Hcl

/-! ## Literals as they are written -/

namespace Value

mutual
/-- The value that a literal is written as, null as unresolved text. -/
def written? : Expr → Option Value
  | .null => some (.unresolved nullText)
  | .bool b => some (.bool b)
  | .number n => some (.number n)
  | .text s => some (.text s)
  | .list items => (writtenItems? items).map .list
  | .object entries => (writtenEntries? entries).map fun es => .map (OrderedMap.ofEntries es)
  | .template _ _ (some parts) => (literalText? parts).map .text
  | .paren e => written? e
  | _ => none
def writtenItems? : List Expr → Option (List Value)
  | [] => some []
  | e :: es => do some ((← written? e) :: (← writtenItems? es))
def writtenEntries? : List (Key × Expr) → Option (List (String × Value))
  | [] => some []
  | (k, e) :: es => do some ((← literalKey? k, ← written? e) :: (← writtenEntries? es))
end

end Value

namespace Hcl.Expr

def isNull : Expr → Bool
  | .null => true
  | .paren e => isNull e
  | _ => false

mutual
/-- Whether a literal is null or has null as an item or the value of an entry, at any depth. -/
def hasNull : Expr → Bool
  | .null => true
  | .list items => itemsHaveNull items
  | .object entries => entriesHaveNull entries
  | .paren e => hasNull e
  | _ => false
def itemsHaveNull : List Expr → Bool
  | [] => false
  | e :: es => hasNull e || itemsHaveNull es
def entriesHaveNull : List (Key × Expr) → Bool
  | [] => false
  | (_, e) :: es => hasNull e || entriesHaveNull es
end

end Hcl.Expr

namespace Value

-- The induction is on the expression, one case for each of its forms.
mutual
/-- A literal is read to the value that it is written as, but to none if there is a null in it. -/
theorem ofLiteral?_eq : ∀ e : Expr, ofLiteral? e = if e.hasNull then none else written? e
  | .null => by rfl
  | .bool _ => by rfl
  | .number _ => by rfl
  | .text _ => by rfl
  | .list items => by
    rw [ofLiteral?, ofLiterals?_eq items, Expr.hasNull, written?]
    cases Expr.itemsHaveNull items <;> rfl
  | .object entries => by
    rw [ofLiteral?, ofLiteralEntries?_eq entries, Expr.hasNull, written?]
    cases Expr.entriesHaveNull entries with
    | true => rfl
    | false => exact Option.map_map _ _ _
  | .template _ _ none => by rfl
  | .template _ _ (some _) => by rfl
  | .paren e => by rw [ofLiteral?, ofLiteral?_eq e, Expr.hasNull, written?]
  | .variable _ => by rfl
  | .access .. => by rfl
  | .call .. => by rfl
  | .conditional .. => by rfl
  | .unary .. => by rfl
  | .binary .. => by rfl
  | .listFor .. => by rfl
  | .objectFor .. => by rfl
theorem ofLiterals?_eq (es : List Expr) : ofLiterals? es = if Expr.itemsHaveNull es then none else writtenItems? es := by
  cases es with
  | nil => rfl
  | cons e es =>
    rw [ofLiterals?, ofLiteral?_eq e, ofLiterals?_eq es, Expr.itemsHaveNull, writtenItems?]
    cases e.hasNull <;> cases Expr.itemsHaveNull es <;> cases written? e <;> rfl
theorem ofLiteralEntries?_eq (es : List (Key × Expr)) (done : OrderedMap Value) : ofLiteralEntries? es done =
    if Expr.entriesHaveNull es then none else (writtenEntries? es).map (OrderedMap.insertAll done) := by
  cases es with
  | nil => rfl
  | cons entry es =>
    obtain ⟨k, e⟩ := entry
    have hrest (key : String) (v : Value) := ofLiteralEntries?_eq es (OrderedMap.insert done key v)
    rw [ofLiteralEntries?, ofLiteral?_eq e, Expr.entriesHaveNull, writtenEntries?]
    cases literalKey? k with
    | none => cases e.hasNull <;> cases Expr.entriesHaveNull es <;> rfl
    | some key =>
      cases e.hasNull with
      | true => rfl
      | false =>
        cases written? e with
        | none => cases Expr.entriesHaveNull es <;> rfl
        | some v =>
          refine (hrest key v).trans ?_
          cases Expr.entriesHaveNull es with
          | true => rfl
          | false => cases writtenEntries? es <;> rfl
end

end Value

end TagAudit
