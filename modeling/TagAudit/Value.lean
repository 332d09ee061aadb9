/-
  TagAudit.Value — values of tags, variables and locals.

  A value that could not be worked out is `unresolved` and keeps the text that stands for it.
  There is no null: inside a list or map it is unresolved text, and anywhere else no value.
-/

import TagAudit.Json.Printer
import TagAudit.Text.Quoted

namespace TagAudit

inductive Value where
  | text (s : String)
  | number (n : Number)
  | bool (b : Bool)
  | list (items : List Value)
  | map (entries : List (String × Value))
  | unresolved (raw : String)
  deriving Inhabited

namespace Value

/-! ## Equality -/

mutual
def same : Value → Value → Bool
  | .text a, .text b => a == b
  | .number a, .number b => a == b
  | .bool a, .bool b => a == b
  | .list as, .list bs => sameAll as bs
  | .map as, .map bs => sameEntries as bs
  | .unresolved a, .unresolved b => a == b
  | _, _ => false
def sameAll : List Value → List Value → Bool
  | [], [] => true
  | a :: as, b :: bs => a.same b && sameAll as bs
  | _, _ => false
def sameEntries : List (String × Value) → List (String × Value) → Bool
  | [], [] => true
  | (k, a) :: as, (l, b) :: bs => k == l && a.same b && sameEntries as bs
  | _, _ => false
end

mutual
theorem same_iff : ∀ {v w : Value}, v.same w = true ↔ v = w
  | .text _, w => by cases w <;> simp [same]
  | .number _, w => by cases w <;> simp [same]
  | .bool _, w => by cases w <;> simp [same]
  | .unresolved _, w => by cases w <;> simp [same]
  | .list _, w => by cases w <;> simp [same, sameAll_iff]
  | .map _, w => by cases w <;> simp [same, sameEntries_iff]
theorem sameAll_iff : ∀ {vs ws : List Value}, sameAll vs ws = true ↔ vs = ws
  | [], ws => by cases ws <;> simp [sameAll]
  | _ :: _, ws => by cases ws <;> simp [sameAll, same_iff, sameAll_iff]
theorem sameEntries_iff : ∀ {es fs : List (String × Value)}, sameEntries es fs = true ↔ es = fs
  | [], fs => by cases fs <;> simp [sameEntries]
  | (_, _) :: _, [] => by simp [sameEntries]
  | (_, _) :: _, (_, _) :: _ => by
    simp only [sameEntries, Bool.and_eq_true, beq_iff_eq, same_iff, sameEntries_iff, List.cons.injEq, Prod.mk.injEq]
end

instance : DecidableEq Value := fun _ _ => decidable_of_iff _ same_iff

/-! ## Views -/

/-- The text of a single text, number or truth value. -/
def scalar? : Value → Option String
  | .text s => some s
  | .number n => some n.text
  | .bool b => some (if b then "true" else "false")
  | _ => none

mutual
def isResolved : Value → Bool
  | .unresolved _ => false
  | .list items => allResolved items
  | .map entries => entriesResolved entries
  | _ => true
def allResolved : List Value → Bool
  | [] => true
  | v :: vs => v.isResolved && allResolved vs
def entriesResolved : List (String × Value) → Bool
  | [] => true
  | (_, v) :: es => v.isResolved && entriesResolved es
end

mutual
/-- The value as shown to people: texts in quotes, unresolved text as it is. -/
def display : Value → String
  | .text s => Text.quoted s
  | .number n => n.text
  | .bool b => if b then "true" else "false"
  | .unresolved raw => raw
  | .list items => "[" ++ String.intercalate ", " (displayItems items) ++ "]"
  | .map [] => "\x7b\x7d"
  | .map entries => "\x7b " ++ String.intercalate ", " (displayEntries entries) ++ " \x7d"
def displayItems : List Value → List String
  | [] => []
  | v :: vs => v.display :: displayItems vs
def displayEntries : List (String × Value) → List String
  | [] => []
  | (k, v) :: es => (k ++ " = " ++ v.display) :: displayEntries es
end

mutual
/-- The value in JSON; unresolved text becomes a string. -/
def json : Value → Json
  | .text s => .str s
  | .number n => .number n
  | .bool b => .bool b
  | .unresolved raw => .str raw
  | .list items => .arr (jsonItems items)
  | .map entries => .obj (jsonEntries entries)
def jsonItems : List Value → List Json
  | [] => []
  | v :: vs => v.json :: jsonItems vs
def jsonEntries : List (String × Value) → List (String × Json)
  | [] => []
  | (k, v) :: es => (k, v.json) :: jsonEntries es
end

def nullText : String := "null"

mutual
/-- The value of a JSON value; whole numbers are integers. -/
def ofJson : Json → Value
  | .null => .unresolved nullText
  | .bool b => .bool b
  | .number n => .number n.normalized
  | .str s => .text s
  | .arr items => .list (ofJsonItems items)
  | .obj members => .map (ofJsonMembers members)
def ofJsonItems : List Json → List Value
  | [] => []
  | j :: js => ofJson j :: ofJsonItems js
def ofJsonMembers : List (String × Json) → List (String × Value)
  | [] => []
  | (k, j) :: ms => (k, ofJson j) :: ofJsonMembers ms
end

end Value
end TagAudit
