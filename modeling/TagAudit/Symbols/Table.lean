/-
  TagAudit.Symbols.Table — variables and locals, and the values supplied for variables.

  A table is lenient or strict: a strict one resolves `merge` only if all of its operands are
  resolved.
-/

import TagAudit.Hcl.Expr
import TagAudit.OrderedMap
import TagAudit.Symbols.Reason

namespace TagAudit.Symbols

/-- The value of an expression, or the reason why it has none. -/
abbrev Outcome := Except Reason Value

instance Outcome.decidableEq : DecidableEq Outcome
  | .ok v, .ok w => decidable_of_iff (v = w) ⟨congrArg Except.ok, Except.ok.inj⟩
  | .error r, .error r' => decidable_of_iff (r = r') ⟨congrArg Except.error, Except.error.inj⟩
  | .ok _, .error _ => isFalse nofun
  | .error _, .ok _ => isFalse nofun

structure Variable where
  name : String
  declaredType : Option String
  description : Option String
  default : Option Value
  sensitive : Bool
  nullable : Bool
  file : String
  line : Nat

/-- A declared local: its expression, the symbols that it refers to, and its outcome once it
    was evaluated. -/
structure Local where
  name : String
  expression : Hcl.Expr
  dependencies : List String
  file : String
  line : Nat
  outcome : Option Outcome

/-- The value of a local, if it was evaluated and has one. -/
def Local.value? (l : Local) : Option Value :=
  match l.outcome with
  | some (.ok v) => some v
  | _ => none

/-- The reason why a local has no value, if it was evaluated. -/
def Local.reason? (l : Local) : Option Reason :=
  match l.outcome with
  | some (.error r) => some r
  | _ => none

structure Table where
  vars : OrderedMap Variable
  locals : OrderedMap Local
  overrides : OrderedMap Value
  strict : Bool

/-- The value of a variable: what was supplied for it, or else its default. -/
def Table.variableValue (t : Table) (name : String) : Outcome :=
  match t.overrides.get? name with
  | some v => .ok v
  | none =>
    match t.vars.get? name with
    | none => .error (.undefinedVariable name)
    | some var =>
      match var.default with
      | some v => .ok v
      | none => .error (.valuelessVariable name)

end TagAudit.Symbols
