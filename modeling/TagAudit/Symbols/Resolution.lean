/-
  TagAudit.Symbols.Resolution — resolving expressions, and reporting what is known of every
  symbol.

  Resolving never fails: what cannot be resolved keeps its text as unresolved value, with the
  reason.
-/

import TagAudit.Literal
import TagAudit.Hcl.Grammar
import TagAudit.Symbols.Evaluation
import TagAudit.Text.Blank

namespace TagAudit.Symbols

open Hcl

inductive Origin where
  | variable
  | local
  | interpolation
  | merge
  | literal
  | unknown
  deriving DecidableEq, Repr, Inhabited

def Origin.name : Origin → String
  | .variable => "variable"
  | .local => "local"
  | .interpolation => "interpolation"
  | .merge => "merge"
  | .literal => "literal"
  | .unknown => "unknown"

def Origin.of : Expr → Origin
  | .access root path =>
    match Reference.ofAccess? root path with
    | some r =>
      match r.scope with
      | .variable => .variable
      | .local => .local
    | none => .unknown
  | .template form raw parts =>
    if (Value.ofLiteral? (.template form raw parts)).isSome then .literal else .interpolation
  | .call "merge" _ _ => .merge
  | .paren e => Origin.of e
  | .text _ => .literal
  | .number _ => .literal
  | .bool _ => .literal
  | .list _ => .literal
  | .object _ => .literal
  | _ => .unknown

inductive Doubt where
  | unparseable
  | nestedUnresolved
  | because (reason : Reason)

def Doubt.message : Doubt → String
  | .unparseable => "Expression could not be parsed"
  | .nestedUnresolved => "Some nested values could not be resolved"
  | .because reason => reason.message

/-- The result of resolving an expression, with the text in which it is written. -/
structure Resolution where
  written : String
  value : Value
  origin : Origin
  doubt : Option Doubt

namespace Resolution

def resolved (r : Resolution) : Bool := r.doubt.isNone

def failed (written : String) (origin : Origin) (doubt : Doubt) : Resolution :=
  ⟨written, .unresolved written, origin, some doubt⟩

def ofOutcome (written : String) (origin : Origin) : Outcome → Resolution
  | .ok v => ⟨written, v, origin, if v.isResolved then none else some .nestedUnresolved⟩
  | .error reason => failed written origin (.because reason)

end Resolution

namespace Table

/-- Resolves an expression that is written in this text. -/
def resolveAs (t : Table) (written : String) (e : Expr) : Resolution :=
  .ofOutcome written (Origin.of e) (t.outcome e)

def resolve (t : Table) (e : Expr) : Resolution := t.resolveAs e.rawText e

/-- The expression in a text; an interpolation may stand without the quotes around it. -/
def parseReference? (written : String) : Option Expr :=
  if Text.startsWith written.toList ['$', '\x7b'] then Expr.read? ("\"" ++ written ++ "\"")
  else Expr.read? written

/-- Resolves the expression in a text. -/
def resolveText (t : Table) (text : String) : Resolution :=
  let written := Text.trimmed text
  match parseReference? written with
  | some e => t.resolveAs written e
  | none => .failed written .unknown .unparseable

end Table

/-! ## Reporting every symbol -/

/-- What is known of a variable or local. -/
structure Entry where
  name : String
  file : String
  line : Nat
  outcome : Option Outcome

namespace Entry

def value? (e : Entry) : Option Value :=
  match e.outcome with
  | some (.ok v) => some v
  | _ => none

def resolved (e : Entry) : Bool := (e.value?.map Value.isResolved).getD false

def reason? (e : Entry) : Option Reason :=
  match e.outcome with
  | some (.error r) => some r
  | _ => none

end Entry

def Table.variableEntries (t : Table) : List Entry :=
  t.vars.values.map fun v => ⟨v.name, v.file, v.line, some (t.variableValue v.name)⟩

def Table.localEntries (t : Table) : List Entry :=
  t.locals.values.map fun l => ⟨l.name, l.file, l.line, l.outcome⟩

end TagAudit.Symbols
