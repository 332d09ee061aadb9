/-
  TagAudit.Reference — references to variables and locals.

  `var.name` and `local.name` refer to a symbol; steps after the name lead into its value.
-/

import TagAudit.Hcl.Expr
import TagAudit.Text.Quoted

namespace TagAudit

open Hcl

inductive Namespace where
  | variable
  | local
  deriving DecidableEq, Repr, Inhabited

def Namespace.word : Namespace → String
  | .variable => "var"
  | .local => "local"

def Namespace.ofWord? : String → Option Namespace
  | "var" => some .variable
  | "local" => some .local
  | _ => none

/-- A reference to the symbol `name`, and the steps into its value. -/
structure Reference where
  scope : Namespace
  name : String
  path : List Access

namespace Reference

def ofAccess? (root : Expr) (path : List Access) : Option Reference := do
  let .variable word := root | none
  let scope ← Namespace.ofWord? word
  let .attribute name :: path := path | none
  some ⟨scope, name, path⟩

/-- The symbol alone, as in `var.name`. -/
def symbol (r : Reference) : String := r.scope.word ++ "." ++ r.name

/-- A step as shown to people; only texts and numbers are shown in brackets. -/
def stepText : Access → String
  | .attribute name => "." ++ name
  | .position n => "." ++ Number.integerText n
  | .index (.text s) => "[" ++ Text.quoted s ++ "]"
  | .index (.number n) => "[" ++ n.text ++ "]"
  | .index _ => "[...]"
  | .attributeSplat => ".*"
  | .splat => "[*]"

def display (r : Reference) : String := r.symbol ++ String.join (r.path.map stepText)

end Reference
end TagAudit
