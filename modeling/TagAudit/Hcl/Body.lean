/-
  TagAudit.Hcl.Body — the contents of a file: attributes and blocks.

  Every item keeps its place in the text, as a range of bytes from its first character up to
  the one after its last.
-/

import TagAudit.Hcl.Expr

namespace TagAudit.Hcl

structure Span where
  start : Nat
  stop : Nat
  deriving DecidableEq, Repr, Inhabited

structure Attribute where
  name : String
  value : Expr
  span : Span

inductive Item where
  | attribute (a : Attribute)
  | block (kind : String) (labels : List String) (body : List Item) (span : Span)

abbrev Body := List Item

structure Block where
  kind : String
  labels : List String
  body : Body
  span : Span

namespace Body

def attributes (b : Body) : List Attribute :=
  b.filterMap fun
    | .attribute a => some a
    | .block .. => none

def blocks (b : Body) : List Block :=
  b.filterMap fun
    | .attribute _ => none
    | .block kind labels body span => some ⟨kind, labels, body, span⟩

def attribute? (b : Body) (name : String) : Option Expr :=
  (b.attributes.find? (·.name == name)).map (·.value)

end Body
end TagAudit.Hcl
