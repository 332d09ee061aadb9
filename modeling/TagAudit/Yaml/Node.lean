/-
  TagAudit.Yaml.Node — YAML documents.

  A document is a tree of nodes. An alias in it refers to an anchored node by number: the
  number of an anchor is how many names of anchors were known when it was met, so an anchor
  whose name is used again may share its number with the next new one. Of several nodes with
  one number the last one that starts counts.
-/

import TagAudit.Yaml.Scalar

namespace TagAudit.Yaml

inductive Node where
  | scalar (tag : Option String) (s : Scalar)
  | sequence (items : List Node)
  | mapping (entries : List (Node × Node))
  | alias (number : Nat)

instance : Inhabited Node := ⟨.sequence []⟩

def Node.missing (tag : Option String) : Node := .scalar tag ⟨.plain, ""⟩

structure Document where
  root : Node
  /-- The anchored nodes with their numbers, in the order in which they start. -/
  anchored : List (Nat × Node)

/-- The node that a node stands for. -/
def Document.target (d : Document) : Node → Node
  | .alias n => ((d.anchored.reverse.lookup n)).getD default
  | node => node

end TagAudit.Yaml
