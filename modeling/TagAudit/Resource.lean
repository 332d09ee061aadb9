/-
  TagAudit.Resource — the resources that a file declares.

  A resource is a block `resource "type" "name"`. One that is declared twice in a file keeps
  its first place, with all else from the last declaration.
-/

import TagAudit.Hcl.Document
import TagAudit.OrderedMap
import TagAudit.Snippet

namespace TagAudit

open Hcl

structure SourceFile where
  path : String
  contents : String
  deriving DecidableEq, Repr, Inhabited

structure Resource where
  type : String
  name : String
  file : String
  line : Nat
  snippet : String
  body : Body

namespace Resource

/-- The name of a resource among all of its file. -/
def addressOf (type name : String) : String := type ++ "." ++ name

def address (r : Resource) : String := addressOf r.type r.name

def ofBlock? (file : SourceFile) (b : Block) : Option Resource :=
  match b.kind, b.labels with
  | "resource", type :: name :: _ =>
    let source := file.contents.toList
    let line := Snippet.tokenLine source b.span.start
    let lastLine := Snippet.lineOf source (b.span.stop - 1)
    some ⟨type, name, file.path, line, String.ofList (Snippet.extract source line lastLine), b.body⟩
  | _, _ => none

/-- The resources of a parsed file in order of first declaration. -/
def ofBody (file : SourceFile) (body : Body) : List Resource :=
  (OrderedMap.ofEntries ((body.blocks.filterMap (ofBlock? file)).map fun r => (r.address, r))).values

def locate? (file : SourceFile) : Option (List Resource) := (Body.read? file.contents).map (ofBody file)

end Resource
end TagAudit
