/-
  TagAudit.Standard.Document — standards kept as YAML documents.
-/

import TagAudit.FileTree.Workspace
import TagAudit.Standard.Check
import TagAudit.Yaml.Format

namespace TagAudit.Standard

open FileTree (Workspace)

/-- The standard that a YAML text holds, whether it makes sense or not. -/
def ofYaml? (text : String) : Option Standard := do
  let d ← Yaml.Document.ofText? text.toList
  d.format.standard? d.root

/-- The standard that a YAML text holds, which has to make sense. -/
def ofYaml (text : String) : Except StandardError Standard :=
  match ofYaml? text with
  | none => .error .notStandard
  | some s => s.check.map fun _ => s

def ofFile (w : Workspace) (path : String) : Except StandardError Standard :=
  match w.read path with
  | .error _ => .error .io
  | .ok text => ofYaml text

end TagAudit.Standard
