/-
  TagAudit.Overrides — values supplied for variables from outside.

  Values come from the environment, from files of values, from a snapshot of a plan and from
  assignments `name=value`. A later value of a name replaces an earlier one in its place; a
  source that fails changes nothing.
-/

import TagAudit.FileTree.Workspace
import TagAudit.Hcl.Document
import TagAudit.Json.Reader
import TagAudit.Literal

namespace TagAudit

open FileTree Hcl

abbrev Overrides := OrderedMap Value

inductive OverrideError where
  | read (path : String) (fault : ReadFault)
  | hcl (path : String) (complaint : String)
  | json (path : String)
  | assignment (text : String)
  deriving DecidableEq, Repr, Inhabited

def OverrideError.message : OverrideError → String
  | .read path _ => "unable to read " ++ path
  | .hcl path _ => "unable to parse " ++ path
  | .json path => "unable to parse " ++ path
  | .assignment text => "expected `name=value`, got `" ++ text ++ "`"

def OverrideError.cause? : OverrideError → Option String
  | .read _ fault => some fault.message
  | .hcl _ complaint => some complaint
  | .json _ => some "not a JSON text of the expected shape"
  | .assignment _ => none

namespace Overrides

/-! ## Assignments and the environment -/

/-- The value that a text is given as: a list or object if it is one, or else a text. -/
def valueOf (raw : String) : Value :=
  let trimmed := Text.trimmed raw
  match trimmed.toList with
  | '[' :: _ => ((Expr.read? trimmed).bind Value.ofLiteral?).getD (.text raw)
  | '\x7b' :: _ => ((Expr.read? trimmed).bind Value.ofLiteral?).getD (.text raw)
  | _ => .text raw

def parseAssignment (text : String) : Except OverrideError (String × Value) :=
  match Text.splitAtMark? ['='] text.toList with
  | none => .error (.assignment text)
  | some (name, value) =>
    let name := Text.trim name
    if name.isEmpty then .error (.assignment text)
    else .ok (String.ofList name, valueOf (String.ofList value))

def assign (o : Overrides) (text : String) : Except OverrideError Overrides := do
  let (name, value) ← parseAssignment text
  .ok (o.insert name value)

/-- What the names of environment variables that hold values start with. -/
def environmentMark : List Char := "TF_VAR_".toList

def ofEnvironment? (key value : String) : Option (String × Value) :=
  match Text.afterMark? environmentMark key.toList with
  | none => none
  | some [] => none
  | some name => some (String.ofList name, valueOf value)

def addEnvironment (o : Overrides) (vars : List (String × String)) : Overrides :=
  o.insertAll (vars.filterMap fun (k, v) => ofEnvironment? k v)

/-! ## Files of values -/

/-- The values in a file of attributes; those that are no literals are passed over. -/
def ofBody (body : Body) : List (String × Value) :=
  body.attributes.filterMap fun a => (Value.ofLiteral? a.value).map (a.name, ·)

def ofJsonText? (text : String) : Option (List (String × Value)) :=
  match Json.read? text with
  | some (.obj members) => some (members.map fun (k, j) => (k, Value.ofJson j.sorted))
  | _ => none

/-- The values in the text of a file, in the notation that its name tells. -/
def ofFileText (path text : String) : Except OverrideError (List (String × Value)) :=
  if extension? path = some "json" then
    match ofJsonText? text with
    | some values => .ok values
    | none => .error (.json path)
  else
    match Body.read text.toList with
    | .ok body => .ok (ofBody body)
    | .error rest => .error (.hcl path (complaint text.toList rest))

def readFile (w : Workspace) (path : String) : Except OverrideError String :=
  match w.read path with
  | .ok text => .ok text
  | .error fault => .error (.read path fault)

def addFile (o : Overrides) (w : Workspace) (path : String) : Except OverrideError Overrides := do
  .ok (o.insertAll (← ofFileText path (← readFile w path)))

def isAutomatic (name : String) : Bool :=
  let backwards := name.toList.reverse
  Text.startsWith backwards ".auto.tfvars".toList.reverse || Text.startsWith backwards ".auto.tfvars.json".toList.reverse

/-- The files of values that a directory holds, in the order in which they are read. -/
def defaultFiles (w : Workspace) (dir : String) : Except OverrideError (List String) :=
  let named := (["terraform.tfvars", "terraform.tfvars.json"].map (join dir)).filter w.isFile
  match w.list? dir with
  | none => .error (.read dir (if (w.find? dir).isSome then .notDirectory else .missing))
  | some entries =>
    let automatic := (entries.map (·.1)).filter isAutomatic
    .ok (named ++ (automatic.mergeSort fun a b => decide (a ≤ b)).map (join dir))

/-- Adds files one after the other; with an error come the values of the files before it. -/
def addFiles (o : Overrides) (w : Workspace) : List String → Overrides × Option OverrideError
  | [] => (o, none)
  | path :: paths =>
    match o.addFile w path with
    | .ok o => addFiles o w paths
    | .error e => (o, some e)

def addDefaultFiles (o : Overrides) (w : Workspace) (dir : String) : Overrides × Option OverrideError :=
  match defaultFiles w dir with
  | .ok paths => o.addFiles w paths
  | .error e => (o, some e)

/-! ## Plan snapshots -/

/-- The fields of a record in JSON: an object in which each field stands at most once, or an
    array with the fields in order. -/
def recordFields? (fields : List String) : Json.Source → Option (List (String × Json.Source))
  | .obj members => do
    let members ← members.mapM fun (k, j) => k.map (·, j)
    let known := members.filter fun m => fields.contains m.1
    if fields.any fun f => 1 < known.countP (·.1 == f) then none else some known
  | .arr items => if fields.length < items.length then none else some (fields.zip items)
  | _ => none

/-- The value of a variable in a plan, null if it has none. -/
def planValue? (j : Json.Source) : Option Json := do
  match (← recordFields? ["value"] j).lookup "value" with
  | some j => (← j.value? (Json.Source.depthLimit - 3)).sorted
  | none => some .null

def ofPlan? (j : Json.Source) : Option (OrderedMap Json) := do
  match (← recordFields? ["variables"] j).lookup "variables" with
  | some (.obj members) =>
    let values ← members.mapM fun (k, j) => do some ((← k), (← planValue? j))
    some (OrderedMap.ofEntries values)
  | some _ => none
  | none => some []

def ofPlanText? (text : String) : Option (List (String × Value)) := do
  let found ← ofPlan? (← Json.Source.read? text)
  some (found.filterMap fun (name, j) =>
    match j with
    | .null => none
    | j => some (name, Value.ofJson j))

def addPlan (o : Overrides) (w : Workspace) (path : String) : Except OverrideError Overrides := do
  match ofPlanText? (← readFile w path) with
  | some values => .ok (o.insertAll values)
  | none => .error (.json path)

end Overrides
end TagAudit
