/-
  TagAudit.CommandLine.Run — running a command in a workspace.

  The status is 0 for success, 1 for a failure or an answer in the negative, and 2 for wrong
  arguments.
-/

import TagAudit.CommandLine.Command
import TagAudit.Overrides
import TagAudit.Scan.Run
import TagAudit.Standard.Document
import TagAudit.Yaml.Printer

namespace TagAudit.CommandLine

open FileTree (Workspace)
open Symbols

structure RunResult where
  status : Nat
  output : String
  /-- The lines of the error output. -/
  errors : List String
  deriving Inhabited

def fail (errors : List String) : RunResult := ⟨1, "", errors⟩

/-- A step of a run: it fails with messages, or goes on. -/
abbrev Step := Except (List String)

/-- The workspace with another current directory. -/
def changeDirectory (w : Workspace) (path : String) : Step Workspace :=
  match w.place? path with
  | none =>
    .error ["Failed to resolve path for -C/--directory " ++ path, FileTree.ReadFault.message .missing]
  | some place =>
    match w.root.at? place with
    | some (.directory _) => .ok { w with current := place }
    | _ =>
      .error ["Failed to set work directory to /" ++ String.intercalate "/" place,
        FileTree.ReadFault.message .notDirectory]

/-- The values for variables; the later of these sources win: the environment, the default
    files, the files, the plan, the assignments. -/
def suppliedValues (w : Workspace) (env : List (String × String)) (root : String) (v : ValueOptions) : Step Overrides :=
  let messages (e : OverrideError) : List String := e.message :: e.cause?.toList
  let settle (r : Overrides × Option OverrideError) : Except OverrideError Overrides :=
    match r with
    | (o, none) => .ok o
    | (_, some e) => .error e
  (do
    let o := Overrides.addEnvironment [] env
    let o ← if v.noDefaultFiles then .ok o else settle (o.addDefaultFiles w root)
    let o ← v.files.foldlM (fun o path => o.addFile w path) o
    let o ← v.plan.toList.foldlM (fun o path => o.addPlan w path) o
    v.assignments.foldlM Overrides.assign o : Except OverrideError Overrides).mapError messages

def formatted (format : OutputFormat) (j : Json) : String :=
  match format with
  | .json => j.pretty
  | _ => j.yaml

/-! ## Commands -/

def resourceText (r : ScannedResource) : String :=
  "# " ++ r.resource.type ++ "." ++ r.resource.name ++ " (" ++ r.resource.file ++ ":" ++
    Number.integerText r.resource.line ++ ")\n" ++ r.annotated ++ "\n\n"

def scanOutput (c : ScanCommand) (o : ScanOutcome) : String :=
  let report := o.report c.standard
  match c.format with
  | .text => String.join (o.resources.map resourceText) ++ if c.standard.isSome then report.text else ""
  | format => formatted format (.obj (o.members ++ if c.standard.isSome then [("report", report.json)] else []))

/-- Scans; not compliant resources are a failure in a strict scan. -/
def runScan (w : Workspace) (env : List (String × String)) (c : ScanCommand) : Step RunResult := do
  let standard ← c.standard.mapM fun path => (Standard.ofFile w path).mapError fun e => [e.message]
  let options : ScanOptions :=
    { root := c.source.root, dialect := c.source.dialect, includes := c.includes, excludes := c.excludes
      strict := c.strict, ignoreOptional := c.ignoreOptional
      overrides := ← suppliedValues w env c.source.root c.values
      provider := c.provider, skipTagged := c.skipTagged }
  let stop : StopAfter := if c.timeout = some 0 then some 0 else none
  let outcome ← (scan w options standard Catalog.byName stop).mapError ScanError.messages
  if outcome.cancelled then .error ["Scan did not finish in time"]
  else
    let compliant := c.standard.isNone || (outcome.report c.standard).isFullyCompliant
    .ok ⟨if compliant || !c.strict then 0 else 1, scanOutput c outcome, []⟩

def runCheckStandard (w : Workspace) (path : String) : Step RunResult := do
  let s ← (Standard.ofFile w path).mapError fun e => [e.message]
  let count (n : Nat) : String := Number.integerText n
  .ok ⟨0, path ++ ": valid (" ++ count s.requiredTags.length ++ " required, " ++ count s.optionalTags.length ++
    " optional tags, " ++ count s.resourceRules.length ++ " resource rules)\n", []⟩

/-- The symbols of a configuration, and a line for each file that was passed over. -/
def loadTable (w : Workspace) (env : List (String × String)) (source : SourceOptions) (v : ValueOptions) :
    Step (Table × List String) := do
  let options : ScanOptions :=
    { root := source.root, dialect := source.dialect, includes := none, excludes := none, strict := false
      ignoreOptional := false, overrides := ← suppliedValues w env source.root v, provider := none
      skipTagged := false }
  let (table, warnings) ← (loadSymbols w options).mapError ScanError.messages
  .ok (table, warnings.map fun warning => "Skipped " ++ warning.file ++ ": " ++ warning.message)

def entryText (kind : String) (e : Entry) : String :=
  let value := match e.outcome with
    | some (.ok v) => v.display
    | some (.error reason) => "<" ++ reason.message ++ ">"
    | none => "<unresolved>"
  kind ++ "." ++ e.name ++ " = " ++ value ++ "\n"

def runSymbols (w : Workspace) (env : List (String × String)) (source : SourceOptions) (v : ValueOptions)
    (format : OutputFormat) : Step RunResult := do
  let (table, errors) ← loadTable w env source v
  let output := match format with
    | .text =>
      String.join (table.variableEntries.map (entryText "var")) ++
        String.join (table.localEntries.map (entryText "local"))
    | format => formatted format table.json
  .ok ⟨0, output, errors⟩

/-- Resolves an expression; one that is not resolved is a failure. -/
def runResolve (w : Workspace) (env : List (String × String)) (source : SourceOptions) (v : ValueOptions)
    (format : OutputFormat) (expression : String) : Step RunResult := do
  let (table, errors) ← loadTable w env source v
  let r := table.resolveText expression
  let output := match format with
    | .text =>
      match r.doubt with
      | none => r.value.display ++ "\n"
      | some doubt => r.value.display ++ " (" ++ doubt.message ++ ")\n"
    | format => formatted format r.json
  .ok ⟨if r.resolved then 0 else 1, output, errors⟩

def Command.run (w : Workspace) (env : List (String × String)) : Command → Step RunResult
  | .scan c => runScan w env c
  | .checkStandard path => runCheckStandard w path
  | .symbols source v format => runSymbols w env source v format
  | .resolve source v format expression => runResolve w env source v format expression

def usage : String :=
  "Usage: tag-audit [-C DIRECTORY] COMMAND\n\nCommands:\n" ++
    "  scan [ROOT]             Scan a directory for resources and validate their tags\n" ++
    "  check-standard PATH     Check a tagging standard for structural problems\n" ++
    "  symbols [ROOT]          List variables and locals with their resolved values\n" ++
    "  resolve [ROOT] -e EXPR  Resolve a single expression\n"

def Halt.result : Halt → RunResult
  | .help => ⟨0, usage, []⟩
  | .version => ⟨0, "tag-audit\n", []⟩
  | .misuse => ⟨2, "", [usage]⟩

/-- Runs a command in a workspace, in the directories to be changed to. -/
def Invocation.run (w : Workspace) (env : List (String × String)) (i : Invocation) : RunResult :=
  let step : Step RunResult := do
    let w ← i.directories.foldlM changeDirectory w
    i.command.run w env
  match step with
  | .ok r => r
  | .error errors => fail errors

def run (w : Workspace) (env : List (String × String)) (args : List String) : RunResult :=
  match Invocation.ofArguments args with
  | .ok i => i.run w env
  | .error h => h.result

end TagAudit.CommandLine
