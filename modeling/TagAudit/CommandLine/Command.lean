/-
  TagAudit.CommandLine.Command — the commands and their options.
-/

import TagAudit.CommandLine.Arguments
import TagAudit.Catalog
import TagAudit.Scan.Sources
import TagAudit.Text.Digits

namespace TagAudit.CommandLine

inductive OutputFormat where
  | json
  | yaml
  | text
  deriving DecidableEq, Repr, Inhabited

def OutputFormat.name : OutputFormat → String
  | .json => "json"
  | .yaml => "yaml"
  | .text => "text"

def OutputFormat.ofName? (s : String) : Option OutputFormat :=
  [OutputFormat.json, .yaml, .text].find? (·.name == s)

structure SourceOptions where
  root : String
  dialect : Dialect

/-- Where values of variables come from, besides the environment. -/
structure ValueOptions where
  assignments : List String
  files : List String
  plan : Option String
  /-- Whether the files of values in the configuration are left unread. -/
  noDefaultFiles : Bool

structure ScanCommand where
  source : SourceOptions
  values : ValueOptions
  format : OutputFormat
  standard : Option String
  includes : Option String
  excludes : Option String
  strict : Bool
  ignoreOptional : Bool
  provider : Option Provider
  skipTagged : Bool
  /-- Seconds after which the scan is stopped. -/
  timeout : Option Nat

inductive Command where
  | scan (c : ScanCommand)
  | checkStandard (path : String)
  | symbols (source : SourceOptions) (values : ValueOptions) (format : OutputFormat)
  | resolve (source : SourceOptions) (values : ValueOptions) (format : OutputFormat) (expression : String)

/-- A command, and the directories to be changed to before it is run. -/
structure Invocation where
  directories : List String
  command : Command

/-! ## Options -/

def isPath (s : String) : Bool := !s.isEmpty

def seconds? (s : String) : Option Nat :=
  let digits := match s.toList with
    | '+' :: rest => rest
    | rest => rest
  if !digits.isEmpty && digits.all Text.isDigit && Text.natOfDigits digits < UInt64.size then
    some (Text.natOfDigits digits)
  else none

def directoryOption : OptionSpec := ⟨"directory", some 'C', .many, isPath⟩

def sourceOptions : List OptionSpec := [⟨"dialect", none, .once, fun s => (Dialect.ofName? s).isSome⟩]

def valueOptions : List OptionSpec :=
  [⟨"var", none, .many, fun _ => true⟩, ⟨"var-file", none, .many, isPath⟩, ⟨"plan-json", none, .once, isPath⟩,
   ⟨"no-default-var-files", none, .flag, fun _ => true⟩]

def formatOption : OptionSpec := ⟨"output-format", some 'F', .once, fun s => (OutputFormat.ofName? s).isSome⟩

def configurationOptions : List OptionSpec := directoryOption :: formatOption :: sourceOptions ++ valueOptions

def scanOnlyOptions : List OptionSpec :=
  [⟨"standard", some 's', .once, isPath⟩, ⟨"filter", none, .once, fun _ => true⟩,
   ⟨"skip", none, .once, fun _ => true⟩, ⟨"strict", none, .flag, fun _ => true⟩,
   ⟨"ignore-optional", none, .flag, fun _ => true⟩,
   ⟨"provider", none, .once, fun s => (Provider.ofName? s).isSome⟩,
   ⟨"skip-terratag-files", none, .flag, fun _ => true⟩, ⟨"timeout", none, .once, fun s => (seconds? s).isSome⟩]

def expressionOption : OptionSpec := ⟨"expression", some 'e', .once, fun _ => true⟩

/-! ## Commands -/

def source (a : Arguments) : SourceOptions :=
  ⟨a.positionals.headD ".", ((a.valueOf? "dialect").bind Dialect.ofName?).getD .terraform⟩

def values (a : Arguments) : ValueOptions :=
  ⟨a.valuesOf "var", a.valuesOf "var-file", a.valueOf? "plan-json", a.isSet "no-default-var-files"⟩

def format (a : Arguments) : OutputFormat := ((a.valueOf? "output-format").bind OutputFormat.ofName?).getD .yaml

inductive CommandName where
  | scan
  | checkStandard
  | symbols
  | resolve
  deriving DecidableEq, Repr, Inhabited

namespace CommandName

def ofName? : String → Option CommandName
  | "scan" => some .scan
  | "check-standard" => some .checkStandard
  | "symbols" => some .symbols
  | "resolve" => some .resolve
  | "eval" => some .resolve
  | _ => none

def options : CommandName → List OptionSpec
  | .scan => configurationOptions ++ scanOnlyOptions
  | .checkStandard => [directoryOption]
  | .symbols => configurationOptions
  | .resolve => expressionOption :: configurationOptions

def signature (n : CommandName) : Signature := ⟨n.options, 1, isPath, false⟩

def command (a : Arguments) : CommandName → Except Halt Command
  | .scan =>
    .ok (.scan
      { source := source a, values := values a, format := format a, standard := a.valueOf? "standard"
        includes := a.valueOf? "filter", excludes := a.valueOf? "skip", strict := a.isSet "strict"
        ignoreOptional := a.isSet "ignore-optional", provider := (a.valueOf? "provider").bind Provider.ofName?
        skipTagged := a.isSet "skip-terratag-files", timeout := (a.valueOf? "timeout").bind seconds? })
  | .checkStandard =>
    match a.positionals with
    | path :: _ => .ok (.checkStandard path)
    | [] => .error .misuse
  | .symbols => .ok (.symbols (source a) (values a) (format a))
  | .resolve =>
    match a.valueOf? "expression" with
    | some e => .ok (.resolve (source a) (values a) (format a) e)
    | none => .error .misuse

end CommandName

/-- What may come before a command. -/
def mainSignature : Signature := ⟨[directoryOption], 0, isPath, true⟩

/-- Help on commands: all that are named have to be there. -/
def helpOn (names : List String) : Halt :=
  match names with
  | [] => .help
  | [name] => if (CommandName.ofName? name).isSome || name = "help" then .help else .misuse
  | _ => .misuse

/-- What the arguments of the program ask for. Directories given with the command replace those
    given before it. -/
def Invocation.ofArguments (args : List String) : Except Halt Invocation := do
  let isCommand (arg : String) : Bool := (CommandName.ofName? arg).isSome || arg = "help"
  let (before, rest) ← mainSignature.sort isCommand .none args
  match rest with
  | [] => .error .misuse
  | name :: rest =>
    match CommandName.ofName? name with
    | none => .error (helpOn rest)
    | some name =>
      let (a, _) ← name.signature.sort (fun _ => false) .none rest
      let directories := a.valuesOf "directory"
      .ok ⟨if directories.isEmpty then before.valuesOf "directory" else directories, ← name.command a⟩

end TagAudit.CommandLine
