/-
  TagAudit.Scan.Run — scanning a configuration for resources and their tags.

  All files are read and their symbols collected first; then the resources of each file are
  looked at in turn. Types are passed over that the filters refuse, that belong to no provider
  or another one, that carry no tags, or that the standard leaves alone.
-/

import TagAudit.Compliance.Validator
import TagAudit.Gloss
import TagAudit.Scan.Load
import TagAudit.Scan.Outcome

namespace TagAudit

open FileTree (Workspace)
open Hcl Symbols

/-- Which types of resources are looked at. -/
structure TypeFilter where
  includes : Option Regex
  excludes : Option Regex

namespace TypeFilter

def compile : Option String → Except ScanError (Option Regex)
  | none => .ok none
  | some source =>
    match Regex.read? source with
    | some r => .ok (some r)
    | none => .error (.invalidFilter source)

def ofOptions (o : ScanOptions) : Except ScanError TypeFilter := do
  .ok ⟨← compile o.includes, ← compile o.excludes⟩

def accepts (f : TypeFilter) (type : String) : Bool :=
  f.includes.all (·.matchesIn type) && !f.excludes.any (·.matchesIn type)

end TypeFilter

/-- All that decides what is found of a resource. -/
structure Scanner where
  options : ScanOptions
  catalog : TagLookup
  filter : TypeFilter
  validator : Option Validator
  symbols : Table

namespace Scanner

/-- The provider of a type of resource: the one of the standard, or else the chosen one, or
    else the one that the type speaks for. -/
def provider? (s : Scanner) (type : String) : Option Provider :=
  ((s.validator.map (·.standard.provider)).or s.options.provider).or (Provider.ofType? type)

def isRelevant (s : Scanner) (type : String) : Bool :=
  s.filter.accepts type && (s.provider? type).any (s.catalog.isTaggable type) &&
    !s.validator.any (·.isExcluded type)

/-- The tags that an expression has which is no literal map: those of the map that it is
    resolved to. -/
def evaluatedTags (s : Scanner) (e : Expr) : OrderedMap String × OrderedMap Value :=
  match (s.symbols.resolve e).value with
  | .map entries => (OrderedMap.mapValues (fun v => v.scalar?.getD v.display) entries, entries)
  | _ => ([], [])

/-- The tags of a resource as written and as resolved. -/
def tags (s : Scanner) (r : Resource) (attr : String) : Except TagFailure (OrderedMap String × OrderedMap Value) :=
  match TagExpressions.ofBody r.body attr with
  | .ok es => .ok (OrderedMap.mapValues Expr.rawText es, OrderedMap.mapValues (fun e => (s.symbols.resolve e).value) es)
  | .error .complex => .ok (((r.body.attribute? attr).map s.evaluatedTags).getD ([], []))
  | .error failure => .error failure

def describe (s : Scanner) (r : Resource) (tags : OrderedMap String) (resolved : OrderedMap Value) : ScannedResource :=
  { resource := r, tags, resolved
    annotated := Gloss.annotate r.snippet (Gloss.collect s.symbols r.snippet)
    compliance := s.validator.map fun v => v.validate ⟨r.type, r.name, r.file⟩ resolved }

/-- Looks at a resource; nothing comes of it if its type is passed over or its tags are malformed. -/
def find (s : Scanner) (r : Resource) : Scanning (Option ScannedResource) :=
  if s.isRelevant r.type then
    let attr := s.catalog.tagAttribute r.type
    match s.tags r attr with
    | .ok (tags, resolved) => return some (s.describe r tags resolved)
    | .error failure => do
      (Trouble.malformed r.file r.address attr failure).meet s.options.strict
      return none
  else return none

def findAll (s : Scanner) : List Resource → Scanning (List ScannedResource)
  | [] => return []
  | r :: rs => do
    let found ← s.find r
    return found.toList ++ (← findAll s rs)

def findIn (s : Scanner) (file : SourceFile) : Scanning (List ScannedResource) :=
  match Body.read file.contents.toList with
  | .ok body => s.findAll (Resource.ofBody file body)
  | .error rest => do
    let message := "unable to parse " ++ file.path ++ ": " ++ complaint file.contents.toList rest
    (Trouble.unparseable file.path message).meet s.options.strict
    return []

def findInAll (s : Scanner) : List SourceFile → Scanning (List ScannedResource)
  | [] => return []
  | file :: files => do
    let found ← s.findIn file
    return found ++ (← findInAll s files)

end Scanner

/-- When a scan is stopped from outside: after how many steps, if at all. Each file is read in
    a step, and looked at in another one once all files have been read. -/
abbrev StopAfter := Option Nat

namespace StopAfter

/-- Whether `n` steps are too many. -/
def cuts (stop : StopAfter) (n : Nat) : Bool := stop.any fun steps => decide (steps < n)

/-- What of a list can be gone through, a step for each element. -/
def limit {α : Type} (stop : StopAfter) (xs : List α) : List α :=
  match stop with
  | none => xs
  | some steps => xs.take steps

/-- The steps that are left after some. -/
def less (stop : StopAfter) (n : Nat) : StopAfter := stop.map (· - n)

end StopAfter

/-- Scans a configuration, against a standard if there is one. -/
def scan (w : Workspace) (o : ScanOptions) (standard : Option Standard) (catalog : TagLookup) (stop : StopAfter) :
    Except ScanError ScanOutcome := do
  let filter ← TypeFilter.ofOptions o
  let validator ← standard.mapM fun s =>
    (Validator.ofStandard s ⟨o.strict, o.ignoreOptional⟩).mapError ScanError.standard
  let paths ← o.paths w
  let (files, warnings) ← (Scanning.readAll w o.strict (stop.limit paths)).run []
  let symbols := Table.ofFiles files o.overrides o.strict
  let visited := if stop.cuts paths.length then [] else (stop.less paths.length).limit files
  let scanner : Scanner := ⟨o, catalog, filter, validator, symbols⟩
  let (resources, warnings) ← (scanner.findInAll visited).run warnings
  .ok
    { resources, symbols, warnings
      filesScanned := visited.length
      cancelled := stop.cuts (paths.length + files.length) }

end TagAudit
