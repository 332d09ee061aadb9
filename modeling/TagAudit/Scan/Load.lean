/-
  TagAudit.Scan.Load — the files and symbols of a configuration.
-/

import TagAudit.Scan.Trouble
import TagAudit.Catalog
import TagAudit.Symbols.Declarations

namespace TagAudit

open FileTree (Workspace)
open Hcl Symbols

structure ScanOptions where
  root : String
  dialect : Dialect
  /-- Only types of resources that this expression matches are looked at. -/
  includes : Option String
  /-- Types of resources that this expression matches are not looked at. -/
  excludes : Option String
  /-- Any trouble is an error, extra tags count, and partly known values are withheld. -/
  strict : Bool
  ignoreOptional : Bool
  overrides : OrderedMap Value
  /-- The provider of all resources, where no standard gives one. -/
  provider : Option Provider
  /-- Files that tag injection has generated are not read. -/
  skipTagged : Bool

/-- What the names of files that tag injection has generated end with. -/
def taggedFileMark : String := "terratag.tf"

def isTaggedFile (path : String) : Bool :=
  ((FileTree.names path).getLast?.map fun name =>
    Text.startsWith name.toList.reverse taggedFileMark.toList.reverse).getD false

namespace ScanOptions

def paths (o : ScanOptions) (w : Workspace) : Except ScanError (List String) :=
  match discover w o.root o.dialect with
  | .ok paths => .ok (if o.skipTagged then paths.filter (!isTaggedFile ·) else paths)
  | .error e => .error (.discover e)

end ScanOptions

namespace Scanning

/-- Reads files one after the other; those that cannot be read are left out. -/
def readAll (w : Workspace) (strict : Bool) : List String → Scanning (List SourceFile)
  | [] => return []
  | path :: paths =>
    match w.read path with
    | .ok contents => do return ⟨path, contents⟩ :: (← readAll w strict paths)
    | .error fault => do
      (Trouble.unreadable path fault).meet strict
      readAll w strict paths

end Scanning

/-- What is said of a file that cannot be parsed. -/
def SourceFile.complaint? (file : SourceFile) : Option String :=
  match Body.read file.contents.toList with
  | .ok _ => none
  | .error rest => some (complaint file.contents.toList rest)

namespace Scanning

/-- Goes through files for those that cannot be parsed. -/
def parseAll (strict : Bool) : List SourceFile → Scanning Unit
  | [] => return ()
  | file :: files =>
    match file.complaint? with
    | none => parseAll strict files
    | some complaint => do
      (Trouble.unparseable file.path complaint).meet strict
      parseAll strict files

end Scanning

/-- The table of the symbols that the files of a configuration declare, with warnings of those
    that cannot be read or parsed. -/
def loadSymbols (w : Workspace) (o : ScanOptions) : Except ScanError (Table × List Warning) := do
  let (files, warnings) ← (Scanning.readAll w o.strict (← o.paths w)).run []
  let ((), warnings) ← (Scanning.parseAll o.strict files).run warnings
  .ok (Table.ofFiles files o.overrides o.strict, warnings)

end TagAudit
