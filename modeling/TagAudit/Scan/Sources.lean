/-
  TagAudit.Scan.Sources — finding and reading the files of a configuration.

  A dialect is known by the extensions of its files. Directories with caches or metadata are
  not entered, unless a search starts in them.
-/

import TagAudit.FileTree.Walk
import TagAudit.Resource

namespace TagAudit

open FileTree

inductive Dialect where
  | terraform
  | opentofu
  | terragrunt
  deriving DecidableEq, Repr, Inhabited

namespace Dialect

def all : List Dialect := [.terraform, .opentofu, .terragrunt]

def name : Dialect → String
  | .terraform => "terraform"
  | .opentofu => "opentofu"
  | .terragrunt => "terragrunt"

def ofName? (s : String) : Option Dialect := all.find? (·.name == s)

def extensions : Dialect → List String
  | .terraform => ["tf"]
  | .opentofu => ["tf", "tofu"]
  | .terragrunt => ["hcl"]

def accepts (d : Dialect) (fileName : String) : Bool := (nameExtension? fileName).any d.extensions.contains

end Dialect

/-- The names of directories that hold no configuration. -/
def skippedDirectories : List String := [".terraform", ".terragrunt-cache", ".git"]

inductive LoadError where
  | notDirectory (path : String)
  | unreadable (path : String) (fault : ReadFault)
  deriving DecidableEq, Repr, Inhabited

namespace LoadError

def message : LoadError → String
  | .notDirectory path => path ++ " is not a directory"
  | .unreadable path _ => "unable to read " ++ path

def messages (e : LoadError) : List String :=
  e.message ::
    match e with
    | .notDirectory _ => []
    | .unreadable _ fault => [fault.message]

end LoadError

def Dialect.filesBelow (d : Dialect) (n : Node) : List (List String) :=
  (n.files skippedDirectories.contains).filter fun names => (names.getLast?.map d.accepts).getD false

/-- The paths of the files of a dialect below the directory at a path. -/
def discover (w : Workspace) (root : String) (d : Dialect) : Except LoadError (List String) :=
  match w.find? root with
  | some (.directory entries) => .ok ((d.filesBelow (.directory entries)).map (joinAll root))
  | _ => .error (.notDirectory root)

end TagAudit
