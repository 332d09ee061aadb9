/-
  TagAudit.Scan.Trouble — what can go wrong in a scan.

  A `Trouble` is with one file or resource. In the course of a scan it is told as a warning, or
  stops a strict scan with the error that goes with it.
-/

import TagAudit.Scan.Sources
import TagAudit.Standard.Check
import TagAudit.TagExpressions

namespace TagAudit

open FileTree (ReadFault)

inductive ScanError where
  | invalidFilter (source : String)
  | standard (cause : StandardError)
  | discover (cause : LoadError)
  | load (cause : LoadError)
  | parse (path : String) (complaint : String)
  /-- The tags of the resource at an address, which the attribute should hold. -/
  | extract (address : String) (attr : String) (cause : TagFailure)
  deriving DecidableEq, Repr, Inhabited

def ScanError.message : ScanError → String
  | .invalidFilter source => "invalid resource type filter `" ++ source ++ "`"
  | .standard _ => "invalid standard"
  | .discover _ => "unable to discover files"
  | .load _ => "unable to load files"
  | .parse path complaint => "unable to parse " ++ path ++ ": " ++ complaint
  | .extract address _ _ => "unable to extract tags of `" ++ address ++ "`"

def ScanError.messages (e : ScanError) : List String :=
  e.message ::
    match e with
    | .standard cause => [cause.message]
    | .discover cause => cause.messages
    | .load cause => cause.messages
    | .extract _ attr cause => [cause.message attr]
    | _ => []

inductive WarningKind where
  | read
  | parse
  | extract
  deriving DecidableEq, Repr, Inhabited

def WarningKind.name : WarningKind → String
  | .read => "read"
  | .parse => "parse"
  | .extract => "extract"

structure Warning where
  file : String
  kind : WarningKind
  message : String
  deriving DecidableEq, Repr, Inhabited

def Warning.json (w : Warning) : Json :=
  .obj [("file_path", .str w.file), ("kind", .str w.kind.name), ("message", .str w.message)]

inductive Trouble where
  | unreadable (path : String) (fault : ReadFault)
  | unparseable (path : String) (complaint : String)
  | malformed (path : String) (address : String) (attr : String) (failure : TagFailure)
  deriving DecidableEq, Repr, Inhabited

namespace Trouble

def warning : Trouble → Warning
  | .unreadable path fault => ⟨path, .read, String.intercalate ": " (LoadError.messages (.unreadable path fault))⟩
  | .unparseable path complaint => ⟨path, .parse, complaint⟩
  | .malformed path address attr failure => ⟨path, .extract, address ++ ": " ++ failure.message attr⟩

def error : Trouble → ScanError
  | .unreadable path fault => .load (.unreadable path fault)
  | .unparseable path complaint => .parse path complaint
  | .malformed _ address attr failure => .extract address attr failure

end Trouble

/-- Computations in the course of a scan, with the warnings so far; an error stops them. -/
abbrev Scanning (α : Type) := StateT (List Warning) (Except ScanError) α

/-- Meets a trouble: a strict scan stops with its error, any other one warns of it and goes on. -/
def Trouble.meet (strict : Bool) (t : Trouble) : Scanning Unit :=
  if strict then throw t.error else modify (· ++ [t.warning])

end TagAudit
