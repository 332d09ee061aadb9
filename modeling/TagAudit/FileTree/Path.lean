/-
  TagAudit.FileTree.Path — paths as text.

  A path is a list of names with slashes between them. It is kept as it was written; `.` stands
  for no step and `..` for a step up.
-/

import TagAudit.Text.Blank

namespace TagAudit.FileTree

def betweenSlashes (cs : List Char) : List (List Char) :=
  match cs with
  | [] => [[]]
  | '/' :: cs => [] :: betweenSlashes cs
  | c :: cs =>
    match betweenSlashes cs with
    | p :: ps => (c :: p) :: ps
    | [] => [[c]]

def names (path : String) : List String :=
  ((betweenSlashes path.toList).map String.ofList).filter fun n => n != "" && n != "."

def isAbsolute (path : String) : Bool := Text.startsWith path.toList ['/']

def join (path name : String) : String :=
  if path.isEmpty then name
  else if path.toList.getLast? = some '/' then path ++ name
  else path ++ "/" ++ name

/-- What follows the last point of a file name, unless nothing precedes it. -/
def nameExtension? (name : String) : Option String :=
  if name = ".." then none
  else
    let after := name.toList.reverse.takeWhile (· != '.')
    let before := (name.toList.reverse.drop after.length).drop 1
    if before.isEmpty then none else some (String.ofList after.reverse)

/-- The extension of the last name in a path. -/
def extension? (path : String) : Option String := ((names path).getLast?).bind nameExtension?

end TagAudit.FileTree
