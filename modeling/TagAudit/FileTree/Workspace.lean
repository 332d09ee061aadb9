/-
  TagAudit.FileTree.Workspace — files and directories, and finding them by path.
-/

import TagAudit.FileTree.Path

namespace TagAudit.FileTree

/-- A file with its text, none if it is not text, or a directory with its entries. -/
inductive Node where
  | file (contents : Option String)
  | directory (entries : List (String × Node))
  deriving Inhabited

namespace Node

def isDirectory : Node → Bool
  | .directory _ => true
  | .file _ => false

def isFile (n : Node) : Bool := !n.isDirectory

def entry? : Node → String → Option Node
  | .directory entries, name => entries.lookup name
  | .file _, _ => none

def at? (n : Node) : List String → Option Node
  | [] => some n
  | name :: names => (n.entry? name).bind (at? · names)

/-- Puts a node in the place that names lead to; the directories on the way are made. -/
def put (n : Node) (names : List String) (new : Node) : Node :=
  match names with
  | [] => new
  | name :: names =>
    let entries := match n with
      | .directory entries => entries
      | .file _ => []
    let child := (entries.lookup name).getD (.directory [])
    let placed := child.put names new
    if (entries.lookup name).isSome then
      .directory (entries.map fun (k, v) => if k = name then (k, placed) else (k, v))
    else .directory (entries ++ [(name, placed)])

end Node

/-- A tree of files, and the directory that paths start from unless they are absolute. -/
structure Workspace where
  root : Node
  current : List String
  deriving Inhabited

inductive ReadFault where
  | missing
  | isDirectory
  | notDirectory
  | notText
  deriving DecidableEq, Repr, Inhabited

def ReadFault.message : ReadFault → String
  | .missing => "No such file or directory (os error 2)"
  | .isDirectory => "Is a directory (os error 21)"
  | .notDirectory => "Not a directory (os error 20)"
  | .notText => "stream did not contain valid UTF-8"

namespace Workspace

/-- The names that lead to a node from the root, after those that lead to the directory `here`.
    Every name but the last has to be that of a directory. -/
def resolveFrom (w : Workspace) (here : List String) : List String → Option (List String)
  | [] => some here
  | ".." :: names => w.resolveFrom here.dropLast names
  | name :: names =>
    match w.root.at? (here ++ [name]) with
    | none => none
    | some (.directory _) => w.resolveFrom (here ++ [name]) names
    | some (.file _) => if names.isEmpty then some (here ++ [name]) else none

/-- The names that lead to a path from the root. A path that ends with a slash is that of a
    directory. -/
def place? (w : Workspace) (path : String) : Option (List String) := do
  if path.isEmpty then none
  let place ← w.resolveFrom (if isAbsolute path then [] else w.current) (names path)
  let node ← w.root.at? place
  let last := (betweenSlashes path.toList).getLast?
  if node.isFile && (last == some [] || last == some ['.']) then none else some place

def find? (w : Workspace) (path : String) : Option Node := (w.place? path).bind w.root.at?

def isDirectory (w : Workspace) (path : String) : Bool := ((w.find? path).map Node.isDirectory).getD false

def isFile (w : Workspace) (path : String) : Bool := ((w.find? path).map Node.isFile).getD false

def read (w : Workspace) (path : String) : Except ReadFault String :=
  match w.find? path with
  | none => .error .missing
  | some (.directory _) => .error .isDirectory
  | some (.file none) => .error .notText
  | some (.file (some contents)) => .ok contents

def list? (w : Workspace) (path : String) : Option (List (String × Node)) :=
  match w.find? path with
  | some (.directory entries) => some entries
  | _ => none

end Workspace
end TagAudit.FileTree
