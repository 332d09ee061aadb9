/-
  TagAudit.Main — the program.

  What the arguments speak of is read from the disk into a workspace, the command is run there,
  and what it leaves behind is written.
-/

import TagAudit.CommandLine.Run
import TagAudit.FileTree.WellFormed

namespace TagAudit.Disk

open FileTree CommandLine

def pathOf (place : List String) : String := "/" ++ String.intercalate "/" place

def isSought (name : String) : Bool := (nameExtension? name).any ["tf", "tofu", "hcl", "tfvars", "json"].contains

/-- The contents of a directory. Links are not followed. -/
partial def readDirectory (path : String) : IO Tree := do
  let mut found := #[]
  for e in ← ((← IO.currentDir) / path).readDir do
    let below := join path e.fileName
    match (← e.path.symlinkMetadata).type with
    | .dir =>
      if !skippedDirectories.contains e.fileName then found := found.push (e.fileName, ← readDirectory below)
    | .file =>
      let contents ← if isSought e.fileName then do pure (String.fromUTF8? (← IO.FS.readBinFile below)) else pure (some "")
      found := found.push (e.fileName, .file contents)
    | _ => pure ()
  return .directory found.toList

/-- What is at a path, with all that is below it if `deep`. -/
def read? (path : String) (deep : Bool) : IO (Option Tree) := do
  let p := (← IO.currentDir) / path
  if ← p.isDir then
    if deep then return some (← readDirectory path) else return some (.directory [])
  else if ← p.pathExists then return some (.file (String.fromUTF8? (← IO.FS.readBinFile path)))
  else return none

/-- Puts what is at a path on the disk into a workspace. -/
def add (s : Site) (path : String) (deep : Bool) : IO Site := do
  let place := s.placeOf path
  if (s.root.at? place).any Node.isDirectory && !deep then return s
  match ← read? (pathOf place) deep with
  | some tree => return s.put path tree
  | none => return s

/-- The directory that a command searches, and the files that it reads. -/
def sought : Command → Option String × List String
  | .scan c => (some c.source.root, c.standard.toList ++ c.values.files ++ c.values.plan.toList)
  | .checkStandard path => (none, [path])
  | .symbols source v _ => (some source.root, v.files ++ v.plan.toList)
  | .resolve source v _ _ => (some source.root, v.files ++ v.plan.toList)

def workspace (i : Invocation) : IO Site := do
  let here := (← IO.currentDir).toString
  let mut s := Site.start here
  for path in i.directories do
    s ← add s path false
    s := s.enter path
  let (directory, files) := sought i.command
  if let some path := directory then s ← add s path true
  for path in files do s ← add s path false
  return s.enter here

def environment : IO (List (String × String)) := do
  let text := (String.fromUTF8? (← IO.FS.readBinFile "/proc/self/environ")).getD ""
  return (text.splitOn "\x00").filterMap fun entry =>
    match entry.splitOn "=" with
    | key :: value => if value.isEmpty then none else some (key, String.intercalate "=" value)
    | [] => none

def report (r : RunResult) : IO UInt32 := do
  (← IO.getStdout).putStr r.output
  for line in r.errors do IO.eprintln line
  return UInt32.ofNat r.status

end TagAudit.Disk

def main (args : List String) : IO UInt32 := do
  match TagAudit.CommandLine.Invocation.ofArguments args with
  | .error h => TagAudit.Disk.report h.result
  | .ok i => TagAudit.Disk.report (i.run (← TagAudit.Disk.workspace i).toWorkspace (← TagAudit.Disk.environment))
