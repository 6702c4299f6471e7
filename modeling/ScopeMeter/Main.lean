import ScopeMeter.CommandLine.Session

/-!
# The program

Hands the command line to `CommandLine.run`: the files that the arguments name are read into a
tree first, and what the session has written into the tree is written to the disk afterwards.
-/

namespace ScopeMeter.CommandLine

/-- The places on the way to a path, the outermost first, and the path itself. -/
def placesTo (path : String) : List String :=
  let all := Files.names path
  let root := if path.startsWith "/" then "/" else ""
  (List.range all.length).map fun n => root ++ "/".intercalate (all.take (n + 1))

/-- The tree that an operation gives, or the old one if it fails. -/
def orKeep (tree : Files.Node) (changed : Except Files.Fault Files.Node) : Files.Node :=
  match changed with
  | .ok tree => tree
  | .error _ => tree

/-- Adds what the disk has at one place to a tree. -/
def addPlace (tree : Files.Node) (place : String) : IO Files.Node := do
  let here := (← IO.currentDir) / place
  if ← here.isDir then return (tree.makeDirs place).2
  else if ← here.pathExists then
    let text ← try pure (some (← IO.FS.readFile here)) catch _ => pure none
    match (orKeep tree (tree.writeText place "")).follow (Files.names place) with
    | .ok names => return tree.put (.file text) names
    | .error _ => return tree
  else return tree

/-- The part of the disk that some paths lead through. -/
def readTree (paths : List String) : IO Files.Node :=
  (paths.flatMap placesTo).foldlM addPlace (.dir [])

/-- The paths that arguments name. -/
def pathsOf (arguments : List String) : List String :=
  match Arguments.ofList arguments with
  | .ok a => [a.config, a.output, a.csvDir].filterMap id
  | .error _ => []

/-- Writes a file that a session has changed. -/
def writeChanged (old new : Files.Node) (path : String) : IO Unit := do
  match old.readText path, new.readText path with
  | .ok before, .ok after => if before = after then pure () else IO.FS.writeFile path after
  | .error _, .ok after => IO.FS.writeFile path after
  | _, .error _ => pure ()

/-- Makes a directory and writes the files that a session has changed in it. -/
def writeDirectory (old new : Files.Node) (path : String) : IO Unit := do
  match new.list path with
  | .ok entries =>
    IO.FS.createDirAll path
    for entry in entries do
      writeChanged old new (Files.join path entry.1)
  | .error _ => pure ()

/-- Writes what a session has written into its tree to the disk. -/
def writeBack (arguments : List String) (old new : Files.Node) : IO Unit := do
  match Arguments.ofList arguments with
  | .ok a =>
    for path in a.output.toList do writeChanged old new path
    for path in a.csvDir.toList do writeDirectory old new path
  | .error _ => pure ()

end ScopeMeter.CommandLine

open ScopeMeter.CommandLine in
/-- Runs the program and returns its exit code. -/
def main (arguments : List String) : IO UInt32 := do
  let files ← readTree (pathsOf arguments)
  let done := run arguments files
  writeBack arguments files done.files
  IO.print done.output
  IO.eprint done.errorOutput
  return UInt32.ofNat done.code
