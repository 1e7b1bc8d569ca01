import CallGraph.CommandLine

/-!
# The program

The program loads what its arguments name into a tree of files, runs the command, and writes back
what the command leaves behind.
-/

namespace CallGraph

namespace Program

open CommandLine

/-- What an open handle belongs to.  What cannot be read is a directory. -/
def nodeOf (handle : IO.FS.Handle) : IO Node := do
  try
    return .file (← handle.readBinToEnd).toList
  catch _ =>
    return .directory

/-- What is at a path, if anything can be opened there. -/
def load (path : String) : IO (Option Node) := do
  try
    return some (← nodeOf (← IO.FS.Handle.mk path .read))
  catch _ =>
    return none

/-- The paths on the way to a path, and the path itself. -/
def waypoints (path : String) : List String :=
  let steps := FileTree.steps path
  let start := if FileTree.isAbsolute path then "/" else ""
  (List.range steps.length).map fun count =>
    start ++ String.intercalate "/" (steps.take (count + 1))

/-- Adds what is on the way to a path. -/
def addPath (tree : FileTree) (path : String) : IO FileTree :=
  (waypoints path).foldlM
    (fun tree waypoint => do
      match ← load waypoint with
      | some node => return tree.put (FileTree.placeOf waypoint) node
      | none => return tree)
    tree

/-- Runs the command on the files that its options name. -/
def runOn (arguments : List String) (options : Options) : IO UInt32 := do
  let tree ← (options.archives ++ options.output.toList).foldlM addPath .empty
  let environment := ⟨← IO.getEnv "JCALLGRAPH_INCLUDE", ← IO.getEnv "RUST_LOG"⟩
  let outcome := run arguments environment tree
  (← IO.getStdout).write outcome.printed.toByteArray
  for record in outcome.log do
    IO.eprintln record.line
  match options.output with
  | none => pure ()
  | some path =>
    match isStandardOutput path, outcome.tree.read? path, outcome.failure with
    | true, _, _ => pure ()
    | _, _, some (.output _ _) => pure ()
    | _, some contents, _ => IO.FS.writeBinFile path contents.toByteArray
    | _, none, _ => pure ()
  for failure in outcome.failure do
    IO.eprintln failure.text
  return outcome.code

end Program

end CallGraph

open CallGraph CommandLine in
/-- Runs the command. -/
def main (arguments : List String) : IO UInt32 := do
  match Invocation.ofArguments arguments with
  | .run options => Program.runOn arguments options
  | .version =>
    IO.print versionText
    return 0
  | .help =>
    IO.print usageText
    return 0
  | .misuse =>
    IO.eprint usageText
    return 2
