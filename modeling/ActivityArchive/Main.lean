import ActivityArchive.Command.Run

/-!
The command line: reads the files of an invocation, runs it, and writes what it leaves behind.
-/
open ActivityArchive

/-- The files that can be read. -/
def readable (paths : List String) : IO Files :=
  paths.filterMapM fun (path : String) => do
    try
      return some (path, ← IO.FS.readFile path)
    catch _ => return none

def main (words : List String) : IO UInt32 := do
  match Invocation.ofWords? words with
  | none =>
    IO.eprintln "error: unexpected arguments"
    return usageExit
  | some invocation =>
    match invocation.run (← readable invocation.inputs) with
    | .error e =>
      IO.eprintln ("Error: " ++ Text.quoted e.message)
      return failureExit
    | .ok product =>
      if let some (path, text) := product.file then IO.FS.writeFile path text
      IO.print product.stdout
      return 0
