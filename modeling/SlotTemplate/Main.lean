import SlotTemplate.Command.Run

/-!
# The program

Reads the files that a run needs, runs the command and prints what it answers.
-/

namespace SlotTemplate.Command

/-- Adds the files at paths, as far as they can be read. -/
def readFiles (paths : List String) (files : Files) : IO Files :=
  paths.foldlM (fun (files : Files) (path : String) => do
    try
      return files.write path (← IO.FS.readBinFile path)
    catch _ => return files) files

/-- The files that the arguments ask for. -/
def gather (args : List String) : IO Files := do
  let working := Path.segments (toString (← IO.currentDir))
  let files := Files.inDirectory (working.filter (· ≠ ""))
  match Options.parse args with
  | .error _ => return files
  | .ok o =>
    let files ← readFiles o.config?.toList files
    match o.manifest files with
    | .error _ => return files
    | .ok m => readFiles (o.sources m) files

end SlotTemplate.Command

open SlotTemplate.Command in
def main (args : List String) : IO UInt32 := do
  let outcome := run (← gather args) args
  IO.print outcome.output
  IO.eprint outcome.errors
  return outcome.exitCode.toUInt32
