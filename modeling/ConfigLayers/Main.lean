import ConfigLayers.CommandLine.Run

/-!
# The program

Reads the documents that a command needs, runs the command on them, and prints what it says. A load
depends on no other files, so that they can be read beforehand.
-/

namespace ConfigLayers.CommandLine

/-- What a path leads to at this moment. What cannot be opened counts as absent. -/
def readEntry (path : String) : IO Entry := do
  try
    return .file (← IO.FS.readBinFile path)
  catch
    | .inappropriateType _ 21 _ => return .directory
    | _ => return .absent

/-- The files at some paths, with those that were read before. -/
def readEntries (known : FileSystem) (paths : List String) : IO FileSystem := do
  let entries ← paths.mapM fun path => return (path, ← readEntry path)
  return fun path => (entries.lookup path).getD (known path)

/-- The documents that the configuration of an invocation reads. -/
def readDocuments (program : String) (i : Invocation) : IO FileSystem := do
  let c := i.configuration program
  if i.inMemory then return fun _ => .absent
  let base ← readEntries (fun _ => .absent) [c.basePath]
  readEntries base (c.modulePaths base)

/-- The events that are printed: warnings and errors, or all of them. -/
def isPrinted (verbose : Bool) (event : Event) : Bool :=
  verbose || event.level = .error || event.level = .warn

end ConfigLayers.CommandLine

open ConfigLayers CommandLine in
def main (words : List String) : IO UInt32 := do
  let program := (← IO.appPath).toString
  let (files, verbose) ← match parse words with
    | .ok i => pure (← readDocuments program i, i.verbose)
    | .error _ => pure (fun _ => Entry.absent, false)
  let result := run files program words
  for event in result.events.filter (isPrinted verbose) do
    IO.eprintln (event.level.name ++ " " ++ event.message)
  for line in result.value.out do IO.println line
  for line in result.value.err do IO.eprintln line
  return result.value.code.toUInt32
