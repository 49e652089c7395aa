import SearchQuery.CommandLine.Invocation
import SearchQuery.Log.Clock
import Std.Time.DateTime.Timestamp

/-!
# The program

The outer layer of the command line. It looks up the settings file on disk, lets the program run on
what was found, and then carries out what the outcome says. Every decision is made in
`CommandLine.run`.

The environment is taken as it is: no `.env` file is read into it first. The clock is read once for
the whole run, so that all records have one stamp.
-/

namespace SearchQuery
namespace Program

def spelled (p : FilePath) : String := String.ofList p.toText

/-- The tree of what is on disk at a path. -/
def lookUp (p : FilePath) : IO FileTree := do
  try
    let octets ← IO.FS.readBinFile (spelled p)
    return FileTree.empty.putAlong p octets.toList
  catch
    | .inappropriateType .. =>
      return (FileTree.empty.makeDirectory p).2
    | _ => return .empty

/-- Makes on disk what a tree has and an earlier tree had not: directories, files and what was added
to the ends of files. -/
def carryOut (before after : FileTree) : IO Unit := do
  for directory in after.directories do
    unless before.isDirectory directory do
      IO.FS.createDirAll (spelled directory)
  for (path, octets) in after.files do
    let known := ((before.files.lookup path).getD []).length
    if known = 0 ∨ known < octets.length then
      IO.FS.withFile (spelled path) .append fun handle =>
        handle.write ⟨(octets.drop known).toArray⟩

/-- Shows what an ending has to say and gives its exit code. -/
def finish : CommandLine.Ending → IO UInt32
  | .exit code => return code.toUInt32
  | .withoutSettings error => fail error.message
  | .withoutLog error => fail error.message
where
  fail (message : Text) : IO UInt32 := do
    IO.eprintln (String.ofList message)
    return 1

end Program
end SearchQuery

open SearchQuery in
def main (arguments : List String) : IO UInt32 := do
  let arguments := arguments.map String.toList
  let environment ← IO.getEnv (String.ofList CommandLine.configVariable)
  let environment := environment.map String.toList
  let files ←
    match CommandLine.settingsPath? environment arguments with
    | some path => Program.lookUp path
    | none => pure .empty
  let now ← Std.Time.Timestamp.now
  let stamp := Log.Stamp.ofSeconds now.toSecondsSinceUnixEpoch.val
  let outcome := CommandLine.run (fun _ => stamp) files environment arguments
  Program.carryOut files outcome.files
  IO.eprint (String.ofList outcome.errors)
  IO.print (String.ofList outcome.output)
  Program.finish outcome.ending
