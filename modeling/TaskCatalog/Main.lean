import TaskCatalog.CommandLine.Session
import TaskCatalog.FileSystem.Listing

/-!
The program: a session of the command line in the current directory. What is below the directory is
read first, and what the session changes there is written last.
-/

namespace TaskCatalog.Program

/-- What an entry of a directory holds. -/
partial def readEntry (e : IO.FS.DirEntry) : IO (Text × Node) := do
  let name : Text := Text.ofString e.fileName
  if ← e.path.isDir then
    let entries ← (← e.path.readDir).mapM readEntry
    return (name, .directory entries.toList)
  else
    return (name, .file (← IO.FS.readBinFile e.path).toList)

def currentTree : IO Node := do
  let entries ← (← (← IO.currentDir).readDir).mapM readEntry
  return .directory entries.toList

/-- The file system of the current directory, with the rest of the world empty. -/
def currentFileSystem (current : Location) (tree : Node) : FileSystem :=
  { root := current.foldr (fun name node => .directory [(name, node)]) tree, current }

def environment : IO (List (Text × Text)) := do
  let found ← Settings.variableNames.mapM fun name => do
    return (← IO.getEnv name.toString).map fun value => (name, Text.ofString value)
  return found.filterMap id

def locationText (location : Location) : String := (Text.join "/" location).toString

def make : Change → IO Unit
  | .directory location => IO.FS.createDirAll (locationText location)
  | .file location content => IO.FS.writeBinFile (locationText location) ⟨content.toArray⟩

def endingText : Ending → Option Text
  | .misused => some "Usage: plugin-tools [--version] generate|extractors|generators [arguments]"
  | .broken f => some f.logged
  | .finished | .refused _ => none

end TaskCatalog.Program

open TaskCatalog Program

def main (arguments : List String) : IO UInt32 := do
  let current := (Path.ofText (Text.ofString (← IO.currentDir).toString)).parts
  let tree ← currentTree
  let session := Session.run (← environment) (arguments.map Text.ofString) (currentFileSystem current tree)
  match session.fs.root.at? current with
  | some after => (after.changes [] (some tree)).forM make
  | none => pure ()
  for line in session.lines do
    IO.println line.toString
  for record in session.log do
    IO.eprintln (record.level.name ++ " | " ++ record.message : Text).toString
  if let some text := endingText session.ending then
    IO.eprintln text.toString
  return UInt32.ofNat session.ending.exitCode
