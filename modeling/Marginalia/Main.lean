import Marginalia.CommandLine.Session
import Marginalia.FileStore.Change
import Marginalia.Moment
import Std.Time.DateTime.Timestamp

/-!
# The program

The working directory is read into a file store, at the location that it has on the disk; the
command line is carried out on the store, and the changes are made on the disk. Files that cannot be
read are passed over, and so is what is not in the working directory.
-/

namespace Marginalia.Program

/-- The items of a directory and of those below it. -/
partial def gather (l : Location) (entries : Array IO.FS.DirEntry) :
    IO (List (Location × Item)) := do
  let mut items : List (Location × Item) := []
  for e in entries do
    let place := l ++ [e.fileName.toList]
    try
      if (← e.path.symlinkMetadata).type == .dir then
        items := (← gather place (← e.path.readDir)) ++ (place, .directory) :: items
      else
        items := (place, .file (← IO.FS.readBinFile e.path).toList) :: items
    catch _ => pure ()
  return items

/-- A store with the working directory and the directories above it. -/
def workingDirectory : IO FileStore := do
  let directory ← IO.currentDir
  let here := Path.resolve (Path.components directory.toString.toList)
  let above := (List.range here.length).map fun n => (here.take (n + 1), Item.directory)
  return { items := (← gather here (← directory.readDir)) ++ above, here }

/-- The path to a location from the root. -/
def pathOf (l : Location) : String := String.ofList ('/' :: Text.join ['/'] l)

/-- Makes a change on the disk. -/
def carryOut : FileStore.Change → IO Unit
  | .remove l .directory => IO.FS.removeDir (pathOf l)
  | .remove l (.file _) => IO.FS.removeFile (pathOf l)
  | .put l .directory => IO.FS.createDirAll (pathOf l)
  | .put l (.file content) => IO.FS.writeBinFile (pathOf l) ⟨content.toArray⟩

/-- The time of the clock in writing. -/
def now : IO Text := do
  let t ← Std.Time.Timestamp.now
  let passed := t.toNanosecondsSinceUnixEpoch.val.toNat
  return (Moment.ofSeconds (passed / 1000000000) (passed % 1000000000)).text

/-- Carries out a command line in the working directory. -/
def start (words : List String) : IO UInt32 := do
  let before ← workingDirectory
  let session := CommandLine.Session.ofWords before (← now) (words.map String.toList)
  for c in before.changes session.store do
    carryOut c
  IO.print (String.ofList session.output)
  IO.eprint (String.ofList session.errors)
  return UInt32.ofNat session.code

end Marginalia.Program

/-- The program. -/
def main (words : List String) : IO UInt32 := Marginalia.Program.start words
