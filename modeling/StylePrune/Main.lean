import StylePrune.CommandLine.Basic
import StylePrune.Fetch.Transfer
import StylePrune.Run.Identifier

/-!
Command line: purges the stylesheets of one page.

The files below the current directory are read, and those that the arguments name elsewhere. The answer is
computed from them, and what it changes is written. There is no connection to a network.
-/
namespace StylePrune

/-- What stands in a directory at a place, given its listing. -/
partial def readEntries (place : Files.Place) (listing : Array IO.FS.DirEntry) :
    IO (List (Files.Place × Files.Entry)) := do
  let mut all : List (Files.Place × Files.Entry) := []
  for e in listing do
    let here := place ++ [e.fileName.toList]
    if ← e.path.isDir then
      all := all ++ (here, .directory) :: (← readEntries here (← e.path.readDir))
    else
      all := all ++ [(here, .file (← IO.FS.readBinFile e.path).toList)]
  return all

/-- Adds the file at a path to a tree that does not know it, if there is one. -/
def readAlso (t : Files.Tree) (path : Text) : IO Files.Tree := do
  match t.read path with
  | .ok _ => return t
  | .error _ =>
    try
      let bytes ← IO.FS.readBinFile (String.ofList path)
      let t := match Path.parent? path with
        | some dir => (t.makeDirs dir).1
        | none => t
      return (t.write path bytes.toList).1
    catch _ => return t

/-- The files below the current directory and those that the arguments name; a configuration can only name
others when it has been read. -/
def readTree (args : List Text) : IO Files.Tree := do
  let current ← IO.currentDir
  let base := Path.names current.toString.toList
  let below : Files.Tree := ⟨base, ← readEntries base (← current.readDir)⟩
  let known ← (CommandLine.pathsFor below args).foldlM readAlso below
  (CommandLine.pathsFor known args).foldlM readAlso known

/-- Creates the directories and files of one tree that another one has not. -/
def writeChanges (old new : Files.Tree) : IO Unit := do
  for (place, entry) in new.contents do
    let path := String.ofList ('/' :: Text.join ['/'] place)
    unless old.at? place == some entry do
      match entry with
      | .directory => IO.FS.createDirAll path
      | .file bytes => IO.FS.writeBinFile path ⟨bytes.toArray⟩

/-- The seconds since the start of 1970, as a new file shows them. -/
def currentSeconds : IO Nat := do
  let (_, path) ← IO.FS.createTempFile
  let data ← path.metadata
  IO.FS.removeFile path
  return data.modified.sec.toNat

end StylePrune

open StylePrune

/-- Answers the arguments. -/
def main (args : List String) : IO UInt32 := do
  let args := args.map String.toList
  let old ← readTree args
  let runId := Run.identifier (← currentSeconds) (← IO.getRandomBytes 4).toList
  let answer := CommandLine.answer old Fetch.disconnected runId args
  writeChanges old answer.files
  (← IO.getStdout).putStr (String.ofList answer.output)
  (← IO.getStderr).putStr (String.ofList answer.errors)
  return answer.exitCode.toUInt32
