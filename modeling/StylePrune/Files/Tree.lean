import StylePrune.Files.Path
import StylePrune.Text.Utf8

/-!
Files and directories, seen from a working directory.

A place is the list of names that lead to it from the root. A tree holds files and directories at places;
`Tree.at?` looks a place up and `Tree.put` changes what stands there. Everything else is said through these
two: `Tree.walk` follows a path, from the root if it is absolute and else from the working directory,
`Tree.read` reads the file it leads to, `Tree.makeDirs` creates the directories of a path and `Tree.write`
puts a file there.
-/
namespace StylePrune.Files

/-- Why a file or directory cannot be reached or changed. -/
inductive Fault where
  | notFound
  | alreadyExists
  | notDirectory
  | isDirectory
  | nameTooLong
  /-- A path holds the character of code zero. -/
  | zeroInPath
  /-- What a file holds is no text. -/
  | notText
deriving DecidableEq, Repr

/-- What is said about a fault. -/
def Fault.text : Fault → Text
  | notFound => "No such file or directory (os error 2)".toList
  | alreadyExists => "File exists (os error 17)".toList
  | notDirectory => "Not a directory (os error 20)".toList
  | isDirectory => "Is a directory (os error 21)".toList
  | nameTooLong => "File name too long (os error 36)".toList
  | zeroInPath => "file name contained an unexpected NUL byte".toList
  | notText => "stream did not contain valid UTF-8".toList

/-- What stands at a place. -/
inductive Entry where
  | directory
  | file (bytes : List UInt8)
deriving DecidableEq, Repr

/-- The names that lead to a file or directory, from the root unless another directory is said. -/
abbrev Place := List Text

/-- Files and directories, and the working directory. -/
structure Tree where
  /-- The working directory. -/
  base : Place
  /-- What stands at places besides that directory and those above it. -/
  contents : List (Place × Entry)

namespace Tree

/-- A working directory in the root, and nothing else. -/
def empty : Tree := ⟨["work".toList], []⟩

/-- Everything that is there, the working directory and all directories above it included. -/
def all (t : Tree) : List (Place × Entry) :=
  ((List.range (t.base.length + 1)).map fun n => (t.base.take n, .directory)) ++ t.contents

/-- What stands at a place. -/
def at? (t : Tree) (p : Place) : Option Entry := t.all.lookup p

/-- Puts an entry in place of the one with the same place. -/
def putEntry (p : Place) (e : Entry) : List (Place × Entry) → List (Place × Entry)
  | [] => [(p, e)]
  | (q, f) :: r => if q = p then (p, e) :: r else (q, f) :: putEntry p e r

/-- Makes an entry stand at a place. -/
def put (t : Tree) (p : Place) (e : Entry) : Tree := { t with contents := putEntry p e t.contents }

/-- The entries below a place, with places relative to it. -/
def below (t : Tree) (p : Place) : List (Place × Entry) :=
  t.all.filterMap fun e =>
    if p.isPrefixOf e.1 && e.1 != p then some (e.1.drop p.length, e.2) else none

/-- The entries below the working directory. -/
def entries (t : Tree) : List (Place × Entry) := t.below t.base

/-! ## Following a path -/

/-- Where one is when a path is followed. -/
structure Spot where
  within ::
  place : Place
deriving DecidableEq, Repr

/-- The directory that holds a spot. The root holds itself. -/
def Spot.up (spot : Spot) : Spot := .within spot.place.dropLast

/-- A name in a directory. -/
def Spot.down (name : Text) (spot : Spot) : Spot := .within (spot.place ++ [name])

/-- The most bytes that a name may have. -/
def maxNameBytes : Nat := 255

/-- The most bytes that a path may have. -/
def maxPathBytes : Nat := 4095

/-- Where a path starts. -/
def origin (t : Tree) (path : Text) : Spot := .within (if Path.isAbsolute path then [] else t.base)

/-- Follows names; each must stand in a directory, the last need not exist. -/
def walk (t : Tree) : Spot → List Text → Except Fault Spot
  | spot, [] => .ok spot
  | spot, n :: r =>
    match t.at? spot.place with
    | none => .error .notFound
    | some (.file _) => .error .notDirectory
    | some .directory =>
      if n = ['.'] then walk t spot r
      else if n = ['.', '.'] then walk t spot.up r
      else if maxNameBytes < Text.byteCount n then .error .nameTooLong
      else walk t (spot.down n) r

/-- What is wrong with a path before it is followed. -/
def pathFault? (path : Text) : Option Fault :=
  if path.contains '\x00' then some .zeroInPath
  else if path.isEmpty then some .notFound
  else if maxPathBytes < Text.byteCount path then some .nameTooLong
  else none

/-- Where a path leads. A slash at its end asks for a directory. -/
def locate (t : Tree) (path : Text) : Except Fault Spot :=
  match pathFault? path with
  | some f => .error f
  | none =>
    t.walk (t.origin path) (Path.names path ++ if Path.endsWithSlash path then [['.']] else [])

/-! ## Reading -/

/-- The bytes of the file at a path. -/
def read (t : Tree) (path : Text) : Except Fault (List UInt8) :=
  match t.locate path with
  | .error f => .error f
  | .ok spot =>
    match t.at? spot.place with
    | none => .error .notFound
    | some .directory => .error .isDirectory
    | some (.file bytes) => .ok bytes

/-- The text of the file at a path. -/
def readText (t : Tree) (path : Text) : Except Fault Text :=
  match t.read path with
  | .error f => .error f
  | .ok bytes =>
    match Text.ofBytes? bytes with
    | some s => .ok s
    | none => .error .notText

/-! ## Writing -/

/-- Creates the directories along names, as far as nothing is in the way. -/
def makeAlong (t : Tree) : Spot → List Text → Tree × Option Fault
  | _, [] => (t, none)
  | spot, n :: r =>
    if n = ['.'] then makeAlong t spot r
    else if n = ['.', '.'] then makeAlong t spot.up r
    else if maxNameBytes < Text.byteCount n then (t, some .nameTooLong)
    else
      let next := spot.down n
      match t.at? next.place with
      | some .directory => makeAlong t next r
      | some (.file _) => (t, some (if r.isEmpty then .alreadyExists else .notDirectory))
      | none => makeAlong (t.put next.place .directory) next r

/-- Creates the directories of a path that do not exist. -/
def makeDirs (t : Tree) (path : Text) : Tree × Option Fault :=
  if path.isEmpty then (t, none)
  else
    match pathFault? path with
    | some f => (t, some f)
    | none => t.makeAlong (t.origin path) (Path.names path)

/-- Puts a file at a path; its directory must exist. -/
def write (t : Tree) (path : Text) (bytes : List UInt8) : Tree × Option Fault :=
  match pathFault? path with
  | some f => (t, some f)
  | none =>
    match (Path.names path).getLast? with
    | none => (t, some .isDirectory)
    | some last =>
      match t.walk (t.origin path) ((Path.names path).dropLast ++ [['.']]) with
      | .error f => (t, some f)
      | .ok dir =>
        if Path.endsWithSlash path || last = ['.'] || last = ['.', '.'] then (t, some .isDirectory)
        else if maxNameBytes < Text.byteCount last then (t, some .nameTooLong)
        else
          let next := dir.down last
          match t.at? next.place with
          | some .directory => (t, some .isDirectory)
          | _ => (t.put next.place (.file bytes), none)

/-! ## Writing with directories -/

/-- A fault with what was being done. -/
def during (doing path : Text) (f : Fault) : Text := doing ++ path ++ ": ".toList ++ f.text

/-- Puts a text at a path after creating the directories that lead to it. Directories that were created
stay when the text cannot be written. -/
def save (t : Tree) (path contents : Text) : Tree × Option Text :=
  match Path.parent? path with
  | none => (t, some ("Path has no parent directory: ".toList ++ path))
  | some dir =>
    match t.makeDirs dir with
    | (t', some f) => (t', some (during "Failed to create directory ".toList dir f))
    | (t', none) =>
      match t'.write path (Text.toBytes contents) with
      | (t'', some f) => (t'', some (during "Failed to write ".toList path f))
      | (t'', none) => (t'', none)

end Tree
end StylePrune.Files
