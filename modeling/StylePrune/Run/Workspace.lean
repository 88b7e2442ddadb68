import StylePrune.Run.Purge
import StylePrune.Split.Index

/-!
The directory of a run.

Each run has a directory of its own below the output directory, named by the identifier of the run, so
that runs never share files. It holds a copy of the page, and the purged stylesheet as one file or, when
it is split, as one file for each group with an index.
-/
namespace StylePrune.Run

/-- The directory of a run. -/
structure Workspace where
  runId : Text
  root : Text
deriving DecidableEq, Repr

namespace Workspace

/-- Name of the copy of the page. -/
def pageFileName : Text := "page.html".toList

/-- Name of the directory of a split stylesheet. -/
def splitDirName : Text := "css-split".toList

/-- Name of the index of a split stylesheet. -/
def indexFileName : Text := "index.json".toList

/-- The directory of a run below an output directory. -/
def below (outputDir runId : Text) : Workspace := ⟨runId, Path.join outputDir runId⟩

/-- Path of the copy of the page. -/
def pagePath (w : Workspace) : Text := Path.join w.root pageFileName

/-- Path of a purged stylesheet that is not split. -/
def purgedPath (w : Workspace) : Text := Path.join w.root purgedFileName

/-- Path of the directory of a split stylesheet. -/
def splitDir (w : Workspace) : Text := Path.join w.root splitDirName

/-- Creates the directory of a run. -/
def create (w : Workspace) (t : Files.Tree) : Files.Tree × Option Text :=
  match t.makeDirs w.root with
  | (t', none) => (t', none)
  | (t', some f) => (t', some (Files.Tree.during "Failed to create run directory ".toList w.root f))

/-- Writes files in order up to the first that cannot be written. -/
def saveAll : List (Text × Text) → Files.Tree → Files.Tree × Option Text
  | [], t => (t, none)
  | (path, contents) :: r, t =>
    match t.save path contents with
    | (t', none) => saveAll r t'
    | (t', some m) => (t', some m)

/-- The files of a split stylesheet: one for each group, and the index. -/
def splitFiles (w : Workspace) (groups : List SplitGroup) : List (Text × Text) :=
  let index := SplitIndex.ofGroups groups
  ((groups.zip index.entries).map fun g => (Path.join w.splitDir g.2.fileName, g.1.css)) ++
    [(Path.join w.splitDir indexFileName, index.toJson)]

/-- The files of a purged stylesheet. -/
def resultFiles (w : Workspace) (p : Purged) : List (Text × Text) :=
  match p.groups with
  | some groups => w.splitFiles groups
  | none => [(w.purgedPath, p.css)]

end Workspace
end StylePrune.Run
