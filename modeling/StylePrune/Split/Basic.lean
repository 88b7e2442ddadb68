import StylePrune.Outline.Node
import StylePrune.Split.Key

/-!
Splitting a stylesheet by media condition.

`Split.split` puts everything outside media blocks into a base group and the bodies of the media
blocks into one group per condition, in the order in which conditions first appear; conditions are
compared character by character. `Split.reassemble` writes the groups as one stylesheet again.
-/
namespace StylePrune

/-- One part of a split stylesheet. -/
structure SplitGroup where
  key : Text
  /-- The condition as written; none for the base group. -/
  media : Option Text
  css : Text
deriving DecidableEq, Repr

namespace SplitGroup

/-- The group as a stylesheet that stands alone. -/
def wrapped (g : SplitGroup) : Text :=
  match g.media with
  | some condition =>
    if g.css.isEmpty then g.css else "@media ".toList ++ condition ++ '{' :: g.css ++ ['}']
  | none => g.css

end SplitGroup

namespace Split

/-- The bodies found so far under each condition, conditions in order of first appearance. -/
abbrev Bodies := List (Text × List Text)

/-- Adds a body under its condition; a blank body only makes the condition known. -/
def addBody (condition body : Text) : Bodies → Bodies
  | [] => [(condition, if body.isEmpty then [] else [body])]
  | (c, bs) :: r =>
    if c = condition then (c, if body.isEmpty then bs else bs ++ [body]) :: r
    else (c, bs) :: addBody condition body r

/-- The bodies of the media blocks among the nodes, by condition. -/
def mediaBodies (nodes : List Node) : Bodies :=
  nodes.foldl (fun acc n =>
    match n.mediaCondition with
    | some c => addBody c (Text.trim (n.body.getD [])) acc
    | none => acc) []

/-- The texts of the nodes that are no media block. -/
def baseTexts (nodes : List Node) : List Text :=
  (nodes.filter fun n => n.mediaCondition.isNone).map Node.text

/-- Groups for the conditions, each with a key that no earlier group has. -/
def mediaGroups (taken : List Text) : Bodies → List SplitGroup
  | [] => []
  | (condition, bodies) :: r =>
    let key := freshKey (mediaKey condition) taken
    ⟨key, some condition, Text.join ['\n'] bodies⟩ :: mediaGroups (taken ++ [key]) r

/-- The groups of a stylesheet, the base group first. -/
def split (css : Text) : List SplitGroup :=
  let ns := Outline.nodes css
  ⟨baseKey, none, Text.join ['\n'] (baseTexts ns)⟩ :: mediaGroups [baseKey] (mediaBodies ns)

/-- The group with this key. -/
def get? (groups : List SplitGroup) (key : Text) : Option SplitGroup :=
  groups.find? fun g => g.key == key

/-- The rules of the base group. -/
def base (groups : List SplitGroup) : Text := ((get? groups baseKey).map SplitGroup.css).getD []

/-- Puts a key and its text into an ascending list, in place of an entry with the same key. -/
def insertEntry (key css : Text) : List (Text × Text) → List (Text × Text)
  | [] => [(key, css)]
  | (k, v) :: r =>
    match Text.compareCodes key k with
    | .lt => (key, css) :: (k, v) :: r
    | .eq => (key, css) :: r
    | .gt => (k, v) :: insertEntry key css r

/-- Keys with their texts, in ascending order of keys. -/
def toMap (groups : List SplitGroup) : List (Text × Text) :=
  groups.foldl (fun m g => insertEntry g.key g.css m) []

/-- The groups written as one stylesheet, empty ones left out. -/
def reassemble (groups : List SplitGroup) : Text :=
  Text.join ['\n'] ((groups.map SplitGroup.wrapped).filter fun t => !t.isEmpty)

end Split
end StylePrune
