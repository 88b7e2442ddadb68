import StylePrune.Json.Shape
import StylePrune.Split.Basic

/-!
The index of a split stylesheet.

An index lists the file of each group with its key and condition. It is written as JSON, and as the
link tags that load the files.
-/
namespace StylePrune

/-- One file of a split stylesheet. -/
structure IndexEntry where
  key : Text
  fileName : Text
  media : Option Text
deriving DecidableEq, Repr

/-- The files of a split stylesheet in order. -/
structure SplitIndex where
  entries : List IndexEntry
deriving DecidableEq, Repr

namespace SplitIndex

open Json (Shape Datum Value)

/-- The index of groups: the file of each is named by its key. -/
def ofGroups (groups : List SplitGroup) : SplitIndex :=
  ⟨groups.map fun g => ⟨g.key, g.key ++ ".css".toList, g.media⟩⟩

/-! ## JSON -/

/-- How an index is written. -/
def shape : Shape :=
  .record "SplitIndex".toList
    [("entries".toList, false, .list (.record "SplitIndexEntry".toList
      [("key".toList, false, .text "a string".toList),
       ("file_name".toList, false, .text "a string".toList),
       ("media".toList, true, .optional (.text "a string".toList))]))]

/-- An entry that was read. -/
def entryOf (d : Datum) : IndexEntry :=
  ⟨((d.field? "key").bind Datum.text?).getD [], ((d.field? "file_name").bind Datum.text?).getD [],
   (d.field? "media").bind Datum.text?⟩

/-- The index that a JSON text writes. -/
def ofJson (text : Text) : Except Json.Failure SplitIndex :=
  match shape.parse text with
  | .error f => .error f
  | .ok d => .ok ⟨(((d.field? "entries").map Datum.items).getD []).map entryOf⟩

/-- An entry as JSON. -/
def entryValue (e : IndexEntry) : Value :=
  .object ([("key".toList, .string e.key), ("file_name".toList, .string e.fileName)] ++
    match e.media with
    | some m => [("media".toList, .string m)]
    | none => [])

/-- An index as JSON. -/
def toValue (i : SplitIndex) : Value :=
  .object [("entries".toList, .array (i.entries.map entryValue))]

/-- The JSON text of an index. -/
def toJson (i : SplitIndex) : Text := i.toValue.pretty 0

/-! ## Link tags -/

/-- A character inside an attribute value. -/
def escapeChar (c : Char) : Text :=
  if c = '&' then "&amp;".toList
  else if c = '"' then "&quot;".toList
  else if c = '<' then "&lt;".toList
  else if c = '>' then "&gt;".toList
  else [c]

/-- An attribute value between double quotes. -/
def escapeAttribute (value : Text) : Text := value.flatMap escapeChar

/-- A tag that loads a stylesheet. -/
def linkTag (href : Text) (media : Option Text) : Text :=
  "<link rel=\"stylesheet\" href=\"".toList ++ escapeAttribute href ++ ['"'] ++
    (match media with
      | some m => " media=\"".toList ++ escapeAttribute m ++ ['"']
      | none => []) ++ ['>']

/-- The address of a file below a base address without slashes at its end. -/
def hrefOf (base fileName : Text) : Text :=
  if base.isEmpty then fileName else base ++ '/' :: fileName

/-- The tags that load the files of an index, one on each line. -/
def linkTags (baseHref : Text) (i : SplitIndex) : Text :=
  let base := Text.dropEndWhile (· == '/') baseHref
  Text.join ['\n'] (i.entries.map fun e => linkTag (hrefOf base e.fileName) e.media)

end SplitIndex
end StylePrune
