import Mathlib.Data.List.Nodup
import StylePrune.Proofs.Json.Shapes
import StylePrune.Split.Index

/-!
Reading back the index of a split stylesheet.

An entry is written as an object with its key, its file name and, if it has one, its condition. Every index
that is written has the shape that the reader asks for, whatever characters its texts hold, so reading its JSON
gives the index (`ofJson_toJson`).
-/
namespace StylePrune.SplitIndex

open Json (Shape Datum Value Member)

def entryMembers (e : IndexEntry) : List Member :=
  [⟨"key".toList, .text "a string".toList, .string e.key, .text e.key⟩,
    ⟨"file_name".toList, .text "a string".toList, .string e.fileName, .text e.fileName⟩] ++
  match e.media with
  | some m => [⟨"media".toList, .optional (.text "a string".toList), .string m, .text m⟩]
  | none => []

def entryDatum (e : IndexEntry) : Datum := .record ((entryMembers e).map Member.read)

theorem entryValue_eq (e : IndexEntry) : entryValue e = .object ((entryMembers e).map Member.written) := by
  obtain ⟨key, fileName, media⟩ := e
  cases media with
  | none => rfl
  | some m => rfl

theorem entryOf_entryDatum (e : IndexEntry) : entryOf (entryDatum e) = e := by
  obtain ⟨key, fileName, media⟩ := e
  cases media with
  | none => rfl
  | some m => rfl

def entryFields : List (Text × Bool × Shape) :=
  [("key".toList, false, .text "a string".toList), ("file_name".toList, false, .text "a string".toList),
    ("media".toList, true, .optional (.text "a string".toList))]

theorem writes_member {e : IndexEntry} {m : Member} (hm : m ∈ entryMembers e) :
    m.shape.Writes m.value m.datum ∧
      ∃ absent, entryFields.find? (fun f => f.1 == m.name) = some (m.name, absent, m.shape) := by
  rw [entryMembers, List.mem_append] at hm
  rcases hm with hm | hm
  · rcases List.mem_cons.1 hm with rfl | hm
    · exact ⟨.text, _, rfl⟩
    · obtain rfl := List.mem_singleton.1 hm
      exact ⟨.text, _, rfl⟩
  · split at hm
    · obtain rfl := List.mem_singleton.1 hm
      exact ⟨.optional .text, _, rfl⟩
    · cases hm

theorem nodup_entryMembers (e : IndexEntry) : ((entryMembers e).map Member.name).Nodup := by
  have hall : ["key".toList, "file_name".toList, "media".toList].Nodup := by decide
  refine hall.sublist ?_
  obtain ⟨key, fileName, media⟩ := e
  cases media with
  | none => exact List.sublist_append_left ["key".toList, "file_name".toList] ["media".toList]
  | some m => exact List.Sublist.refl _

/-- An entry without a condition lacks no member that it must have. -/
theorem mem_entryMembers {e : IndexEntry} {f : Text × Bool × Shape} (hf : f ∈ entryFields)
    (hgiven : f.2.1 = false) : f.1 ∈ (entryMembers e).map Member.name := by
  have hrequired : f.1 ∈ ["key".toList, "file_name".toList] := by
    rcases List.mem_cons.1 hf with rfl | hf
    · exact List.mem_cons_self
    · rcases List.mem_cons.1 hf with rfl | hf
      · exact List.mem_cons_of_mem _ List.mem_cons_self
      · obtain rfl := List.mem_singleton.1 hf
        cases hgiven
  rw [entryMembers, List.map_append]
  exact List.mem_append_left _ hrequired

theorem writes_entry (e : IndexEntry) :
    (Shape.record "SplitIndexEntry".toList entryFields).Writes (entryValue e) (entryDatum e) := by
  rw [entryValue_eq]
  exact .record (fun m hm => (writes_member hm).1) (fun m hm => (writes_member hm).2) (nodup_entryMembers e)
    fun f hf hgiven => mem_entryMembers hf hgiven

def indexDatum (i : SplitIndex) : Datum := .record [("entries".toList, .list (i.entries.map entryDatum))]

theorem writes_index (i : SplitIndex) : shape.Writes i.toValue (indexDatum i) := by
  have hitems : (Shape.list (.record "SplitIndexEntry".toList entryFields)).Writes
      (.array (i.entries.map entryValue)) (.list (i.entries.map entryDatum)) :=
    .list_map fun e _ => writes_entry e
  let entries : Member := ⟨"entries".toList, .list (.record "SplitIndexEntry".toList entryFields),
    .array (i.entries.map entryValue), .list (i.entries.map entryDatum)⟩
  show shape.Writes (.object ([entries].map Member.written)) (.record ([entries].map Member.read))
  refine .record ?_ ?_ (List.nodup_singleton _) ?_
  · intro m hm
    obtain rfl := List.mem_singleton.1 hm
    exact hitems
  · intro m hm
    obtain rfl := List.mem_singleton.1 hm
    exact ⟨_, rfl⟩
  · intro f hf _
    obtain rfl := List.mem_singleton.1 hf
    exact List.mem_cons_self

theorem ofJson_toJson (i : SplitIndex) : ofJson i.toJson = .ok i := by
  have hentries : (i.entries.map entryDatum).map entryOf = i.entries := by
    rw [List.map_map]
    exact (List.map_congr_left fun e _ => entryOf_entryDatum e).trans (List.map_id _)
  rw [ofJson, toJson, (writes_index i).parse]
  show Except.ok (SplitIndex.mk ((i.entries.map entryDatum).map entryOf)) = _
  rw [hentries]

end StylePrune.SplitIndex
