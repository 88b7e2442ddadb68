import StylePrune.Page.StyleLinks
import StylePrune.Proofs.Markup.LinkTag
import StylePrune.Proofs.Split.Conditions
import StylePrune.Proofs.Split.Keys

/-!
Reading back the link tags of an index.

A page of link tags has the links that the tags were written for, so the stylesheets that it links are those that the
tags name (`styleLinks_join`). The address of a file below an address of the web is absolute as it is
(`absoluteHref?_fileHref`), and the condition of a group is trimmed already, so nothing of an index is lost
(`styleLinks_ofGroups`). `styleLinks_linkTags` says both.
-/
namespace StylePrune

namespace Page

/-! ## One tag -/

def linked? (t : Text × Option Text) : Option StyleLink :=
  (absoluteHref? t.1).map fun url => ⟨url, t.2.bind condition?⟩

theorem ofLink?_linkOf (t : Text × Option Text) : StyleLink.ofLink? (Markup.linkOf t) = linked? t := by
  obtain ⟨href, media⟩ := t
  cases media with
  | none => rfl
  | some m => rfl

theorem styleLinks_join {ts : List (Text × Option Text)} (hts : ∀ t ∈ ts, Markup.Writable t) :
    styleLinks (Text.join ['\n'] (ts.map fun t => SplitIndex.linkTag t.1 t.2)) = ts.filterMap linked? := by
  rw [styleLinks, Markup.pageLinks_linkTags hts, List.filterMap_map]
  exact List.filterMap_congr fun t _ => ofLink?_linkOf t

/-! ## The tags of an index -/

/-- An address of the web that goes on behind its scheme with more than slashes. -/
def IsWebBase (base : Text) : Prop :=
  ∃ rest, (base = "http://".toList ++ rest ∨ base = "https://".toList ++ rest) ∧ ∃ c ∈ rest, c ≠ '/'

theorem IsWebBase.dropSlashes {base : Text} (h : IsWebBase base) :
    ∃ rest, Text.dropEndWhile (· == '/') base = "http://".toList ++ rest ∨
      Text.dropEndWhile (· == '/') base = "https://".toList ++ rest := by
  obtain ⟨rest, hbase, c, hc, hslash⟩ := h
  have hleft : (Text.dropEndWhile (· == '/') rest).isEmpty = false := by
    refine Bool.eq_false_iff.2 fun hnil => hslash ?_
    simpa using List.rdropWhile_eq_nil_iff.1 (List.isEmpty_iff.1 hnil) c hc
  refine ⟨Text.dropEndWhile (· == '/') rest, hbase.imp ?_ ?_⟩
  · rintro rfl
    rw [Text.dropEndWhile_append, hleft]
    rfl
  · rintro rfl
    rw [Text.dropEndWhile_append, hleft]
    rfl

/-- The address of the file of a key below a base address without slashes at its end. -/
def fileHref (base key : Text) : Text := base ++ '/' :: (key ++ ".css".toList)

theorem absoluteHref?_fileHref {base rest : Text}
    (h : base = "http://".toList ++ rest ∨ base = "https://".toList ++ rest) (key : Text) :
    absoluteHref? (fileHref base key) = some (fileHref base key) := by
  have hlast : fileHref base key = (base ++ '/' :: (key ++ ".cs".toList)) ++ ['s'] := by
    rw [List.append_assoc, List.cons_append, List.append_assoc]
    rfl
  have htrim : Text.trim (fileHref base key) = fileHref base key := by
    refine Text.trim_eq_self (fun c hc => ?_) (fun c hc => ?_)
    · rcases h with rfl | rfl <;> cases hc <;> rfl
    · rw [hlast, List.getLast?_concat] at hc
      cases hc
      rfl
  rw [absoluteHref?]
  simp only [htrim]
  rcases h with rfl | rfl <;> rfl

/-- Of a condition without white space at its ends everything is read. -/
theorem bind_condition?_of_trim {media : Option Text} (h : ∀ m ∈ media, Text.trim m = m) :
    media.bind condition? = media.filter fun m => !m.isEmpty := by
  cases media with
  | none => rfl
  | some m =>
    rw [Option.bind_some, condition?, h m rfl, Option.filter_some]
    cases m.isEmpty <;> rfl

open Split (split)

variable {css base : Text}

theorem linkTags_ofGroups (h : IsWebBase base) (groups : List SplitGroup) :
    (SplitIndex.ofGroups groups).linkTags base =
      Text.join ['\n'] ((groups.map fun g => (fileHref (Text.dropEndWhile (· == '/') base) g.key, g.media)).map
        fun t => SplitIndex.linkTag t.1 t.2) := by
  have hbase : (Text.dropEndWhile (· == '/') base).isEmpty = false := by
    obtain ⟨rest, h | h⟩ := h.dropSlashes <;> rw [h] <;> rfl
  simp only [SplitIndex.linkTags, SplitIndex.ofGroups, SplitIndex.hrefOf, hbase, List.map_map, Function.comp_def,
    Bool.false_eq_true, if_false, fileHref]

theorem writable_group {g : SplitGroup} (hg : g ∈ split css) (hbase : '\x00' ∉ base ∧ '\r' ∉ base)
    (hmedia : ∀ m ∈ g.media, '\x00' ∉ m ∧ '\r' ∉ m) :
    Markup.Writable (fileHref (Text.dropEndWhile (· == '/') base) g.key, g.media) := by
  have hhref (c : Char) (hc : c ∉ base) (hkey : c ∉ g.key) (hrest : c ∉ '/' :: ".css".toList) :
      c ∉ fileHref (Text.dropEndWhile (· == '/') base) g.key := by
    rw [fileHref, List.mem_append, List.mem_cons, List.mem_append]
    rintro (h | h | h | h)
    · exact hc ((List.rdropWhile_prefix _ base).subset h)
    · exact hrest (List.mem_cons.2 (.inl h))
    · exact hkey h
    · exact hrest (List.mem_cons_of_mem _ h)
  exact ⟨⟨hhref _ hbase.1 (Split.notMem_key (by decide) (by decide) hg) (by decide),
    hhref _ hbase.2 (Split.notMem_key (by decide) (by decide) hg) (by decide)⟩, hmedia⟩

/-- The index of a stylesheet is read back from its link tags. -/
theorem styleLinks_ofGroups (h : IsWebBase base) (hbase : '\x00' ∉ base ∧ '\r' ∉ base)
    (hmedia : ∀ g ∈ split css, ∀ m ∈ g.media, '\x00' ∉ m ∧ '\r' ∉ m) :
    styleLinks ((SplitIndex.ofGroups (split css)).linkTags base) =
      (split css).map fun g =>
        ⟨fileHref (Text.dropEndWhile (· == '/') base) g.key, g.media.filter fun m => !m.isEmpty⟩ := by
  obtain ⟨rest, hscheme⟩ := h.dropSlashes
  rw [linkTags_ofGroups h, styleLinks_join, List.filterMap_map]
  · refine (List.filterMap_congr fun g hg => ?_).trans (congrFun List.filterMap_eq_map (split css))
    rw [Function.comp_apply, linked?, absoluteHref?_fileHref hscheme,
      bind_condition?_of_trim fun m hm => Split.trim_media hg hm]
    rfl
  · intro t ht
    obtain ⟨g, hg, rfl⟩ := List.mem_map.1 ht
    exact writable_group hg hbase (hmedia g hg)

/-- **Link tags are read back.** Each tag whose address is accepted comes back in its place with that address and its
condition, whatever characters it has that markup can write. So an index comes back from its tags with every group,
if the base address is one of the web. -/
theorem styleLinks_linkTags :
    (∀ ts : List (Text × Option Text), (∀ t ∈ ts, Markup.Writable t) →
        styleLinks (Text.join ['\n'] (ts.map fun t => SplitIndex.linkTag t.1 t.2)) =
          ts.filterMap fun t => (absoluteHref? t.1).map fun url => ⟨url, t.2.bind condition?⟩) ∧
      ∀ css base : Text, IsWebBase base → '\x00' ∉ base ∧ '\r' ∉ base →
        (∀ g ∈ split css, ∀ m ∈ g.media, '\x00' ∉ m ∧ '\r' ∉ m) →
        styleLinks ((SplitIndex.ofGroups (split css)).linkTags base) =
          (split css).map fun g =>
            ⟨Text.dropEndWhile (· == '/') base ++ '/' :: (g.key ++ ".css".toList),
              g.media.filter fun m => !m.isEmpty⟩ :=
  ⟨fun _ hts => styleLinks_join hts, fun _ _ h hbase hmedia => styleLinks_ofGroups h hbase hmedia⟩

/-- Tags with every character that is escaped, one without a scheme, and one that is left out. -/
def sampleTags : List (Text × Option Text) :=
  [(" https://host/a.css?x=\"<&amp;>".toList, some " print ".toList), ("//host/b.css".toList, some [' ']),
    ("c.css".toList, none)]

def sampleSheet : Text := "a\x7b\x7d@media print\x7bb\x7b\x7d\x7d".toList

theorem styleLinks_linkTags_sample :
    (∀ t ∈ sampleTags, Markup.Writable t) ∧ IsWebBase "https://host/v1//".toList ∧
      (∀ g ∈ split sampleSheet, ∀ m ∈ g.media, '\x00' ∉ m ∧ '\r' ∉ m) ∧
      styleLinks (Text.join ['\n'] (sampleTags.map fun t => SplitIndex.linkTag t.1 t.2)) =
        [⟨"https://host/a.css?x=\"<&amp;>".toList, some "print".toList⟩,
          ⟨"https://host/b.css".toList, none⟩] ∧
      styleLinks ((SplitIndex.ofGroups (split sampleSheet)).linkTags "https://host/v1//".toList) =
        (split sampleSheet).map fun g =>
          ⟨"https://host/v1".toList ++ '/' :: (g.key ++ ".css".toList), g.media.filter fun m => !m.isEmpty⟩ := by
  have htags : ∀ t ∈ sampleTags, Markup.Writable t := by
    intro t ht
    simp only [sampleTags, List.mem_cons, List.not_mem_nil, or_false] at ht
    rcases ht with rfl | rfl | rfl
    · exact ⟨by decide, fun m hm => by cases hm; decide⟩
    · exact ⟨by decide, fun m hm => by cases hm; decide⟩
    · exact ⟨by decide, fun m hm => by cases hm⟩
  have hconditions : Split.conditions (Outline.nodes sampleSheet) = ["print".toList] := by decide +kernel
  have hmedia : ∀ g ∈ split sampleSheet, ∀ m ∈ g.media, '\x00' ∉ m ∧ '\r' ∉ m := by
    intro g hg m hm
    have hcondition := Split.mem_conditions_of_media hg hm
    rw [hconditions, List.mem_singleton] at hcondition
    rw [hcondition]
    decide
  have hbase : IsWebBase "https://host/v1//".toList := ⟨"host/v1//".toList, .inr rfl, 'h', by decide, by decide⟩
  exact ⟨htags, hbase, hmedia, styleLinks_linkTags.1 sampleTags htags,
    styleLinks_linkTags.2 sampleSheet "https://host/v1//".toList hbase (by decide) hmedia⟩

end Page
end StylePrune
