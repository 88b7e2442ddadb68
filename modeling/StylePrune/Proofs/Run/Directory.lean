import StylePrune.Proofs.Run.SplitOutput
import StylePrune.Run.Identifier

/-!
The directory of a run.

The identifier of a run is a name for a directory (`plain_identifier`). Where it is new (`Fresh`), the directory is
empty when it has been created, and what is saved below it from then on is all that it lists: the copy of the page,
and the purged stylesheet or its groups (`resultListing`). Outside it, at most the directories on the way to it are
created (`Leaves`). `Leaves.page` and `Leaves.result` say so for the two writes of a run.
-/
namespace StylePrune.Run

open Files (Tree Place Entry)

/-! ## Identifiers -/

theorem isDigit_of_mem_padded {width n : Nat} {c : Char} (h : c ∈ padded width n) : c.isDigit = true := by
  rcases List.mem_append.1 h with h | h
  · rw [List.eq_of_mem_replicate h]
    rfl
  · exact Text.isDigit_of_mem_ofNat h

theorem mem_stamp {seconds : Nat} {c : Char} (h : c ∈ stamp seconds) : c.isDigit = true ∨ c = 'T' ∨ c = 'Z' := by
  simp only [stamp, List.mem_append, List.mem_cons, List.not_mem_nil, or_false] at h
  rcases h with ((h | h) | h) | rfl | ((h | h) | h) | rfl
  · exact .inl (isDigit_of_mem_padded h)
  · exact .inl (isDigit_of_mem_padded h)
  · exact .inl (isDigit_of_mem_padded h)
  · exact .inr (.inl rfl)
  · exact .inl (isDigit_of_mem_padded h)
  · exact .inl (isDigit_of_mem_padded h)
  · exact .inl (isDigit_of_mem_padded h)
  · exact .inr (.inr rfl)

theorem digitChar_isAlphanum {n : Nat} (h : n < 16) : (Nat.digitChar n).isAlphanum = true := by
  have hall : ∀ m < 16, (Nat.digitChar m).isAlphanum = true := by decide
  exact hall n h

theorem mem_hexByte {b : UInt8} {c : Char} (h : c ∈ hexByte b) : c.isAlphanum = true := by
  have hb := b.toNat_lt
  rcases List.mem_pair.1 h with rfl | rfl
  · exact digitChar_isAlphanum (by omega)
  · exact digitChar_isAlphanum (by omega)

theorem mem_identifier {seconds : Nat} {random : List UInt8} {c : Char} (h : c ∈ identifier seconds random) :
    c.isAlphanum = true ∨ c = '-' := by
  rcases List.mem_append.1 h with h | h
  · rcases mem_stamp h with h | rfl | rfl
    · rw [Char.isAlphanum, h, Bool.or_true]
      exact .inl rfl
    · exact .inl rfl
    · exact .inl rfl
  · rcases List.mem_cons.1 h with rfl | h
    · exact .inr rfl
    · obtain ⟨b, -, hb⟩ := List.mem_flatMap.1 h
      exact .inl (mem_hexByte hb)

variable (seconds : Nat) (random : List UInt8)

theorem dot_notMem_identifier : '.' ∉ identifier seconds random := by
  intro h
  exact absurd (mem_identifier h) (by decide)

theorem plain_identifier : Path.Plain (identifier seconds random) where
  nonempty := List.append_ne_nil_of_right_ne_nil _ (List.cons_ne_nil _ _)
  slash := by
    intro h
    exact absurd (mem_identifier h) (by decide)
  dot := by
    intro h
    apply dot_notMem_identifier seconds random
    rw [h]
    exact List.mem_cons_self
  dots := by
    intro h
    apply dot_notMem_identifier seconds random
    rw [h]
    exact List.mem_cons_self

/-! ## A new directory -/

/-- The identifier is new: the way to the output directory does not pass the directory of the run, and nothing stands
there or below. -/
structure Fresh (t : Tree) (outputDir runId : Text) : Prop where
  aside : ∀ p, t.OnWay outputDir p → ¬ t.placeOf (Path.join outputDir runId) <+: p
  unused : ∀ r, t.at? (t.placeOf (Path.join outputDir runId) ++ r) = none

/-- What a run leaves: its directory with these entries, and outside it all that was there, with at most new
directories on the way to it. -/
structure Leaves (old new : Tree) (ws : Workspace) (es : List (Place × Entry)) : Prop where
  base : new.base = old.base
  directory : new.at? (old.placeOf ws.root) = some .directory
  listed : new.below (old.placeOf ws.root) = es
  outside : ∀ p, ¬ old.placeOf ws.root <+: p → new.at? p = old.at? p ∨
    (old.at? p = none ∧ new.at? p = some .directory ∧ old.OnWay ws.root p)

variable {t t' : Tree} {ws : Workspace} {outputDir runId : Text}

/-- An identifier is new if it is no name of the output directory and nothing has it for a name on the way to it. -/
theorem fresh_of_unnamed (hid : Path.Plain runId) (hnames : runId ∉ Path.names outputDir)
    (hall : ∀ e ∈ t.all, runId ∉ e.1) : Fresh t outputDir runId := by
  have hunused : ∀ q, runId ∈ q → t.at? q = none := by
    intro q hq
    rw [Tree.at?, List.lookup_eq_none_iff]
    intro e he
    rw [bne_iff_ne]
    rintro rfl
    exact hall e he hq
  have hmem : runId ∈ t.placeOf (Path.join outputDir runId) := by
    rw [Tree.placeOf_join t outputDir hid]
    exact List.mem_append_right _ (List.mem_singleton_self runId)
  refine ⟨fun p hway hbelow => ?_, fun r => hunused _ (List.mem_append_left r hmem)⟩
  rcases Tree.mem_of_onWay hway (hbelow.subset hmem) with hname | hbase
  · exact hnames hname
  · -- the working directory is there
    have hnone := hunused t.base hbase
    rw [Tree.at?_base] at hnone
    cases hnone

/-- A new directory is empty when it has been created, and only what is on the way to it is created with it. -/
theorem Fresh.leaves (h : Fresh t outputDir runId) (hid : Path.Plain runId)
    (hcreate : (Workspace.below outputDir runId).create t = (t', none)) :
    Leaves t t' (.below outputDir runId) [] := by
  have hmade := Workspace.makeDirs_of_create hcreate
  refine ⟨(Tree.makeDirs_keepsDirs hmade).base, Tree.directory_of_makeDirs_join hid hmade,
    Tree.below_eq_nil fun r hr => ?_, fun p _ => Tree.at?_makeDirs hmade p⟩
  rcases Tree.at?_makeDirs hmade (t.placeOf (Path.join outputDir runId) ++ r) with hsame | ⟨-, -, hway⟩
  · exact hsame.trans (h.unused r)
  exfalso
  rcases Tree.onWay_join hid hway with hway | hself
  · exact h.aside _ hway (List.prefix_append _ r)
  · exact hr (List.self_eq_append_right.1 hself)

/-! ## What is saved there -/

theorem plain_pageFileName : Path.Plain Workspace.pageFileName := ⟨by decide, by decide, by decide, by decide⟩

theorem plain_purgedFileName : Path.Plain purgedFileName := ⟨by decide, by decide, by decide, by decide⟩

def pageEntry (markup : Text) : Place × Entry := ([Workspace.pageFileName], .file (Text.toBytes markup))

/-- What the directory of a run lists for a purged stylesheet: its file, or the directory of its groups with a file
for each and the index. -/
def resultListing (p : Purged) : List (Place × Entry) :=
  match p.groups with
  | none => [([purgedFileName], .file (Text.toBytes p.css))]
  | some groups => ([Workspace.splitDirName], .directory) ::
      (Workspace.listing (Workspace.namedFiles groups)).map fun e => (Workspace.splitDirName :: e.1, e.2)

theorem ne_nil_of_mem_resultListing {p : Purged} {e : Place × Entry} (he : e ∈ resultListing p) : e.1 ≠ [] := by
  unfold resultListing at he
  split at he
  · obtain rfl := List.mem_singleton.1 he
    exact List.cons_ne_nil _ _
  · rcases List.mem_cons.1 he with rfl | he
    · exact List.cons_ne_nil _ _
    · obtain ⟨f, -, rfl⟩ := List.mem_map.1 he
      exact List.cons_ne_nil _ _

theorem nodup_entries {p : Purged} {isSplit : Bool} (markup : Text)
    (hgroups : p.groups = if isSplit then some (Split.split p.css) else none) :
    (([pageEntry markup] ++ resultListing p).map Prod.fst).Nodup := by
  cases isSplit with
  | false =>
    rw [if_neg Bool.false_ne_true] at hgroups
    simp only [resultListing, hgroups]
    show [[Workspace.pageFileName], [purgedFileName]].Nodup
    decide
  | true =>
    rw [if_pos rfl] at hgroups
    simp only [resultListing, hgroups]
    have hfiles := Workspace.nodup_listing (Workspace.nodup_namedFiles p.css)
    have hplaces : (((Workspace.listing (Workspace.namedFiles (Split.split p.css))).map fun e =>
        ((Workspace.splitDirName :: e.1, e.2) : Place × Entry)).map Prod.fst).Nodup := by
      have := hfiles.map (f := (Workspace.splitDirName :: ·)) fun a b h => (List.cons.inj h).2
      rwa [List.map_map] at this ⊢
    show ([Workspace.pageFileName] :: [Workspace.splitDirName] :: _).Nodup
    refine List.nodup_cons.2 ⟨?_, List.nodup_cons.2 ⟨?_, hplaces⟩⟩
    · intro h
      rcases List.mem_cons.1 h with h | h
      · exact absurd h (by decide)
      · obtain ⟨e, he, h⟩ := List.mem_map.1 h
        obtain ⟨f, -, rfl⟩ := List.mem_map.1 he
        exact absurd (List.cons.inj h).1 (by decide)
    · intro h
      obtain ⟨e, he, h⟩ := List.mem_map.1 h
      obtain ⟨f, hf, rfl⟩ := List.mem_map.1 he
      obtain ⟨g, -, rfl⟩ := List.mem_map.1 hf
      exact absurd (List.cons.inj h).2 (List.cons_ne_nil _ _)

variable {old new : Tree} {es fs : List (Place × Entry)}

theorem Leaves.putAll (h : Leaves old new ws es) (hne : ∀ e ∈ fs, e.1 ≠ [])
    (hnodup : ((es ++ fs).map Prod.fst).Nodup) :
    Leaves old (new.putAll (old.placeOf ws.root) fs) ws (es ++ fs) where
  base := (Tree.base_putAll ..).trans h.base
  directory := by
    rw [Tree.at?_putAll, h.directory]
    intro e he hself
    exact hne e he (List.self_eq_append_right.1 hself)
  listed := by
    rw [List.map_append, List.nodup_append] at hnodup
    obtain ⟨-, hfs, hdistinct⟩ := hnodup
    rw [Tree.below_putAll hne hfs, h.listed]
    rw [h.listed]
    intro e he hmem
    exact hdistinct _ hmem _ (List.mem_map_of_mem he) rfl
  outside := by
    intro p hp
    have hsame : (new.putAll (old.placeOf ws.root) fs).at? p = new.at? p := by
      apply Tree.at?_putAll
      rintro e - rfl
      exact hp (List.prefix_append _ e.1)
    rw [hsame]
    exact h.outside p hp

theorem Leaves.readText (h : Leaves old new ws es) (hnodup : (es.map Prod.fst).Nodup) {path contents : Text}
    {r : Place} (hr : r ≠ []) (hlocate : new.locate path = .ok (.within (old.placeOf ws.root ++ r)))
    (hmem : (r, .file (Text.toBytes contents)) ∈ es) : new.readText path = .ok contents := by
  apply Tree.readText_of_locate hlocate
  rw [← h.listed] at hnodup hmem
  exact Tree.at?_of_mem_below hnodup hmem hr

theorem Leaves.place (h : Leaves old new ws es) : new.placeOf ws.root = old.placeOf ws.root :=
  Tree.placeOf_congr h.base ws.root

/-- The files of a purged stylesheet have been put into the directory of a run, and each is found there. -/
structure Saved (ws : Workspace) (p : Purged) (t t' : Tree) : Prop where
  puts : t' = t.putAll (t.placeOf ws.root) (resultListing p)
  keeps : Tree.KeepsDirs t t'
  found : ∀ f ∈ ws.resultFiles p, ∃ r, t'.locate f.1 = .ok (.within (t.placeOf ws.root ++ r)) ∧
    (r, .file (Text.toBytes f.2)) ∈ resultListing p

section Writes

variable {markup : Text} {p : Purged} {isSplit : Bool}
variable (hroot : new.makeDirs ws.root = (new, none))
include hroot

theorem Leaves.saved_groups (h : Leaves old new ws es) (hnew : [Workspace.splitDirName] ∉ es.map Prod.fst)
    (hgroups : p.groups = some (Split.split p.css))
    (hsaved : Workspace.saveAll (ws.resultFiles p) new = (t', none)) : Saved ws p new t' := by
  have hfiles : ws.resultFiles p =
      (Workspace.namedFiles (Split.split p.css)).map fun f => (Path.join ws.splitDir f.1, f.2) := by
    simp only [Workspace.resultFiles, hgroups]
    exact Workspace.splitFiles_eq ws _
  have hlisting : resultListing p = ([Workspace.splitDirName], .directory) ::
      (Workspace.listing (Workspace.namedFiles (Split.split p.css))).map fun e =>
        (Workspace.splitDirName :: e.1, e.2) := by
    simp only [resultListing, hgroups]
  have hplain := Workspace.plain_namedFiles p.css
  have hplace : new.placeOf ws.splitDir = new.placeOf ws.root ++ [Workspace.splitDirName] :=
    Tree.placeOf_join new ws.root Workspace.plain_splitDirName
  rw [hfiles] at hsaved
  -- the directory of the groups is new, and it is created for the first file
  obtain ⟨t₁, hmade, hsaved⟩ := Workspace.exists_makeDirs_of_saveAll (Workspace.parent?_splitDir ws) hplain
    (by simp [Workspace.namedFiles]) hsaved
  obtain rfl : t₁ = new.put (new.placeOf ws.root ++ [Workspace.splitDirName]) .directory := by
    rcases Tree.makeDirs_join Workspace.plain_splitDirName hroot hmade with ⟨hthere, -⟩ | ⟨-, hput⟩
    · rw [h.place, Tree.at?_append new _ (List.cons_ne_nil _ _), h.listed] at hthere
      exact absurd (Tree.mem_of_lookup hthere) hnew
    · exact hput
  have hthere := (Tree.placeOf_congr (Tree.makeDirs_keepsDirs hmade).base ws.splitDir).trans hplace
  obtain ⟨hputs, hkeeps, hfound⟩ := Workspace.saveAll_puts hthere (Workspace.parent?_splitDir ws) hplain
    (Tree.makeDirs_again hmade (.refl _)) hsaved
  rw [Tree.putAll_below] at hputs
  refine ⟨hlisting ▸ hputs, (Tree.keepsDirs_put_directory new _).trans hkeeps, ?_⟩
  rw [hfiles, hlisting]
  intro f hf
  obtain ⟨g, hg, rfl⟩ := List.mem_map.1 hf
  refine ⟨[Workspace.splitDirName, g.1], ?_, ?_⟩
  · rw [hfound g hg, List.append_assoc]
    rfl
  · exact List.mem_cons_of_mem _ (List.mem_map.2 ⟨_, List.mem_map_of_mem hg, rfl⟩)

variable (hparent : ∀ {n : Text}, Path.Plain n → Path.parent? (Path.join ws.root n) = some ws.root)
include hparent

theorem Leaves.page (h : Leaves old new ws []) (hsave : new.save ws.pagePath markup = (t', none)) :
    Leaves old t' ws [pageEntry markup] ∧ Tree.KeepsDirs new t' ∧
      t'.locate ws.pagePath = .ok (.within (old.placeOf ws.root ++ [Workspace.pageFileName])) := by
  obtain ⟨rfl, hkeeps, hlocate⟩ := Tree.save_join plain_pageFileName (hparent plain_pageFileName) hroot hsave
  rw [h.place] at hkeeps hlocate ⊢
  refine ⟨?_, hkeeps, hlocate⟩
  have hne : ∀ e ∈ [pageEntry markup], e.1 ≠ [] := by
    intro e he
    obtain rfl := List.mem_singleton.1 he
    exact List.cons_ne_nil _ _
  exact h.putAll hne (List.nodup_singleton _)

theorem saved_file (hgroups : p.groups = none)
    (hsaved : Workspace.saveAll (ws.resultFiles p) new = (t', none)) : Saved ws p new t' := by
  have hfiles : ws.resultFiles p = [(purgedFileName, p.css)].map fun f => (Path.join ws.root f.1, f.2) := by
    simp only [Workspace.resultFiles, hgroups]
    rfl
  have hlisting : resultListing p = Workspace.listing [(purgedFileName, p.css)] := by
    simp only [resultListing, hgroups]
    rfl
  have hplain : ∀ f ∈ [(purgedFileName, p.css)], Path.Plain f.1 := by
    intro f hf
    obtain rfl := List.mem_singleton.1 hf
    exact plain_purgedFileName
  rw [hfiles] at hsaved
  obtain ⟨hputs, hkeeps, hfound⟩ := Workspace.saveAll_puts rfl hparent hplain hroot hsaved
  refine ⟨hlisting ▸ hputs, hkeeps, ?_⟩
  rw [hfiles, hlisting]
  intro f hf
  obtain ⟨g, hg, rfl⟩ := List.mem_map.1 hf
  exact ⟨[g.1], hfound g hg, List.mem_map_of_mem hg⟩

/-- **Saving a purged stylesheet** adds its file, or its groups, and all files of the run are read back. -/
theorem Leaves.result (h : Leaves old new ws [pageEntry markup])
    (hpage : new.locate ws.pagePath = .ok (.within (old.placeOf ws.root ++ [Workspace.pageFileName])))
    (hgroups : p.groups = if isSplit then some (Split.split p.css) else none)
    (hsaved : Workspace.saveAll (ws.resultFiles p) new = (t', none)) :
    Leaves old t' ws (pageEntry markup :: resultListing p) ∧
      ∀ f ∈ (ws.pagePath, markup) :: ws.resultFiles p, t'.readText f.1 = .ok f.2 := by
  have hnew : [Workspace.splitDirName] ∉ [pageEntry markup].map Prod.fst := by
    show [Workspace.splitDirName] ∉ [[Workspace.pageFileName]]
    decide
  obtain ⟨rfl, hkeeps, hfound⟩ : Saved ws p new t' := by
    cases isSplit with
    | false => exact saved_file hroot hparent hgroups hsaved
    | true => exact h.saved_groups hroot hnew hgroups hsaved
  rw [h.place] at hkeeps hfound ⊢
  have hnodup := nodup_entries markup hgroups
  have hleaves := h.putAll (fun e he => ne_nil_of_mem_resultListing he) hnodup
  refine ⟨hleaves, ?_⟩
  intro f hf
  rcases List.mem_cons.1 hf with rfl | hf
  · exact hleaves.readText hnodup (List.cons_ne_nil _ _) (Tree.locate_of_keepsDirs hkeeps hpage) List.mem_cons_self
  · obtain ⟨r, hlocate, hmem⟩ := hfound f hf
    exact hleaves.readText hnodup (ne_nil_of_mem_resultListing hmem) hlocate (List.mem_cons_of_mem _ hmem)

end Writes
end StylePrune.Run
