import StylePrune.Proofs.Files.Frame
import StylePrune.Proofs.Split.Index
import StylePrune.Proofs.Split.Keys
import StylePrune.Run.Workspace

/-!
The directory of a split stylesheet, read back.

Files with distinct plain names that are saved into an empty directory are what the directory holds afterwards,
each with its text (`Workspace.saveAll_join`). The files of a split stylesheet are such files: keys are distinct
and have no slash, and no key makes the name of the index. So the index and the files give back the groups
(`Workspace.splitFiles_readBack`).
-/
namespace StylePrune.Run.Workspace

open Files (Tree Place Entry)

variable {t t' : Tree} {q : Place} {d : Text} {files : List (Text × Text)}

/-! ## Files of one directory -/

/-- What a directory lists for files. -/
def listing (files : List (Text × Text)) : List (Place × Entry) :=
  files.map fun f => ([f.1], .file (Text.toBytes f.2))

theorem listing_keys (files : List (Text × Text)) :
    (listing files).map Prod.fst = (files.map Prod.fst).map fun n => [n] := by
  rw [listing, List.map_map, List.map_map]
  rfl

theorem nodup_listing (hnodup : (files.map Prod.fst).Nodup) : ((listing files).map Prod.fst).Nodup := by
  rw [listing_keys]
  exact hnodup.map fun a b h => (List.cons.inj h).1

theorem lookup_listing (hnodup : (files.map Prod.fst).Nodup) {f : Text × Text} (hf : f ∈ files) :
    (listing files).lookup [f.1] = some (.file (Text.toBytes f.2)) :=
  Tree.lookup_of_mem (nodup_listing hnodup) (List.mem_map.2 ⟨f, hf, rfl⟩)

theorem saveAll_puts (hq : t.placeOf d = q)
    (hparent : ∀ {n : Text}, Path.Plain n → Path.parent? (Path.join d n) = some d)
    (hplain : ∀ f ∈ files, Path.Plain f.1) (hd : t.makeDirs d = (t, none))
    (h : saveAll (files.map fun f => (Path.join d f.1, f.2)) t = (t', none)) :
    t' = t.putAll q (listing files) ∧ Tree.KeepsDirs t t' ∧
      ∀ f ∈ files, t'.locate (Path.join d f.1) = .ok (.within (q ++ [f.1])) := by
  induction files generalizing t with
  | nil =>
    cases h
    exact ⟨rfl, .refl _, by simp⟩
  | cons f files ih =>
    rw [List.map_cons, saveAll] at h
    split at h
    · next t₁ hsave =>
      have hf := hplain f List.mem_cons_self
      obtain ⟨rfl, hkeeps, hlocate⟩ := Tree.save_join hf (hparent hf) hd hsave
      rw [hq] at hkeeps hlocate h
      have hq' := (Tree.placeOf_congr hkeeps.base d).trans hq
      obtain ⟨rfl, hkeeps', hfound⟩ := ih hq' (fun g hg => hplain g (List.mem_cons_of_mem f hg))
        (Tree.makeDirs_again hd hkeeps) h
      refine ⟨rfl, hkeeps.trans hkeeps', fun g hg => ?_⟩
      rcases List.mem_cons.1 hg with rfl | hg
      · exact Tree.locate_of_keepsDirs hkeeps' hlocate
      · exact hfound g hg
    · cases h

/-- Saving files into a directory that exists adds them to what it lists, and each is found there. -/
theorem saveAll_below (hq : t.placeOf d = q)
    (hparent : ∀ {n : Text}, Path.Plain n → Path.parent? (Path.join d n) = some d)
    (hplain : ∀ f ∈ files, Path.Plain f.1) (hnodup : (files.map Prod.fst).Nodup)
    (hnew : ∀ f ∈ files, [f.1] ∉ (t.below q).map Prod.fst) (hd : t.makeDirs d = (t, none))
    (h : saveAll (files.map fun f => (Path.join d f.1, f.2)) t = (t', none)) :
    t'.below q = t.below q ++ listing files ∧ Tree.KeepsDirs t t' ∧
      ∀ f ∈ files, t'.locate (Path.join d f.1) = .ok (.within (q ++ [f.1])) := by
  obtain ⟨rfl, hkeeps, hfound⟩ := saveAll_puts hq hparent hplain hd h
  refine ⟨Tree.below_putAll ?_ (nodup_listing hnodup) ?_, hkeeps, hfound⟩
  · intro e he
    obtain ⟨f, -, rfl⟩ := List.mem_map.1 he
    exact List.cons_ne_nil _ _
  · intro e he
    obtain ⟨f, hf, rfl⟩ := List.mem_map.1 he
    exact hnew f hf

theorem exists_makeDirs_of_saveAll
    (hparent : ∀ {n : Text}, Path.Plain n → Path.parent? (Path.join d n) = some d)
    (hplain : ∀ f ∈ files, Path.Plain f.1) (hne : files ≠ [])
    (h : saveAll (files.map fun f => (Path.join d f.1, f.2)) t = (t', none)) :
    ∃ t₁, t.makeDirs d = (t₁, none) ∧ saveAll (files.map fun f => (Path.join d f.1, f.2)) t₁ = (t', none) := by
  obtain ⟨f, files, rfl⟩ := List.exists_cons_of_ne_nil hne
  have hf := hparent (hplain f List.mem_cons_self)
  rw [List.map_cons, saveAll] at h
  split at h
  · next t₂ hsave =>
    obtain ⟨dir', t₁, hdir', hmade, -⟩ := Tree.save_ok hsave
    obtain rfl : d = dir' := Option.some.inj (hf.symm.trans hdir')
    refine ⟨t₁, hmade, ?_⟩
    rw [List.map_cons, saveAll, ← Tree.save_of_makeDirs hf hmade, hsave]
    exact h
  · cases h

/-- Saving files into an empty directory makes it hold those files and nothing else, whether it is there
before or is created for the first of them, and each is read back. -/
theorem saveAll_join {root dir : Text} (hdir : Path.Plain dir) (hroot : t.makeDirs root = (t, none))
    (hq : t.placeOf (Path.join root dir) = q)
    (hparent : ∀ {n : Text}, Path.Plain n →
      Path.parent? (Path.join (Path.join root dir) n) = some (Path.join root dir))
    (hplain : ∀ f ∈ files, Path.Plain f.1) (hnodup : (files.map Prod.fst).Nodup) (hempty : t.below q = [])
    (h : saveAll (files.map fun f => (Path.join (Path.join root dir) f.1, f.2)) t = (t', none)) (hne : files ≠ []) :
    t'.below q = listing files ∧
      ∀ f ∈ files, t'.readText (Path.join (Path.join root dir) f.1) = .ok f.2 := by
  obtain ⟨t₁, hmade, hsaved⟩ := exists_makeDirs_of_saveAll hparent hplain hne h
  have hq₁ : t₁.placeOf (Path.join root dir) = q := (Tree.placeOf_congr (Tree.makeDirs_keepsDirs hmade).base _).trans hq
  have hbelow : t₁.below q = [] := by
    rw [← hq, Tree.placeOf_join t root hdir] at hempty ⊢
    rcases Tree.makeDirs_join hdir hroot hmade with ⟨-, rfl⟩ | ⟨hnone, rfl⟩
    · exact hempty
    · exact (Tree.below_put_self .directory hnone).trans hempty
  obtain ⟨hlist, -, hfound⟩ := saveAll_below hq₁ hparent hplain hnodup (by simp [hbelow])
    (Tree.makeDirs_again hmade (.refl t₁)) hsaved
  rw [hbelow, List.nil_append] at hlist
  refine ⟨hlist, fun f hf => ?_⟩
  have hentry : t'.at? (q ++ [f.1]) = some (.file (Text.toBytes f.2)) := by
    rw [Tree.at?_append _ _ (List.cons_ne_nil _ _), hlist, lookup_listing hnodup hf]
  exact Tree.readText_of_locate (hfound f hf) hentry

/-! ## The files of a split stylesheet -/

def groupFileName (g : SplitGroup) : Text := g.key ++ ".css".toList

/-- The files of a split stylesheet by their names. -/
def namedFiles (groups : List SplitGroup) : List (Text × Text) :=
  (groups.map fun g => (groupFileName g, g.css)) ++ [(indexFileName, (SplitIndex.ofGroups groups).toJson)]

theorem splitFiles_eq (w : Workspace) (groups : List SplitGroup) :
    w.splitFiles groups = (namedFiles groups).map fun f => (Path.join w.splitDir f.1, f.2) := by
  have hzip : groups.zip (SplitIndex.ofGroups groups).entries =
      groups.map fun g => (g, IndexEntry.mk g.key (groupFileName g) g.media) :=
    List.map_prod_left_eq_zip.symm
  rw [splitFiles, hzip, namedFiles, List.map_append, List.map_map, List.map_map]
  rfl

theorem plain_groupFileName {g : SplitGroup} (h : '/' ∉ g.key) : Path.Plain (groupFileName g) := by
  have hlength : 4 ≤ (groupFileName g).length := by
    rw [groupFileName, List.length_append]
    exact Nat.le_add_left _ _
  refine ⟨?_, ?_, ?_, ?_⟩
  · intro heq
    rw [heq] at hlength
    cases hlength
  · rw [groupFileName, List.mem_append, not_or]
    exact ⟨h, by decide⟩
  · intro heq
    rw [heq] at hlength
    exact absurd hlength (by decide)
  · intro heq
    rw [heq] at hlength
    exact absurd hlength (by decide)

theorem plain_indexFileName : Path.Plain indexFileName :=
  ⟨by decide, by decide, by decide, by decide⟩

theorem plain_splitDirName : Path.Plain splitDirName :=
  ⟨by decide, by decide, by decide, by decide⟩

/-- The file of a group is not the index: they end differently. -/
theorem groupFileName_ne (g : SplitGroup) : groupFileName g ≠ indexFileName := by
  intro h
  have hlast := congrArg List.getLast? h
  rw [groupFileName, List.getLast?_append_of_ne_nil _ (by decide)] at hlast
  exact absurd hlast (by decide)

theorem plain_namedFiles (css : Text) : ∀ f ∈ namedFiles (Split.split css), Path.Plain f.1 := by
  intro f hf
  rcases List.mem_append.1 hf with hf | hf
  · obtain ⟨g, hg, rfl⟩ := List.mem_map.1 hf
    exact plain_groupFileName (Split.slash_notMem_key hg)
  · obtain rfl := List.mem_singleton.1 hf
    exact plain_indexFileName

theorem nodup_namedFiles (css : Text) : ((namedFiles (Split.split css)).map Prod.fst).Nodup := by
  have hgroups : ((Split.split css).map groupFileName).Nodup := by
    have := (Split.nodup_keys css).map (f := (· ++ ".css".toList)) fun a b h => List.append_cancel_right h
    rwa [List.map_map] at this
  rw [namedFiles, List.map_append, List.map_map, List.nodup_append]
  refine ⟨hgroups, List.nodup_singleton _, ?_⟩
  intro a ha b hb
  obtain ⟨g, -, rfl⟩ := List.mem_map.1 ha
  obtain rfl := List.mem_singleton.1 hb
  exact groupFileName_ne g

theorem parent?_splitDir (w : Workspace) {n : Text} (hn : Path.Plain n) :
    Path.parent? (Path.join w.splitDir n) = some w.splitDir :=
  Path.parent?_join_join w.root plain_splitDirName (by decide) hn

/-! ## Reading back -/

/-- The groups of an index, with the texts of the files that it names in a directory. -/
def readGroups (t : Tree) (dir : Text) (index : SplitIndex) : Except Files.Fault (List SplitGroup) :=
  index.entries.mapM fun e => (t.readText (Path.join dir e.fileName)).map fun css => ⟨e.key, e.media, css⟩

theorem readGroups_ofGroups {dir : Text} {groups : List SplitGroup}
    (h : ∀ g ∈ groups, t.readText (Path.join dir (groupFileName g)) = .ok g.css) :
    readGroups t dir (.ofGroups groups) = .ok groups := by
  rw [readGroups, SplitIndex.ofGroups]
  induction groups with
  | nil => rfl
  | cons g groups ih =>
    have hg := h g List.mem_cons_self
    rw [groupFileName] at hg
    have hmore := ih fun g' hg' => h g' (List.mem_cons_of_mem g hg')
    simp only [List.map_cons, List.mapM_cons, hg, Except.map] at hmore ⊢
    rw [hmore]
    rfl

theorem makeDirs_of_create {w : Workspace} (h : w.create t = (t', none)) : t.makeDirs w.root = (t', none) := by
  rw [create] at h
  split at h
  · next hmade =>
    cases h
    exact hmade
  · cases h

/-- A run directory that was created is there as long as directories are kept: creating it again changes
nothing. -/
theorem create_again {w : Workspace} {t₁ : Tree} (h : w.create t = (t₁, none)) (hkeeps : Tree.KeepsDirs t₁ t') :
    w.create t' = (t', none) := by
  rw [create, Tree.makeDirs_again (makeDirs_of_create h) hkeeps]

/-- **The directory of a split stylesheet decodes to its groups.** The directory of the run is there, nothing
stands in the split directory, and all writes succeed. Then the split directory holds one file for each group
and the index, under distinct names and nothing else; the index is read back, and with the files that it names
it gives the groups in order, each with its key, its condition and its text. -/
theorem splitFiles_readBack {w : Workspace} {css : Text} (hroot : w.create t = (t, none))
    (hempty : t.below (t.placeOf w.splitDir) = [])
    (hsaved : saveAll (w.splitFiles (Split.split css)) t = (t', none)) :
    (t'.below (t.placeOf w.splitDir) =
        ((Split.split css).map fun g => ([groupFileName g], .file (Text.toBytes g.css))) ++
          [([indexFileName], .file (Text.toBytes (SplitIndex.ofGroups (Split.split css)).toJson))] ∧
      ((t'.below (t.placeOf w.splitDir)).map Prod.fst).Nodup) ∧
    (∃ json, t'.readText (Path.join w.splitDir indexFileName) = .ok json ∧
      SplitIndex.ofJson json = .ok (.ofGroups (Split.split css))) ∧
    readGroups t' w.splitDir (.ofGroups (Split.split css)) = .ok (Split.split css) := by
  have hmade := makeDirs_of_create hroot
  have hnodup := nodup_namedFiles css
  have hq : t.placeOf (Path.join w.root splitDirName) = t.placeOf w.splitDir := rfl
  rw [splitFiles_eq] at hsaved
  obtain ⟨hlist, hread⟩ := saveAll_join plain_splitDirName hmade hq (parent?_splitDir w) (plain_namedFiles css)
    hnodup hempty hsaved (by simp [namedFiles])
  refine ⟨⟨?_, ?_⟩, ⟨_, hread _ (List.mem_append_right _ (List.mem_singleton_self _)), ?_⟩, ?_⟩
  · rw [hlist, listing, namedFiles, List.map_append, List.map_map]
    rfl
  · rw [hlist]
    exact nodup_listing hnodup
  · exact SplitIndex.ofJson_toJson _
  · exact readGroups_ofGroups fun g hg =>
      hread _ (List.mem_append_left _ (List.mem_map.2 ⟨g, hg, rfl⟩))

/-- A run directory of two names, from the root on. -/
def sampleWorkspace : Workspace := ⟨"r".toList, "/out/r".toList⟩

def sampleTree : Tree := (sampleWorkspace.create .empty).1

/-- A stylesheet whose two conditions give the same key at first. -/
def collidingCss : Text := "a{}@media a+b{c{}}@media a b{d{}}".toList

/-- The tree after the stylesheet has been written. -/
def writtenSample : Tree := (saveAll (sampleWorkspace.splitFiles (Split.split collidingCss)) sampleTree).1

/-- Colliding keys get files of their own, and all of them are read back. -/
theorem splitFiles_readBack_colliding :
    (writtenSample.below ["out".toList, "r".toList, splitDirName] =
        ((Split.split collidingCss).map fun g => ([groupFileName g], .file (Text.toBytes g.css))) ++
          [([indexFileName], .file (Text.toBytes (SplitIndex.ofGroups (Split.split collidingCss)).toJson))] ∧
      ((writtenSample.below ["out".toList, "r".toList, splitDirName]).map Prod.fst).Nodup) ∧
    (∃ json, writtenSample.readText (Path.join sampleWorkspace.splitDir indexFileName) = .ok json ∧
      SplitIndex.ofJson json = .ok (.ofGroups (Split.split collidingCss))) ∧
    readGroups writtenSample sampleWorkspace.splitDir (.ofGroups (Split.split collidingCss)) =
      .ok (Split.split collidingCss) :=
  have hcreated : sampleWorkspace.create .empty = (sampleTree, none) := rfl
  splitFiles_readBack (create_again hcreated (.refl _)) rfl (Prod.ext rfl (by decide +kernel))

end StylePrune.Run.Workspace
