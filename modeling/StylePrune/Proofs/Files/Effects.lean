import Mathlib.Data.List.Induction
import StylePrune.Proofs.Files.Descent

/-!
What saving a text does to a tree.

A text can be saved at a path that only leads down exactly if nothing is in its way (`Tree.save_eq_none_iff`). Then it
stands at the place of the path, directories stand on the way to it, and all else is as it was (`Tree.stored_of_save`).
If it cannot be saved, at most directories on the way are new, and no file is in them (`Tree.spared_of_fault`). Either
way files and directories stand in directories if they did before (`Tree.Grounded.save`).
-/
namespace StylePrune.Files.Tree

open StylePrune.Path (Downward)

variable {t t' : Tree} {p q : Place} {path contents : Text}

/-! ## When a text can be saved -/

/-- Nothing is in the way of a text: its path is one of a file and not too long, no file stands on the way to its place,
and no directory at it. -/
structure Free (t : Tree) (path : Text) : Prop where
  fault : pathFault? path = none
  slash : Path.endsWithSlash path = false
  short : ∀ n ∈ Path.names path, Text.byteCount n ≤ maxNameBytes
  way : ∀ q, Above q (t.placeOf path) → t.NoFile q
  place : t.at? (t.placeOf path) ≠ some .directory

theorem prefix_placeOf_parent {dir : Text} (h : Downward path) (hparent : Path.parent? path = some dir) :
    Downward dir ∧ dir <+: path ∧ Path.names dir <+: Path.names path ∧
      ∀ t : Tree, ∀ q, q <+: t.placeOf dir ↔ Above q (t.placeOf path) := by
  rcases h.parent?_cases with ⟨-, hnone⟩ | ⟨hne, dir', hparent', hprefix, habsolute, hnames⟩
  · rw [hnone] at hparent
    cases hparent
  obtain rfl : dir' = dir := Option.some.inj (hparent'.symm.trans hparent)
  have hnamesPrefix : Path.names dir' <+: Path.names path := hnames ▸ List.dropLast_prefix _
  have hdown : Downward dir' := Path.Dotless.of_prefix h hnamesPrefix
  refine ⟨hdown, hprefix, hnamesPrefix, fun t q => ?_⟩
  obtain ⟨ds, n, hconcat⟩ := (List.eq_nil_or_concat' _).resolve_left hne
  have horigin : t.origin dir' = t.origin path := by rw [origin, origin, habsolute]
  rw [placeOf_downward t hdown, placeOf_downward t h, horigin, hnames, hconcat, List.dropLast_concat,
    ← List.append_assoc, above_concat]

/-- A text that is saved is written after directories have been put on the way to its place. -/
theorem exists_made_of_save (h : Downward path) (hsave : t.save path contents = (t', none)) :
    ∃ t₁ p, Made t t₁ p ∧ (∀ q, q <+: p ↔ Above q (t.placeOf path)) ∧
      t₁.write path (Text.toBytes contents) = (t', none) := by
  obtain ⟨dir, t₁, hparent, hmakes, hwritten⟩ := save_ok hsave
  obtain ⟨hdown, -, -, habove⟩ := prefix_placeOf_parent h hparent
  exact ⟨t₁, _, made_of_makeDirs hdown hmakes, habove t, hwritten⟩

/-- When a text can be saved: if nothing is in its way. -/
theorem save_eq_none_iff (h : Downward path) : (t.save path contents).2 = none ↔ Free t path := by
  constructor
  · intro hsave
    have hsaved : t.save path contents = ((t.save path contents).1, none) := Prod.ext rfl hsave
    obtain ⟨t₁, p, hmade, habove, hwritten⟩ := exists_made_of_save h hsaved
    obtain ⟨hslash, hlocate, hplace, -⟩ := (write_downward_iff h).1 hwritten
    obtain ⟨-, hfault, hshort, -⟩ := (locate_downward_iff h hslash).1 hlocate
    rw [placeOf_congr hmade.base] at hplace
    exact ⟨hfault, hslash, hshort, fun q hq => hmade.noFile q ((habove q).2 hq), fun hdir => hplace (hmade.kept hdir)⟩
  · intro hfree
    obtain ⟨dir, hparent⟩ : ∃ dir, Path.parent? path = some dir := by
      rcases h.parent?_cases with ⟨hnil, -⟩ | ⟨-, dir, hparent, -⟩
      · exact absurd hnil (names_ne_nil h hfree.place)
      · exact ⟨dir, hparent⟩
    obtain ⟨hdown, hprefix, hnames, habove⟩ := prefix_placeOf_parent h hparent
    have hnone : (t.makeDirs dir).2 = none := by
      rw [makeDirs_downward_iff hdown fun hdir => pathFault?_of_prefix hprefix hdir hfree.fault]
      exact ⟨fun n hn => hfree.short n (hnames.subset hn), fun q hq => hfree.way q ((habove t q).1 hq)⟩
    obtain ⟨t₁, hmakes⟩ : ∃ t₁, t.makeDirs dir = (t₁, none) := ⟨_, Prod.ext rfl hnone⟩
    have hmade := made_of_makeDirs hdown hmakes
    have hplaceOf : t₁.placeOf path = t.placeOf path := placeOf_congr hmade.base path
    have hat := hmade.at?_eq
    simp only [habove] at hat
    have hlocate : t₁.locate path = .ok (.within (t₁.placeOf path)) := by
      refine (locate_downward_iff h hfree.slash).2 ⟨rfl, hfree.fault, hfree.short, fun q hq => ?_⟩
      rw [hat, if_pos (hplaceOf ▸ hq)]
    have hplace : t₁.at? (t₁.placeOf path) ≠ some .directory := by
      rw [hplaceOf, hat, if_neg fun hself => hself.2 rfl]
      exact hfree.place
    have hwritten : t₁.write path (Text.toBytes contents) = (_, none) :=
      (write_downward_iff h).2 ⟨hfree.slash, hlocate, hplace, rfl⟩
    simp only [save, hparent, hmakes, hwritten]

theorem free_of_save (h : Downward path) (hsave : t.save path contents = (t', none)) : Free t path :=
  (save_eq_none_iff h).1 (congrArg Prod.snd hsave)

theorem exists_save (h : Downward path) (hfree : Free t path) (contents : Text) :
    ∃ t', t.save path contents = (t', none) :=
  ⟨_, Prod.ext rfl ((save_eq_none_iff h).2 hfree)⟩

/-! ## What saving does -/

/-- **What saving does when it succeeds**: the text stands at the place of its path, directories stand on the way to it,
and nothing else is changed. -/
theorem at?_save (h : Downward path) (hsave : t.save path contents = (t', none)) (q : Place) :
    t'.at? q = if q = t.placeOf path then some (.file (Text.toBytes contents))
      else if Above q (t.placeOf path) then some .directory else t.at? q := by
  obtain ⟨t₁, p, hmade, habove, hwritten⟩ := exists_made_of_save h hsave
  obtain ⟨-, -, hplace, rfl⟩ := (write_downward_iff h).1 hwritten
  rw [placeOf_congr hmade.base] at hplace ⊢
  by_cases hq : q = t.placeOf path
  · rw [hq, at?_put_self _ hplace, if_pos rfl]
  · rw [at?_put_of_ne _ _ hq, if_neg hq, hmade.at?_eq]
    simp only [habove]

theorem base_of_save (h : Downward path) (hsave : t.save path contents = (t', none)) : t'.base = t.base := by
  obtain ⟨t₁, p, hmade, -, hwritten⟩ := exists_made_of_save h hsave
  obtain ⟨-, -, -, rfl⟩ := (write_downward_iff h).1 hwritten
  exact hmade.base

/-- **What saving does when it fails**: at most, directories have been created up to a place on the way. -/
theorem made_of_save_fault {message : Text} (h : Downward path) (hsave : t.save path contents = (t', some message)) :
    ∃ p, Made t t' p ∧ (p = [] ∨ Above p (t.placeOf path)) := by
  rcases save_fault hsave with rfl | ⟨dir, fault, hparent, hmakes⟩
  · exact ⟨[], made_root t', .inl rfl⟩
  · obtain ⟨hdown, -, -, habove⟩ := prefix_placeOf_parent h hparent
    obtain ⟨p, hp, hmade⟩ := exists_made_of_makeDirs hdown hmakes
    exact ⟨p, hmade, .inr ((habove t p).1 hp)⟩

/-! ## Trees -/

/-- Files and directories stand in directories only. -/
def Grounded (t : Tree) : Prop := ∀ p n, t.at? (p ++ [n]) ≠ none → t.at? p = some .directory

theorem grounded_of_contents (h : ∀ e ∈ t.contents, t.at? e.1.dropLast = some .directory) : t.Grounded := by
  intro p n hne
  by_cases hbase : p ++ [n] <+: t.base
  · exact at?_of_above ((List.prefix_append p [n]).trans hbase)
  · obtain ⟨e, he⟩ := Option.ne_none_iff_exists'.1 hne
    rw [at?_of_not_above hbase] at he
    obtain ⟨f, hf, hkey⟩ := List.mem_map.1 (mem_of_lookup he)
    have hdir := h f hf
    rwa [hkey, List.dropLast_concat] at hdir

theorem Grounded.at?_eq_none (ht : t.Grounded) (hp : t.at? p = none) (r : Place) : t.at? (p ++ r) = none := by
  induction r using List.reverseRecOn with
  | nil => rwa [List.append_nil]
  | append_singleton r n ih =>
    by_contra hne
    rw [← List.append_assoc] at hne
    rw [ht _ _ hne] at ih
    cases ih

theorem Grounded.made (ht : t.Grounded) (h : Made t t' q) : t'.Grounded := by
  intro p n hne
  rw [h.at?_eq] at hne ⊢
  by_cases hp : p <+: q
  · rw [if_pos hp]
  · rw [if_neg hp]
    rw [if_neg fun hq => hp ((List.prefix_append p [n]).trans hq)] at hne
    exact ht p n hne

theorem Grounded.put_file {n : Text} {bytes : List UInt8} (ht : t.Grounded) (hdir : t.at? p = some .directory)
    (hplace : t.at? (p ++ [n]) ≠ some .directory) : (t.put (p ++ [n]) (.file bytes)).Grounded := by
  intro q m hne
  by_cases hq : q ++ [m] = p ++ [n]
  · obtain ⟨rfl, -⟩ := List.append_inj' hq rfl
    rw [at?_put_of_ne t _ (by simp), hdir]
  · rw [at?_put_of_ne t _ hq] at hne
    have hold := ht q m hne
    rw [at?_put_of_ne, hold]
    rintro rfl
    exact hplace hold

/-- A text leaves files and directories in directories, whether or not it can be saved. -/
theorem Grounded.save (ht : t.Grounded) (h : Downward path) (contents : Text) : (t.save path contents).1.Grounded := by
  rcases hsave : t.save path contents with ⟨t', _ | message⟩
  · obtain ⟨t₁, p, hmade, -, hwritten⟩ := exists_made_of_save h hsave
    obtain ⟨hslash, hlocate, hplace, rfl⟩ := (write_downward_iff h).1 hwritten
    obtain ⟨-, -, -, hdirs⟩ := (locate_downward_iff h hslash).1 hlocate
    obtain ⟨ds, n, hnames⟩ := (List.eq_nil_or_concat' _).resolve_left (names_ne_nil h hplace)
    rw [placeOf_downward t₁ h, hnames, ← List.append_assoc] at hdirs hplace ⊢
    exact (ht.made hmade).put_file (hdirs _ (above_concat.2 List.prefix_rfl)) hplace
  · obtain ⟨p, hmade, -⟩ := made_of_save_fault h hsave
    exact ht.made hmade

/-! ## What a text leaves -/

/-- A text has been saved: it is read back at its path, directories stand on the way to its place, and every other place
is as it was, unless a directory on the way is new. -/
structure Stored (t t' : Tree) (path contents : Text) : Prop where
  base : t'.base = t.base
  read : t'.readText path = .ok contents
  file : t'.at? (t.placeOf path) = some (.file (Text.toBytes contents))
  way : ∀ q, Above q (t.placeOf path) → t'.at? q = some .directory
  others : ∀ q, q ≠ t.placeOf path → t'.at? q = t.at? q ∨ (t.at? q = none ∧ Above q (t.placeOf path))

/-- A text has not been saved: all that was there still is, and what is new are directories on the way to the place of
its path in which there is no file. -/
structure Spared (t t' : Tree) (path : Text) : Prop where
  base : t'.base = t.base
  kept : ∀ q e, t.at? q = some e → t'.at? q = some e
  added : ∀ q, t.at? q = none → t'.at? q ≠ none →
    Above q (t.placeOf path) ∧ t'.at? q = some .directory ∧ ∀ r, t'.NoFile (q ++ r)

theorem stored_of_save (h : Downward path) (hsave : t.save path contents = (t', none)) : Stored t t' path contents := by
  have hfree := free_of_save h hsave
  have hbase := base_of_save h hsave
  have hat := at?_save h hsave
  have hfile : t'.at? (t.placeOf path) = some (.file (Text.toBytes contents)) := by
    rw [hat, if_pos rfl]
  have hway : ∀ q, Above q (t.placeOf path) → t'.at? q = some .directory := by
    intro q hq
    rw [hat, if_neg hq.2, if_pos hq]
  have hlocate : t'.locate path = .ok (.within (t.placeOf path)) := by
    refine (locate_downward_iff h hfree.slash).2 ?_
    rw [placeOf_congr hbase]
    exact ⟨rfl, hfree.fault, hfree.short, hway⟩
  refine ⟨hbase, readText_of_locate hlocate hfile, hfile, hway, fun q hne => ?_⟩
  by_cases hq : Above q (t.placeOf path)
  · rcases noFile_iff.1 (hfree.way q hq) with hnone | hdir
    · exact .inr ⟨hnone, hq⟩
    · exact .inl ((hway q hq).trans hdir.symm)
  · rw [hat, if_neg hne, if_neg hq]
    exact .inl rfl

theorem spared_of_fault {message : Text} (ht : t.Grounded) (h : Downward path)
    (hsave : t.save path contents = (t', some message)) : Spared t t' path := by
  obtain ⟨p, hmade, hend⟩ := made_of_save_fault h hsave
  refine ⟨hmade.base, fun q e => hmade.kept, fun q hnone hsome => ?_⟩
  -- what is new is on the way, and below it there was nothing at all
  have hq : q <+: p := by
    by_contra hq
    rw [hmade.at?_eq, if_neg hq] at hsome
    exact hsome hnone
  have habove : Above q (t.placeOf path) := by
    rcases hend with rfl | hp
    · rw [List.prefix_nil.1 hq, at?_root] at hnone
      cases hnone
    · exact hp.of_prefix hq
  refine ⟨habove, by rw [hmade.at?_eq, if_pos hq], fun r => noFile_iff.2 ?_⟩
  rw [hmade.at?_eq, ht.at?_eq_none hnone r]
  split
  · exact .inr rfl
  · exact .inl rfl

end StylePrune.Files.Tree
