import StylePrune.Proofs.Files.Path
import StylePrune.Proofs.Files.Tree
import StylePrune.Proofs.Text.Utf8

/-!
Saving a text at a path.

A text that was written stands at the place where its path leads (`Tree.write_ok`), and the path can be followed
to it from then on, whatever is done that keeps directories (`Tree.locate_of_keepsDirs`). Saving a text below a
path that exists changes that one place (`Tree.save_join`).
-/
namespace StylePrune.Files.Tree

variable {t t₁ t' t'' : Tree} {path : Text} {spot : Spot}

/-! ## Finding -/

theorem locate_eq_ok :
    t.locate path = .ok spot ↔ pathFault? path = none ∧
      t.walk (t.origin path) (Path.names path ++ if Path.endsWithSlash path then [['.']] else []) = .ok spot := by
  rw [locate]
  cases pathFault? path with
  | some f => simp
  | none => simp

theorem locate_of_keepsDirs (hkeeps : KeepsDirs t t') (h : t.locate path = .ok spot) :
    t'.locate path = .ok spot := by
  obtain ⟨hfault, hwalk⟩ := locate_eq_ok.1 h
  refine locate_eq_ok.2 ⟨hfault, ?_⟩
  rw [hkeeps.origin]
  exact walk_of_keepsDirs hkeeps hwalk

theorem eq_placeOf_of_locate (h : t.locate path = .ok spot) : spot = .within (t.placeOf path) := by
  have hwalk := walk_eq_follow (locate_eq_ok.1 h).2
  rw [hwalk, follow_append, placeOf]
  split <;> rfl

theorem read_of_locate {p : Place} {bytes : List UInt8} (h : t.locate path = .ok (.within p))
    (hfile : t.at? p = some (.file bytes)) : t.read path = .ok bytes := by
  rw [read, h]
  simp only [hfile]

theorem readText_of_locate {p : Place} {s : Text} (h : t.locate path = .ok (.within p))
    (hfile : t.at? p = some (.file (Text.toBytes s))) : t.readText path = .ok s := by
  rw [readText, read_of_locate h hfile]
  simp only [Text.ofBytes?_toBytes]

/-! ## Writing -/

/-- What writing does: the file stands where the path leads, where no directory stood, and nothing else is
changed. -/
theorem write_ok {bytes : List UInt8} (h : t.write path bytes = (t', none)) :
    t.locate path = .ok (.within (t.placeOf path)) ∧ t.at? (t.placeOf path) ≠ some .directory ∧
      t' = t.put (t.placeOf path) (.file bytes) := by
  -- everything that can fail is checked before the tree is changed
  rw [write] at h
  split at h
  · cases h
  next hfault =>
  split at h
  · cases h
  next last hlast =>
  split at h
  · cases h
  next dir hwalk =>
  split at h
  · cases h
  next hname =>
  split at h
  · cases h
  next hshort =>
  simp only [Bool.or_eq_true, decide_eq_true_eq, not_or] at hname
  obtain ⟨⟨hslash, hdot⟩, hdots⟩ := hname
  obtain ⟨ns, hns⟩ := List.getLast?_eq_some_iff.1 hlast
  rw [hns, List.dropLast_concat, walk_concat_dot] at hwalk
  obtain ⟨hwalk, hdirectory⟩ := hwalk
  have hlocate : t.locate path = .ok (dir.down last) := by
    refine locate_eq_ok.2 ⟨hfault, ?_⟩
    rw [if_neg hslash, List.append_nil, hns, walk_append]
    refine ⟨dir, hwalk, ?_⟩
    rw [walk_cons [] hdirectory, if_neg hdot, if_neg hdots, if_neg hshort, walk]
  have hplace := congrArg Spot.place (eq_placeOf_of_locate hlocate)
  dsimp only at h hplace
  rw [hplace] at h
  split at h
  · cases h
  · next hfree =>
    cases h
    exact ⟨eq_placeOf_of_locate hlocate ▸ hlocate, hfree, rfl⟩

theorem write_fault {bytes : List UInt8} {f : Fault} (h : t.write path bytes = (t', some f)) : t' = t := by
  rw [write] at h
  dsimp only at h
  repeat' split at h
  all_goals cases h
  all_goals rfl

/-! ## Creating the directories of a path -/

/-- Whatever becomes of it, directories have been created along some of the names of the path. -/
theorem exists_makeDirs_prefix {fault : Option Fault} (h : t.makeDirs path = (t', fault)) :
    ∃ ms, ms <+: Path.names path ∧ t.makeAlong (t.origin path) ms = (t', none) := by
  rw [makeDirs] at h
  split at h
  · cases h
    exact ⟨[], List.nil_prefix, rfl⟩
  · split at h
    · cases h
      exact ⟨[], List.nil_prefix, rfl⟩
    · exact exists_makeAlong_prefix h

theorem makeDirs_ok (h : t.makeDirs path = (t', none)) :
    t.makeAlong (t.origin path) (Path.names path) = (t', none) := by
  rw [makeDirs] at h
  split at h
  · next hempty =>
    rw [List.isEmpty_iff.1 hempty]
    exact h
  · split at h
    · cases h
    · exact h

theorem makeDirs_keepsDirs (h : t.makeDirs path = (t', none)) : KeepsDirs t t' := makeAlong_keepsDirs (makeDirs_ok h)

theorem makeDirs_again (h : t.makeDirs path = (t', none)) (hkeeps : KeepsDirs t' t'') :
    t''.makeDirs path = (t'', none) := by
  have halong := makeAlong_again (makeDirs_ok h) hkeeps
  rw [← (makeDirs_keepsDirs h).origin, ← hkeeps.origin] at halong
  rw [makeDirs] at h ⊢
  split
  · rfl
  · next hempty =>
    rw [if_neg hempty] at h
    split at h
    · cases h
    · exact halong

theorem origin_join (t : Tree) (d : Text) {n : Text} (hn : Path.Plain n) :
    t.origin (Path.join d n) = t.origin d := by
  rw [origin, Path.isAbsolute_join d hn, ← origin]

theorem placeOf_join (t : Tree) (d : Text) {n : Text} (hn : Path.Plain n) :
    t.placeOf (Path.join d n) = t.placeOf d ++ [n] := by
  rw [placeOf, Path.names_join d hn, follow_append, origin_join t d hn, placeOf, follow, if_neg hn.dot,
    if_neg hn.dots, follow]
  rfl

theorem makeDirs_join {d n : Text} (hn : Path.Plain n) (hd : t.makeDirs d = (t, none))
    (h : t.makeDirs (Path.join d n) = (t', none)) :
    (t.at? (t.placeOf d ++ [n]) = some .directory ∧ t' = t) ∨
      (t.at? (t.placeOf d ++ [n]) = none ∧ t' = t.put (t.placeOf d ++ [n]) .directory) := by
  have halong := makeDirs_ok h
  rw [Path.names_join d hn, origin_join t d hn, makeAlong_append _ (makeDirs_ok hd)] at halong
  obtain ⟨-, ⟨hthere, hsame⟩ | ⟨hnone, hput⟩⟩ := makeAlong_cons halong hn.dot hn.dots
  · cases hsame
    exact .inl ⟨hthere, rfl⟩
  · cases hput
    exact .inr ⟨hnone, rfl⟩

/-! ## Saving -/

theorem save_ok {contents : Text} (h : t.save path contents = (t', none)) :
    ∃ dir t₁, Path.parent? path = some dir ∧ t.makeDirs dir = (t₁, none) ∧
      t₁.write path (Text.toBytes contents) = (t', none) := by
  rw [save] at h
  split at h
  · cases h
  next dir hdir =>
  split at h
  · cases h
  next t₁ hmade =>
  split at h
  · cases h
  next t₂ hwritten =>
  cases h
  exact ⟨dir, t₁, hdir, hmade, hwritten⟩

/-- A text that cannot be saved leaves nothing but directories of its path. -/
theorem save_fault {contents message : Text} (h : t.save path contents = (t', some message)) :
    t' = t ∨ ∃ dir fault, Path.parent? path = some dir ∧ t.makeDirs dir = (t', fault) := by
  rw [save] at h
  split at h
  · cases h
    exact .inl rfl
  next dir hdir =>
  split at h
  · next t₁ f hmade =>
    cases h
    exact .inr ⟨dir, _, hdir, hmade⟩
  next t₁ hmade =>
  split at h
  · next t₂ f hwritten =>
    cases h
    rw [write_fault hwritten]
    exact .inr ⟨dir, _, hdir, hmade⟩
  · cases h

/-- Directories that have been created need not be created again before saving. -/
theorem save_of_makeDirs {dir contents : Text} (hdir : Path.parent? path = some dir)
    (h : t.makeDirs dir = (t₁, none)) : t.save path contents = t₁.save path contents := by
  rw [save, save, hdir]
  simp only [h, makeDirs_again h (KeepsDirs.refl t₁)]

/-- Saving below a path that exists puts the text at one place and keeps all directories, and the text is
found there. -/
theorem save_join {d n contents : Text} (hn : Path.Plain n) (hparent : Path.parent? (Path.join d n) = some d)
    (hd : t.makeDirs d = (t, none)) (h : t.save (Path.join d n) contents = (t', none)) :
    t' = t.put (t.placeOf d ++ [n]) (.file (Text.toBytes contents)) ∧ KeepsDirs t t' ∧
      t'.locate (Path.join d n) = .ok (.within (t.placeOf d ++ [n])) := by
  obtain ⟨dir, t₁, hdir, hmade, hwritten⟩ := save_ok h
  obtain rfl : d = dir := Option.some.inj (hparent.symm.trans hdir)
  obtain rfl : t = t₁ := congrArg Prod.fst (hd.symm.trans hmade)
  obtain ⟨hlocate, hfree, rfl⟩ := write_ok hwritten
  rw [placeOf_join t d hn] at hlocate hfree ⊢
  have hkeeps : KeepsDirs t (t.put (t.placeOf d ++ [n]) (.file (Text.toBytes contents))) := keepsDirs_put _ hfree
  exact ⟨rfl, hkeeps, locate_of_keepsDirs hkeeps hlocate⟩

end StylePrune.Files.Tree
