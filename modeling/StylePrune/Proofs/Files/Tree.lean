import Mathlib.Data.List.Basic
import StylePrune.Files.Tree

/-!
What looking up, following paths and creating directories do to a tree.

Where a path leads is a function of its names alone (`Tree.follow`): a tree only decides whether the path can
be followed (`Tree.walk_eq_follow`). Following needs directories and nothing else, so it is not disturbed by a
change that keeps all directories (`Tree.walk_of_keepsDirs`), and creating directories once is enough
(`Tree.makeAlong_again`).
-/
namespace StylePrune.Files.Tree

/-! ## Entries -/

theorem lookup_cons (p q : Place) (e : Entry) (l : List (Place × Entry)) :
    ((p, e) :: l).lookup q = if q = p then some e else l.lookup q := by
  rw [List.lookup_cons]
  by_cases h : q = p
  · subst h
    simp
  · rw [beq_false_of_ne h, if_neg h]

theorem lookup_putEntry (p q : Place) (e : Entry) (l : List (Place × Entry)) :
    (putEntry p e l).lookup q = if q = p then some e else l.lookup q := by
  induction l with
  | nil => rw [putEntry, lookup_cons]
  | cons f l ih =>
    obtain ⟨r, g⟩ := f
    rw [putEntry]
    by_cases hr : r = p
    · subst hr
      rw [if_pos rfl, lookup_cons, lookup_cons]
      by_cases h : q = r <;> simp [h]
    · rw [if_neg hr, lookup_cons, lookup_cons, ih]
      by_cases h : q = r
      · subst h
        simp [hr]
      · simp [h]

theorem lookup_of_mem {l : List (Place × Entry)} {p : Place} {e : Entry} (hnodup : (l.map Prod.fst).Nodup)
    (h : (p, e) ∈ l) : l.lookup p = some e := by
  induction l with
  | nil => cases h
  | cons f l ih =>
    rw [List.map_cons, List.nodup_cons] at hnodup
    rw [lookup_cons]
    rcases List.mem_cons.1 h with rfl | h
    · rw [if_pos rfl]
    · have hne : p ≠ f.1 := by
        rintro rfl
        exact hnodup.1 (List.mem_map.2 ⟨_, h, rfl⟩)
      rw [if_neg hne]
      exact ih hnodup.2 h

theorem mem_of_lookup {l : List (Place × Entry)} {p : Place} {e : Entry} (h : l.lookup p = some e) :
    p ∈ l.map Prod.fst := by
  obtain ⟨before, after, rfl, -⟩ := List.lookup_eq_some_iff.1 h
  simp

theorem lookup_map_pair (ps : List Place) (p : Place) (e : Entry) :
    (ps.map fun q => (q, e)).lookup p = if p ∈ ps then some e else none := by
  induction ps with
  | nil => rfl
  | cons q ps ih =>
    rw [List.map_cons, lookup_cons, ih]
    by_cases h : p = q <;> simp [h]

/-- The working directory and all above it are there, and what stands at other places is what the tree holds. -/
theorem at?_eq (t : Tree) (p : Place) :
    t.at? p = if p <+: t.base then some .directory else t.contents.lookup p := by
  have hmem : p ∈ (List.range (t.base.length + 1)).map t.base.take ↔ p <+: t.base := by
    rw [List.mem_map]
    constructor
    · rintro ⟨n, -, rfl⟩
      exact List.take_prefix n t.base
    · intro h
      exact ⟨p.length, List.mem_range.2 (Nat.lt_succ_of_le h.length_le), (List.prefix_iff_eq_take.1 h).symm⟩
  have hway : ((List.range (t.base.length + 1)).map fun n => (t.base.take n, Entry.directory)) =
      ((List.range (t.base.length + 1)).map t.base.take).map fun q => (q, .directory) := by
    rw [List.map_map]
    rfl
  rw [at?, all, List.lookup_append, hway, lookup_map_pair]
  simp only [hmem]
  split <;> rfl

theorem at?_of_above {t : Tree} {p : Place} (h : p <+: t.base) : t.at? p = some .directory := by
  rw [at?_eq, if_pos h]

theorem at?_of_not_above {t : Tree} {p : Place} (h : ¬ p <+: t.base) : t.at? p = t.contents.lookup p := by
  rw [at?_eq, if_neg h]

@[simp] theorem at?_root (t : Tree) : t.at? [] = some .directory := at?_of_above List.nil_prefix

@[simp] theorem at?_base (t : Tree) : t.at? t.base = some .directory := at?_of_above List.prefix_rfl

@[simp] theorem base_put (t : Tree) (p : Place) (e : Entry) : (t.put p e).base = t.base := rfl

/-- After a change the entry stands at its place, and all others are as before. -/
theorem at?_put (t : Tree) (p q : Place) (e : Entry) :
    (t.put p e).at? q = if q <+: t.base then some .directory else if q = p then some e else t.at? q := by
  rw [at?_eq, at?_eq, base_put]
  by_cases hq : q <+: t.base
  · rw [if_pos hq, if_pos hq]
  · rw [if_neg hq, if_neg hq, if_neg hq, put, lookup_putEntry]

theorem at?_put_of_ne (t : Tree) {p q : Place} (e : Entry) (h : q ≠ p) : (t.put p e).at? q = t.at? q := by
  rw [at?_put, if_neg h]
  split
  · next hq => exact (at?_of_above hq).symm
  · rfl

theorem at?_put_directory (t : Tree) (p : Place) : (t.put p .directory).at? p = some .directory := by
  rw [at?_put, if_pos rfl, ite_self]

theorem at?_put_self {t : Tree} {p : Place} (e : Entry) (h : t.at? p ≠ some .directory) :
    (t.put p e).at? p = some e := by
  rw [at?_put, if_neg fun hp => h (at?_of_above hp), if_pos rfl]

theorem isPrefixOf_eq_false {p q : Place} (h : ¬ p <+: q) : p.isPrefixOf q = false :=
  Bool.eq_false_iff.2 fun h' => h (List.isPrefixOf_iff_prefix.1 h')

theorem at?_append (t : Tree) (p : Place) {r : Place} (hr : r ≠ []) : t.at? (p ++ r) = (t.below p).lookup r := by
  rw [at?, below]
  induction t.all with
  | nil => rfl
  | cons f l ih =>
    obtain ⟨q, g⟩ := f
    rw [lookup_cons, List.filterMap_cons, ih]
    by_cases hq : p <+: q
    · obtain ⟨s, rfl⟩ := hq
      by_cases hs : s = []
      · subst hs
        simp [hr]
      · simp [hs, lookup_cons]
    · have hne : p ++ r ≠ q := by
        rintro rfl
        exact hq (List.prefix_append p r)
      simp [isPrefixOf_eq_false hq, hne]

theorem putEntry_of_notMem {p : Place} {l : List (Place × Entry)} (h : p ∉ l.map Prod.fst) (e : Entry) :
    putEntry p e l = l ++ [(p, e)] := by
  induction l with
  | nil => rfl
  | cons f l ih =>
    obtain ⟨q, g⟩ := f
    rw [List.map_cons, List.mem_cons, not_or] at h
    rw [putEntry, if_neg (Ne.symm h.1), ih h.2, List.cons_append]

theorem all_put {t : Tree} {p : Place} (e : Entry) (h : t.at? p = none) : (t.put p e).all = t.all ++ [(p, e)] := by
  have hnew : p ∉ t.contents.map Prod.fst := by
    rw [at?_eq] at h
    split at h
    · cases h
    · rintro hmem
      obtain ⟨f, hf, rfl⟩ := List.mem_map.1 hmem
      simpa using List.lookup_eq_none_iff.1 h f hf
  rw [all, all, base_put, put, putEntry_of_notMem hnew, List.append_assoc]

theorem below_put {t : Tree} {p r : Place} (e : Entry) (hr : r ≠ []) (h : t.at? (p ++ r) = none) :
    (t.put (p ++ r) e).below p = t.below p ++ [(r, e)] := by
  rw [below, below, all_put e h, List.filterMap_append]
  simp [hr]

theorem below_put_self {t : Tree} {p : Place} (e : Entry) (h : t.at? p = none) : (t.put p e).below p = t.below p := by
  rw [below, below, all_put e h, List.filterMap_append]
  simp

/-! ## Following names -/

/-- Where names lead. -/
def follow : Spot → List Text → Spot
  | spot, [] => spot
  | spot, n :: r =>
    if n = ['.'] then follow spot r
    else if n = ['.', '.'] then follow spot.up r
    else follow (spot.down n) r

/-- Where a path leads. -/
def placeOf (t : Tree) (path : Text) : Place := (follow (t.origin path) (Path.names path)).place

theorem placeOf_congr {t t' : Tree} (h : t'.base = t.base) (path : Text) : t'.placeOf path = t.placeOf path := by
  rw [placeOf, placeOf, origin, origin, h]

theorem follow_append (spot : Spot) (a b : List Text) : follow spot (a ++ b) = follow (follow spot a) b := by
  induction a generalizing spot with
  | nil => rfl
  | cons n a ih =>
    rw [List.cons_append, follow, follow]
    split
    · exact ih _
    · split
      · exact ih _
      · exact ih _

variable {t t' t'' : Tree} {spot spot' : Spot} {ns : List Text}

theorem walk_cons {n : Text} (r : List Text) (h : t.at? spot.place = some .directory) :
    t.walk spot (n :: r) =
      if n = ['.'] then t.walk spot r
      else if n = ['.', '.'] then t.walk spot.up r
      else if maxNameBytes < Text.byteCount n then .error .nameTooLong
      else t.walk (spot.down n) r := by
  rw [walk, h]

theorem directory_of_walk_cons {n : Text} {r : List Text} (h : t.walk spot (n :: r) = .ok spot') :
    t.at? spot.place = some .directory := by
  rw [walk] at h
  cases hspot : t.at? spot.place with
  | none =>
    rw [hspot] at h
    cases h
  | some e =>
    cases e with
    | directory => rfl
    | file bytes =>
      rw [hspot] at h
      cases h

/-- A path leads where its names lead, if it leads anywhere. -/
theorem walk_eq_follow (h : t.walk spot ns = .ok spot') : spot' = follow spot ns := by
  induction ns generalizing spot with
  | nil =>
    rw [walk] at h
    exact (Except.ok.inj h).symm
  | cons n r ih =>
    rw [walk_cons r (directory_of_walk_cons h)] at h
    rw [follow]
    split at h
    · next hdot => rw [if_pos hdot]; exact ih h
    · next hdot =>
      rw [if_neg hdot]
      split at h
      · next hdots => rw [if_pos hdots]; exact ih h
      · next hdots =>
        rw [if_neg hdots]
        split at h
        · cases h
        · exact ih h

theorem walk_append {spot₂ : Spot} (a b : List Text) :
    t.walk spot (a ++ b) = .ok spot₂ ↔ ∃ spot₁, t.walk spot a = .ok spot₁ ∧ t.walk spot₁ b = .ok spot₂ := by
  induction a generalizing spot with
  | nil =>
    rw [List.nil_append, walk]
    exact ⟨fun h => ⟨spot, rfl, h⟩, fun ⟨_, h₁, h₂⟩ => by cases h₁; exact h₂⟩
  | cons n a ih =>
    rw [List.cons_append]
    cases hspot : t.at? spot.place with
    | none => simp [walk, hspot]
    | some e =>
      cases e with
      | file bytes => simp [walk, hspot]
      | directory =>
        rw [walk_cons _ hspot, walk_cons _ hspot]
        split
        · exact ih
        · split
          · exact ih
          · split
            · simp
            · exact ih

theorem walk_concat_dot {dir : Spot} :
    t.walk spot (ns ++ [['.']]) = .ok dir ↔ t.walk spot ns = .ok dir ∧ t.at? dir.place = some .directory := by
  rw [walk_append]
  constructor
  · rintro ⟨dir', hwalk, hdot⟩
    have hdir := directory_of_walk_cons hdot
    rw [walk_cons [] hdir, if_pos rfl, walk] at hdot
    obtain rfl := Except.ok.inj hdot
    exact ⟨hwalk, hdir⟩
  · rintro ⟨hwalk, hdir⟩
    refine ⟨dir, hwalk, ?_⟩
    rw [walk_cons [] hdir, if_pos rfl, walk]

/-! ## Changes that keep directories -/

/-- Every directory of one tree is one of the other, and they have the same working directory. -/
structure KeepsDirs (t t' : Tree) : Prop where
  base : t'.base = t.base
  directory : ∀ p, t.at? p = some .directory → t'.at? p = some .directory

theorem KeepsDirs.refl (t : Tree) : KeepsDirs t t := ⟨rfl, fun _ h => h⟩

theorem KeepsDirs.trans (h : KeepsDirs t t') (h' : KeepsDirs t' t'') : KeepsDirs t t'' :=
  ⟨h'.base.trans h.base, fun p hp => h'.directory p (h.directory p hp)⟩

theorem KeepsDirs.origin (h : KeepsDirs t t') (path : Text) : t'.origin path = t.origin path := by
  rw [Tree.origin, Tree.origin, h.base]

theorem keepsDirs_put {p : Place} (e : Entry) (h : t.at? p ≠ some .directory) : KeepsDirs t (t.put p e) := by
  refine ⟨rfl, fun q hq => ?_⟩
  rw [at?_put_of_ne, hq]
  rintro rfl
  exact h hq

theorem keepsDirs_put_directory (t : Tree) (p : Place) : KeepsDirs t (t.put p .directory) := by
  refine ⟨rfl, fun q hq => ?_⟩
  rw [at?_put, hq]
  simp

/-- What can be followed stays so as long as directories are kept. -/
theorem walk_of_keepsDirs (hkeeps : KeepsDirs t t') (h : t.walk spot ns = .ok spot') :
    t'.walk spot ns = .ok spot' := by
  induction ns generalizing spot with
  | nil => exact h
  | cons n r ih =>
    have hspot := directory_of_walk_cons h
    rw [walk_cons r hspot] at h
    rw [walk_cons r (hkeeps.directory _ hspot)]
    split at h
    · next hdot => rw [if_pos hdot]; exact ih h
    · next hdot =>
      rw [if_neg hdot]
      split at h
      · next hdots => rw [if_pos hdots]; exact ih h
      · next hdots =>
        rw [if_neg hdots]
        split at h
        · cases h
        · next hshort => rw [if_neg hshort]; exact ih h

/-! ## Creating directories -/

theorem makeAlong_cons {n : Text} {r : List Text} (h : t.makeAlong spot (n :: r) = (t', none))
    (hdot : n ≠ ['.']) (hdots : n ≠ ['.', '.']) :
    ¬ maxNameBytes < Text.byteCount n ∧
      ((t.at? (spot.down n).place = some .directory ∧ t.makeAlong (spot.down n) r = (t', none)) ∨
        (t.at? (spot.down n).place = none ∧
          (t.put (spot.down n).place .directory).makeAlong (spot.down n) r = (t', none))) := by
  rw [makeAlong, if_neg hdot, if_neg hdots] at h
  split at h
  · cases h
  next hshort =>
  refine ⟨hshort, ?_⟩
  dsimp only at h
  split at h
  · next hthere => exact .inl ⟨hthere, h⟩
  · cases h
  · next hnone => exact .inr ⟨hnone, h⟩

/-- What one name does, dots included, whatever names follow: creation ends there, or it goes on where the name
leads, and a directory is put there or nothing is changed. -/
theorem makeAlong_cases (t : Tree) (spot : Spot) (n : Text) :
    (∀ r, ∃ f, t.makeAlong spot (n :: r) = (t, some f)) ∨
      ∃ t₁, (∀ r, t.makeAlong spot (n :: r) = t₁.makeAlong (follow spot [n]) r) ∧
        (t₁ = t ∨ (t.at? (follow spot [n]).place = none ∧ t₁ = t.put (follow spot [n]).place .directory)) := by
  simp only [makeAlong, follow]
  by_cases hdot : n = ['.']
  · simp only [if_pos hdot]
    exact .inr ⟨t, fun _ => rfl, .inl rfl⟩
  by_cases hdots : n = ['.', '.']
  · simp only [if_neg hdot, if_pos hdots]
    exact .inr ⟨t, fun _ => rfl, .inl rfl⟩
  simp only [if_neg hdot, if_neg hdots]
  by_cases hlong : maxNameBytes < Text.byteCount n
  · simp only [if_pos hlong]
    exact .inl fun _ => ⟨_, rfl⟩
  simp only [if_neg hlong]
  -- what stands where the name leads decides
  cases hthere : t.at? (spot.down n).place with
  | some e =>
    cases e with
    | directory => exact .inr ⟨t, fun _ => rfl, .inl rfl⟩
    | file bytes => exact .inl fun _ => ⟨_, rfl⟩
  | none => exact .inr ⟨_, fun _ => rfl, .inr ⟨rfl, rfl⟩⟩

/-- A name, dots included, leads on and changes nothing, or it puts a directory where it leads. -/
theorem makeAlong_step {n : Text} {r : List Text} (h : t.makeAlong spot (n :: r) = (t', none)) :
    ∃ t₁, t₁.makeAlong (follow spot [n]) r = (t', none) ∧
      (t₁ = t ∨ (t.at? (follow spot [n]).place = none ∧ t₁ = t.put (follow spot [n]).place .directory)) := by
  rcases makeAlong_cases t spot n with hstop | ⟨t₁, hon, hput⟩
  · obtain ⟨f, hf⟩ := hstop r
    rw [hf] at h
    cases h
  · exact ⟨t₁, (hon r).symm.trans h, hput⟩

/-- Where creation ends half-way, the directories of some of the names, from the first on, have been created. -/
theorem exists_makeAlong_prefix {fault : Option Fault} (h : t.makeAlong spot ns = (t', fault)) :
    ∃ ms, ms <+: ns ∧ t.makeAlong spot ms = (t', none) := by
  induction ns generalizing t spot with
  | nil =>
    cases h
    exact ⟨[], List.nil_prefix, rfl⟩
  | cons n r ih =>
    rcases makeAlong_cases t spot n with hstop | ⟨t₁, hon, -⟩
    · obtain ⟨f, hf⟩ := hstop r
      rw [hf] at h
      cases h
      exact ⟨[], List.nil_prefix, rfl⟩
    · obtain ⟨ms, hms, hmade⟩ := ih ((hon r).symm.trans h)
      exact ⟨n :: ms, List.cons_prefix_cons.2 ⟨rfl, hms⟩, (hon ms).trans hmade⟩

theorem makeAlong_keepsDirs (h : t.makeAlong spot ns = (t', none)) : KeepsDirs t t' := by
  induction ns generalizing t spot with
  | nil =>
    cases h
    exact .refl _
  | cons n r ih =>
    obtain ⟨t₁, hrest, rfl | ⟨-, rfl⟩⟩ := makeAlong_step h
    · exact ih hrest
    · exact (keepsDirs_put_directory t _).trans (ih hrest)

/-- Directories are created once: where they have been created and are kept, nothing changes any more. -/
theorem makeAlong_again (h : t.makeAlong spot ns = (t', none)) (hkeeps : KeepsDirs t' t'') :
    t''.makeAlong spot ns = (t'', none) := by
  induction ns generalizing t spot with
  | nil => rfl
  | cons n r ih =>
    by_cases hdot : n = ['.']
    · rw [makeAlong, if_pos hdot] at h ⊢
      exact ih h
    by_cases hdots : n = ['.', '.']
    · rw [makeAlong, if_neg hdot, if_pos hdots] at h ⊢
      exact ih h
    obtain ⟨hshort, hcases⟩ := makeAlong_cons h hdot hdots
    have hthere : t''.at? (spot.down n).place = some .directory ∧ t''.makeAlong (spot.down n) r = (t'', none) := by
      rcases hcases with ⟨hthere, h⟩ | ⟨-, h⟩
      · exact ⟨hkeeps.directory _ ((makeAlong_keepsDirs h).directory _ hthere), ih h⟩
      · exact ⟨hkeeps.directory _ ((makeAlong_keepsDirs h).directory _ (at?_put_directory t _)), ih h⟩
    rw [makeAlong, if_neg hdot, if_neg hdots, if_neg hshort]
    dsimp only
    rw [hthere.1]
    exact hthere.2

/-- Behind directories that are there, creation starts where they lead. -/
theorem makeAlong_append (b : List Text) (h : t.makeAlong spot ns = (t, none)) :
    t.makeAlong spot (ns ++ b) = t.makeAlong (follow spot ns) b := by
  induction ns generalizing spot with
  | nil => rfl
  | cons n r ih =>
    rw [List.cons_append, follow]
    by_cases hdot : n = ['.']
    · rw [makeAlong, if_pos hdot] at h ⊢
      rw [if_pos hdot]
      exact ih h
    by_cases hdots : n = ['.', '.']
    · rw [makeAlong, if_neg hdot, if_pos hdots] at h ⊢
      rw [if_neg hdot, if_pos hdots]
      exact ih h
    obtain ⟨hshort, ⟨hthere, h⟩ | ⟨hnone, h⟩⟩ := makeAlong_cons h hdot hdots
    · rw [makeAlong, if_neg hdot, if_neg hdots, if_neg hshort, if_neg hdot, if_neg hdots]
      dsimp only
      rw [hthere]
      exact ih h
    · -- nothing is created here, but a directory would be
      have hthere := (makeAlong_keepsDirs h).directory _ (at?_put_directory t _)
      rw [hnone] at hthere
      cases hthere

end StylePrune.Files.Tree
