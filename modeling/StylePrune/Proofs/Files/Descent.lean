import StylePrune.Proofs.Files.Frame
import StylePrune.Proofs.Text.Offsets

/-!
Paths that only lead down.

Names without dots lead from a directory to the place of these names below it. They can be followed if all places on
the way are directories (`Tree.walk_within_iff`). Directories can be created along them if no file is on the way
(`Tree.makeAlong_within_iff`), and then all these places are directories and nothing else has changed
(`Tree.made_of_makeAlong`). A file can be put at the end of a path where no directory stands, if the path can be
followed to there (`Tree.write_downward_iff`).

Where a path starts, at the root or at the working directory, nothing is asked of the tree: that place and all above it
are directories.
-/
namespace StylePrune.Files.Tree

open StylePrune.Path (Dotless Downward)

variable {t t' : Tree} {p q : Place} {n : Text} {ns : List Text} {path : Text} {spot : Spot}

/-! ## Places on the way -/

/-- A place from which further names lead to another one. -/
def Above (q p : Place) : Prop := q <+: p ∧ q ≠ p

instance (q p : Place) : Decidable (Above q p) := inferInstanceAs (Decidable (q <+: p ∧ q ≠ p))

theorem Above.length_lt (h : Above q p) : q.length < p.length :=
  lt_of_le_of_ne h.1.length_le fun hlength => h.2 (h.1.eq_of_length hlength)

/-- The places up to one below another are those up to that one, and those further down. -/
theorem prefix_append_iff : q <+: p ++ ns ↔ q <+: p ∨ ∃ r, q = p ++ r ∧ r <+: ns := by
  constructor
  · intro hprefix
    rcases List.prefix_or_prefix_of_prefix hprefix (List.prefix_append p ns) with hq | ⟨r, rfl⟩
    · exact .inl hq
    · exact .inr ⟨r, rfl, (List.prefix_append_right_inj p).1 hprefix⟩
  · rintro (hq | ⟨r, rfl, hr⟩)
    · exact hq.trans (List.prefix_append p ns)
    · exact (List.prefix_append_right_inj p).2 hr

theorem prefix_or_of_above_append (h : Above q (p ++ ns)) : q <+: p ∨ ∃ r, q = p ++ r ∧ Above r ns := by
  refine (prefix_append_iff.1 h.1).imp_right fun ⟨r, hq, hr⟩ => ⟨r, hq, hr, ?_⟩
  rintro rfl
  exact h.2 hq

theorem above_append {r : Place} (h : Above r ns) : Above (p ++ r) (p ++ ns) :=
  ⟨(List.prefix_append_right_inj p).2 h.1, fun heq => h.2 (List.append_cancel_left heq)⟩

theorem Above.of_prefix {r : Place} (h : Above q p) (hr : r <+: q) : Above r p := by
  refine ⟨hr.trans h.1, ?_⟩
  rintro rfl
  exact h.2 (h.1.eq_of_length_le hr.length_le)

theorem not_above_nil (q : Place) : ¬ Above q [] := by
  intro h
  exact absurd h.length_lt (Nat.not_lt_zero q.length)

theorem above_cons : Above q (n :: p) ↔ q = [] ∨ ∃ r, q = n :: r ∧ Above r p := by
  rw [Above, List.prefix_cons_iff]
  constructor
  · rintro ⟨rfl | ⟨r, rfl, hr⟩, hne⟩
    · exact .inl rfl
    · exact .inr ⟨r, rfl, hr, fun h => hne (by rw [h])⟩
  · rintro (rfl | ⟨r, rfl, hr, hne⟩)
    · exact ⟨.inl rfl, (List.cons_ne_nil n p).symm⟩
    · exact ⟨.inr ⟨r, rfl, hr⟩, fun h => hne (List.cons.inj h).2⟩

/-- On the way to a place is the one without its last name, and what is on the way to that one. -/
theorem above_concat : Above q (p ++ [n]) ↔ q <+: p := by
  rw [Above, List.prefix_concat_iff]
  constructor
  · rintro ⟨rfl | h, hne⟩
    · exact absurd rfl hne
    · exact h
  · intro h
    refine ⟨.inr h, ?_⟩
    rintro rfl
    exact absurd h.length_le (by simp)

def NoFile (t : Tree) (q : Place) : Prop := ∀ bytes, t.at? q ≠ some (.file bytes)

theorem noFile_iff : t.NoFile q ↔ t.at? q = none ∨ t.at? q = some .directory := by
  rw [NoFile]
  cases t.at? q with
  | none => simp
  | some e => cases e <;> simp

/-! ## Following names -/

theorem follow_within (h : Dotless ns) : follow (.within p) ns = .within (p ++ ns) := by
  induction ns generalizing p with
  | nil => simp [follow]
  | cons n r ih =>
    obtain ⟨hdot, hdots, hr⟩ := h.cons
    have hdown : Spot.down n (.within p) = .within (p ++ [n]) := rfl
    rw [follow, if_neg hdot, if_neg hdots, hdown, ih hr]
    simp

/-- When names can be followed: if none of them is too long and every place on the way is a directory. -/
theorem walk_within_iff (h : Dotless ns) :
    t.walk (.within p) ns = .ok spot ↔ spot = .within (p ++ ns) ∧ (∀ n ∈ ns, Text.byteCount n ≤ maxNameBytes) ∧
      ∀ r, Above r ns → t.at? (p ++ r) = some .directory := by
  induction ns generalizing p with
  | nil => simp [walk, not_above_nil, eq_comm]
  | cons n r ih =>
    obtain ⟨hdot, hdots, hr⟩ := h.cons
    have hdown : Spot.down n (.within p) = .within (p ++ [n]) := rfl
    have hway : (∀ s, Above s (n :: r) → t.at? (p ++ s) = some .directory) ↔
        t.at? p = some .directory ∧ ∀ s, Above s r → t.at? (p ++ [n] ++ s) = some .directory := by
      constructor
      · intro hs
        refine ⟨by simpa using hs [] (above_cons.2 (.inl rfl)), fun s hsr => ?_⟩
        simpa using hs (n :: s) (above_cons.2 (.inr ⟨s, rfl, hsr⟩))
      · rintro ⟨hp, hs⟩ q hq
        rcases above_cons.1 hq with rfl | ⟨s, rfl, hsr⟩
        · simpa using hp
        · simpa using hs s hsr
    rw [hway, List.forall_mem_cons]
    by_cases hdir : t.at? p = some .directory
    · rw [walk_cons r hdir, if_neg hdot, if_neg hdots]
      by_cases hlong : maxNameBytes < Text.byteCount n
      · simp [hlong, Nat.not_le.2 hlong]
      · rw [if_neg hlong, hdown, ih hr]
        simp [hdir, Nat.le_of_not_lt hlong]
    · constructor
      · intro hwalk
        exact absurd (directory_of_walk_cons hwalk) hdir
      · rintro ⟨-, -, hp, -⟩
        exact absurd hp hdir

/-! ## Creating directories along names -/

/-- When directories can be created along names: if none of them is too long and no file is on the way. -/
theorem makeAlong_within_iff (h : Dotless ns) (hp : t.at? p = some .directory) :
    (t.makeAlong (.within p) ns).2 = none ↔
      (∀ n ∈ ns, Text.byteCount n ≤ maxNameBytes) ∧ ∀ r, r <+: ns → t.NoFile (p ++ r) := by
  induction ns generalizing t p with
  | nil => simp [makeAlong, NoFile, hp]
  | cons n r ih =>
    obtain ⟨hdot, hdots, hr⟩ := h.cons
    have hdown : Spot.down n (.within p) = .within (p ++ [n]) := rfl
    -- the directory itself is no file, so what counts is the place of the name and what is further down
    have hway : (∀ s, s <+: n :: r → t.NoFile (p ++ s)) ↔ ∀ s, s <+: r → t.NoFile (p ++ [n] ++ s) := by
      constructor
      · intro hs s hsr
        simpa using hs (n :: s) (List.cons_prefix_cons.2 ⟨rfl, hsr⟩)
      · intro hs q hq
        rcases List.prefix_cons_iff.1 hq with rfl | ⟨s, rfl, hsr⟩
        · simp [NoFile, hp]
        · simpa using hs s hsr
    rw [hway, List.forall_mem_cons, makeAlong, if_neg hdot, if_neg hdots]
    by_cases hlong : maxNameBytes < Text.byteCount n
    · simp [hlong, Nat.not_le.2 hlong]
    rw [if_neg hlong, hdown]
    have hshort : Text.byteCount n ≤ maxNameBytes := Nat.le_of_not_lt hlong
    dsimp only
    cases hat : t.at? (p ++ [n]) with
    | none =>
      have hput (s : Place) : (t.put (p ++ [n]) .directory).NoFile (p ++ [n] ++ s) ↔ t.NoFile (p ++ [n] ++ s) := by
        by_cases hs : s = []
        · subst hs
          simp [NoFile, at?_put_directory, hat]
        · rw [NoFile, at?_put_of_ne, NoFile]
          simpa using hs
      simp only [ih hr (at?_put_directory t _), hput, hshort, true_and]
    | some e =>
      cases e with
      | directory => simp only [ih hr hat, hshort, true_and]
      | file bytes =>
        constructor
        · intro hnone
          exact absurd hnone (Option.some_ne_none _)
        · rintro ⟨-, hs⟩
          exact absurd (by simpa using hat) (hs [] List.nil_prefix bytes)

theorem directory_of_makeAlong_within (h : Dotless ns) (hp : t.at? p = some .directory)
    (hmade : t.makeAlong (.within p) ns = (t', none)) {r : Place} (hr : r <+: ns) :
    t'.at? (p ++ r) = some .directory := by
  induction ns generalizing t p r with
  | nil =>
    cases hmade
    rw [List.prefix_nil.1 hr, List.append_nil]
    exact hp
  | cons n ns ih =>
    obtain ⟨hdot, hdots, hns⟩ := h.cons
    rcases List.prefix_cons_iff.1 hr with rfl | ⟨s, rfl, hs⟩
    · rw [List.append_nil]
      exact (makeAlong_keepsDirs hmade).directory p hp
    · -- a directory stands at the place of the name when the others are worked off
      obtain ⟨t₁, hdir, hrest⟩ : ∃ t₁ : Tree, t₁.at? (p ++ [n]) = some .directory ∧
          t₁.makeAlong (.within (p ++ [n])) ns = (t', none) := by
        obtain ⟨-, ⟨hthere, hrest⟩ | ⟨-, hrest⟩⟩ := makeAlong_cons hmade hdot hdots
        · exact ⟨t, hthere, hrest⟩
        · exact ⟨_, at?_put_directory t _, hrest⟩
      simpa using ih hns hdir hrest hs

/-- Directories have been created up to a place: they stand on the whole way to it and at it, where no file stood, and
nothing else has changed. -/
structure Made (t t' : Tree) (p : Place) : Prop where
  base : t'.base = t.base
  at?_eq : ∀ q, t'.at? q = if q <+: p then some .directory else t.at? q
  noFile : ∀ q, q <+: p → t.NoFile q

theorem made_root (t : Tree) : Made t t [] := by
  refine ⟨rfl, fun q => ?_, fun q hq => ?_⟩
  · split
    · next hq => rw [List.prefix_nil.1 hq, at?_root]
    · rfl
  · rw [List.prefix_nil.1 hq]
    exact noFile_iff.2 (.inr (at?_root t))

/-- **What creating directories along names does**, from a place to which there are directories. -/
theorem made_of_makeAlong (h : Dotless ns) (hp : ∀ q, q <+: p → t.at? q = some .directory)
    (hmade : t.makeAlong (.within p) ns = (t', none)) : Made t t' (p ++ ns) where
  base := (makeAlong_keepsDirs hmade).base
  at?_eq := by
    intro q
    split
    · next hq =>
      rcases prefix_append_iff.1 hq with hup | ⟨r, rfl, hr⟩
      · exact (makeAlong_keepsDirs hmade).directory q (hp q hup)
      · exact directory_of_makeAlong_within h (hp p List.prefix_rfl) hmade hr
    · next hq =>
      rcases at?_makeAlong hmade q with hsame | ⟨-, -, ms, hms, hlead⟩
      · exact hsame
      · -- a directory that is created is on the way
        rw [follow_within (h.of_prefix hms)] at hlead
        exact absurd (prefix_append_iff.2 (.inr ⟨ms, (Spot.within.inj hlead).symm, hms⟩)) hq
  noFile := by
    intro q hq
    rcases prefix_append_iff.1 hq with hup | ⟨r, rfl, hr⟩
    · exact noFile_iff.2 (.inr (hp q hup))
    · exact ((makeAlong_within_iff h (hp p List.prefix_rfl)).1 (congrArg Prod.snd hmade)).2 r hr

theorem Made.kept (h : Made t t' p) {e : Entry} (hq : t.at? q = some e) : t'.at? q = some e := by
  rw [h.at?_eq]
  split
  · next hway =>
    rcases noFile_iff.1 (h.noFile q hway) with hnone | hdir
    · rw [hnone] at hq
      cases hq
    · rw [← hq, hdir]
  · exact hq

/-! ## Paths -/

theorem at?_above_origin (hq : q <+: (t.origin path).place) : t.at? q = some .directory := by
  rw [origin] at hq
  split at hq
  · rw [List.prefix_nil.1 hq, at?_root]
  · exact at?_of_above hq

theorem placeOf_downward (t : Tree) (h : Downward path) :
    t.placeOf path = (t.origin path).place ++ Path.names path := by
  have hfollow := follow_within (p := (t.origin path).place) h
  exact congrArg Spot.place hfollow

theorem pathFault?_eq_none_iff :
    pathFault? path = none ↔ '\x00' ∉ path ∧ path ≠ [] ∧ Text.byteCount path ≤ maxPathBytes := by
  rw [pathFault?]
  by_cases hzero : '\x00' ∈ path <;> by_cases hne : path = [] <;>
    by_cases hlong : maxPathBytes < Text.byteCount path <;> simp_all

theorem pathFault?_of_prefix {dir : Text} (hdir : dir <+: path) (hne : dir ≠ []) (h : pathFault? path = none) :
    pathFault? dir = none := by
  rw [pathFault?_eq_none_iff] at h ⊢
  obtain ⟨hzero, -, hshort⟩ := h
  obtain ⟨r, rfl⟩ := hdir
  rw [Text.byteCount_append] at hshort
  exact ⟨fun hmem => hzero (List.mem_append_left r hmem), hne, by omega⟩

/-- When the directories of a path can be created, for a path that only leads down. -/
theorem makeDirs_downward_iff (h : Downward path) (hfault : path ≠ [] → pathFault? path = none) :
    (t.makeDirs path).2 = none ↔
      (∀ n ∈ Path.names path, Text.byteCount n ≤ maxNameBytes) ∧ ∀ q, q <+: t.placeOf path → t.NoFile q := by
  have horigin : t.at? (t.origin path).place = some .directory := at?_above_origin List.prefix_rfl
  have halong := makeAlong_within_iff h horigin
  have hway : (∀ q, q <+: t.placeOf path → t.NoFile q) ↔
      ∀ r, r <+: Path.names path → t.NoFile ((t.origin path).place ++ r) := by
    rw [placeOf_downward t h]
    constructor
    · exact fun hq r hr => hq _ ((List.prefix_append_right_inj _).2 hr)
    · intro hr q hq
      rcases prefix_append_iff.1 hq with hup | ⟨r, rfl, hprefix⟩
      · exact noFile_iff.2 (.inr (at?_above_origin hup))
      · exact hr r hprefix
  rw [hway, ← halong, makeDirs]
  split
  · next hempty =>
    rw [List.isEmpty_iff.1 hempty]
    rfl
  · next hempty => rw [hfault (by simpa using hempty)]

/-- What creating the directories of a path does, however far it comes. -/
theorem exists_made_of_makeDirs {fault : Option Fault} (h : Downward path) (hmade : t.makeDirs path = (t', fault)) :
    ∃ p, p <+: t.placeOf path ∧ Made t t' p := by
  obtain ⟨ms, hms, halong⟩ := exists_makeDirs_prefix hmade
  refine ⟨(t.origin path).place ++ ms, ?_, ?_⟩
  · rw [placeOf_downward t h]
    exact (List.prefix_append_right_inj _).2 hms
  · exact made_of_makeAlong (h.of_prefix hms) (fun q => at?_above_origin) halong

theorem made_of_makeDirs (h : Downward path) (hmade : t.makeDirs path = (t', none)) :
    Made t t' (t.placeOf path) := by
  rw [placeOf_downward t h]
  exact made_of_makeAlong h (fun q => at?_above_origin) (makeDirs_ok hmade)

theorem locate_downward_iff (h : Downward path) (hslash : Path.endsWithSlash path = false) :
    t.locate path = .ok spot ↔ spot = .within (t.placeOf path) ∧ pathFault? path = none ∧
      (∀ n ∈ Path.names path, Text.byteCount n ≤ maxNameBytes) ∧
      ∀ q, Above q (t.placeOf path) → t.at? q = some .directory := by
  have hway : (∀ q, Above q (t.placeOf path) → t.at? q = some .directory) ↔
      ∀ r, Above r (Path.names path) → t.at? ((t.origin path).place ++ r) = some .directory := by
    rw [placeOf_downward t h]
    constructor
    · exact fun hq r hr => hq _ (above_append hr)
    · intro hr q hq
      rcases prefix_or_of_above_append hq with hup | ⟨r, rfl, habove⟩
      · exact at?_above_origin hup
      · exact hr r habove
  have hwalk : t.walk (t.origin path) (Path.names path) = .ok spot ↔ _ := walk_within_iff h
  rw [locate_eq_ok, hslash, if_neg Bool.false_ne_true, List.append_nil, hway, placeOf_downward t h]
  exact ⟨fun ⟨hfault, hok⟩ => ⟨(hwalk.1 hok).1, hfault, (hwalk.1 hok).2⟩,
    fun ⟨hspot, hfault, hrest⟩ => ⟨hfault, hwalk.2 ⟨hspot, hrest⟩⟩⟩

/-! ## Writing -/

/-- A file is written where no directory stands, so its path does not ask for one. -/
theorem endsWithSlash_of_write {bytes : List UInt8} (h : t.write path bytes = (t', none)) :
    Path.endsWithSlash path = false := by
  obtain ⟨hlocate, hfree, -⟩ := write_ok h
  by_contra hslash
  rw [Bool.not_eq_false] at hslash
  have hwalk := (locate_eq_ok.1 hlocate).2
  rw [hslash, if_pos rfl, walk_concat_dot] at hwalk
  exact hfree hwalk.2

theorem names_ne_nil (h : Downward path) (hplace : t.at? (t.placeOf path) ≠ some .directory) :
    Path.names path ≠ [] := by
  intro hnil
  rw [placeOf_downward t h, hnil, List.append_nil] at hplace
  exact hplace (at?_above_origin List.prefix_rfl)

/-- When a file can be written, for a path that only leads down: if the path can be followed and no directory stands
at its end. -/
theorem write_downward_iff {bytes : List UInt8} (h : Downward path) :
    t.write path bytes = (t', none) ↔ Path.endsWithSlash path = false ∧
      t.locate path = .ok (.within (t.placeOf path)) ∧ t.at? (t.placeOf path) ≠ some .directory ∧
      t' = t.put (t.placeOf path) (.file bytes) := by
  constructor
  · intro hwritten
    obtain ⟨hlocate, hfree, hput⟩ := write_ok hwritten
    exact ⟨endsWithSlash_of_write hwritten, hlocate, hfree, hput⟩
  · rintro ⟨hslash, hlocate, hfree, rfl⟩
    obtain ⟨-, hfault, hshort, hdirs⟩ := (locate_downward_iff h hslash).1 hlocate
    obtain ⟨ds, n, hnames⟩ := (List.eq_nil_or_concat' _).resolve_left (names_ne_nil h hfree)
    have hdotless : Dotless (ds ++ [n]) := hnames ▸ h
    rw [placeOf_downward t h, hnames, ← List.append_assoc] at hdirs hfree ⊢
    rw [hnames] at hshort
    obtain ⟨hdot, hdots⟩ := hdotless n (by simp)
    have hdir : t.at? ((t.origin path).place ++ ds) = some .directory := hdirs _ (above_concat.2 List.prefix_rfl)
    have hwalk : t.walk (t.origin path) (ds ++ [['.']]) = .ok (.within ((t.origin path).place ++ ds)) := by
      refine walk_concat_dot.2 ⟨?_, hdir⟩
      refine (walk_within_iff (hdotless.of_prefix (List.prefix_append ds [n]))).2
        ⟨rfl, fun m hm => hshort m (List.mem_append_left [n] hm), fun r hr => ?_⟩
      exact hdirs _ (above_concat.2 ((List.prefix_append_right_inj _).2 hr.1))
    have hlong : ¬ maxNameBytes < Text.byteCount n := Nat.not_lt.2 (hshort n (by simp))
    simp only [write, hfault, hnames, List.getLast?_concat, List.dropLast_concat, hwalk, hslash, hdot, hdots,
      Spot.down, if_neg hlong, decide_false, Bool.or_self, Bool.false_eq_true, if_false]

end StylePrune.Files.Tree
