import StylePrune.Proofs.Files.Save

/-!
What is left alone when directories and files are created.

Creating the directories of a path puts directories on its way where nothing stood, and changes nothing else
(`Tree.at?_makeDirs`). Entries that are put below a place, one after another, change their own places alone
(`Tree.at?_putAll`); under new and distinct names they are what is listed there in addition
(`Tree.below_putAll`).
-/
namespace StylePrune.Files.Tree

variable {t t' : Tree} {spot : Spot} {ns : List Text} {path : Text} {p q : Place}

/-! ## Places on the way of a path -/

/-- Some of the names, from the first on, lead to the place. -/
def Passes (spot : Spot) (ns : List Text) (p : Place) : Prop := ∃ ms, ms <+: ns ∧ follow spot ms = .within p

/-- The place is on the way of a path, or where it leads. -/
def OnWay (t : Tree) (path : Text) (p : Place) : Prop := Passes (t.origin path) (Path.names path) p

theorem Passes.cons {n : Text} (h : Passes (follow spot [n]) ns p) : Passes spot (n :: ns) p := by
  obtain ⟨ms, hms, hlead⟩ := h
  refine ⟨n :: ms, List.cons_prefix_cons.2 ⟨rfl, hms⟩, ?_⟩
  rw [← hlead, ← follow_append]
  rfl

theorem passes_cons_self {n : Text} : Passes spot (n :: ns) (follow spot [n]).place :=
  Passes.cons ⟨[], List.nil_prefix, rfl⟩

/-- A place that names lead to has no other names than those and the ones from which they start. -/
theorem mem_of_follow {n : Text} (hn : n ∈ (follow spot ns).place) : n ∈ ns ∨ n ∈ spot.place := by
  induction ns generalizing spot with
  | nil => exact .inr hn
  | cons m r ih =>
    rw [follow] at hn
    split at hn
    · exact (ih hn).imp_left (List.mem_cons_of_mem m)
    split at hn
    · -- going up only takes a name away
      exact (ih hn).imp (List.mem_cons_of_mem m) fun hup => List.dropLast_subset _ hup
    · rcases ih hn with hr | hdown
      · exact .inl (List.mem_cons_of_mem m hr)
      · rcases List.mem_append.1 hdown with hspot | hm
        · exact .inr hspot
        · exact .inl (List.mem_cons.2 (.inl (List.mem_singleton.1 hm)))

theorem mem_of_onWay {n : Text} (h : t.OnWay path p) (hn : n ∈ p) : n ∈ Path.names path ∨ n ∈ t.base := by
  obtain ⟨ms, hms, hlead⟩ := h
  obtain rfl : (follow (t.origin path) ms).place = p := congrArg Spot.place hlead
  refine (mem_of_follow hn).imp (fun hmem => hms.subset hmem) fun horigin => ?_
  rw [origin] at horigin
  split at horigin
  · cases horigin
  · exact horigin

/-- On the way of a path below another one are the places on the way of that one, and where it leads. -/
theorem onWay_join {d n : Text} (hn : Path.Plain n) (h : t.OnWay (Path.join d n) p) :
    t.OnWay d p ∨ t.placeOf (Path.join d n) = p := by
  obtain ⟨ms, hms, hlead⟩ := h
  rw [Path.names_join d hn, List.prefix_concat_iff] at hms
  rcases hms with rfl | hms
  · rw [← Path.names_join d hn] at hlead
    exact .inr (congrArg Spot.place hlead)
  · rw [origin_join t d hn] at hlead
    exact .inl ⟨ms, hms, hlead⟩

/-! ## Creating directories -/

theorem at?_makeAlong (h : t.makeAlong spot ns = (t', none)) (p : Place) :
    t'.at? p = t.at? p ∨ (t.at? p = none ∧ t'.at? p = some .directory ∧ Passes spot ns p) := by
  induction ns generalizing t spot with
  | nil =>
    cases h
    exact .inl rfl
  | cons n r ih =>
    obtain ⟨t₁, hrest, rfl | ⟨hnone, rfl⟩⟩ := makeAlong_step h
    · exact (ih hrest).imp_right fun ⟨hnone, hdir, hway⟩ => ⟨hnone, hdir, hway.cons⟩
    · by_cases hp : p = (follow spot [n]).place
      · -- this is the directory that is created for the name, and it stays
        subst hp
        have hdir := (makeAlong_keepsDirs hrest).directory _ (at?_put_directory t _)
        exact .inr ⟨hnone, hdir, passes_cons_self⟩
      · have hother : (t.put (follow spot [n]).place .directory).at? p = t.at? p := at?_put_of_ne t .directory hp
        rw [← hother]
        exact (ih hrest).imp_right fun ⟨hnone, hdir, hway⟩ => ⟨hnone, hdir, hway.cons⟩

/-- What creating directories leaves alone: everything but places on the way where nothing stood. -/
theorem at?_makeDirs (h : t.makeDirs path = (t', none)) (p : Place) :
    t'.at? p = t.at? p ∨ (t.at? p = none ∧ t'.at? p = some .directory ∧ t.OnWay path p) :=
  at?_makeAlong (makeDirs_ok h) p

theorem directory_of_makeAlong {n : Text} (h : t.makeAlong spot (ns ++ [n]) = (t', none)) (hdot : n ≠ ['.'])
    (hdots : n ≠ ['.', '.']) : t'.at? (follow spot (ns ++ [n])).place = some .directory := by
  -- the names in front of the last one only lead on
  induction ns generalizing t spot with
  | nil =>
    have hdown : follow spot ([] ++ [n]) = spot.down n := by
      rw [List.nil_append, follow, if_neg hdot, if_neg hdots, follow]
    rw [hdown]
    obtain ⟨-, ⟨hthere, h⟩ | ⟨-, h⟩⟩ := makeAlong_cons h hdot hdots
    · cases h
      exact hthere
    · cases h
      exact at?_put_directory t _
  | cons m r ih =>
    obtain ⟨t₁, h, -⟩ := makeAlong_step h
    have hdir := ih h
    rwa [← follow_append] at hdir

theorem directory_of_makeDirs_join {d n : Text} (hn : Path.Plain n)
    (h : t.makeDirs (Path.join d n) = (t', none)) : t'.at? (t.placeOf (Path.join d n)) = some .directory := by
  have halong := makeDirs_ok h
  rw [placeOf]
  rw [Path.names_join d hn] at halong ⊢
  exact directory_of_makeAlong halong hn.dot hn.dots

/-! ## Entries that are put below a place -/

theorem below_eq_nil (h : ∀ r, r ≠ [] → t.at? (p ++ r) = none) : t.below p = [] := by
  rw [List.eq_nil_iff_forall_not_mem]
  rintro ⟨r, e⟩ hmem
  have hr : r ≠ [] := by
    intro hr
    obtain ⟨f, -, hf⟩ := List.mem_filterMap.1 hmem
    split at hf
    · next hbelow =>
      rw [Bool.and_eq_true, List.isPrefixOf_iff_prefix] at hbelow
      obtain ⟨⟨s, hs⟩, hne⟩ := hbelow
      cases hf
      rw [← hs, List.drop_left] at hr
      rw [hr, List.append_nil] at hs
      simp [hs] at hne
    · cases hf
  have hnone := h r hr
  rw [at?_append t p hr, List.lookup_eq_none_iff] at hnone
  simpa using hnone (r, e) hmem

def putAll (t : Tree) (p : Place) (es : List (Place × Entry)) : Tree :=
  es.foldl (fun t e => t.put (p ++ e.1) e.2) t

@[simp] theorem base_putAll (t : Tree) (p : Place) (es : List (Place × Entry)) : (t.putAll p es).base = t.base := by
  unfold putAll
  induction es generalizing t with
  | nil => rfl
  | cons e es ih => exact ih (t.put (p ++ e.1) e.2)

theorem putAll_below (t : Tree) (p r : Place) (es : List (Place × Entry)) :
    t.putAll (p ++ r) es = t.putAll p (es.map fun e => (r ++ e.1, e.2)) := by
  unfold putAll
  rw [List.foldl_map]
  simp only [List.append_assoc]

theorem at?_putAll {es : List (Place × Entry)} (h : ∀ e ∈ es, p ≠ q ++ e.1) : (t.putAll q es).at? p = t.at? p := by
  induction es generalizing t with
  | nil => rfl
  | cons e es ih =>
    have hrest := ih (t := t.put (q ++ e.1) e.2) fun f hf => h f (List.mem_cons_of_mem e hf)
    exact hrest.trans (at?_put_of_ne t e.2 (h e List.mem_cons_self))

theorem below_putAll {es : List (Place × Entry)} (hne : ∀ e ∈ es, e.1 ≠ []) (hnodup : (es.map Prod.fst).Nodup)
    (hnew : ∀ e ∈ es, e.1 ∉ (t.below q).map Prod.fst) : (t.putAll q es).below q = t.below q ++ es := by
  induction es generalizing t with
  | nil => exact (List.append_nil _).symm
  | cons e es ih =>
    have he : e ∈ e :: es := List.mem_cons_self
    rw [List.map_cons, List.nodup_cons] at hnodup
    have hnone : t.at? (q ++ e.1) = none := by
      rw [at?_append t q (hne e he), List.lookup_eq_none_iff]
      intro f hf
      rw [bne_iff_ne]
      exact fun heq => hnew e he (heq ▸ List.mem_map_of_mem hf)
    have hbelow : (t.put (q ++ e.1) e.2).below q = t.below q ++ [e] := below_put e.2 (hne e he) hnone
    show ((t.put (q ++ e.1) e.2).putAll q es).below q = _
    rw [ih (fun f hf => hne f (List.mem_cons_of_mem e hf)) hnodup.2, hbelow, List.append_assoc]
    · rfl
    · intro f hf hmem
      rw [hbelow, List.map_append, List.mem_append] at hmem
      rcases hmem with hmem | hmem
      · exact hnew f (List.mem_cons_of_mem e hf) hmem
      · -- another entry of the same name would be the one that was just put there
        exact hnodup.1 (List.mem_map.2 ⟨f, hf, List.mem_singleton.1 hmem⟩)

theorem at?_of_mem_below {r : Place} {e : Entry} (hnodup : ((t.below p).map Prod.fst).Nodup)
    (h : (r, e) ∈ t.below p) (hr : r ≠ []) : t.at? (p ++ r) = some e := by
  rw [at?_append t p hr]
  exact lookup_of_mem hnodup h

end StylePrune.Files.Tree
