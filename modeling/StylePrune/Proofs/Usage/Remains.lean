import StylePrune.Proofs.Usage.Pruning

/-!
All that pruning leaves.

The rules of a tree are listed in the order in which they are written, each with the rules that enclose it
(`Rule.allPlaces`). What such a list shows of the rules determines them (`eq_of_entries_eq`), so the result of
pruning is described by its list: it is the list of the rules before, without those that are not left, each with
its used selectors (`eq_prune_iff`). Whether a rule is left is said without pruning anything: every style rule
around it has a used selector, and the rule is alive (`Rule.Alive`).
-/
namespace StylePrune.Css

/-! ## The rules of a tree -/

/-- A rule with the rules that enclose it, from the outermost inwards. -/
structure Placed where
  path : List Enclosing
  rule : Rule

mutual
/-- A rule and the rules inside it, each in front of those inside it. What a region holds is part of the
region. -/
def Rule.places (path : List Enclosing) : Rule → List Placed
  | .style head rules => ⟨path, .style head rules⟩ :: Rule.allPlaces (path ++ [.style head]) rules
  | .group head rules => ⟨path, .group head rules⟩ :: Rule.allPlaces (path ++ [.group head]) rules
  | .region head rules => [⟨path, .region head rules⟩]
  | .plain r => [⟨path, .plain r⟩]

def Rule.allPlaces (path : List Enclosing) : List Rule → List Placed
  | [] => []
  | r :: rs => r.places path ++ Rule.allPlaces path rs
end

/-- What a rule says itself. -/
inductive Face where
  /-- A rule that encloses others, those aside. -/
  | enclosing (e : Enclosing)
  /-- A rule of another kind, with everything inside it. -/
  | whole (r : Rule)

def Rule.face : Rule → Face
  | .style head _ => .enclosing (.style head)
  | .group head _ => .enclosing (.group head)
  | .region head rules => .whole (.region head rules)
  | .plain r => .whole (.plain r)

/-- What a list of the rules of a tree shows of one of them. -/
structure Entry where
  path : List Enclosing
  face : Face

def Placed.entry (p : Placed) : Entry := ⟨p.path, p.rule.face⟩

/-- The list of a rule and the rules inside it. -/
def Rule.ownEntries (path : List Enclosing) (r : Rule) : List Entry := (r.places path).map Placed.entry

def Rule.entries (path : List Enclosing) (rs : List Rule) : List Entry := (Rule.allPlaces path rs).map Placed.entry

variable {path : List Enclosing}

theorem Rule.entries_cons (r : Rule) (rs : List Rule) :
    Rule.entries path (r :: rs) = r.ownEntries path ++ Rule.entries path rs := by
  rw [Rule.entries, Rule.allPlaces, List.map_append, Rule.ownEntries, Rule.entries]

theorem Rule.entries_singleton (r : Rule) : Rule.entries path [r] = r.ownEntries path :=
  (Rule.entries_cons r []).trans (List.append_nil _)

theorem Rule.entries_append (rs qs : List Rule) :
    Rule.entries path (rs ++ qs) = Rule.entries path rs ++ Rule.entries path qs := by
  induction rs with
  | nil => rfl
  | cons r rs ih => rw [List.cons_append, Rule.entries_cons, Rule.entries_cons, ih, List.append_assoc]

theorem Rule.ownEntries_style (head : StyleHead) (rules : List Rule) :
    Rule.ownEntries path (.style head rules) =
      ⟨path, .enclosing (.style head)⟩ :: Rule.entries (path ++ [.style head]) rules := rfl

theorem Rule.ownEntries_group (head : GroupHead) (rules : List Rule) :
    Rule.ownEntries path (.group head rules) =
      ⟨path, .enclosing (.group head)⟩ :: Rule.entries (path ++ [.group head]) rules := rfl

/-! ## A tree is determined by its list -/

/-- Entries that come behind all that is inside of what `path` encloses. -/
def Behind (path : List Enclosing) (es : List Entry) : Prop := ∀ e ∈ es.head?, e.path.length < path.length

theorem Behind.nil : Behind path [] := by simp [Behind]

theorem Rule.head?_ownEntries (r : Rule) (es : List Entry) :
    (r.ownEntries path ++ es).head? = some ⟨path, r.face⟩ := by
  cases r <;> rfl

theorem Behind.append {es : List Entry} (h : Behind path es) (rs : List Rule) (e : Enclosing) :
    Behind (path ++ [e]) (Rule.entries path rs ++ es) := by
  intro f hf
  rw [List.length_append, List.length_singleton]
  cases rs with
  | nil =>
    have := h f hf
    omega
  | cons r rs =>
    rw [Rule.entries_cons, List.append_assoc, Rule.head?_ownEntries] at hf
    cases hf
    exact Nat.lt_succ_self _

/-- A rule in front of the list cannot be something that comes behind it. -/
theorem Behind.ne_ownEntries {es : List Entry} (h : Behind path es) (r : Rule) (fs : List Entry) :
    es ≠ r.ownEntries path ++ fs := by
  rintro rfl
  exact Nat.lt_irrefl _ (h _ (Rule.head?_ownEntries r fs))

mutual
theorem Rule.eq_of_ownEntries_eq : ∀ {path : List Enclosing} {r q : Rule} {es fs : List Entry},
    (∀ e, Behind (path ++ [e]) es) → (∀ e, Behind (path ++ [e]) fs) →
      r.ownEntries path ++ es = q.ownEntries path ++ fs → r = q ∧ es = fs
  | path, .style head rules, q, es, fs, hes, hfs, h => by
    -- the first entries are the same, so the rules are of one kind and have one head
    have hface := congrArg List.head? h
    rw [Rule.head?_ownEntries, Rule.head?_ownEntries] at hface
    cases q with
    | style head' rules' =>
      cases hface
      rw [Rule.ownEntries_style, Rule.ownEntries_style] at h
      obtain ⟨rfl, rfl⟩ := Rule.eq_of_entries_eq (hes _) (hfs _) (List.cons.inj h).2
      exact ⟨rfl, rfl⟩
    | group _ _ => cases hface
    | region _ _ => cases hface
    | plain _ => cases hface
  | path, .group head rules, q, es, fs, hes, hfs, h => by
    have hface := congrArg List.head? h
    rw [Rule.head?_ownEntries, Rule.head?_ownEntries] at hface
    cases q with
    | group head' rules' =>
      cases hface
      rw [Rule.ownEntries_group, Rule.ownEntries_group] at h
      obtain ⟨rfl, rfl⟩ := Rule.eq_of_entries_eq (hes _) (hfs _) (List.cons.inj h).2
      exact ⟨rfl, rfl⟩
    | style _ _ => cases hface
    | region _ _ => cases hface
    | plain _ => cases hface
  | path, .region head rules, q, es, fs, _, _, h => by
    have hface := congrArg List.head? h
    rw [Rule.head?_ownEntries, Rule.head?_ownEntries] at hface
    cases q <;> cases hface
    exact ⟨rfl, (List.cons.inj h).2⟩
  | path, .plain r, q, es, fs, _, _, h => by
    have hface := congrArg List.head? h
    rw [Rule.head?_ownEntries, Rule.head?_ownEntries] at hface
    cases q <;> cases hface
    exact ⟨rfl, (List.cons.inj h).2⟩

/-- **Rules are read off their list**, and what comes behind them, too. -/
theorem Rule.eq_of_entries_eq : ∀ {path : List Enclosing} {rs qs : List Rule} {es fs : List Entry},
    Behind path es → Behind path fs → Rule.entries path rs ++ es = Rule.entries path qs ++ fs → rs = qs ∧ es = fs
  | _, [], [], _, _, _, _, h => ⟨rfl, h⟩
  | path, [], q :: qs, es, fs, hes, _, h => by
    rw [Rule.entries_cons, List.append_assoc] at h
    exact absurd h (hes.ne_ownEntries q _)
  | path, r :: rs, [], es, fs, _, hfs, h => by
    rw [Rule.entries_cons, List.append_assoc] at h
    exact absurd h.symm (hfs.ne_ownEntries r _)
  | path, r :: rs, q :: qs, es, fs, hes, hfs, h => by
    rw [Rule.entries_cons, Rule.entries_cons, List.append_assoc, List.append_assoc] at h
    obtain ⟨rfl, hrest⟩ := Rule.eq_of_ownEntries_eq (fun e => hes.append rs e) (fun e => hfs.append qs e) h
    obtain ⟨rfl, rfl⟩ := Rule.eq_of_entries_eq hes hfs hrest
    exact ⟨rfl, rfl⟩
end

/-- Two trees with the same list are the same. -/
theorem Rule.entries_injective {rs qs : List Rule} (h : Rule.entries path rs = Rule.entries path qs) : rs = qs := by
  have hnil : Behind path [] := .nil
  exact (Rule.eq_of_entries_eq hnil hnil (congrArg (· ++ []) h)).1

/-! ## What is left -/

variable {u : Usage}

/-- What is left of a rule that is left. -/
def Face.kept (u : Usage) : Face → Face
  | enclosing e => enclosing (e.kept u)
  | whole r => whole r

/-- What the list shows of a rule that is left. -/
def Entry.kept (u : Usage) (e : Entry) : Entry := ⟨e.path.map (Enclosing.kept u), e.face.kept u⟩

/-- A style rule that encloses others has a used selector. A group has no selectors. -/
def Enclosing.Used (u : Usage) : Enclosing → Prop
  | style head => ∃ s ∈ head.selectors, u.uses s = true
  | group _ => True

/-- A rule that does not go by itself: a style rule with a used selector, a rule of another kind, or a group that
has one of them inside it, below groups alone. -/
inductive Rule.Alive (u : Usage) : Rule → Prop where
  | style {head : StyleHead} {rules : List Rule} {s : Selector} : s ∈ head.selectors → u.uses s = true →
      Rule.Alive u (.style head rules)
  | group {head : GroupHead} {rules : List Rule} {r : Rule} : r ∈ rules → Rule.Alive u r →
      Rule.Alive u (.group head rules)
  | region {head : RegionHead} {rules : List Rule} : Rule.Alive u (.region head rules)
  | plain {r : PlainRule} : Rule.Alive u (.plain r)

/-- A rule is left: it is alive, and every style rule around it has a used selector. -/
structure Placed.Left (u : Usage) (p : Placed) : Prop where
  path : ∀ e ∈ p.path, e.Used u
  alive : p.rule.Alive u

theorem Rule.alive_style {head : StyleHead} {rules : List Rule} :
    Rule.Alive u (.style head rules) ↔ (Enclosing.style head).Used u := by
  constructor
  · rintro (⟨hs, hu⟩ | _)
    exact ⟨_, hs, hu⟩
  · rintro ⟨s, hs, hu⟩
    exact .style hs hu

theorem Rule.alive_group {head : GroupHead} {rules : List Rule} :
    Rule.Alive u (.group head rules) ↔ ∃ r ∈ rules, r.Alive u := by
  constructor
  · rintro (_ | ⟨hr, ha⟩)
    exact ⟨_, hr, ha⟩
  · rintro ⟨r, hr, ha⟩
    exact .group hr ha

theorem Enclosing.used_style {head : StyleHead} : (Enclosing.style head).Used u ↔ (head.kept u).selectors ≠ [] :=
  StyleHead.kept_ne_nil.symm

theorem Rule.prune_cons_ne_nil {r : Rule} {rs : List Rule} :
    Rule.prune u (r :: rs) ≠ [] ↔ Rule.prune? u r ≠ none ∨ Rule.prune u rs ≠ [] := by
  rw [Rule.prune]
  cases Rule.prune? u r <;> simp

mutual
theorem Rule.prune?_ne_none_iff : ∀ {r : Rule}, Rule.prune? u r ≠ none ↔ r.Alive u
  | .style head rules => by
    rw [Rule.prune?_style, Rule.alive_style, Enclosing.used_style]
    split <;> simp_all
  | .group head rules => by
    rw [Rule.prune?_group, Rule.alive_group, ← Rule.prune_ne_nil_iff]
    split <;> simp_all
  | .region _ _ => iff_of_true (by simp [Rule.prune?]) .region
  | .plain _ => iff_of_true (by simp [Rule.prune?]) .plain

/-- Something is left of rules exactly if one of them is alive. -/
theorem Rule.prune_ne_nil_iff : ∀ {rs : List Rule}, Rule.prune u rs ≠ [] ↔ ∃ r ∈ rs, r.Alive u
  | [] => by simp [Rule.prune]
  | r :: rs => by
    rw [Rule.prune_cons_ne_nil, Rule.prune?_ne_none_iff, Rule.prune_ne_nil_iff]
    simp
end

instance : DecidablePred (Enclosing.Used u)
  | .style head => inferInstanceAs (Decidable (∃ s ∈ head.selectors, u.uses s = true))
  | .group _ => inferInstanceAs (Decidable True)

instance : DecidablePred (Rule.Alive u) := fun _ => decidable_of_iff _ Rule.prune?_ne_none_iff

instance : DecidablePred (Placed.Left u) := fun p =>
  decidable_of_iff ((∀ e ∈ p.path, e.Used u) ∧ p.rule.Alive u) ⟨fun h => ⟨h.1, h.2⟩, fun h => ⟨h.path, h.alive⟩⟩

/-- The rules that are left, each with what is left of it. -/
def Rule.remaining (u : Usage) (path : List Enclosing) (rs : List Rule) : List Entry :=
  ((Rule.allPlaces path rs).filter (Placed.Left u ·)).map fun p => p.entry.kept u

/-- What is left of a rule and the rules inside it. -/
def Rule.ownRemaining (u : Usage) (path : List Enclosing) (r : Rule) : List Entry :=
  ((r.places path).filter (Placed.Left u ·)).map fun p => p.entry.kept u

theorem Rule.remaining_cons (r : Rule) (rs : List Rule) :
    Rule.remaining u path (r :: rs) = r.ownRemaining u path ++ Rule.remaining u path rs := by
  rw [Rule.remaining, Rule.allPlaces, List.filter_append, List.map_append, Rule.ownRemaining, Rule.remaining]

theorem ownRemaining_eq_append (r : Rule) {ps : List Placed} (h : r.places path = ⟨path, r⟩ :: ps) :
    r.ownRemaining u path =
      (if Placed.Left u ⟨path, r⟩ then [(Placed.entry ⟨path, r⟩).kept u] else []) ++
        (ps.filter (Placed.Left u ·)).map fun p => p.entry.kept u := by
  rw [Rule.ownRemaining, h, List.filter_cons]
  split <;> simp_all

mutual
theorem Rule.path_of_mem_places : ∀ {path : List Enclosing} {r : Rule} {p : Placed},
    p ∈ r.places path → path <+: p.path
  | path, .style head rules, p, h => by
    rw [Rule.places, List.mem_cons] at h
    rcases h with rfl | h
    · exact List.prefix_refl path
    · exact (List.prefix_append path _).trans (Rule.path_of_mem_allPlaces h)
  | path, .group head rules, p, h => by
    rw [Rule.places, List.mem_cons] at h
    rcases h with rfl | h
    · exact List.prefix_refl path
    · exact (List.prefix_append path _).trans (Rule.path_of_mem_allPlaces h)
  | path, .region _ _, p, h => by
    rw [Rule.places, List.mem_singleton] at h
    exact h ▸ List.prefix_refl path
  | path, .plain _, p, h => by
    rw [Rule.places, List.mem_singleton] at h
    exact h ▸ List.prefix_refl path

theorem Rule.path_of_mem_allPlaces : ∀ {path : List Enclosing} {rs : List Rule} {p : Placed},
    p ∈ Rule.allPlaces path rs → path <+: p.path
  | _, [], _, h => by cases h
  | path, r :: rs, p, h => by
    rw [Rule.allPlaces, List.mem_append] at h
    exact h.elim Rule.path_of_mem_places Rule.path_of_mem_allPlaces
end

theorem Rule.remaining_eq_nil {e : Enclosing} (he : e ∈ path) (hu : ¬ e.Used u) (rs : List Rule) :
    Rule.remaining u path rs = [] := by
  rw [Rule.remaining, List.map_eq_nil_iff, List.filter_eq_nil_iff]
  intro p hp hleft
  have hmem : e ∈ p.path := (Rule.path_of_mem_allPlaces hp).subset he
  exact hu ((of_decide_eq_true hleft).path e hmem)

theorem reaches_concat {e : Enclosing} (h : ∀ f ∈ path, f.Used u) (he : e.Used u) :
    ∀ f ∈ path ++ [e], f.Used u := by
  rw [List.forall_mem_append, List.forall_mem_singleton]
  exact ⟨h, he⟩

mutual
theorem Rule.entries_prune? : ∀ {path : List Enclosing} (r : Rule), (∀ e ∈ path, e.Used u) →
    Rule.entries (path.map (Enclosing.kept u)) (Rule.prune? u r).toList = r.ownRemaining u path
  | path, .style head rules, h => by
    rw [ownRemaining_eq_append _ rfl, ← Rule.remaining, Rule.prune?_style]
    by_cases hu : (Enclosing.style head).Used u
    · have hinner := Rule.entries_prune rules (reaches_concat h hu)
      rw [if_neg (Enclosing.used_style.1 hu), if_pos ⟨h, Rule.alive_style.2 hu⟩, ← hinner, List.map_append]
      exact Rule.entries_singleton _
    · have hgone : ¬ Placed.Left u ⟨path, .style head rules⟩ := fun hleft => hu (Rule.alive_style.1 hleft.alive)
      rw [if_pos (not_not.1 (mt Enclosing.used_style.2 hu)), if_neg hgone, Rule.remaining_eq_nil (by simp) hu]
      rfl
  | path, .group head rules, h => by
    have hinner := Rule.entries_prune rules (reaches_concat (e := .group head) h trivial)
    rw [ownRemaining_eq_append _ rfl, ← Rule.remaining, ← hinner, Rule.prune?_group]
    by_cases ha : Rule.Alive u (.group head rules)
    · have hne : Rule.prune u rules ≠ [] := Rule.prune_ne_nil_iff.2 (Rule.alive_group.1 ha)
      rw [if_neg hne, if_pos ⟨h, ha⟩, List.map_append]
      exact Rule.entries_singleton _
    · -- of a group that goes nothing is left inside, either
      have hnil : Rule.prune u rules = [] := not_not.1 (mt Rule.prune_ne_nil_iff.1 (mt Rule.alive_group.2 ha))
      rw [if_pos hnil, if_neg fun hleft => ha hleft.alive, hnil]
      rfl
  | path, .region head rules, h => by
    rw [ownRemaining_eq_append _ rfl, if_pos ⟨h, .region⟩]
    rfl
  | path, .plain r, h => by
    rw [ownRemaining_eq_append _ rfl, if_pos ⟨h, .plain⟩]
    rfl

/-- The list of what pruning leaves, where all that encloses the rules is left. -/
theorem Rule.entries_prune : ∀ {path : List Enclosing} (rs : List Rule), (∀ e ∈ path, e.Used u) →
    Rule.entries (path.map (Enclosing.kept u)) (Rule.prune u rs) = Rule.remaining u path rs
  | _, [], _ => rfl
  | path, r :: rs, h => by
    have hr := Rule.entries_prune? r h
    rw [Rule.remaining_cons, ← hr, ← Rule.entries_prune rs h, Rule.prune_cons, Rule.entries_append]
end

/-! ## No empty groups -/

mutual
theorem Rule.ne_emptyGroup_of_mem_places : ∀ {path : List Enclosing} {r kept : Rule} {p : Placed},
    Rule.prune? u r = some kept → p ∈ kept.places path → ∀ head, p.rule ≠ .group head []
  | path, .style head rules, kept, p, h, hp => by
    rw [Rule.prune?_style] at h
    split at h
    · cases h
    · cases h
      rw [Rule.places, List.mem_cons] at hp
      rcases hp with rfl | hp
      · simp
      · exact Rule.ne_emptyGroup_of_mem_allPlaces hp
  | path, .group head rules, kept, p, h, hp => by
    rw [Rule.prune?_group] at h
    split at h
    · cases h
    · next hne =>
      cases h
      rw [Rule.places, List.mem_cons] at hp
      rcases hp with rfl | hp
      · simp [hne]
      · exact Rule.ne_emptyGroup_of_mem_allPlaces hp
  | path, .region head rules, kept, p, h, hp => by
    cases h
    rw [Rule.places, List.mem_singleton] at hp
    simp [hp]
  | path, .plain r, kept, p, h, hp => by
    cases h
    rw [Rule.places, List.mem_singleton] at hp
    simp [hp]

theorem Rule.ne_emptyGroup_of_mem_allPlaces : ∀ {path : List Enclosing} {rs : List Rule} {p : Placed},
    p ∈ Rule.allPlaces path (Rule.prune u rs) → ∀ head, p.rule ≠ .group head []
  | _, [], _, h => by cases h
  | path, r :: rs, p, h => by
    rw [Rule.prune] at h
    cases hr : Rule.prune? u r with
    | none =>
      rw [hr] at h
      exact Rule.ne_emptyGroup_of_mem_allPlaces h
    | some kept =>
      rw [hr, Rule.allPlaces, List.mem_append] at h
      exact h.elim (Rule.ne_emptyGroup_of_mem_places hr) Rule.ne_emptyGroup_of_mem_allPlaces
end

/-- **What pruning leaves.** The pruned rules are the one tree whose list is that of the rules that are left:
every rule that is alive and has a used selector in each style rule around it, in its order and below what is left
of the rules around it, a style rule with exactly its used selectors and everything else as it was. No group in it
is empty. -/
theorem eq_prune_iff (u : Usage) (rs : List Rule) :
    (∀ qs, qs = Rule.prune u rs ↔ Rule.entries [] qs = Rule.remaining u [] rs) ∧
      ∀ p ∈ Rule.allPlaces [] (Rule.prune u rs), ∀ head, p.rule ≠ .group head [] := by
  have hpath : ∀ e ∈ ([] : List Enclosing), e.Used u := by simp
  have hlist : Rule.entries [] (Rule.prune u rs) = Rule.remaining u [] rs := Rule.entries_prune rs hpath
  refine ⟨fun qs => ⟨?_, fun h => ?_⟩, fun p hp => Rule.ne_emptyGroup_of_mem_allPlaces hp⟩
  · rintro rfl
    exact hlist
  · rw [← hlist] at h
    exact Rule.entries_injective h

end StylePrune.Css
