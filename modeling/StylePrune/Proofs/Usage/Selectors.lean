import StylePrune.Proofs.Text.Basic
import StylePrune.Proofs.Usage.Tokens
import StylePrune.Usage.Prune

/-!
Which selectors count as unused.

What a selector names is said by a derivation (`Css.Selector.Names`): its tags, ids and classes, and what
the selectors inside `:not()`, `:is()`, `:where()` and `:has()` name. The identifiers that are collected are
these names (`Css.Selector.mem_identifiers`), so a selector is unused exactly if it names something and
nothing that it names is on the safelist or mentioned by the page (`uses_eq_false_iff`).
-/
namespace StylePrune

namespace Css

mutual
inductive Simple.Names : Simple → Text → Prop where
  | tag {n : Text} : Simple.Names (.tag n) n
  | lowerTag {n : Text} : Simple.Names (.tag n) (Text.lowerAscii n)
  | id {n : Text} : Simple.Names (.id n) n
  | className {n : Text} : Simple.Names (.className n) n
  | not {l : List Selector} {s : Selector} {x : Text} : s ∈ l → Selector.Names s x → Simple.Names (.not l) x
  | is {l : List Selector} {s : Selector} {x : Text} : s ∈ l → Selector.Names s x → Simple.Names (.is l) x
  | whereAny {l : List Selector} {s : Selector} {x : Text} : s ∈ l → Selector.Names s x →
      Simple.Names (.whereAny l) x
  | has {l : List Selector} {s : Selector} {x : Text} : s ∈ l → Selector.Names s x → Simple.Names (.has l) x

/-- What a selector names: whatever one of its simple selectors does. -/
inductive Selector.Names : Selector → Text → Prop where
  | simple {s : Selector} {p : Simple} {x : Text} : p ∈ s.simples → Simple.Names p x → Selector.Names s x
end

theorem Simple.names_tag {n x : Text} : (Simple.tag n).Names x ↔ x = n ∨ x = Text.lowerAscii n := by
  constructor
  · rintro (_ | _)
    · exact .inl rfl
    · exact .inr rfl
  · rintro (rfl | rfl)
    · exact .tag
    · exact .lowerTag

theorem Selector.names_iff {s : Selector} {x : Text} : s.Names x ↔ ∃ p ∈ s.simples, p.Names x := by
  constructor
  · rintro ⟨hp, hx⟩
    exact ⟨_, hp, hx⟩
  · rintro ⟨p, hp, hx⟩
    exact .simple hp hx

theorem Selector.simples_combined (l : Selector) (c : Combinator) (ps : List Simple) :
    (Selector.combined l c ps).simples = l.simples ++ ps := by
  simp [simples, compounds]

theorem Selector.Names.combined {l : Selector} {x : Text} (h : l.Names x) (c : Combinator) (ps : List Simple) :
    (Selector.combined l c ps).Names x := by
  obtain ⟨p, hp, hx⟩ := Selector.names_iff.1 h
  exact .simple (by simp [Selector.simples_combined, hp]) hx

/-! ## The identifiers that are collected -/

mutual
theorem Simple.mem_identifiers : ∀ {p : Simple} {x : Text}, x ∈ p.identifiers ↔ p.Names x
  | .tag n, x => by
    rw [Simple.identifiers, Simple.names_tag]
    simp
  | .id n, x => by
    rw [Simple.identifiers, List.mem_singleton]
    exact ⟨fun h => h ▸ .id, fun h => by cases h; rfl⟩
  | .className n, x => by
    rw [Simple.identifiers, List.mem_singleton]
    exact ⟨fun h => h ▸ .className, fun h => by cases h; rfl⟩
  | .not l, x => by
    rw [Simple.identifiers, Selector.mem_listIdentifiers]
    exact ⟨fun ⟨s, hs, h⟩ => .not hs h, fun h => by cases h with | not hs h => exact ⟨_, hs, h⟩⟩
  | .is l, x => by
    rw [Simple.identifiers, Selector.mem_listIdentifiers]
    exact ⟨fun ⟨s, hs, h⟩ => .is hs h, fun h => by cases h with | is hs h => exact ⟨_, hs, h⟩⟩
  | .whereAny l, x => by
    rw [Simple.identifiers, Selector.mem_listIdentifiers]
    exact ⟨fun ⟨s, hs, h⟩ => .whereAny hs h, fun h => by cases h with | whereAny hs h => exact ⟨_, hs, h⟩⟩
  | .has l, x => by
    rw [Simple.identifiers, Selector.mem_listIdentifiers]
    exact ⟨fun ⟨s, hs, h⟩ => .has hs h, fun h => by cases h with | has hs h => exact ⟨_, hs, h⟩⟩
  | .universal, x | .inNamespace _, x | .attr _ _ _, x | .nesting, x | .scope, x | .root, x | .empty, x
  | .nth _ _ _, x | .nthOf _ _ _ _, x | .any _ _, x | .host _, x | .slotted _, x | .part _, x
  | .pseudoClass _, x | .pseudoElement _, x => by
    rw [Simple.identifiers]
    · exact iff_of_false List.not_mem_nil (by rintro ⟨⟩)
    all_goals simp

theorem Simple.mem_allIdentifiers : ∀ {ps : List Simple} {x : Text},
    x ∈ Simple.allIdentifiers ps ↔ ∃ p ∈ ps, p.Names x
  | [], x => by simp [Simple.allIdentifiers]
  | p :: ps, x => by
    rw [Simple.allIdentifiers, List.mem_append, Simple.mem_identifiers, Simple.mem_allIdentifiers]
    simp

theorem Selector.mem_identifiers : ∀ {s : Selector} {x : Text}, x ∈ s.identifiers ↔ s.Names x
  | .compound ps, x => by
    rw [Selector.identifiers, Simple.mem_allIdentifiers, Selector.names_iff]
    simp [Selector.simples, Selector.compounds]
  | .combined l c ps, x => by
    rw [Selector.identifiers, List.mem_append, Selector.mem_identifiers, Simple.mem_allIdentifiers,
      Selector.names_iff, Selector.names_iff, Selector.simples_combined]
    simp only [List.mem_append, or_and_right, exists_or]

theorem Selector.mem_listIdentifiers : ∀ {l : List Selector} {x : Text},
    x ∈ Selector.listIdentifiers l ↔ ∃ s ∈ l, s.Names x
  | [], x => by simp [Selector.listIdentifiers]
  | s :: l, x => by
    rw [Selector.listIdentifiers, List.mem_append, Selector.mem_identifiers, Selector.mem_listIdentifiers]
    simp
end

end Css

/-! ## Unused selectors -/

namespace Usage

/-- A selector is unused exactly if it names something and nothing that it names is used. -/
theorem uses_eq_false_iff {u : Usage} {s : Css.Selector} :
    u.uses s = false ↔ (∃ x, s.Names x) ∧ ∀ x, s.Names x → u.has x = false := by
  have hsome : s.identifiers.isEmpty = false ↔ ∃ x, s.Names x := by
    simp only [← Css.Selector.mem_identifiers, List.isEmpty_eq_false_iff_exists_mem]
  rw [uses, Bool.or_eq_false_iff, hsome, List.any_eq_false]
  simp only [Css.Selector.mem_identifiers, Bool.not_eq_true]

theorem uses_of_names {u : Usage} {s : Css.Selector} {x : Text} (hx : s.Names x) (h : u.has x = true) :
    u.uses s = true := by
  rw [uses, Bool.or_eq_true, List.any_eq_true]
  exact .inr ⟨x, Css.Selector.mem_identifiers.2 hx, h⟩

theorem has_of_mem {u : Usage} {x : Text} (h : x ∈ u.mentioned) : u.has x = true := by
  rw [has, Bool.or_eq_true, List.contains_iff_mem]
  exact .inl h

theorem has_eq_false_iff {u : Usage} {x : Text} :
    u.has x = false ↔
      (x ∉ u.safelist.tokens ∧ ∀ p ∈ u.safelist.patterns, p.occursIn x = false) ∧ x ∉ u.mentioned := by
  simp [has, Config.Safelist.contains, and_comm]

/-- **When a selector is removed.** It names something, and nothing that it names is kept by the safelist or
mentioned by the page: neither as a maximal run of token characters nor as one with colons after it. -/
theorem uses_ofMarkup_eq_false_iff (markup : Text) (safelist : Config.Safelist) (s : Css.Selector) :
    (ofMarkup markup safelist).uses s = false ↔
      (∃ x, s.Names x) ∧ ∀ x, s.Names x →
        (x ∉ safelist.tokens ∧ ∀ p ∈ safelist.patterns, p.occursIn x = false) ∧
          (x = [] ∨ x.getLast? = some ':' ∨
            ∀ n, ¬ Text.IsRun isTokenChar markup (x ++ List.replicate n ':')) := by
  have hmentioned (x : Text) : x ∉ (ofMarkup markup safelist).mentioned ↔
      x = [] ∨ x.getLast? = some ':' ∨
        ∀ n, ¬ Text.IsRun isTokenChar markup (x ++ List.replicate n ':') := by
    rw [ofMarkup, mem_tokenList]
    simp only [not_and_or, not_not, not_exists, ne_eq]
  rw [uses_eq_false_iff]
  simp only [has_eq_false_iff, hmentioned]
  rfl

end Usage

end StylePrune
