import Mathlib.Data.List.Forall2
import StylePrune.Proofs.Usage.Pruning

/-!
Pruning again, by a page that uses no more.

Where all that one usage has is among what another has (`Usage.Within`), pruning by the wider one first makes
no difference to pruning by the narrower one (`Css.prune_prune_of_within`). A wider usage decides about more
selectors that they stay, so whatever it empties is empty for the narrower one too. Pruning twice by one usage is
therefore pruning once, with nothing to remove the second time, and what is left by the narrower usage is left
by the wider one (`Css.Rule.LeftOf`).
-/
namespace StylePrune

/-- Whatever counts as used by the first usage does by the second. -/
def Usage.Within (u v : Usage) : Prop := ∀ x, u.has x = true → v.has x = true

theorem Usage.Within.rfl {u : Usage} : u.Within u := fun _ h => h

theorem Usage.within_of_subset {u v : Usage} (hpage : u.mentioned ⊆ v.mentioned)
    (hsafe : ∀ x, u.safelist.contains x = true → v.safelist.contains x = true) : u.Within v := by
  intro x hx
  rw [Usage.has, Bool.or_eq_true, List.contains_iff_mem] at hx ⊢
  exact hx.imp (fun h => hpage h) (hsafe x)

theorem Usage.Within.uses {u v : Usage} (h : u.Within v) {s : Css.Selector} (hs : u.uses s = true) :
    v.uses s = true := by
  rw [Usage.uses, Bool.or_eq_true, List.any_eq_true] at hs ⊢
  rcases hs with hnone | ⟨x, hx, hhas⟩
  · exact .inl hnone
  · exact .inr ⟨x, hx, h x hhas⟩

namespace Css

variable {u v : Usage}

/-! ## Absorption -/

/-- A wider usage takes no selector away that a narrower one would keep. -/
theorem StyleHead.kept_kept (h : u.Within v) (head : StyleHead) : (head.kept v).kept u = head.kept u := by
  have hsel : (head.selectors.filter v.uses).filter u.uses = head.selectors.filter u.uses := by
    rw [List.filter_filter]
    refine List.filter_congr fun s _ => ?_
    cases hs : u.uses s with
    | false => rfl
    | true => rw [h.uses hs, Bool.true_and]
  rw [kept, kept, kept, hsel]

mutual
theorem Rule.bind_prune? (h : u.Within v) : ∀ r : Rule,
    (Rule.prune? v r).bind (Rule.prune? u) = Rule.prune? u r
  | .style head rules => by
    have hkept := StyleHead.kept_kept h head
    by_cases hv : (head.kept v).selectors = []
    · -- a rule that the wider usage empties has nothing for the narrower one
      have hu : (head.kept u).selectors = [] := by
        rw [← hkept]
        change (head.kept v).selectors.filter u.uses = []
        rw [hv]
        rfl
      rw [Rule.prune?_style, if_pos hv, Rule.prune?_style, if_pos hu, Option.bind_none]
    · rw [Rule.prune?_style, if_neg hv, Option.bind_some, Rule.prune?_style, Rule.prune?_style, hkept,
        Rule.prune_prune h rules]
  | .group head rules => by
    have ih := Rule.prune_prune h rules
    by_cases hv : Rule.prune v rules = []
    · have hu : Rule.prune u rules = [] := by
        rw [← ih, hv, Rule.prune]
      rw [Rule.prune?_group, if_pos hv, Rule.prune?_group, if_pos hu, Option.bind_none]
    · rw [Rule.prune?_group, if_neg hv, Option.bind_some, Rule.prune?_group, Rule.prune?_group, ih]
  | .region _ _ => rfl
  | .plain _ => rfl

/-- The narrower usage leaves the same of rules, whether or not the wider one came first. -/
theorem Rule.prune_prune (h : u.Within v) : ∀ rs : List Rule, Rule.prune u (Rule.prune v rs) = Rule.prune u rs
  | [] => rfl
  | r :: rs => by
    have hr := Rule.bind_prune? h r
    have hrs := Rule.prune_prune h rs
    rw [Rule.prune, Rule.prune.eq_2 u]
    cases hv : Rule.prune? v r with
    | none =>
      have hu : Rule.prune? u r = none := by rw [← hr, hv, Option.bind_none]
      rw [hu]
      exact hrs
    | some kept =>
      have hu : Rule.prune? u kept = Rule.prune? u r := by rw [← hr, hv, Option.bind_some]
      simp only [Rule.prune, hu, hrs]
end

/-! ## Nothing left to remove -/

mutual
theorem Rule.removed_of_prune? : ∀ {r kept : Rule}, Rule.prune? u r = some kept → Rule.removed u kept = 0
  | .style head rules, kept, h => by
    rw [Rule.prune?_style] at h
    split at h
    · cases h
    · next hne =>
      cases h
      have hall : (head.kept u).selectors.filter u.uses = (head.kept u).selectors := by
        rw [List.filter_eq_self]
        exact fun s hs => (StyleHead.mem_kept.1 hs).2
      obtain ⟨s, r, hsr⟩ := List.exists_cons_of_ne_nil hne
      rw [Rule.removed, hall, hsr]
      simp only [Nat.sub_self, Nat.zero_add]
      exact Rule.removedFrom_prune rules
  | .group head rules, kept, h => by
    rw [Rule.prune?_group] at h
    split at h
    · cases h
    · cases h
      rw [Rule.removed]
      exact Rule.removedFrom_prune rules
  | .region _ _, _, h => by
    cases h
    rfl
  | .plain _, _, h => by
    cases h
    rfl

theorem Rule.removedFrom_prune : ∀ rs : List Rule, Rule.removedFrom u (Rule.prune u rs) = 0
  | [] => rfl
  | r :: rs => by
    have hrs := Rule.removedFrom_prune rs
    rw [Rule.prune]
    cases hr : Rule.prune? u r with
    | none => exact hrs
    | some kept =>
      have hkept := Rule.removed_of_prune? hr
      rw [Rule.removedFrom, hkept, hrs]
end

/-! ## What is left of rules -/

/-- The first rule is what may be left of the second: a style rule with some of its selectors, a group, both with
what may be left of some of the rules inside, or the rule as it is. The order stays. -/
inductive Rule.LeftOf : Rule → Rule → Prop where
  | style {head : StyleHead} {selectors : List Selector} {kept rules : List Rule} :
      selectors.Sublist head.selectors → List.SublistForall₂ Rule.LeftOf kept rules →
        Rule.LeftOf (.style { head with selectors } kept) (.style head rules)
  | group {head : GroupHead} {kept rules : List Rule} :
      List.SublistForall₂ Rule.LeftOf kept rules → Rule.LeftOf (.group head kept) (.group head rules)
  | region {head : RegionHead} {rules : List Rule} : Rule.LeftOf (.region head rules) (.region head rules)
  | plain {r : PlainRule} : Rule.LeftOf (.plain r) (.plain r)

mutual
theorem Rule.leftOf_of_prune? : ∀ {r kept : Rule}, Rule.prune? u r = some kept → Rule.LeftOf kept r
  | .style head rules, kept, h => by
    rw [Rule.prune?_style] at h
    split at h
    · cases h
    · cases h
      exact .style List.filter_sublist (Rule.leftOf_prune rules)
  | .group head rules, kept, h => by
    rw [Rule.prune?_group] at h
    split at h
    · cases h
    · cases h
      exact .group (Rule.leftOf_prune rules)
  | .region _ _, _, h => by
    cases h
    exact .region
  | .plain _, _, h => by
    cases h
    exact .plain

theorem Rule.leftOf_prune : ∀ rs : List Rule, List.SublistForall₂ Rule.LeftOf (Rule.prune u rs) rs
  | [] => .nil
  | r :: rs => by
    have hrs := Rule.leftOf_prune rs
    rw [Rule.prune]
    cases hr : Rule.prune? u r with
    | none => exact .cons_right hrs
    | some kept => exact .cons (Rule.leftOf_of_prune? hr) hrs
end

/-- What a narrower usage leaves is left by every wider one. -/
theorem Rule.leftOf_prune_of_within (h : u.Within v) (rs : List Rule) :
    List.SublistForall₂ Rule.LeftOf (Rule.prune u rs) (Rule.prune v rs) := by
  rw [← Rule.prune_prune h rs]
  exact Rule.leftOf_prune (Rule.prune v rs)

/-- **Pruning absorbs coarser pruning.** After the rules are pruned by a wider usage, pruning leaves the same as it
does without that. So pruning twice is pruning once, the second time removes no selector, and of what the narrower
usage leaves the wider one takes nothing away. -/
theorem prune_prune_of_within (h : u.Within v) (rs : List Rule) :
    Rule.prune u (Rule.prune v rs) = Rule.prune u rs ∧
      Rule.prune u (Rule.prune u rs) = Rule.prune u rs ∧
      Rule.removedFrom u (Rule.prune u rs) = 0 ∧
      List.SublistForall₂ Rule.LeftOf (Rule.prune u rs) (Rule.prune v rs) :=
  ⟨Rule.prune_prune h rs, Rule.prune_prune .rfl rs, Rule.removedFrom_prune rs,
    Rule.leftOf_prune_of_within h rs⟩

def barRules : List Rule :=
  let bar := .compound [.className "bar".toList]
  [.style ⟨[menuSelector, bar], .empty, ⟨[], []⟩⟩ [.style (bareHead openSelector) []],
    .group (.layer none) [.style (bareHead bar) []]]

def menuOnly : Usage := .ofMarkup "<ul class=menu>".toList ⟨[], []⟩

/-- What a page with a menu and a bar uses, with `open` on the safelist. -/
def barAndOpen : Usage := .ofMarkup "<ul class=menu bar>".toList openSafelist

theorem menuOnly_within_barAndOpen : menuOnly.Within barAndOpen :=
  Usage.within_of_subset (by decide) (by simp [menuOnly, Usage.ofMarkup, Config.Safelist.contains])

/-- The wider usage leaves all the rules, and after it the narrower one leaves the menu alone, as it does at once. -/
theorem prune_prune_of_within_bar :
    Rule.prune barAndOpen barRules = barRules ∧
      Rule.prune menuOnly (Rule.prune barAndOpen barRules) = Rule.prune menuOnly barRules ∧
      Rule.prune menuOnly barRules = [.style (bareHead menuSelector) []] ∧
      Rule.removedFrom menuOnly (Rule.prune menuOnly barRules) = 0 :=
  have h := prune_prune_of_within menuOnly_within_barAndOpen barRules
  ⟨rfl, h.1, rfl, h.2.2.1⟩

end Css
end StylePrune
