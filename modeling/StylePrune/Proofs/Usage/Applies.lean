import StylePrune.Proofs.Page.Elements
import StylePrune.Proofs.Usage.Pruning

/-!
Selectors that apply to a page, and whether pruning keeps them.

A selector is matched at an element below the elements that it is in (`Css.Selector.matchesAt`): tags without
regard to letter case, ids and classes as they are, the two combinators along the elements around it. Its match
rests on a token (`Css.Selector.showsAt`) if one of the tags, ids and classes by which it matches is written in
the page so that it can be found there. Such a selector is used, and every rule that has it stays with it
(`Css.Selector.survives_of_matchesAt`). A selector that only excludes names can match and be removed, and so
can one by a class that is no token or by a tag in capital letters.
-/
namespace StylePrune

open Page (Element)

namespace Css

/-- A condition on the innermost of some elements and on those that it is in. -/
def atInnermost (f : Element → List Element → Bool) : List Element → Bool
  | [] => false
  | e :: above => f e above

/-- A condition on one of some elements and on those that it is in. -/
def somewhere (f : Element → List Element → Bool) : List Element → Bool
  | [] => false
  | e :: above => f e above || somewhere f above

/-! ## Matching -/

section Matching

-- what a simple selector says that asks neither for a tag, an id or a class nor for a list of selectors
variable (other : Simple → Element → List Element → Bool)

mutual
/-- A simple selector matches an element that is in others, the innermost of them first. -/
def Simple.matchesAt : Simple → Element → List Element → Bool
  | .tag n, e, _ => Text.lowerAscii e.tag == Text.lowerAscii n
  | .universal, _, _ => true
  | .id n, e, _ => e.id == some n
  | .className n, e, _ => e.classes.contains n
  | .not l, e, above => !Selector.anyMatchesAt l e above
  | .is l, e, above => Selector.anyMatchesAt l e above
  | .whereAny l, e, above => Selector.anyMatchesAt l e above
  | p, e, above => other p e above

def Simple.allMatchAt : List Simple → Element → List Element → Bool
  | [], _, _ => true
  | p :: ps, e, above => p.matchesAt e above && Simple.allMatchAt ps e above

/-- A selector matches an element. What is beside an element is not known, so nothing matches by a sibling. -/
def Selector.matchesAt : Selector → Element → List Element → Bool
  | .compound ps, e, above => Simple.allMatchAt ps e above
  | .combined l .descendant ps, e, above =>
    Simple.allMatchAt ps e above && somewhere (fun e above => l.matchesAt e above) above
  | .combined l .child ps, e, above =>
    Simple.allMatchAt ps e above && atInnermost (fun e above => l.matchesAt e above) above
  | .combined _ .nextSibling _, _, _ => false
  | .combined _ .laterSibling _, _, _ => false

def Selector.anyMatchesAt : List Selector → Element → List Element → Bool
  | [], _, _ => false
  | s :: l, e, above => s.matchesAt e above || Selector.anyMatchesAt l e above
end

mutual
/-- The match of a simple selector rests on a token: a tag that the page writes as the selector does or in
lower case, an id, a class, or a selector of `:is()` and `:where()` that matches so. -/
def Simple.showsAt : Simple → Element → List Element → Bool
  | .tag n, e, _ => Usage.isToken e.tag && (e.tag == n || e.tag == Text.lowerAscii n)
  | .id n, _, _ => Usage.isToken n
  | .className n, _, _ => Usage.isToken n
  | .is l, e, above => Selector.anyShowsAt l e above
  | .whereAny l, e, above => Selector.anyShowsAt l e above
  | _, _, _ => false

def Simple.someShowsAt : List Simple → Element → List Element → Bool
  | [], _, _ => false
  | p :: ps, e, above => p.showsAt e above || Simple.someShowsAt ps e above

/-- The match of a selector rests on a token, at the element or at one that it is in. -/
def Selector.showsAt : Selector → Element → List Element → Bool
  | .compound ps, e, above => Simple.someShowsAt ps e above
  | .combined l .descendant ps, e, above =>
    Simple.someShowsAt ps e above ||
      somewhere (fun e above => l.matchesAt other e above && l.showsAt e above) above
  | .combined l .child ps, e, above =>
    Simple.someShowsAt ps e above ||
      atInnermost (fun e above => l.matchesAt other e above && l.showsAt e above) above
  | .combined _ .nextSibling _, _, _ => false
  | .combined _ .laterSibling _, _, _ => false

def Selector.anyShowsAt : List Selector → Element → List Element → Bool
  | [], _, _ => false
  | s :: l, e, above => (s.matchesAt other e above && s.showsAt e above) || Selector.anyShowsAt l e above
end

end Matching

/-! ## A match that rests on a token -/

/-- A token that one of the elements carries. -/
def Carried (chain : List Element) (x : Text) : Prop := Usage.isToken x = true ∧ ∃ e ∈ chain, x ∈ e.names

theorem Carried.cons {chain : List Element} {x : Text} (h : Carried chain x) (e : Element) :
    Carried (e :: chain) x := by
  obtain ⟨htoken, e', he', hx⟩ := h
  exact ⟨htoken, e', List.mem_cons_of_mem e he', hx⟩

theorem carried_of_somewhere {f : Element → List Element → Bool} {q : Text → Prop}
    (hf : ∀ e above, f e above = true → ∃ x, q x ∧ Carried (e :: above) x) :
    ∀ {chain : List Element}, somewhere f chain = true → ∃ x, q x ∧ Carried chain x
  | [], h => by cases h
  | e :: above, h => by
    rw [somewhere, Bool.or_eq_true] at h
    rcases h with h | h
    · exact hf e above h
    · obtain ⟨x, hx, hcarried⟩ := carried_of_somewhere hf h
      exact ⟨x, hx, hcarried.cons e⟩

theorem carried_of_atInnermost {f : Element → List Element → Bool} {q : Text → Prop}
    (hf : ∀ e above, f e above = true → ∃ x, q x ∧ Carried (e :: above) x)
    {chain : List Element} (h : atInnermost f chain = true) : ∃ x, q x ∧ Carried chain x := by
  cases chain with
  | nil => cases h
  | cons e above => exact hf e above h

variable {other : Simple → Element → List Element → Bool}

mutual
/-- Where the match of a simple selector rests on a token, the selector names one that the elements carry. -/
theorem Simple.exists_names_carried : ∀ {p : Simple} {e : Element} {above : List Element},
    p.matchesAt other e above = true → p.showsAt other e above = true →
      ∃ x, p.Names x ∧ Carried (e :: above) x
  | .tag n, e, above, _, hs => by
    rw [Simple.showsAt, Bool.and_eq_true, Bool.or_eq_true, beq_iff_eq, beq_iff_eq] at hs
    exact ⟨e.tag, Simple.names_tag.2 hs.2, hs.1, e, List.mem_cons_self, List.mem_cons_self⟩
  | .id n, e, above, hm, hs => by
    rw [Simple.matchesAt, beq_iff_eq] at hm
    rw [Simple.showsAt] at hs
    exact ⟨n, .id, hs, e, List.mem_cons_self, by simp [Element.names, hm]⟩
  | .className n, e, above, hm, hs => by
    rw [Simple.matchesAt, List.contains_iff_mem] at hm
    rw [Simple.showsAt] at hs
    exact ⟨n, .className, hs, e, List.mem_cons_self, by simp [Element.names, hm]⟩
  | .is l, e, above, _, hs => by
    rw [Simple.showsAt] at hs
    obtain ⟨s, hsl, x, hx, hcarried⟩ := Selector.exists_names_carried_of_any hs
    exact ⟨x, .is hsl hx, hcarried⟩
  | .whereAny l, e, above, _, hs => by
    rw [Simple.showsAt] at hs
    obtain ⟨s, hsl, x, hx, hcarried⟩ := Selector.exists_names_carried_of_any hs
    exact ⟨x, .whereAny hsl hx, hcarried⟩
  | .not _, _, _, _, hs | .universal, _, _, _, hs | .inNamespace _, _, _, _, hs | .attr _ _ _, _, _, _, hs
  | .nesting, _, _, _, hs | .scope, _, _, _, hs | .root, _, _, _, hs | .empty, _, _, _, hs
  | .nth _ _ _, _, _, _, hs | .nthOf _ _ _ _, _, _, _, hs | .any _ _, _, _, _, hs | .has _, _, _, _, hs
  | .host _, _, _, _, hs | .slotted _, _, _, _, hs | .part _, _, _, _, hs | .pseudoClass _, _, _, _, hs
  | .pseudoElement _, _, _, _, hs => by
    simp [Simple.showsAt] at hs

theorem Simple.exists_names_carried_of_some : ∀ {ps : List Simple} {e : Element} {above : List Element},
    Simple.allMatchAt other ps e above = true → Simple.someShowsAt other ps e above = true →
      ∃ p ∈ ps, ∃ x, p.Names x ∧ Carried (e :: above) x
  | [], _, _, _, hs => by cases hs
  | p :: ps, e, above, hm, hs => by
    rw [Simple.allMatchAt, Bool.and_eq_true] at hm
    rw [Simple.someShowsAt, Bool.or_eq_true] at hs
    rcases hs with hs | hs
    · exact ⟨p, List.mem_cons_self, Simple.exists_names_carried hm.1 hs⟩
    · obtain ⟨q, hq, hx⟩ := Simple.exists_names_carried_of_some hm.2 hs
      exact ⟨q, List.mem_cons_of_mem p hq, hx⟩

theorem Selector.exists_names_carried : ∀ {s : Selector} {e : Element} {above : List Element},
    s.matchesAt other e above = true → s.showsAt other e above = true →
      ∃ x, s.Names x ∧ Carried (e :: above) x
  | .compound ps, e, above, hm, hs => by
    rw [Selector.matchesAt] at hm
    rw [Selector.showsAt] at hs
    obtain ⟨p, hp, x, hx, hcarried⟩ := Simple.exists_names_carried_of_some hm hs
    exact ⟨x, .simple (by simpa [Selector.simples, Selector.compounds] using hp) hx, hcarried⟩
  | .combined l .descendant ps, e, above, hm, hs => by
    rw [Selector.matchesAt, Bool.and_eq_true] at hm
    rw [Selector.showsAt, Bool.or_eq_true] at hs
    rcases hs with hs | hs
    · obtain ⟨p, hp, x, hx, hcarried⟩ := Simple.exists_names_carried_of_some hm.1 hs
      exact ⟨x, .simple (by simp [Selector.simples_combined, hp]) hx, hcarried⟩
    · -- the token is carried further out, where the part before the combinator matches
      obtain ⟨x, hx, hcarried⟩ := carried_of_somewhere (q := l.Names) (fun e above h => by
        rw [Bool.and_eq_true] at h
        exact Selector.exists_names_carried h.1 h.2) hs
      exact ⟨x, hx.combined _ _, hcarried.cons e⟩
  | .combined l .child ps, e, above, hm, hs => by
    rw [Selector.matchesAt, Bool.and_eq_true] at hm
    rw [Selector.showsAt, Bool.or_eq_true] at hs
    rcases hs with hs | hs
    · obtain ⟨p, hp, x, hx, hcarried⟩ := Simple.exists_names_carried_of_some hm.1 hs
      exact ⟨x, .simple (by simp [Selector.simples_combined, hp]) hx, hcarried⟩
    · obtain ⟨x, hx, hcarried⟩ := carried_of_atInnermost (q := l.Names) (fun e above h => by
        rw [Bool.and_eq_true] at h
        exact Selector.exists_names_carried h.1 h.2) hs
      exact ⟨x, hx.combined _ _, hcarried.cons e⟩
  | .combined _ .nextSibling _, _, _, hm, _ | .combined _ .laterSibling _, _, _, hm, _ => by
    simp [Selector.matchesAt] at hm

theorem Selector.exists_names_carried_of_any : ∀ {l : List Selector} {e : Element} {above : List Element},
    Selector.anyShowsAt other l e above = true → ∃ s ∈ l, ∃ x, s.Names x ∧ Carried (e :: above) x
  | [], _, _, hs => by cases hs
  | s :: l, e, above, hs => by
    rw [Selector.anyShowsAt, Bool.or_eq_true, Bool.and_eq_true] at hs
    rcases hs with ⟨hm, hs⟩ | hs
    · exact ⟨s, List.mem_cons_self, Selector.exists_names_carried hm hs⟩
    · obtain ⟨t, ht, hx⟩ := Selector.exists_names_carried_of_any hs
      exact ⟨t, List.mem_cons_of_mem s ht, hx⟩
end

/-! ## What pruning keeps -/

theorem Rule.style_mem_prune_of_uses {u : Usage} {rs inner : List Rule} {head : StyleHead} {s : Selector}
    (hrule : .style head inner ∈ rs) (hs : s ∈ head.selectors) (huses : u.uses s = true) :
    .style (head.kept u) (Rule.prune u inner) ∈ Rule.prune u rs ∧ s ∈ (head.kept u).selectors := by
  have hkept : s ∈ (head.kept u).selectors := StyleHead.mem_kept.2 ⟨hs, huses⟩
  exact ⟨Rule.style_mem_prune.2 ⟨head, inner, hrule, rfl, rfl, List.ne_nil_of_mem hkept⟩, hkept⟩

/-- **A selector that applies to the page by a name that the page shows is kept.** It matches an element that
stands somewhere in the page, and it either names nothing or its match rests on a token. Then it counts as used
under every safelist, and every style rule at the top that has it stays and keeps it. -/
theorem Selector.survives_of_matchesAt {ts : List Page.Tree} {e : Element} {above : List Element}
    {s : Selector} (safelist : Config.Safelist) (hstands : Page.StandsIn ts (e :: above))
    (hmatches : s.matchesAt other e above = true)
    (hshows : s.identifiers = [] ∨ s.showsAt other e above = true) :
    (Usage.ofMarkup (Page.Tree.markupAll ts) safelist).uses s = true ∧
      ∀ (rs inner : List Rule) (head : StyleHead), .style head inner ∈ rs → s ∈ head.selectors →
        .style (head.kept (.ofMarkup (Page.Tree.markupAll ts) safelist))
            (Rule.prune (.ofMarkup (Page.Tree.markupAll ts) safelist) inner) ∈
          Rule.prune (.ofMarkup (Page.Tree.markupAll ts) safelist) rs ∧
        s ∈ (head.kept (.ofMarkup (Page.Tree.markupAll ts) safelist)).selectors := by
  have huses : (Usage.ofMarkup (Page.Tree.markupAll ts) safelist).uses s = true := by
    rcases hshows with hnil | hshows
    · rw [Usage.uses, hnil]
      rfl
    · obtain ⟨x, hx, htoken, e', he', hname⟩ := Selector.exists_names_carried hmatches hshows
      have hmentioned : x ∈ Usage.tokenList (Page.Tree.markupAll ts) :=
        hstands.mem_tokenList he' hname htoken
      exact Usage.uses_of_names hx (Usage.has_of_mem hmentioned)
  exact ⟨huses, fun rs inner head hrule hs => Rule.style_mem_prune_of_uses hrule hs huses⟩

def mainElement : Element := ⟨"main".toList, some "top".toList, []⟩

def leadElement : Element := ⟨"p".toList, none, ["lead".toList]⟩

def leadPage : List Page.Tree := [.element mainElement [.element leadElement [.text "Hello".toList]]]

def leadSelector : Selector :=
  .combined (.compound [.id "top".toList]) .child
    [.tag "P".toList, .not [.compound [.className "open".toList]]]

/-- The paragraph of the page keeps the selector, by its tag in lower case and by the id of what it is in. -/
theorem survives_of_matchesAt_lead :
    (Usage.ofMarkup (Page.Tree.markupAll leadPage) ⟨[], []⟩).uses leadSelector = true ∧
      ∀ (rs inner : List Rule) (head : StyleHead), .style head inner ∈ rs → leadSelector ∈ head.selectors →
        .style (head.kept (.ofMarkup (Page.Tree.markupAll leadPage) ⟨[], []⟩))
            (Rule.prune (.ofMarkup (Page.Tree.markupAll leadPage) ⟨[], []⟩) inner) ∈
          Rule.prune (.ofMarkup (Page.Tree.markupAll leadPage) ⟨[], []⟩) rs ∧
        leadSelector ∈ (head.kept (.ofMarkup (Page.Tree.markupAll leadPage) ⟨[], []⟩)).selectors := by
  have hstands : Page.StandsIn leadPage [leadElement, mainElement] :=
    .inside List.mem_cons_self (.element List.mem_cons_self)
  have hmatches : leadSelector.matchesAt (fun _ _ _ => false) leadElement [mainElement] = true := by decide
  exact Selector.survives_of_matchesAt ⟨[], []⟩ hstands hmatches (.inr (by decide))

def dottedElement : Element := ⟨"P".toList, none, ["a.b".toList, "done:".toList]⟩

def dottedPage : List Page.Tree := [.element dottedElement []]

/-- The paragraph is matched by `:not(.absent)`, which only excludes, by `.a\.b`, whose class is no token, by
`.done\:`, whose class ends in a colon, and by `p`, which the page writes as a capital letter. Pruning takes all
four away. -/
theorem uses_eq_false_and_matchesAt_dotted :
    Page.StandsIn dottedPage [dottedElement] ∧
      ∀ s ∈ [Selector.compound [.not [.compound [.className "absent".toList]]],
          Selector.compound [.className "a.b".toList], Selector.compound [.className "done:".toList],
          Selector.compound [.tag "p".toList]],
        s.matchesAt (fun _ _ _ => false) dottedElement [] = true ∧
          (Usage.ofMarkup (Page.Tree.markupAll dottedPage) ⟨[], []⟩).uses s = false := by
  refine ⟨.element List.mem_cons_self, ?_⟩
  intro s hs
  simp only [List.mem_cons, List.not_mem_nil, or_false] at hs
  rcases hs with rfl | rfl | rfl | rfl <;> exact ⟨by decide, by decide⟩

end Css
end StylePrune
