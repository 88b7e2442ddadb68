import StylePrune.Proofs.Usage.Selectors

/-!
Where a style rule stands after pruning.

A style rule stands in a list of rules below the rules that enclose it, from the outermost inwards
(`Css.StandsIn`). Pruning takes unused selectors away from the rule and from every style rule around it. The
rule is still there exactly if each of them keeps a selector (`Css.standsIn_prune_iff`): groups around it stay
because it is in them, but a style rule that loses its last selector takes along everything inside it, a rule
with a safelisted selector not excepted (`Css.safelisted_standsIn_prune_iff`).
-/
namespace StylePrune.Css

/-! ## One rule -/

/-- A style rule's head with its used selectors. -/
def StyleHead.kept (u : Usage) (head : StyleHead) : StyleHead :=
  { head with selectors := head.selectors.filter u.uses }

variable {u : Usage}

theorem StyleHead.mem_kept {head : StyleHead} {s : Selector} :
    s ∈ (head.kept u).selectors ↔ s ∈ head.selectors ∧ u.uses s = true := List.mem_filter

theorem StyleHead.kept_ne_nil {head : StyleHead} :
    (head.kept u).selectors ≠ [] ↔ ∃ s ∈ head.selectors, u.uses s = true := by
  simp [kept]

/-- A style rule goes when it has no selector left, before what is inside it is looked at. -/
theorem Rule.prune?_style (head : StyleHead) (rules : List Rule) :
    Rule.prune? u (.style head rules) =
      if (head.kept u).selectors = [] then none else some (.style (head.kept u) (Rule.prune u rules)) := by
  rw [Rule.prune?]
  cases h : head.selectors.filter u.uses with
  | nil =>
    have hnil : (head.kept u).selectors = [] := h
    rw [if_pos hnil]
  | cons s r =>
    have hne : (head.kept u).selectors ≠ [] := by
      rw [StyleHead.kept, h]
      exact List.cons_ne_nil s r
    rw [if_neg hne, StyleHead.kept, h]

theorem Rule.prune?_group (head : GroupHead) (rules : List Rule) :
    Rule.prune? u (.group head rules) =
      if Rule.prune u rules = [] then none else some (.group head (Rule.prune u rules)) := by
  rw [Rule.prune?]
  cases Rule.prune u rules with
  | nil => rfl
  | cons r rs => rfl

theorem Rule.prune_eq_filterMap (rs : List Rule) : Rule.prune u rs = rs.filterMap (Rule.prune? u) := by
  induction rs with
  | nil => rfl
  | cons r rs ih =>
    rw [Rule.prune, List.filterMap_cons, ih]
    cases Rule.prune? u r <;> rfl

theorem Rule.prune_cons (r : Rule) (rs : List Rule) :
    Rule.prune u (r :: rs) = (Rule.prune? u r).toList ++ Rule.prune u rs := by
  simp only [Rule.prune_eq_filterMap, List.filterMap_cons]
  cases Rule.prune? u r <;> rfl

theorem Rule.mem_prune {r : Rule} {rs : List Rule} :
    r ∈ Rule.prune u rs ↔ ∃ r₀ ∈ rs, Rule.prune? u r₀ = some r := by
  rw [Rule.prune_eq_filterMap, List.mem_filterMap]

theorem Rule.style_mem_prune {head : StyleHead} {inner : List Rule} {rs : List Rule} :
    .style head inner ∈ Rule.prune u rs ↔
      ∃ head₀ inner₀, .style head₀ inner₀ ∈ rs ∧ head = head₀.kept u ∧ inner = Rule.prune u inner₀ ∧
        head.selectors ≠ [] := by
  rw [Rule.mem_prune]
  constructor
  · rintro ⟨r₀, hr₀, h⟩
    cases r₀ with
    | style head₀ inner₀ =>
      rw [Rule.prune?_style] at h
      split at h
      · cases h
      · next hne =>
        cases h
        exact ⟨head₀, inner₀, hr₀, rfl, rfl, hne⟩
    | group head₀ inner₀ =>
      rw [Rule.prune?_group] at h
      split at h <;> cases h
    | region head₀ inner₀ => cases h
    | plain r => cases h
  · rintro ⟨head₀, inner₀, hr₀, rfl, rfl, hne⟩
    exact ⟨_, hr₀, by rw [Rule.prune?_style, if_neg hne]⟩

theorem Rule.group_mem_prune {head : GroupHead} {inner : List Rule} {rs : List Rule} :
    .group head inner ∈ Rule.prune u rs ↔
      ∃ inner₀, .group head inner₀ ∈ rs ∧ inner = Rule.prune u inner₀ ∧ inner ≠ [] := by
  rw [Rule.mem_prune]
  constructor
  · rintro ⟨r₀, hr₀, h⟩
    cases r₀ with
    | style head₀ inner₀ =>
      rw [Rule.prune?_style] at h
      split at h <;> cases h
    | group head₀ inner₀ =>
      rw [Rule.prune?_group] at h
      split at h
      · cases h
      · next hne =>
        cases h
        exact ⟨inner₀, hr₀, rfl, hne⟩
    | region head₀ inner₀ => cases h
    | plain r => cases h
  · rintro ⟨inner₀, hr₀, rfl, hne⟩
    exact ⟨_, hr₀, by rw [Rule.prune?_group, if_neg hne]⟩

/-! ## A rule below others -/

/-- A rule that encloses others. -/
inductive Enclosing where
  | style (head : StyleHead)
  | group (head : GroupHead)

/-- What pruning leaves of a rule that encloses others, what is inside it aside. -/
def Enclosing.kept (u : Usage) : Enclosing → Enclosing
  | style head => style (head.kept u)
  | group head => group head

/-- A style rule stands in rules, below the rules that enclose it. -/
inductive StandsIn : List Rule → List Enclosing → StyleHead → Prop where
  | here {rs inner : List Rule} {head : StyleHead} : .style head inner ∈ rs → StandsIn rs [] head
  | inStyle {rs inner : List Rule} {outer head : StyleHead} {path : List Enclosing} :
      .style outer inner ∈ rs → StandsIn inner path head → StandsIn rs (.style outer :: path) head
  | inGroup {rs inner : List Rule} {outer : GroupHead} {head : StyleHead} {path : List Enclosing} :
      .group outer inner ∈ rs → StandsIn inner path head → StandsIn rs (.group outer :: path) head

variable {rs : List Rule} {path : List Enclosing} {head : StyleHead}

theorem StandsIn.ne_nil (h : StandsIn rs path head) : rs ≠ [] := by
  cases h with
  | here h => exact List.ne_nil_of_mem h
  | inStyle h _ => exact List.ne_nil_of_mem h
  | inGroup h _ => exact List.ne_nil_of_mem h

/-- A rule that keeps a selector stays where it is if every style rule around it keeps one. -/
theorem StandsIn.prune (h : StandsIn rs path head) (hhead : (head.kept u).selectors ≠ [])
    (hpath : ∀ outer, .style outer ∈ path → (outer.kept u).selectors ≠ []) :
    StandsIn (Rule.prune u rs) (path.map (Enclosing.kept u)) (head.kept u) := by
  induction h with
  | here h => exact .here (Rule.style_mem_prune.2 ⟨_, _, h, rfl, rfl, hhead⟩)
  | @inStyle rs inner outer head path h _ ih =>
    have hinner := ih hhead fun o ho => hpath o (by simp [ho])
    exact .inStyle (Rule.style_mem_prune.2 ⟨_, _, h, rfl, rfl, hpath outer (by simp)⟩) hinner
  | @inGroup rs inner outer head path h _ ih =>
    have hinner := ih hhead fun o ho => hpath o (by simp [ho])
    exact .inGroup (Rule.group_mem_prune.2 ⟨_, h, rfl, hinner.ne_nil⟩) hinner

theorem StandsIn.kept_ne_nil {qs : List Rule} (h : StandsIn qs path head) (hqs : qs = Rule.prune u rs) :
    head.selectors ≠ [] ∧ ∀ outer, .style outer ∈ path → outer.selectors ≠ [] := by
  induction h generalizing rs with
  | here h =>
    subst hqs
    obtain ⟨_, _, -, -, -, hne⟩ := Rule.style_mem_prune.1 h
    exact ⟨hne, by simp⟩
  | inStyle h _ ih =>
    subst hqs
    obtain ⟨_, inner₀, -, -, hinner, hne⟩ := Rule.style_mem_prune.1 h
    obtain ⟨hhead, hpath⟩ := ih hinner
    refine ⟨hhead, fun o ho => ?_⟩
    rcases List.mem_cons.1 ho with ho | ho
    · cases ho
      exact hne
    · exact hpath o ho
  | inGroup h _ ih =>
    subst hqs
    obtain ⟨inner₀, -, hinner, -⟩ := Rule.group_mem_prune.1 h
    obtain ⟨hhead, hpath⟩ := ih hinner
    exact ⟨hhead, fun o ho => hpath o (by simpa using ho)⟩

/-- **When a style rule is left**: exactly when it keeps a selector and every style rule around it does. -/
theorem standsIn_prune_iff (h : StandsIn rs path head) :
    StandsIn (Rule.prune u rs) (path.map (Enclosing.kept u)) (head.kept u) ↔
      (∃ s ∈ head.selectors, u.uses s = true) ∧
        ∀ outer, .style outer ∈ path → ∃ s ∈ outer.selectors, u.uses s = true := by
  simp only [← StyleHead.kept_ne_nil]
  constructor
  · intro hkept
    obtain ⟨hhead, hpath⟩ := hkept.kept_ne_nil rfl
    exact ⟨hhead, fun outer ho => hpath _ (List.mem_map.2 ⟨_, ho, rfl⟩)⟩
  · rintro ⟨hhead, hpath⟩
    exact h.prune hhead hpath

/-! ## Safelisted rules -/

/-- **A safelisted style rule is left exactly as long as what encloses it is.** Whatever the page mentions, a
rule with a selector that names something on the safelist is left with that selector, under what is left of the
rules around it, exactly if every style rule around it has a used selector. -/
theorem safelisted_standsIn_prune_iff {s : Selector} {x : Text} (h : StandsIn rs path head)
    (hs : s ∈ head.selectors) (hx : s.Names x) (hsafe : u.safelist.contains x = true) :
    (StandsIn (Rule.prune u rs) (path.map (Enclosing.kept u)) (head.kept u) ∧ s ∈ (head.kept u).selectors) ↔
      ∀ outer, .style outer ∈ path → ∃ t ∈ outer.selectors, u.uses t = true := by
  have hhas : u.has x = true := by
    rw [Usage.has, Bool.or_eq_true]
    exact .inr hsafe
  have huses : u.uses s = true := Usage.uses_of_names hx hhas
  rw [standsIn_prune_iff h, StyleHead.mem_kept]
  constructor
  · rintro ⟨⟨-, hpath⟩, -⟩
    exact hpath
  · intro hpath
    exact ⟨⟨⟨s, hs, huses⟩, hpath⟩, hs, huses⟩

/-- The head of a rule with one selector and no declarations. -/
def bareHead (s : Selector) : StyleHead := ⟨[s], .empty, ⟨[], []⟩⟩

def menuSelector : Selector := .compound [.className "menu".toList]

def openSelector : Selector := .combined (.compound [.nesting]) .descendant [.className "open".toList]

def menuRules : List Rule := [.style (bareHead menuSelector) [.style (bareHead openSelector) []]]

def openSafelist : Config.Safelist := ⟨["open".toList], []⟩

theorem standsIn_menuRules : StandsIn menuRules [.style (bareHead menuSelector)] (bareHead openSelector) :=
  .inStyle List.mem_cons_self (.here List.mem_cons_self)

theorem names_openSelector : openSelector.Names "open".toList :=
  .simple (p := .className "open".toList) (by simp [openSelector, Selector.simples, Selector.compounds]) .className

def menuUsage : Usage := .ofMarkup "<ul class=menu>".toList openSafelist

/-- On a page with a menu the rule for what is open inside it is left. -/
theorem safelisted_standsIn_prune_iff_menu :
    (StandsIn (Rule.prune menuUsage menuRules) ([.style (bareHead menuSelector)].map (Enclosing.kept menuUsage))
          ((bareHead openSelector).kept menuUsage) ∧
        openSelector ∈ ((bareHead openSelector).kept menuUsage).selectors) ↔
      ∀ outer, .style outer ∈ [Enclosing.style (bareHead menuSelector)] →
        ∃ t ∈ outer.selectors, menuUsage.uses t = true :=
  safelisted_standsIn_prune_iff standsIn_menuRules List.mem_cons_self names_openSelector rfl

/-- On a page without a menu it is lost, although what it names is on the safelist. -/
theorem prune_menuRules_eq_nil :
    StandsIn menuRules [.style (bareHead menuSelector)] (bareHead openSelector) ∧
      openSelector ∈ (bareHead openSelector).selectors ∧ openSelector.Names "open".toList ∧
      openSafelist.contains "open".toList = true ∧
      Rule.prune (.ofMarkup [] openSafelist) menuRules = [] :=
  ⟨standsIn_menuRules, List.mem_cons_self, names_openSelector, rfl, rfl⟩

end StylePrune.Css
