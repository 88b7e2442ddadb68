import StylePrune.Proofs.Usage.Pruning

/-!
The order of cascade layers after pruning.

Which of two layers wins is decided by which of them a stylesheet mentions first, in a layer statement or a layer
block. Pruning leaves every layer statement and every layer block in which something is left, where the style
rules around it are left, and it keeps them in order (`Rule.left_allMarks`). So the layers keep their order if the
one that is mentioned first keeps that mention (`precedes_prune_iff`). If its first block is emptied and a later
one is not, they change places (`not_precedes_prune_reopened`).
-/
namespace StylePrune.Css

/-! ## Mentions of layers -/

/-- The top-level layer of a layer block, if it has a name; nothing for other groups. -/
def GroupHead.layer? : GroupHead → Option (Option Text)
  | .layer name => some (name.bind List.head?)
  | _ => none

/-- The top-level layers that a layer statement mentions. -/
def PlainRule.mentioned : PlainRule → List Text
  | .layers names => names.filterMap List.head?
  | _ => []

mutual
/-- The top-level layers that a rule mentions, in order. What stands in a layer block mentions no layer but those
inside of its own. -/
def Rule.mentioned : Rule → List Text
  | .style _ rules => Rule.allMentioned rules
  | .group head rules =>
    match head.layer? with
    | some name => name.toList
    | none => Rule.allMentioned rules
  | .region _ rules => Rule.allMentioned rules
  | .plain r => r.mentioned

def Rule.allMentioned : List Rule → List Text
  | [] => []
  | r :: rs => r.mentioned ++ Rule.allMentioned rs
end

/-- A mention of a top-level layer. -/
structure Mention where
  layer : Text
  /-- Pruning leaves the statement or the block. -/
  left : Bool
deriving DecidableEq

mutual
/-- The mentions of a rule with what pruning does to them. A statement is left where the style rules around it are
(`reached`), and a block if something in it is left, too. -/
def Rule.marks (u : Usage) (reached : Bool) : Rule → List Mention
  | .style head rules => Rule.allMarks u (reached && head.selectors.any u.uses) rules
  | .group head rules =>
    match head.layer? with
    | some name => name.toList.map fun a => ⟨a, reached && !(Rule.prune u rules).isEmpty⟩
    | none => Rule.allMarks u reached rules
  | .region _ rules => (Rule.allMentioned rules).map fun a => ⟨a, reached⟩
  | .plain r => r.mentioned.map fun a => ⟨a, reached⟩

def Rule.allMarks (u : Usage) (reached : Bool) : List Rule → List Mention
  | [] => []
  | r :: rs => Rule.marks u reached r ++ Rule.allMarks u reached rs
end

/-- The layers that are mentioned where pruning leaves the mention, in order. -/
def leftMentioned (u : Usage) (rs : List Rule) : List Text :=
  ((Rule.allMarks u true rs).filter Mention.left).map Mention.layer

variable {u : Usage}

mutual
theorem Rule.map_layer_marks : ∀ (reached : Bool) (r : Rule),
    (Rule.marks u reached r).map Mention.layer = r.mentioned
  | reached, .style head rules => by
    rw [Rule.marks, Rule.mentioned]
    exact Rule.map_layer_allMarks _ rules
  | reached, .group head rules => by
    rw [Rule.marks, Rule.mentioned]
    cases head.layer? with
    | some name => simp [Function.comp_def]
    | none => exact Rule.map_layer_allMarks _ rules
  | reached, .region head rules => by simp [Rule.marks, Rule.mentioned, Function.comp_def]
  | reached, .plain r => by simp [Rule.marks, Rule.mentioned, Function.comp_def]

/-- Every mention is marked. -/
theorem Rule.map_layer_allMarks : ∀ (reached : Bool) (rs : List Rule),
    (Rule.allMarks u reached rs).map Mention.layer = Rule.allMentioned rs
  | _, [] => rfl
  | reached, r :: rs => by
    rw [Rule.allMarks, List.map_append, Rule.map_layer_marks, Rule.map_layer_allMarks, Rule.allMentioned]
end

mutual
theorem Rule.left_marks_unreached : ∀ r : Rule, ∀ m ∈ Rule.marks u false r, m.left = false
  | .style head rules => by
    rw [Rule.marks]
    exact Rule.left_allMarks_unreached rules
  | .group head rules => by
    rw [Rule.marks]
    cases head.layer? with
    | some name => simp
    | none => exact Rule.left_allMarks_unreached rules
  | .region head rules => by simp [Rule.marks]
  | .plain r => by simp [Rule.marks]

theorem Rule.left_allMarks_unreached : ∀ rs : List Rule, ∀ m ∈ Rule.allMarks u false rs, m.left = false
  | [] => by simp [Rule.allMarks]
  | r :: rs => by
    rw [Rule.allMarks, List.forall_mem_append]
    exact ⟨Rule.left_marks_unreached r, Rule.left_allMarks_unreached rs⟩
end

theorem Rule.allMentioned_eq_flatMap (rs : List Rule) : Rule.allMentioned rs = rs.flatMap Rule.mentioned := by
  induction rs with
  | nil => rfl
  | cons r rs ih => rw [Rule.allMentioned, ih, List.flatMap_cons]

theorem Rule.allMentioned_append (rs qs : List Rule) :
    Rule.allMentioned (rs ++ qs) = Rule.allMentioned rs ++ Rule.allMentioned qs := by
  simp only [Rule.allMentioned_eq_flatMap, List.flatMap_append]

theorem Rule.allMentioned_singleton (r : Rule) : Rule.allMentioned [r] = r.mentioned := by
  rw [Rule.allMentioned_eq_flatMap, List.flatMap_singleton]

theorem left_map_mark (ls : List Text) (reached : Bool) :
    ((ls.map fun a => Mention.mk a reached).filter Mention.left).map Mention.layer =
      if reached then ls else [] := by
  cases reached with
  | true => simp [List.filter_map, Function.comp_def]
  | false => simp

mutual
theorem Rule.left_marks : ∀ r : Rule,
    ((Rule.marks u true r).filter Mention.left).map Mention.layer = Rule.allMentioned (Rule.prune? u r).toList
  | .style head rules => by
    rw [Rule.marks, Bool.true_and, Rule.prune?_style]
    by_cases hkept : (head.kept u).selectors = []
    · have hany : head.selectors.any u.uses = false := by simpa [StyleHead.kept] using hkept
      have hnone : (Rule.allMarks u false rules).filter Mention.left = [] :=
        List.filter_eq_nil_iff.2 fun m hm => by simp [Rule.left_allMarks_unreached rules m hm]
      rw [hany, hnone, if_pos hkept]
      rfl
    · have hany : head.selectors.any u.uses = true := by
        obtain ⟨s, hs, huses⟩ := StyleHead.kept_ne_nil.1 hkept
        exact List.any_eq_true.2 ⟨s, hs, huses⟩
      rw [hany, Rule.left_allMarks rules, if_neg hkept, Option.toList_some, Rule.allMentioned_singleton,
        Rule.mentioned]
  | .group head rules => by
    rw [Rule.marks, Rule.prune?_group]
    cases hlayer : head.layer? with
    | some name =>
      simp only [Bool.true_and]
      rw [left_map_mark]
      by_cases hempty : Rule.prune u rules = []
      · simp [hempty, Rule.allMentioned]
      · simp [hempty, Rule.allMentioned_singleton, Rule.mentioned, hlayer]
    | none =>
      simp only []
      rw [Rule.left_allMarks rules]
      by_cases hempty : Rule.prune u rules = []
      · simp [hempty, Rule.allMentioned]
      · simp [hempty, Rule.allMentioned_singleton, Rule.mentioned, hlayer]
  | .region head rules => by
    rw [Rule.marks, left_map_mark, Rule.prune?, Option.toList_some, Rule.allMentioned_singleton, Rule.mentioned]
    rfl
  | .plain r => by
    rw [Rule.marks, left_map_mark, Rule.prune?, Option.toList_some, Rule.allMentioned_singleton, Rule.mentioned]
    rfl

/-- What pruned rules mention: what the rules mention where pruning leaves the mention, in the same order. -/
theorem Rule.left_allMarks : ∀ rs : List Rule,
    ((Rule.allMarks u true rs).filter Mention.left).map Mention.layer = Rule.allMentioned (Rule.prune u rs)
  | [] => rfl
  | r :: rs => by
    rw [Rule.allMarks, List.filter_append, List.map_append, Rule.left_marks, Rule.left_allMarks, Rule.prune_cons,
      Rule.allMentioned_append]
end

/-! ## The first mention -/

/-- The first mention of a layer comes before the first mention of another one. -/
def Precedes (a b : Text) (ls : List Text) : Prop := a ∈ ls ∧ b ∈ ls ∧ ls.idxOf a < ls.idxOf b

/-- A mention of one of two layers. -/
def Mention.isOf (a b : Text) (m : Mention) : Bool := m.layer == a || m.layer == b

theorem idxOf_lt_idxOf_iff {a b : Text} {ls : List Text} :
    ls.idxOf a < ls.idxOf b ↔ a ≠ b ∧ ls.find? (fun x => x == a || x == b) = some a := by
  induction ls with
  | nil => simp
  | cons x ls ih =>
    by_cases ha : x = a
    · subst ha
      by_cases hb : x = b <;> simp [hb]
    · by_cases hb : x = b
      · subst hb
        simp [ha]
      · simp [ha, hb, ih]

/-- Taking elements away does not change the first of a kind if that one is left. -/
theorem find?_filter_of_first {α : Type} {p q : α → Bool} {l : List α}
    (hfirst : ∀ x, l.find? q = some x → p x = true) : (l.filter p).find? q = l.find? q := by
  induction l with
  | nil => rfl
  | cons x l ih =>
    cases hq : q x with
    | true =>
      have hp : p x = true := hfirst x (by rw [List.find?_cons, hq])
      rw [List.filter_cons_of_pos hp, List.find?_cons, List.find?_cons, hq]
    | false =>
      have ih := ih fun y hy => hfirst y (by rw [List.find?_cons, hq]; exact hy)
      cases hp : p x with
      | true => rw [List.filter_cons_of_pos hp, List.find?_cons, List.find?_cons, hq, ih]
      | false => rw [List.filter_cons_of_neg (by simp [hp]), List.find?_cons, hq, ih]

theorem idxOf_map_layer_lt_iff {a b : Text} {ms : List Mention} :
    (ms.map Mention.layer).idxOf a < (ms.map Mention.layer).idxOf b ↔
      a ≠ b ∧ (ms.find? (Mention.isOf a b)).map Mention.layer = some a := by
  rw [idxOf_lt_idxOf_iff, List.find?_map]
  rfl

/-- Two layers keep their order when marks are taken away, if the first mark of either stays. -/
theorem idxOf_leftMentioned_lt_iff {a b : Text} {rs : List Rule}
    (hfirst : ∀ m, (Rule.allMarks u true rs).find? (Mention.isOf a b) = some m → m.left = true) :
    (leftMentioned u rs).idxOf a < (leftMentioned u rs).idxOf b ↔
      (Rule.allMentioned rs).idxOf a < (Rule.allMentioned rs).idxOf b := by
  rw [leftMentioned, idxOf_map_layer_lt_iff, find?_filter_of_first hfirst,
    ← Rule.map_layer_allMarks (u := u) true rs, idxOf_map_layer_lt_iff]

/-! ## Layers with style rules in them -/

/-- A style rule stands somewhere in rules. -/
inductive HasStyle : List Rule → Prop where
  | here {rs inner : List Rule} {head : StyleHead} : .style head inner ∈ rs → HasStyle rs
  | inGroup {rs inner : List Rule} {head : GroupHead} : .group head inner ∈ rs → HasStyle inner → HasStyle rs
  | inRegion {rs inner : List Rule} {head : RegionHead} : .region head inner ∈ rs → HasStyle inner → HasStyle rs

/-- A style rule stands in a block of a top-level layer. -/
inductive StyledLayer (a : Text) : List Rule → Prop where
  | block {rs inner : List Rule} {head : GroupHead} :
      .group head inner ∈ rs → head.layer? = some (some a) → HasStyle inner → StyledLayer a rs
  | inStyle {rs inner : List Rule} {head : StyleHead} :
      .style head inner ∈ rs → StyledLayer a inner → StyledLayer a rs
  | inGroup {rs inner : List Rule} {head : GroupHead} :
      .group head inner ∈ rs → head.layer? = none → StyledLayer a inner → StyledLayer a rs
  | inRegion {rs inner : List Rule} {head : RegionHead} :
      .region head inner ∈ rs → StyledLayer a inner → StyledLayer a rs

theorem Rule.mem_allMentioned {a : Text} {r : Rule} {rs : List Rule} (hr : r ∈ rs) (ha : a ∈ r.mentioned) :
    a ∈ Rule.allMentioned rs := by
  rw [Rule.allMentioned_eq_flatMap]
  exact List.mem_flatMap.2 ⟨r, hr, ha⟩

theorem StyledLayer.mem_allMentioned {a : Text} {rs : List Rule} (h : StyledLayer a rs) :
    a ∈ Rule.allMentioned rs := by
  induction h with
  | block hmem hlayer _ => exact Rule.mem_allMentioned hmem (by simp [Rule.mentioned, hlayer])
  | inStyle hmem _ ih => exact Rule.mem_allMentioned hmem (by rwa [Rule.mentioned])
  | inGroup hmem hlayer _ ih => exact Rule.mem_allMentioned hmem (by simpa [Rule.mentioned, hlayer] using ih)
  | inRegion hmem _ ih => exact Rule.mem_allMentioned hmem (by rwa [Rule.mentioned])

theorem Rule.allMentioned_prune_subset (rs : List Rule) :
    Rule.allMentioned (Rule.prune u rs) ⊆ Rule.allMentioned rs := by
  rw [← Rule.left_allMarks, ← Rule.map_layer_allMarks (u := u) true rs]
  exact List.map_subset _ (List.filter_subset_self _)

/-! ## The order of layers -/

/-- **When pruning keeps the order of layers.** Of two layers that still have a style rule, one comes before the
other in the result exactly if it does among the mentions that pruning leaves. Where the very first mention of
either is left, it does exactly if it did before pruning. -/
theorem precedes_prune_iff {a b : Text} {rs : List Rule} (ha : StyledLayer a (Rule.prune u rs))
    (hb : StyledLayer b (Rule.prune u rs)) :
    (Precedes a b (Rule.allMentioned (Rule.prune u rs)) ↔ Precedes a b (leftMentioned u rs)) ∧
      ((∀ m, (Rule.allMarks u true rs).find? (Mention.isOf a b) = some m → m.left = true) →
        (Precedes a b (Rule.allMentioned (Rule.prune u rs)) ↔ Precedes a b (Rule.allMentioned rs))) := by
  have hleft : leftMentioned u rs = Rule.allMentioned (Rule.prune u rs) := Rule.left_allMarks rs
  refine ⟨by rw [hleft], fun hfirst => ?_⟩
  have horder := idxOf_leftMentioned_lt_iff hfirst
  rw [hleft] at horder
  have hkept := And.intro ha.mem_allMentioned hb.mem_allMentioned
  have hwas := And.intro (Rule.allMentioned_prune_subset rs hkept.1) (Rule.allMentioned_prune_subset rs hkept.2)
  rw [Precedes, Precedes, ← and_assoc, ← and_assoc, horder]
  exact and_congr_left' (iff_of_true hkept hwas)

def layerOf (layer cls : String) : Rule :=
  .group (.layer (some [layer.toList])) [.style (bareHead (.compound [.className cls.toList])) []]

/-- What a page uses that has one paragraph of a class. -/
def keptUsage : Usage := .ofMarkup "<p class=kept>".toList ⟨[], []⟩

/-- The rules `@layer a { .x {} } @layer b { .kept {} } @layer a { .y {} }`, for two classes `x` and `y`. -/
def twiceOpened (x y : String) : List Rule := [layerOf "a" x, layerOf "b" "kept", layerOf "a" y]

theorem StyledLayer.layerOf (layer cls : String) (rs qs : List Rule) :
    StyledLayer layer.toList (rs ++ Css.layerOf layer cls :: qs) :=
  .block (List.mem_append_right rs List.mem_cons_self) rfl (.here List.mem_cons_self)

/-- A later block of the first layer is lost. The layers keep their order. -/
theorem precedes_prune_iff_firstKept :
    StyledLayer "a".toList (Rule.prune keptUsage (twiceOpened "kept" "gone")) ∧
      StyledLayer "b".toList (Rule.prune keptUsage (twiceOpened "kept" "gone")) ∧
      (Precedes "a".toList "b".toList (Rule.allMentioned (Rule.prune keptUsage (twiceOpened "kept" "gone"))) ↔
        Precedes "a".toList "b".toList (leftMentioned keptUsage (twiceOpened "kept" "gone"))) ∧
      (Precedes "a".toList "b".toList (Rule.allMentioned (Rule.prune keptUsage (twiceOpened "kept" "gone"))) ↔
        Precedes "a".toList "b".toList (Rule.allMentioned (twiceOpened "kept" "gone"))) := by
  have hpruned : Rule.prune keptUsage (twiceOpened "kept" "gone") = [layerOf "a" "kept", layerOf "b" "kept"] := rfl
  have ha : StyledLayer "a".toList (Rule.prune keptUsage (twiceOpened "kept" "gone")) := by
    rw [hpruned]
    exact .layerOf "a" "kept" [] [layerOf "b" "kept"]
  have hb : StyledLayer "b".toList (Rule.prune keptUsage (twiceOpened "kept" "gone")) := by
    rw [hpruned]
    exact .layerOf "b" "kept" [layerOf "a" "kept"] []
  obtain ⟨hleft, hkeeps⟩ := precedes_prune_iff ha hb
  refine ⟨ha, hb, hleft, hkeeps fun m hm => ?_⟩
  have hm : some (Mention.mk "a".toList true) = some m := hm
  cases hm
  rfl

/-- The first block of a layer is lost, and the layer is opened again behind another one. Both layers still have a
style rule, and they change places. -/
theorem not_precedes_prune_reopened :
    StyledLayer "a".toList (Rule.prune keptUsage (twiceOpened "gone" "kept")) ∧
      StyledLayer "b".toList (Rule.prune keptUsage (twiceOpened "gone" "kept")) ∧
      Precedes "a".toList "b".toList (Rule.allMentioned (twiceOpened "gone" "kept")) ∧
      ¬ Precedes "a".toList "b".toList
        (Rule.allMentioned (Rule.prune keptUsage (twiceOpened "gone" "kept"))) := by
  have hpruned : Rule.prune keptUsage (twiceOpened "gone" "kept") = [layerOf "b" "kept", layerOf "a" "kept"] := rfl
  rw [hpruned]
  exact ⟨.layerOf "a" "kept" [layerOf "b" "kept"] [], .layerOf "b" "kept" [] [layerOf "a" "kept"],
    ⟨by decide, by decide, by decide⟩, fun h => absurd h.2.2 (by decide)⟩

end StylePrune.Css
