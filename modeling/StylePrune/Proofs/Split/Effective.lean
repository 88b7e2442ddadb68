import StylePrune.Proofs.Split.Reassembled

/-!
Splitting a stylesheet keeps its rules.

The effective rules of a stylesheet are its rules with the condition under which they apply. Splitting puts
rules of different conditions into different groups, so it may change the order of the stylesheet as a
whole. `rulesUnder_reassemble_split` says that it changes nothing else: the rules under one condition are
the same, in the same order, in a stylesheet and in the stylesheet that its groups are written as.
-/
namespace StylePrune.Split

open Outline (Item Contents Written Closed)

/-- The rules of a node with their condition: those of a media block's body, or the node itself. -/
def effective (n : Node) : List (Option Text × Text) :=
  match n.mediaCondition with
  | some c => (Outline.nodes (n.body.getD [])).map fun m => (some c, m.text)
  | none => [(none, n.text)]

/-- The rules of a stylesheet with their conditions, in order. -/
def effectiveRules (css : Text) : List (Option Text × Text) := (Outline.nodes css).flatMap effective

def rulesUnder (condition : Option Text) (css : Text) : List Text :=
  ((effectiveRules css).filter fun r => r.1 == condition).map Prod.snd

/-! ## Rules under a condition -/

theorem under_body (condition : Option Text) (c : Text) (ns : List Node) :
    ((ns.map fun m => (some c, m.text)).filter fun r => r.1 == condition).map Prod.snd =
      if some c = condition then ns.map Node.text else [] := by
  by_cases h : some c = condition
  · subst h
    rw [List.filter_eq_self.2 (by simp), List.map_map, if_pos rfl]
    rfl
  · rw [List.filter_eq_nil_iff.2 (by simpa using fun _ _ => h), if_neg h]
    rfl

theorem rulesUnder_none (css : Text) : rulesUnder none css = baseTexts (Outline.nodes css) := by
  rw [rulesUnder, effectiveRules, baseTexts]
  induction Outline.nodes css with
  | nil => rfl
  | cons n ns ih =>
    rw [List.flatMap_cons, List.filter_append, List.map_append, ih, List.filter_cons, effective]
    cases n.mediaCondition with
    | none => rfl
    | some c =>
      simp only [under_body, reduceCtorEq, if_false]
      rfl

theorem rulesUnder_some (c css : Text) :
    rulesUnder (some c) css = ((blockBodies c (Outline.nodes css)).flatMap Outline.nodes).map Node.text := by
  rw [rulesUnder, effectiveRules, blockBodies]
  induction Outline.nodes css with
  | nil => rfl
  | cons n ns ih =>
    rw [List.flatMap_cons, List.filter_append, List.map_append, ih, List.filter_cons, effective]
    cases n.mediaCondition with
    | none => rfl
    | some d =>
      simp only [under_body]
      by_cases hd : d = c
      · subst hd
        rw [if_pos rfl, if_pos (by simp), List.map_cons, List.flatMap_cons, List.map_append]
      · rw [if_neg (by simpa using hd), if_neg (by simpa using hd)]
        rfl

/-! ## The rules of a media group -/

/-- A media group has under its condition the nodes of its bodies, and nothing under any other. -/
theorem nodes_blockBodies_mediaText {css c : Text} (h : Written css) (hc : c ∈ conditions (Outline.nodes css))
    (d : Text) :
    (blockBodies d (Outline.nodes (mediaText css c))).flatMap Outline.nodes =
      if d = c then Outline.nodes (groupCss c (Outline.nodes css)) else [] := by
  rw [nodes_mediaText h hc]
  split
  · next hempty =>
    rw [hempty, Outline.nodes_nil]
    exact (ite_self _).symm
  · split
    · next hd =>
      subst hd
      rw [blockBodies_singleton rfl]
      exact List.append_nil _
    · next hd =>
      rw [blockBodies_eq_nil (by simpa [Node.mediaCondition] using fun _ he => hd he.symm)]
      rfl

/-! ## Reassembling -/

/-- A stylesheet of the grammar whose media blocks hold stylesheets of the grammar. -/
structure Splits (css : Text) : Prop where
  written : Written css
  bodies : ∀ n ∈ Outline.nodes css, n.mediaCondition.isSome → Written (n.body.getD [])

namespace Splits

variable {css : Text}

theorem written_body (h : Splits css) {c b : Text} (hb : b ∈ blockBodies c (Outline.nodes css)) :
    Written b := by
  obtain ⟨n, hn, rfl⟩ := List.mem_map.1 hb
  obtain ⟨hn, hc⟩ := List.mem_filter.1 hn
  exact h.bodies n hn (by rw [eq_of_beq hc]; rfl)

theorem nodes_bodies (h : Splits css) (c : Text) :
    Outline.nodes (groupCss c (Outline.nodes css)) =
      (blockBodies c (Outline.nodes css)).flatMap Outline.nodes := by
  have hwritten : ∀ b ∈ bodiesUnder c (Outline.nodes css), Written b := by
    intro b hb
    obtain ⟨b', hb', rfl⟩ := exists_of_mem_bodiesUnder hb
    exact (h.written_body hb').trim
  rw [groupCss, Outline.nodes_join hwritten, bodiesUnder, flatMap_nodes_filter, List.flatMap_map]
  exact List.flatMap_congr fun b hb => Outline.nodes_trim (h.written_body hb)

theorem rulesUnder_none_reassemble (h : Splits css) :
    rulesUnder none (reassemble (split css)) = rulesUnder none css := by
  rw [rulesUnder_none, rulesUnder_none, baseTexts_reassemble h.written]

theorem rulesUnder_some_reassemble (h : Splits css) (c : Text) :
    rulesUnder (some c) (reassemble (split css)) = rulesUnder (some c) css := by
  -- only the media group of this condition has blocks under it, and it has one
  have hmedia : ∀ d ∈ conditions (Outline.nodes css),
      (blockBodies c (Outline.nodes (mediaText css d))).flatMap Outline.nodes =
        if c = d then (blockBodies c (Outline.nodes css)).flatMap Outline.nodes else [] := by
    intro d hd
    rw [nodes_blockBodies_mediaText h.written hd]
    split
    · next hcd => rw [hcd, h.nodes_bodies d]
    · rfl
  rw [rulesUnder_some, rulesUnder_some, nodes_reassemble h.written, blockBodies_append,
    blockBodies_filter_isNone, List.nil_append]
  have hgroups : (blockBodies c ((conditions (Outline.nodes css)).flatMap fun d =>
      Outline.nodes (mediaText css d))).flatMap Outline.nodes =
        (blockBodies c (Outline.nodes css)).flatMap Outline.nodes := by
    rw [blockBodies_flatMap, List.flatMap_assoc, List.flatMap_congr hmedia,
      flatMap_ite_of_nodup _ (nodup_conditions _)]
    split
    · rfl
    · next hc => rw [blockBodies_eq_nil fun n hn he => hc (mem_conditions.2 ⟨n, hn, he⟩)]; rfl
  rw [hgroups]

end Splits

/-- **Splitting keeps the rules under every condition and their order.** The stylesheet that is put
together again from the groups of a closed stylesheet, whose media blocks hold closed stylesheets, has under
each condition, and under none, the same rules in the same order. -/
theorem rulesUnder_reassemble_split {css : Text} (h : Closed css)
    (hbodies : ∀ n ∈ Outline.nodes css, n.mediaCondition.isSome → Closed (n.body.getD []))
    (condition : Option Text) : rulesUnder condition (reassemble (split css)) = rulesUnder condition css := by
  have hsplits : Splits css := ⟨h.written, fun n hn hc => (hbodies n hn hc).written⟩
  cases condition with
  | none => exact hsplits.rulesUnder_none_reassemble
  | some c => exact hsplits.rulesUnder_some_reassemble c

/-- A media block in front of a rule trades places with it, and the rules under its condition stay. -/
theorem rulesUnder_reassemble_split_print :
    rulesUnder (some "print".toList) (reassemble (split "@media print{.b{y:2}}.b{y:2}".toList)) =
      rulesUnder (some "print".toList) "@media print{.b{y:2}}.b{y:2}".toList := by
  have hparts : Outline.Part.textOf [.item printBlock, .item plainRule] =
      "@media print{.b{y:2}}.b{y:2}".toList := rfl
  refine rulesUnder_reassemble_split ⟨_, by simp, hparts⟩ (fun n hn hc => ?_) _
  rw [← hparts, Outline.nodes_textOf] at hn
  rcases List.mem_pair.1 hn with rfl | rfl
  · exact ⟨[.item plainRule], by simp, rfl⟩
  · cases hc

end StylePrune.Split
