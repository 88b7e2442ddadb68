import StylePrune.Proofs.Split.Reassembled

/-!
Splitting a stylesheet that was put together from groups.

Splitting is undone by reassembling and done again by splitting: `split_reassemble_split` says that the
groups come back with the same conditions and the same text, character by character, but for media groups
that hold nothing, which reassembling does not write. Keys are made from the conditions alone
(`split_eq_of_map_eq`), so when every media group holds something they come back too.
-/
namespace StylePrune

/-- A media group that holds nothing. -/
def SplitGroup.isHollow (g : SplitGroup) : Bool := g.media.isSome && g.css.isEmpty

namespace Split

open Outline (Item Contents Written Closed)

variable {css : Text}

/-! ## Keys depend on the conditions alone -/

/-- Groups of the same conditions in the same order have the same keys. -/
theorem mediaGroups_eq_of_map_eq {taken : List Text} {bs ds : Bodies}
    (h : (mediaGroups taken bs).map (fun g => (g.media, g.css)) =
      (mediaGroups taken ds).map fun g => (g.media, g.css)) :
    mediaGroups taken bs = mediaGroups taken ds := by
  induction bs generalizing taken ds with
  | nil =>
    cases ds with
    | nil => rfl
    | cons d ds => cases h
  | cons b bs ih =>
    cases ds with
    | nil => cases h
    | cons d ds =>
      simp only [mediaGroups, List.map_cons, List.cons.injEq, Prod.mk.injEq, Option.some.injEq] at h ⊢
      obtain ⟨⟨hcondition, hcss⟩, hrest⟩ := h
      rw [hcondition] at hrest ⊢
      exact ⟨by rw [hcss], ih hrest⟩

theorem split_eq_of_map_eq {a b : Text}
    (h : (split a).map (fun g => (g.media, g.css)) = (split b).map fun g => (g.media, g.css)) :
    split a = split b := by
  simp only [split, List.map_cons, List.cons.injEq, Prod.mk.injEq, true_and] at h ⊢
  obtain ⟨hbase, hmedia⟩ := h
  exact ⟨by rw [hbase], mediaGroups_eq_of_map_eq hmedia⟩

/-! ## The second split -/

theorem trim_groupCss (c : Text) (ns : List Node) : Text.trim (groupCss c ns) = groupCss c ns := by
  by_cases hnone : bodiesUnder c ns = []
  · rw [groupCss, hnone]
    rfl
  · have htight : ∀ b ∈ bodiesUnder c ns, Text.Tight b := by
      intro b hb
      obtain ⟨hmem, hb⟩ := List.mem_filter.1 hb
      obtain ⟨b', -, rfl⟩ := List.mem_map.1 hmem
      exact Text.tight_trim (by simpa using hb)
    exact (Text.Tight.join ['\n'] hnone htight).trim

/-- The block that is written for a group is found again under the condition of the group only, and what
stands in it is the text of the group. -/
theorem bodiesUnder_mediaText (h : Written css) (c : Text) {d : Text} (hd : d ∈ conditions (Outline.nodes css)) :
    bodiesUnder c (Outline.nodes (mediaText css d)) =
      if c = d then listed (groupCss c (Outline.nodes css)) else [] := by
  rw [nodes_mediaText h hd]
  by_cases hcd : c = d
  · subst hcd
    rw [if_pos rfl, listed]
    split
    · next hempty => simp [hempty, bodiesUnder, blockBodies]
    · next hne =>
      rw [bodiesUnder, blockBodies_singleton rfl, List.map_singleton]
      simp [Node.body, trim_groupCss, hne]
  · rw [if_neg hcd]
    split
    · rfl
    · exact bodiesUnder_eq_nil (by simpa [Node.mediaCondition] using fun _ he => hcd he.symm)

theorem groupCss_reassemble (h : Written css) {c : Text} (hc : c ∈ conditions (Outline.nodes css)) :
    groupCss c (Outline.nodes (reassemble (split css))) = groupCss c (Outline.nodes css) := by
  have hbodies : bodiesUnder c (Outline.nodes (reassemble (split css))) =
      listed (groupCss c (Outline.nodes css)) := by
    rw [nodes_reassemble h, bodiesUnder_append, bodiesUnder_filter_isNone, List.nil_append, bodiesUnder_flatMap,
      List.flatMap_congr fun d hd => bodiesUnder_mediaText h c hd,
      flatMap_ite_of_nodup _ (nodup_conditions _), if_pos hc]
  rw [groupCss, hbodies, listed]
  split
  · next hempty => rw [List.isEmpty_iff.1 hempty]; rfl
  · rfl

/-- The conditions that are left are those under which there is something, in the same order. -/
theorem conditions_reassemble (h : Written css) :
    conditions (Outline.nodes (reassemble (split css))) =
      (conditions (Outline.nodes css)).filter fun c => !(groupCss c (Outline.nodes css)).isEmpty := by
  have hbase : ((Outline.nodes css).filter fun n => n.mediaCondition.isNone).filterMap Node.mediaCondition =
      [] := by
    simp [List.filterMap_eq_nil_iff]
  have hmedia : ∀ c ∈ conditions (Outline.nodes css),
      (Outline.nodes (mediaText css c)).filterMap Node.mediaCondition =
        (Option.guard (fun c => !(groupCss c (Outline.nodes css)).isEmpty) c).toList := by
    intro c hc
    rw [nodes_mediaText h hc]
    by_cases hempty : groupCss c (Outline.nodes css) = []
    · simp [hempty, Option.guard]
    · simp [hempty, Option.guard, Node.mediaCondition, Text.eqIgnoringAsciiCase]
  -- each condition that is left comes back once, so nothing is dropped as a repetition
  rw [conditions, nodes_reassemble h, List.filterMap_append, hbase, List.nil_append, List.filterMap_flatMap,
    List.flatMap_congr hmedia, ← List.filterMap_eq_flatMap_toList, List.filterMap_eq_filter]
  exact eraseDups_eq_self ((nodup_conditions _).filter _)

theorem map_split_reassemble (h : Written css) :
    (split (reassemble (split css))).map (fun g => (g.media, g.css)) =
      ((split css).filter fun g => !g.isHollow).map fun g => (g.media, g.css) := by
  let full : Option Text × Text → Bool := fun p => !(p.1.isSome && p.2.isEmpty)
  have hgroups : ((conditions (Outline.nodes css)).filter fun c =>
        !(groupCss c (Outline.nodes css)).isEmpty).map (fun c =>
          (some c, groupCss c (Outline.nodes (reassemble (split css))))) =
      ((conditions (Outline.nodes css)).map fun c => (some c, groupCss c (Outline.nodes css))).filter full := by
    rw [List.filter_map]
    exact List.map_congr_left fun c hc => by rw [groupCss_reassemble h (List.mem_of_mem_filter hc)]
  calc (split (reassemble (split css))).map (fun g => (g.media, g.css))
      = (none, Text.join ['\n'] (baseTexts (Outline.nodes css))) ::
          ((conditions (Outline.nodes css)).map fun c =>
            (some c, groupCss c (Outline.nodes css))).filter full := by
        rw [split_map Prod.mk, baseTexts_reassemble h, conditions_reassemble h, hgroups]
    _ = ((split css).map fun g => (g.media, g.css)).filter full := by
        rw [split_map Prod.mk, List.filter_cons_of_pos rfl]
    _ = ((split css).filter fun g => !g.isHollow).map fun g => (g.media, g.css) := by
        rw [List.filter_map]
        rfl

/-- **Splitting is stable under its inverse.** The stylesheet that is put together again from the groups of a
closed stylesheet splits into the same conditions and texts in the same order, hollow media groups left out. If
there are none of these, it splits into the same groups with the same keys. -/
theorem split_reassemble_split (h : Closed css) :
    (split (reassemble (split css))).map (fun g => (g.media, g.css)) =
        ((split css).filter fun g => !g.isHollow).map (fun g => (g.media, g.css)) ∧
      ((∀ g ∈ split css, g.isHollow = false) → split (reassemble (split css)) = split css) := by
  have hpairs := map_split_reassemble h.written
  refine ⟨hpairs, fun hfull => split_eq_of_map_eq ?_⟩
  rw [hpairs, List.filter_eq_self.2 fun g hg => by rw [hfull g hg]; rfl]

/-- The block `@media (print){}`, whose condition has the key of `print`. -/
def hollowBlock : Item where
  prelude := "@media (print)".toList
  block := some []
  prelude_contents := .plain rfl
  block_contents := by simpa using .nil
  starts := ⟨by simp; decide, by decide⟩

def collidingSheet : Text := "@media print{.b{y:2}}@media (print){}.b{y:2}".toList

/-- The hollow group of the condition `(print)` is the one that is lost. -/
theorem split_reassemble_split_colliding :
    Closed collidingSheet ∧
      (split (reassemble (split collidingSheet))).map (fun g => (g.media, g.css)) =
        ((split collidingSheet).filter fun g => !g.isHollow).map fun g => (g.media, g.css) := by
  have hclosed : Closed collidingSheet :=
    ⟨[.item printBlock, .item hollowBlock, .item plainRule], by simp, rfl⟩
  exact ⟨hclosed, (split_reassemble_split hclosed).1⟩

end Split
end StylePrune
