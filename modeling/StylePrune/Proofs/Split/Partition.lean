import StylePrune.Proofs.Split.Groups

/-!
Every node of a stylesheet goes into one group.

The nodes that belong to a group are those with its condition, none for the base group (`members`). What a group
holds is made of its members alone, in order, and the members of all groups together are the nodes
(`split_partitions`): the groups of a stylesheet are a partition of its outline.
-/
namespace StylePrune.Split

/-- The nodes that belong to the group with this condition. -/
def members (media : Option Text) (ns : List Node) : List Node := ns.filter fun n => n.mediaCondition == media

/-- Groups are a partition of nodes. -/
structure Partitions (gs : List SplitGroup) (ns : List Node) : Prop where
  /-- The base group comes first and holds what is no media block. -/
  base : gs.head? = some ⟨baseKey, none, Text.join ['\n'] ((members none ns).map Node.text)⟩
  /-- The others are one group for each condition, in the order in which conditions first appear. -/
  media : gs.tail.map SplitGroup.media = ((ns.filterMap Node.mediaCondition).eraseDups).map some
  /-- They hold the trimmed bodies of the blocks under their condition, empty ones left out. -/
  bodies : ∀ g ∈ gs.tail, g.css =
    Text.join ['\n'] (((members g.media ns).map fun n => Text.trim (n.body.getD [])).filter fun b => !b.isEmpty)
  /-- Every node is a member of one group. -/
  member : ∀ n ∈ ns, ∃! g, g ∈ gs ∧ n ∈ members g.media ns
  /-- No node is lost and none is counted twice. -/
  perm : (gs.flatMap fun g => members g.media ns).Perm ns

/-! ## Members -/

theorem mem_members {media : Option Text} {n : Node} {ns : List Node} :
    n ∈ members media ns ↔ n ∈ ns ∧ n.mediaCondition = media := by
  rw [members, List.mem_filter, beq_iff_eq]

theorem map_text_members (ns : List Node) : (members none ns).map Node.text = baseTexts ns := by
  rw [members, baseTexts]
  congr 2
  funext n
  cases n.mediaCondition <;> rfl

theorem map_body_members (c : Text) (ns : List Node) :
    (members (some c) ns).map (fun n => Text.trim (n.body.getD [])) = (blockBodies c ns).map Text.trim := by
  rw [members, blockBodies, List.map_map]
  rfl

/-- Things sorted by a key into distinct boxes, a box for every key that there is, are all there. -/
theorem perm_flatMap_filter {α κ : Type} [BEq κ] [LawfulBEq κ] (key : α → κ) {ks : List κ} {as : List α}
    (hks : ks.Nodup) (hkey : ∀ a ∈ as, key a ∈ ks) : (ks.flatMap fun k => as.filter fun a => key a == k).Perm as := by
  induction ks generalizing as with
  | nil =>
    obtain rfl : as = [] := List.eq_nil_iff_forall_not_mem.2 fun a ha => List.not_mem_nil (hkey a ha)
    exact .nil
  | cons k ks ih =>
    obtain ⟨hk, hks⟩ := List.nodup_cons.1 hks
    have hothers : (ks.flatMap fun l => as.filter fun a => key a == l) =
        ks.flatMap fun l => (as.filter fun a => !(key a == k)).filter fun a => key a == l := by
      refine List.flatMap_congr fun l hl => ?_
      rw [List.filter_filter]
      refine List.filter_congr fun a _ => ?_
      by_cases ha : key a = l
      · have hne : l ≠ k := fun he => hk (he ▸ hl)
        simp [ha, hne]
      · simp [ha]
    have hrest : ∀ a ∈ as.filter (fun a => !(key a == k)), key a ∈ ks := by
      intro a ha
      obtain ⟨ha, hne⟩ := List.mem_filter.1 ha
      exact (List.mem_cons.1 (hkey a ha)).resolve_left (by simpa using hne)
    rw [List.flatMap_cons, hothers]
    exact ((ih hks hrest).append_left _).trans (List.filter_append_perm _ as)

/-! ## The groups of a stylesheet -/

theorem media_split (css : Text) :
    (split css).map SplitGroup.media = none :: (conditions (Outline.nodes css)).map some :=
  split_map (fun media _ => media) css

theorem nodup_media_split (css : Text) : ((split css).map SplitGroup.media).Nodup := by
  rw [media_split, List.nodup_cons]
  refine ⟨by simp, (nodup_conditions _).map fun _ _ h => Option.some.inj h⟩

theorem mediaCondition_mem {css : Text} {n : Node} (hn : n ∈ Outline.nodes css) :
    n.mediaCondition ∈ (split css).map SplitGroup.media := by
  rw [media_split]
  cases h : n.mediaCondition with
  | none => exact List.mem_cons_self
  | some c => exact List.mem_cons_of_mem _ (List.mem_map.2 ⟨c, mem_conditions.2 ⟨n, hn, h⟩, rfl⟩)

theorem exists_of_mem_mediaGroups {taken : List Text} {ns : List Node} {cs : List Text} {g : SplitGroup}
    (hg : g ∈ mediaGroups taken (cs.map fun c => (c, bodiesUnder c ns))) :
    ∃ c, g.media = some c ∧ g.css = groupCss c ns := by
  have hpair : (g.media, g.css) ∈ (cs.map fun c => (c, bodiesUnder c ns)).map fun e =>
      (some e.1, Text.join ['\n'] e.2) := by
    rw [← mediaGroups_map Prod.mk taken]
    exact List.mem_map.2 ⟨g, hg, rfl⟩
  rw [List.map_map, List.mem_map] at hpair
  obtain ⟨c, -, hc⟩ := hpair
  exact ⟨c, (congrArg Prod.fst hc).symm, (congrArg Prod.snd hc).symm⟩

/-- **Splitting partitions the outline.** The groups of a stylesheet are its base group and one group for each
condition of its media blocks, in order of first appearance. Each holds what its own nodes say, in their order,
and every node belongs to one of them. -/
theorem split_partitions (css : Text) : Partitions (split css) (Outline.nodes css) where
  base := by rw [map_text_members, split, List.head?_cons]
  media := by rw [List.map_tail, media_split, List.tail_cons, conditions]
  bodies := by
    intro g hg
    rw [split, List.tail_cons, mediaBodies_eq] at hg
    obtain ⟨c, hmedia, hcss⟩ := exists_of_mem_mediaGroups hg
    rw [hmedia, hcss, map_body_members, groupCss, bodiesUnder]
  member := by
    intro n hn
    obtain ⟨g, hg, hgn⟩ := List.mem_map.1 (mediaCondition_mem hn)
    refine ⟨g, ⟨hg, mem_members.2 ⟨hn, hgn.symm⟩⟩, fun h hh => ?_⟩
    have hhn := (mem_members.1 hh.2).2
    exact List.inj_on_of_nodup_map (nodup_media_split css) hh.1 hg (hhn.symm.trans hgn.symm)
  perm := by
    have hperm := perm_flatMap_filter Node.mediaCondition (nodup_media_split css) fun n hn => mediaCondition_mem hn
    rw [List.flatMap_map] at hperm
    exact hperm

end StylePrune.Split
