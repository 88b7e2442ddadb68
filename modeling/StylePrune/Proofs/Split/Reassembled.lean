import StylePrune.Proofs.Outline.Closure
import StylePrune.Proofs.Split.Groups

/-!
The stylesheet that is put together again from the groups of a stylesheet.

A media group is written as one block around its bodies, and reading the block gives the condition and the
bodies back as they were (`nodes_wrap`). So the outline of the reassembled stylesheet is known without its
text: first the nodes outside media blocks, then one block for each condition under which something is left
(`nodes_reassemble`).
-/
namespace StylePrune.Split

open Outline (Item Contents Written)

variable {css : Text}

/-! ## A media group as it is written -/

theorem exists_mediaItem {c body : Text} (hc : Contents .prelude c) (ht : Text.trim c = c)
    (hb : Contents .block body) (hne : body ≠ []) :
    ∃ i : Item, i.text = wrap (some c) body ∧ i.node = .atRule "media".toList c (some body) i.text := by
  have hprelude : Contents .prelude ("@media ".toList ++ c) := Contents.prepend rfl hc
  let i : Item := ⟨"@media ".toList ++ c, some body, hprelude, by simpa using hb, by simp; decide⟩
  have hat : i.prelude = '@' :: ("media ".toList ++ c) := rfl
  refine ⟨i, ?_, ?_⟩
  · rw [wrap, SplitGroup.wrapped]
    simp [i, Item.text, Item.tail, hne]
  · have hname : ("media ".toList ++ c).takeWhile Outline.isNameChar = "media".toList := rfl
    have hparams : ("media ".toList ++ c).dropWhile Outline.isNameChar = ' ' :: c := rfl
    rw [Item.node_of_at hat, hname, hparams, Text.trim, Text.trimStart_cons_of_pos _ rfl, ← Text.trim, ht]

theorem contents_of_mediaCondition {i : Item} {c : Text} (h : i.node.mediaCondition = some c) :
    Contents .prelude c ∧ Text.trim c = c ∧ Contents .block (i.node.body.getD []) := by
  by_cases hat : i.prelude.head? = some '@'
  · obtain ⟨r, hr⟩ := List.head?_eq_some_iff.1 hat
    rw [Item.node_of_at hr] at h ⊢
    obtain ⟨-, hparams⟩ := Option.ite_none_right_eq_some.1 h
    obtain rfl := Option.some.inj hparams
    have hafter : Contents .prelude r := Contents.of_at (hr ▸ i.prelude_contents)
    refine ⟨(hafter.dropWhile rfl).trim, Text.trim_trim _, ?_⟩
    cases hblock : i.block with
    | none => exact .nil
    | some b => exact i.block_contents b hblock
  · rw [Item.node_of_not_at hat] at h
    cases h

/-- A media group is written as one media block, or not at all if there is nothing in it. -/
theorem nodes_wrap {c body : Text} (hc : Contents .prelude c) (ht : Text.trim c = c)
    (hb : Contents .block body) :
    Outline.nodes (wrap (some c) body) =
      if body = [] then [] else [.atRule "media".toList c (some body) (wrap (some c) body)] := by
  split
  · next he =>
    subst he
    exact Outline.nodes_nil
  · next hne =>
    obtain ⟨i, hi, hnode⟩ := exists_mediaItem hc ht hb hne
    rw [← hi, Outline.nodes_item, hnode]

theorem written_wrap {c body : Text} (hc : Contents .prelude c) (ht : Text.trim c = c)
    (hb : Contents .block body) : Written (wrap (some c) body) := by
  by_cases hne : body = []
  · subst hne
    exact .nil
  · obtain ⟨i, hi, -⟩ := exists_mediaItem hc ht hb hne
    rw [← hi]
    exact i.written

def plainRule : Item where
  prelude := ".b".toList
  block := some "y:2".toList
  prelude_contents := .plain rfl
  block_contents := by simpa using .plain rfl
  starts := ⟨by simp; decide, by decide⟩

def printBlock : Item where
  prelude := "@media print".toList
  block := some ".b{y:2}".toList
  prelude_contents := .plain rfl
  block_contents := by
    have hbody : Contents .block "y:2".toList := .plain rfl
    simpa using Contents.prepend (s := ".b".toList) rfl (.block hbody .nil)
  starts := ⟨by simp; decide, by decide⟩

/-! ## Conditions and bodies of a stylesheet of the grammar -/

theorem contents_body (h : Written css) {c b : Text} (hb : b ∈ blockBodies c (Outline.nodes css)) :
    Contents .block b := by
  obtain ⟨n, hn, rfl⟩ := List.mem_map.1 hb
  obtain ⟨hn, hc⟩ := List.mem_filter.1 hn
  obtain ⟨i, rfl⟩ := h.exists_item hn
  exact (contents_of_mediaCondition (eq_of_beq hc)).2.2

theorem contents_condition (h : Written css) {c : Text} (hc : c ∈ conditions (Outline.nodes css)) :
    Contents .prelude c ∧ Text.trim c = c := by
  obtain ⟨n, hn, hnc⟩ := mem_conditions.1 hc
  obtain ⟨i, rfl⟩ := h.exists_item hn
  obtain ⟨hcontents, htrim, -⟩ := contents_of_mediaCondition hnc
  exact ⟨hcontents, htrim⟩

theorem exists_of_mem_bodiesUnder {c b : Text} {ns : List Node} (hb : b ∈ bodiesUnder c ns) :
    ∃ b' ∈ blockBodies c ns, Text.trim b' = b :=
  List.mem_map.1 (List.mem_filter.1 hb).1

theorem contents_groupCss (h : Written css) (c : Text) :
    Contents .block (groupCss c (Outline.nodes css)) := by
  refine Contents.join fun b hb => ?_
  obtain ⟨b', hb', rfl⟩ := exists_of_mem_bodiesUnder hb
  exact (contents_body h hb').trim

/-! ## The nodes of the reassembled stylesheet -/

theorem flatMap_nodes_filter (ts : List Text) :
    (ts.filter fun t => !t.isEmpty).flatMap Outline.nodes = ts.flatMap Outline.nodes := by
  induction ts with
  | nil => rfl
  | cons t ts ih =>
    cases t with
    | nil => rw [List.filter_cons_of_neg (by simp), ih, List.flatMap_cons, Outline.nodes_nil, List.nil_append]
    | cons c t => rw [List.filter_cons_of_pos (by simp), List.flatMap_cons, ih, List.flatMap_cons]

theorem nodes_text (h : Written css) {n : Node} (hn : n ∈ Outline.nodes css) :
    Written n.text ∧ Outline.nodes n.text = [n] := by
  obtain ⟨i, rfl⟩ := h.exists_item hn
  rw [i.node_text]
  exact ⟨i.written, Outline.nodes_item i⟩

theorem written_baseTexts (h : Written css) : ∀ t ∈ baseTexts (Outline.nodes css), Written t := by
  intro t ht
  obtain ⟨n, hn, rfl⟩ := List.mem_map.1 ht
  exact (nodes_text h (List.mem_of_mem_filter hn)).1

theorem nodes_base (h : Written css) :
    Outline.nodes (Text.join ['\n'] (baseTexts (Outline.nodes css))) =
      (Outline.nodes css).filter fun n => n.mediaCondition.isNone := by
  calc Outline.nodes (Text.join ['\n'] (baseTexts (Outline.nodes css)))
      = (baseTexts (Outline.nodes css)).flatMap Outline.nodes := Outline.nodes_join (written_baseTexts h)
    _ = ((Outline.nodes css).filter fun n => n.mediaCondition.isNone).flatMap fun n => [n] := by
        rw [baseTexts, List.flatMap_map]
        exact List.flatMap_congr fun n hn => (nodes_text h (List.mem_of_mem_filter hn)).2
    _ = _ := List.flatMap_singleton' _

def mediaText (css c : Text) : Text := wrap (some c) (groupCss c (Outline.nodes css))

theorem nodes_mediaText (h : Written css) {c : Text} (hc : c ∈ conditions (Outline.nodes css)) :
    Outline.nodes (mediaText css c) =
      if groupCss c (Outline.nodes css) = [] then []
      else [.atRule "media".toList c (some (groupCss c (Outline.nodes css))) (mediaText css c)] := by
  obtain ⟨hcontents, htrim⟩ := contents_condition h hc
  exact nodes_wrap hcontents htrim (contents_groupCss h c)

/-- The nodes of the reassembled stylesheet: those outside media blocks, then those of the media groups. -/
theorem nodes_reassemble (h : Written css) :
    Outline.nodes (reassemble (split css)) =
      ((Outline.nodes css).filter fun n => n.mediaCondition.isNone) ++
        (conditions (Outline.nodes css)).flatMap fun c => Outline.nodes (mediaText css c) := by
  have hwritten : ∀ t ∈ (split css).map SplitGroup.wrapped, Written t := by
    rw [split_wrapped, List.forall_mem_cons, List.forall_mem_map]
    refine ⟨Written.join (written_baseTexts h), fun c hc => ?_⟩
    obtain ⟨hcontents, htrim⟩ := contents_condition h hc
    exact written_wrap hcontents htrim (contents_groupCss h c)
  rw [reassemble, Outline.nodes_join fun t ht => hwritten t (List.mem_of_mem_filter ht), flatMap_nodes_filter,
    split_wrapped, List.flatMap_cons, nodes_base h, List.flatMap_map]
  rfl

theorem baseTexts_reassemble (h : Written css) :
    baseTexts (Outline.nodes (reassemble (split css))) = baseTexts (Outline.nodes css) := by
  have hmedia : ∀ c ∈ conditions (Outline.nodes css),
      (Outline.nodes (mediaText css c)).filter (fun n => n.mediaCondition.isNone) = [] := by
    intro c hc
    rw [nodes_mediaText h hc]
    split <;> rfl
  rw [baseTexts, nodes_reassemble h, List.filter_append, List.filter_flatMap, List.flatMap_eq_nil_iff.2 hmedia,
    List.append_nil, List.filter_filter]
  simp only [Bool.and_self]
  rfl

end StylePrune.Split
