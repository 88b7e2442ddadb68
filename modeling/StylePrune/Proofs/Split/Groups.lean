import Mathlib.Data.List.Induction
import Mathlib.Data.List.Nodup
import StylePrune.Split.Basic

/-!
What the groups of a split stylesheet hold.

The media groups are kept as an association list that is filled node by node. `mediaBodies_eq` says what
it is in the end: one entry for each condition, in the order in which conditions first appear, with the
bodies of the blocks under that condition in the order of the blocks. The rest of the theory of splitting
speaks of `conditions` and `bodiesUnder` and never of the loop.
-/
namespace StylePrune.Split

/-- The conditions of the media blocks among nodes, each once, in order of first appearance. -/
def conditions (ns : List Node) : List Text := (ns.filterMap Node.mediaCondition).eraseDups

/-- The bodies of the media blocks under a condition, as written. -/
def blockBodies (condition : Text) (ns : List Node) : List Text :=
  (ns.filter fun n => n.mediaCondition == some condition).map fun n => n.body.getD []

/-- The bodies of the media blocks under a condition, trimmed, blank ones left out. -/
def bodiesUnder (condition : Text) (ns : List Node) : List Text :=
  ((blockBodies condition ns).map Text.trim).filter fun b => !b.isEmpty

/-! ## Conditions -/

theorem conditions_concat_none {n : Node} (ns : List Node) (h : n.mediaCondition = none) :
    conditions (ns ++ [n]) = conditions ns := by
  simp [conditions, h]

theorem conditions_concat_some {n : Node} {c : Text} (ns : List Node) (h : n.mediaCondition = some c) :
    conditions (ns ++ [n]) = if c ∈ conditions ns then conditions ns else conditions ns ++ [c] := by
  have happ : conditions (ns ++ [n]) =
      conditions ns ++ ([c].removeAll (ns.filterMap Node.mediaCondition)).eraseDups := by
    rw [conditions, List.filterMap_append, List.eraseDups_append]
    simp [conditions, h]
  rw [happ]
  split
  · next hc =>
    have hmem : c ∈ ns.filterMap Node.mediaCondition := List.mem_eraseDups.1 hc
    rw [List.removeAll, List.filter_cons_of_neg (by simpa using hmem), List.filter_nil, List.eraseDups_nil,
      List.append_nil]
  · next hc =>
    have hmem : c ∉ ns.filterMap Node.mediaCondition := fun h => hc (List.mem_eraseDups.2 h)
    rw [List.removeAll, List.filter_cons_of_pos (by simpa using hmem), List.filter_nil, List.eraseDups_cons]
    rfl

theorem mem_conditions {c : Text} {ns : List Node} :
    c ∈ conditions ns ↔ ∃ n ∈ ns, n.mediaCondition = some c := by
  simp [conditions]

theorem nodup_conditions (ns : List Node) : (conditions ns).Nodup := by
  induction ns using List.reverseRecOn with
  | nil => exact List.nodup_nil
  | append_singleton ns n ih =>
    cases h : n.mediaCondition with
    | none => rwa [conditions_concat_none ns h]
    | some c =>
      rw [conditions_concat_some ns h]
      split
      · exact ih
      · next hc =>
        rw [← List.concat_eq_append]
        exact (List.nodup_concat _ _).2 ⟨hc, ih⟩

theorem eraseDups_eq_self {cs : List Text} (h : cs.Nodup) : cs.eraseDups = cs := by
  induction cs with
  | nil => exact List.eraseDups_nil
  | cons c cs ih =>
    obtain ⟨hc, hcs⟩ := List.nodup_cons.1 h
    have hfilter : cs.filter (fun d => !d == c) = cs := by
      refine List.filter_eq_self.2 fun d hd => ?_
      simpa using fun he : d = c => hc (he ▸ hd)
    rw [List.eraseDups_cons, hfilter, ih hcs]

/-! ## Bodies -/

theorem blockBodies_append (c : Text) (ns ms : List Node) :
    blockBodies c (ns ++ ms) = blockBodies c ns ++ blockBodies c ms := by
  simp [blockBodies]

theorem blockBodies_flatMap {α : Type} (c : Text) (f : α → List Node) (as : List α) :
    blockBodies c (as.flatMap f) = as.flatMap fun a => blockBodies c (f a) := by
  simp [blockBodies, List.filter_flatMap, List.map_flatMap]

theorem blockBodies_eq_nil {c : Text} {ns : List Node} (h : ∀ n ∈ ns, n.mediaCondition ≠ some c) :
    blockBodies c ns = [] := by
  simpa [blockBodies] using h

theorem blockBodies_filter_isNone (c : Text) (ns : List Node) :
    blockBodies c (ns.filter fun n => n.mediaCondition.isNone) = [] := by
  refine blockBodies_eq_nil fun n hn he => ?_
  have := (List.mem_filter.1 hn).2
  rw [he] at this
  cases this

theorem blockBodies_singleton {c : Text} {n : Node} (h : n.mediaCondition = some c) :
    blockBodies c [n] = [n.body.getD []] := by
  simp [blockBodies, h]

theorem bodiesUnder_append (c : Text) (ns ms : List Node) :
    bodiesUnder c (ns ++ ms) = bodiesUnder c ns ++ bodiesUnder c ms := by
  simp [bodiesUnder, blockBodies_append]

theorem bodiesUnder_flatMap {α : Type} (c : Text) (f : α → List Node) (as : List α) :
    bodiesUnder c (as.flatMap f) = as.flatMap fun a => bodiesUnder c (f a) := by
  simp [bodiesUnder, blockBodies_flatMap, List.map_flatMap, List.filter_flatMap]

theorem bodiesUnder_eq_nil {c : Text} {ns : List Node} (h : ∀ n ∈ ns, n.mediaCondition ≠ some c) :
    bodiesUnder c ns = [] := by
  rw [bodiesUnder, blockBodies_eq_nil h]
  rfl

theorem bodiesUnder_filter_isNone (c : Text) (ns : List Node) :
    bodiesUnder c (ns.filter fun n => n.mediaCondition.isNone) = [] := by
  rw [bodiesUnder, blockBodies_filter_isNone]
  rfl

theorem bodiesUnder_of_notMem {c : Text} {ns : List Node} (h : c ∉ conditions ns) : bodiesUnder c ns = [] :=
  bodiesUnder_eq_nil fun n hn he => h (mem_conditions.2 ⟨n, hn, he⟩)

/-- What a body adds to the list of its condition: nothing if it is blank. -/
def listed (body : Text) : List Text := if body.isEmpty then [] else [body]

theorem addBody_cons_self (c body : Text) (bs : List Text) (r : Bodies) :
    addBody c body ((c, bs) :: r) = (c, bs ++ listed body) :: r := by
  rw [addBody, if_pos rfl, listed]
  split <;> simp

theorem addBody_cons_of_ne {c d : Text} (body : Text) (bs : List Text) (r : Bodies) (h : d ≠ c) :
    addBody c body ((d, bs) :: r) = (d, bs) :: addBody c body r := by
  rw [addBody, if_neg h]

/-- Adding a body to the entries of distinct conditions: it goes to the end of the entry of its condition,
which is made if there is none. -/
theorem addBody_map {c : Text} {cs : List Text} (body : Text) (f : Text → List Text) (hnd : cs.Nodup) :
    addBody c body (cs.map fun d => (d, f d)) =
      if c ∈ cs then cs.map fun d => (d, if d = c then f d ++ listed body else f d)
      else cs.map (fun d => (d, f d)) ++ [(c, listed body)] := by
  induction cs with
  | nil => rfl
  | cons d cs ih =>
    obtain ⟨hd, hcs⟩ := List.nodup_cons.1 hnd
    by_cases hdc : d = c
    · subst hdc
      have hrest : cs.map (fun e => (e, if e = d then f e ++ listed body else f e)) =
          cs.map fun e => (e, f e) := by
        refine List.map_congr_left fun e he => ?_
        rw [if_neg]
        rintro rfl
        exact hd he
      rw [List.map_cons, addBody_cons_self, if_pos (by simp), List.map_cons, if_pos rfl, hrest]
    · have hmem : c ∈ d :: cs ↔ c ∈ cs := by simp [Ne.symm hdc]
      rw [List.map_cons, addBody_cons_of_ne _ _ _ hdc, ih hcs]
      simp only [hmem, List.map_cons, if_neg hdc]
      split <;> rfl

/-- The last node adds its body under its own condition and under no other. -/
theorem bodiesUnder_concat {n : Node} {c : Text} (d : Text) (ns : List Node) (h : n.mediaCondition = some c) :
    bodiesUnder d (ns ++ [n]) =
      if d = c then bodiesUnder d ns ++ listed (Text.trim (n.body.getD [])) else bodiesUnder d ns := by
  rw [bodiesUnder_append]
  split
  · next hd =>
    subst hd
    have hlast : bodiesUnder d [n] = listed (Text.trim (n.body.getD [])) := by
      rw [bodiesUnder, blockBodies_singleton h, List.map_singleton, listed, List.filter_cons]
      cases (Text.trim (n.body.getD [])).isEmpty <;> rfl
    rw [hlast]
  · next hd =>
    have hlast : bodiesUnder d [n] = [] := bodiesUnder_eq_nil (by simp [h, Ne.symm hd])
    rw [hlast, List.append_nil]

/-- **What the loop over the nodes leaves behind**: for each condition, in order of first appearance, the
bodies of its blocks. -/
theorem mediaBodies_eq (ns : List Node) :
    mediaBodies ns = (conditions ns).map fun c => (c, bodiesUnder c ns) := by
  -- the loop adds nodes at the end, and so does the induction
  induction ns using List.reverseRecOn with
  | nil => rfl
  | append_singleton ns n ih =>
    rw [mediaBodies, List.foldl_append, List.foldl_cons, List.foldl_nil, ← mediaBodies, ih]
    cases h : n.mediaCondition with
    | none =>
      rw [conditions_concat_none ns h]
      refine List.map_congr_left fun d _ => ?_
      have hlast : bodiesUnder d [n] = [] := bodiesUnder_eq_nil (by simp [h])
      rw [bodiesUnder_append, hlast, List.append_nil]
    | some c =>
      simp only [bodiesUnder_concat _ ns h, conditions_concat_some ns h,
        addBody_map _ _ (nodup_conditions ns)]
      split
      · rfl
      · next hc =>
        rw [List.map_append, List.map_singleton, if_pos rfl, bodiesUnder_of_notMem hc, List.nil_append]
        refine congrArg (· ++ _) (List.map_congr_left fun d hd => ?_)
        rw [if_neg]
        rintro rfl
        exact hc hd

/-! ## Groups -/

theorem flatMap_ite_of_nodup {α β : Type} [DecidableEq α] {a : α} {as : List α} (bs : List β) (h : as.Nodup) :
    (as.flatMap fun d => if a = d then bs else []) = if a ∈ as then bs else [] := by
  induction as with
  | nil => rfl
  | cons d as ih =>
    obtain ⟨hd, has⟩ := List.nodup_cons.1 h
    rw [List.flatMap_cons, ih has]
    by_cases had : a = d
    · subst had
      simp [hd]
    · simp [had]

theorem mediaGroups_map {α : Type} (f : Option Text → Text → α) (taken : List Text) (bs : Bodies) :
    (mediaGroups taken bs).map (fun g => f g.media g.css) =
      bs.map fun e => f (some e.1) (Text.join ['\n'] e.2) := by
  induction bs generalizing taken with
  | nil => rfl
  | cons e bs ih => rw [mediaGroups, List.map_cons, ih, List.map_cons]

/-- What the group of a condition holds. -/
def groupCss (condition : Text) (ns : List Node) : Text := Text.join ['\n'] (bodiesUnder condition ns)

/-- The groups of a stylesheet, their keys aside: the base group, and one group for each condition. -/
theorem split_map {α : Type} (f : Option Text → Text → α) (css : Text) :
    (split css).map (fun g => f g.media g.css) =
      f none (Text.join ['\n'] (baseTexts (Outline.nodes css))) ::
        (conditions (Outline.nodes css)).map fun c => f (some c) (groupCss c (Outline.nodes css)) := by
  rw [split, List.map_cons, mediaGroups_map, mediaBodies_eq, List.map_map]
  rfl

/-- A group as a stylesheet that stands alone: its rules under its condition. -/
def wrap (media : Option Text) (css : Text) : Text := SplitGroup.wrapped ⟨[], media, css⟩

theorem split_wrapped (css : Text) :
    (split css).map SplitGroup.wrapped =
      Text.join ['\n'] (baseTexts (Outline.nodes css)) ::
        (conditions (Outline.nodes css)).map fun c => wrap (some c) (groupCss c (Outline.nodes css)) :=
  split_map wrap css

end StylePrune.Split
