import StylePrune.Sheet.UrlTokens

/-!
Texts without relative paths.

`Sheet.urlTokens` lists the `url()` tokens that rewriting comes to. Where none of their paths starts with a step
that is relative to the stylesheet, rewriting leaves the text as it is (`Sheet.absolutize_eq_self`).
-/
namespace StylePrune.Sheet

/-- The `url()` tokens of a text, each looked for behind the one before. -/
def urlTokens : Text → List UrlToken
  | [] => []
  | c :: r =>
    match _h : urlToken? (c :: r) with
    | some u => u :: urlTokens u.rest
    | none => urlTokens r
termination_by s => s.length
decreasing_by
  · exact urlToken?_rest_length _h
  · simp

theorem urlTokens_cons (c : Char) (r : Text) :
    urlTokens (c :: r) = match urlToken? (c :: r) with
      | some u => u :: urlTokens u.rest
      | none => urlTokens r := by
  rw [urlTokens]
  split <;> simp_all

/-- Rewriting leaves a text as it is if there is nothing to put in place of any path. -/
theorem mapUrls_eq_self {f : Text → Option Text} {s : Text} (h : ∀ u ∈ urlTokens s, f u.path = none) :
    mapUrls f s = s := by
  fun_induction mapUrls f s with
  | case1 => rfl
  | case2 c r u hu ih =>
    rw [urlTokens_cons, hu] at h
    rw [h u List.mem_cons_self, ih fun v hv => h v (List.mem_cons_of_mem u hv)]
    exact urlToken?_append hu
  | case3 c r hu ih =>
    rw [urlTokens_cons, hu] at h
    rw [ih h]

theorem absolutize_eq_self {joinBase : Text → Option Text} {css : Text}
    (h : ∀ u ∈ urlTokens css, isDotRelative u.path = false) : absolutize joinBase css = css :=
  mapUrls_eq_self fun u hu => by rw [h u hu, if_neg Bool.false_ne_true]

theorem urlTokens_cons_of_ne {c : Char} (r : Text) (hc : Text.fold c ≠ 'u') :
    urlTokens (c :: r) = urlTokens r := by
  have hnone : urlToken? (c :: r) = none := by
    have hword : Text.dropFolded? "url(".toList (c :: r) = none := if_neg (Ne.symm hc)
    rw [urlToken?, hword]
  rw [urlTokens_cons, hnone]

theorem urlTokens_eq_nil {s : Text} (h : s.all (fun c => Text.fold c != 'u') = true) : urlTokens s = [] := by
  induction s with
  | nil => rw [urlTokens]
  | cons c r ih =>
    rw [List.all_cons, Bool.and_eq_true, bne_iff_ne] at h
    rw [urlTokens_cons_of_ne r h.1, ih h.2]

end StylePrune.Sheet
