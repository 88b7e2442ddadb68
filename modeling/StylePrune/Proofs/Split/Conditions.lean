import StylePrune.Proofs.Split.Groups
import StylePrune.Proofs.Text.Basic

/-!
The conditions of groups are trimmed.

Every node that a scan completes was made from a prelude (`Outline.isMade_of_mem_scan`), and the parameters of a node
are trimmed where it is made. So the condition of a group has no white space at its ends (`Split.trim_media`),
whatever the stylesheet is.
-/
namespace StylePrune

namespace Outline

/-- Every node is made from a prelude, a block and a text. -/
def IsMade (n : Node) : Prop := ∃ prelude body text, makeNode prelude body text = some n

theorem isMade_of_unfinished {place : Place} {n : Node} (h : n ∈ unfinished place) : IsMade n := by
  cases place with
  | between => cases h
  | inPrelude p => exact ⟨_, _, _, h⟩
  | inBlock p b d => exact ⟨_, _, _, h⟩

theorem isMade_of_stepPrelude {p : List Lexeme} {l : Lexeme} {n : Node} (h : n ∈ (stepPrelude p l).2) :
    IsMade n := by
  unfold stepPrelude at h
  split at h
  · exact ⟨_, _, _, h⟩
  · cases h
  · cases h

theorem isMade_of_step {place : Place} {l : Lexeme} {n : Node} (h : n ∈ (step place l).2) : IsMade n := by
  cases place with
  | between =>
    rw [step] at h
    split at h
    · cases h
    · exact isMade_of_stepPrelude h
  | inPrelude p => exact isMade_of_stepPrelude h
  | inBlock p b d =>
    rw [step] at h
    unfold stepBlock at h
    split at h
    · cases h
    · exact ⟨_, _, _, h⟩
    · cases h
    · cases h

theorem isMade_of_mem_scan {place : Place} {ls : List Lexeme} {n : Node} (h : n ∈ scan place ls) : IsMade n := by
  induction ls generalizing place with
  | nil => exact isMade_of_unfinished (Option.mem_toList.1 h)
  | cons l ls ih =>
    rw [scan, List.mem_append] at h
    exact h.elim (fun h => isMade_of_step (Option.mem_toList.1 h)) ih

theorem IsMade.trim_mediaCondition {n : Node} (h : IsMade n) {c : Text} (hc : n.mediaCondition = some c) :
    Text.trim c = c := by
  obtain ⟨prelude, body, text, h⟩ := h
  unfold makeNode at h
  dsimp only at h
  split at h
  · cases h
  · split at h
    · cases h
      rw [Node.mediaCondition] at hc
      split at hc
      · cases hc
        exact Text.trim_trim _
      · cases hc
    · cases h
      cases hc

end Outline

namespace Split

theorem mem_conditions_of_media {css : Text} {g : SplitGroup} (hg : g ∈ split css) {c : Text}
    (hc : g.media = some c) : c ∈ conditions (Outline.nodes css) := by
  have hmedia : some c ∈ (split css).map fun g => g.media := List.mem_map.2 ⟨g, hg, hc⟩
  rw [split_map (fun media _ => media) css] at hmedia
  simpa using hmedia

theorem trim_media {css : Text} {g : SplitGroup} (hg : g ∈ split css) {c : Text} (hc : g.media = some c) :
    Text.trim c = c := by
  obtain ⟨n, hn, hnc⟩ := mem_conditions.1 (mem_conditions_of_media hg hc)
  exact (Outline.isMade_of_mem_scan hn).trim_mediaCondition hnc

end Split
end StylePrune
