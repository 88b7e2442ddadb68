import Mathlib.Data.List.DropRight
import StylePrune.Proofs.Text.Runs
import StylePrune.Usage.Tokens

/-!
Which names a page mentions.

A token is what is left of a maximal run of token characters when the colons at its end are removed.
`mem_tokenList` says it the other way round, from the name: a name is mentioned if it is not blank, does not
end in a colon, and makes a maximal run together with some number of colons.
-/
namespace StylePrune.Usage

theorem trimColons_append_replicate (x : Text) (n : Nat) :
    trimColons (x ++ List.replicate n ':') = trimColons x := by
  induction n with
  | zero => simp
  | succ n ih =>
    rw [List.replicate_succ', ← List.append_assoc]
    exact (List.rdropWhile_concat_pos _ _ _ rfl).trans ih

theorem exists_eq_trimColons_append (run : Text) : ∃ n, run = trimColons run ++ List.replicate n ':' := by
  have hcolons : ∀ c ∈ run.rtakeWhile (· == ':'), c = ':' := by
    intro c hc
    have := List.mem_rtakeWhile_imp hc
    exact eq_of_beq this
  refine ⟨(run.rtakeWhile (· == ':')).length, ?_⟩
  rw [← List.eq_replicate_iff.2 ⟨rfl, hcolons⟩]
  exact List.rdropWhile_append_rtakeWhile.symm

theorem trimColons_eq_self_iff {x : Text} : trimColons x = x ↔ x.getLast? ≠ some ':' := by
  rcases List.eq_nil_or_concat x with rfl | ⟨y, c, rfl⟩
  · exact iff_of_true rfl (by simp)
  · rw [List.concat_eq_append]
    refine (List.rdropWhile_eq_self_iff (p := (· == ':'))).trans ?_
    simp

/-- The colons at the end of a run are what it has more than its token. -/
theorem trimColons_eq_iff {run x : Text} :
    trimColons run = x ↔ x.getLast? ≠ some ':' ∧ ∃ n, run = x ++ List.replicate n ':' := by
  constructor
  · rintro rfl
    exact ⟨trimColons_eq_self_iff.1 (List.rdropWhile_idempotent _ _), exists_eq_trimColons_append run⟩
  · rintro ⟨hlast, n, rfl⟩
    rw [trimColons_append_replicate]
    exact trimColons_eq_self_iff.2 hlast

/-- **The names that a page mentions**: those that make a maximal run with colons after them. -/
theorem mem_tokenList {markup x : Text} :
    x ∈ tokenList markup ↔
      x ≠ [] ∧ x.getLast? ≠ some ':' ∧ ∃ n, Text.IsRun isTokenChar markup (x ++ List.replicate n ':') := by
  have hfilter : x ∈ tokenList markup ↔
      (∃ run, Text.IsRun isTokenChar markup run ∧ trimColons run = x) ∧ x ≠ [] := by
    simp [tokenList, Text.mem_wordsBy]
  rw [hfilter]
  constructor
  · rintro ⟨⟨run, hrun, hx⟩, hne⟩
    obtain ⟨hlast, n, rfl⟩ := trimColons_eq_iff.1 hx
    exact ⟨hne, hlast, n, hrun⟩
  · rintro ⟨hne, hlast, n, hrun⟩
    exact ⟨⟨_, hrun, trimColons_eq_iff.2 ⟨hlast, n, rfl⟩⟩, hne⟩

example : tokenList "hover: w-1/2".toList = ["hover".toList, "w-1/2".toList] := rfl

/-! ## Texts that are tokens as they stand -/

/-- A text that the page mentions wherever it stands by itself: not blank, made of token characters, and
without a colon at its end. -/
def isToken (x : Text) : Bool := !x.isEmpty && x.all isTokenChar && x.getLast? != some ':'

theorem mem_tokenList_of_delimited {markup x : Text} (hx : isToken x = true)
    (h : Text.Delimited isTokenChar markup x) : x ∈ tokenList markup := by
  simp only [isToken, Bool.and_eq_true, Bool.not_eq_true', List.isEmpty_eq_false_iff, List.all_eq_true,
    bne_iff_ne] at hx
  obtain ⟨⟨hne, hall⟩, hlast⟩ := hx
  refine mem_tokenList.2 ⟨hne, hlast, 0, ?_⟩
  rw [List.replicate_zero, List.append_nil]
  exact h.isRun hne hall

end StylePrune.Usage
