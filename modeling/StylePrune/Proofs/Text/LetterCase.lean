import StylePrune.Text.LetterCase

/-!
Which characters lower-casing brings in.

A character of a lower-cased text stood in the text already, or it is at or above the letter `a`
(`mem_lower`): lower-casing makes no space, no punctuation mark and no digit of ASCII.
-/
namespace StylePrune.Text

/-- Every run of letters moves to code points from the letter `a` on, none of them a surrogate. -/
theorem lowerRuns_target : ∀ r ∈ lowerRuns,
    0x61 ≤ Int.ofNat r.lo + r.delta ∧ (Int.ofNat r.hi + r.delta < 0xd800 ∨
      0xdfff < Int.ofNat r.lo + r.delta ∧ Int.ofNat r.hi + r.delta < 0x110000) := by
  decide +kernel

theorem toNat_ofNat_of_valid {n : Nat} (h : n < 0xd800 ∨ 0xdfff < n ∧ n < 0x110000) :
    (Char.ofNat n).toNat = n := by
  have hvalid : n.isValidChar := h
  rw [Char.ofNat, dif_pos hvalid]
  rfl

theorem lowerAsciiChar_eq_or (c : Char) : lowerAsciiChar c = c ∨ 0x61 ≤ (lowerAsciiChar c).toNat := by
  rw [lowerAsciiChar]
  split
  · next h =>
    have hrange : 0x41 ≤ c.toNat ∧ c.toNat ≤ 0x5a := of_decide_eq_true h
    rw [toNat_ofNat_of_valid (.inl (by omega))]
    exact .inr (by omega)
  · exact .inl rfl

theorem lowerChar_eq_or (c : Char) : lowerChar c = c ∨ 0x61 ≤ (lowerChar c).toNat := by
  rw [lowerChar]
  split
  · exact lowerAsciiChar_eq_or c
  rw [moveBy]
  cases h : lowerRuns.find? (·.covers c.toNat) with
  | none => exact .inl (Char.ofNat_toNat c)
  | some r =>
    have hcovers := List.find?_some h
    have htarget := lowerRuns_target r (List.mem_of_find?_eq_some h)
    simp only [CaseRun.covers, Bool.and_eq_true, decide_eq_true_eq] at hcovers
    simp only [Int.ofNat_eq_natCast] at htarget ⊢
    rw [toNat_ofNat_of_valid (by omega)]
    exact .inr (by omega)

theorem mem_lowerFrom {c : Char} : ∀ {before s : Text}, c ∈ lowerFrom before s → c ∈ s ∨ 0x61 ≤ c.toNat
  | _, [], h => by cases h
  | before, d :: s, h => by
    rw [lowerFrom, List.mem_append] at h
    rcases h with h | h
    · split at h
      · -- the capital I with a dot becomes two characters
        rcases List.mem_cons.1 h with rfl | h
        · exact .inr (by decide)
        · obtain rfl := List.mem_singleton.1 h
          exact .inr (by decide)
      · split at h
        · obtain rfl := List.mem_singleton.1 h
          split <;> exact .inr (by decide)
        · obtain rfl := List.mem_singleton.1 h
          rcases lowerChar_eq_or d with hd | hd
          · rw [hd]
            exact .inl List.mem_cons_self
          · exact .inr hd
    · exact (mem_lowerFrom h).imp_left (List.mem_cons_of_mem d)

theorem mem_lower {s : Text} {c : Char} (h : c ∈ lower s) : c ∈ s ∨ 0x61 ≤ c.toNat := mem_lowerFrom h

end StylePrune.Text
