import StylePrune.Proofs.Text.Basic
import StylePrune.Proofs.Text.LetterCase
import StylePrune.Text.Word

/-!
Lower-casing and word characters.

Every run of letters moves into a range of word characters (`lowerRuns_word`), so the lower-case partner of a word
character is one too (`isWord_lowerChar`), and lower-casing a word character in a text puts one or two of them in its
place, whatever stands around it (`lowerFrom_word`). A hyphen stays (`lowerFrom_hyphen`).
-/
namespace StylePrune.Text

def CaseRun.first (r : CaseRun) : Nat := (Int.ofNat r.lo + r.delta).toNat

def CaseRun.last (r : CaseRun) : Nat := (Int.ofNat r.hi + r.delta).toNat

/-- The targets of a run lie in one range of word characters. -/
theorem lowerRuns_word :
    (lowerRuns.all fun r => wordRanges.any fun w => Nat.ble w.1 r.first && Nat.ble r.last w.2) = true := by
  decide +kernel

theorem lowerRuns_ascii :
    (lowerRuns.all fun r => Nat.ble 128 r.first || Nat.ble 0x61 r.first && Nat.ble r.last 0x7a) = true := by
  decide +kernel

theorem isWord_small : ∀ n < 0x7b, 0x61 ≤ n → isWord (Char.ofNat n) = true := by decide +kernel

theorem isWord_of_isDigit {c : Char} (h : c.isDigit = true) : isWord c = true := by
  have hrange : 0x30 ≤ c.toNat ∧ c.toNat ≤ 0x39 := by
    simpa [Char.isDigit, UInt32.le_iff_toNat_le] using h
  rw [isWord_ascii (by omega), isAsciiWord, Char.isAlphanum, h, Bool.or_true, Bool.true_or]

theorem isWord_lowerAsciiChar {c : Char} (h : isWord c = true) : isWord (lowerAsciiChar c) = true := by
  rw [lowerAsciiChar]
  split
  · next hc =>
    have hrange : 0x41 ≤ c.toNat ∧ c.toNat ≤ 0x5a := of_decide_eq_true hc
    exact isWord_small _ (by omega) (by omega)
  · exact h

theorem isWord_lowerChar {c : Char} (h : isWord c = true) : isWord (lowerChar c) = true := by
  rw [lowerChar]
  split
  · exact isWord_lowerAsciiChar h
  rw [moveBy]
  cases hfind : lowerRuns.find? (·.covers c.toNat) with
  | none =>
    show isWord (Char.ofNat c.toNat) = true
    rwa [Char.ofNat_toNat]
  | some r =>
    have hmem := List.mem_of_find?_eq_some hfind
    have hcovers := List.find?_some hfind
    have htarget := lowerRuns_target r hmem
    have hword := List.all_eq_true.1 lowerRuns_word r hmem
    have hascii := List.all_eq_true.1 lowerRuns_ascii r hmem
    obtain ⟨w, hw, hin⟩ := List.any_eq_true.1 hword
    simp only [CaseRun.first, CaseRun.last, Bool.and_eq_true, Bool.or_eq_true, Nat.ble_eq] at hin hascii
    simp only [CaseRun.covers, Bool.and_eq_true, decide_eq_true_eq] at hcovers
    simp only [Int.ofNat_eq_natCast] at htarget hin hascii ⊢
    rcases hascii with hhigh | hsmall
    · -- above ASCII the table decides
      rw [isWord, toNat_ofNat_of_valid (by omega), if_neg (by omega), inRanges, List.any_eq_true]
      refine ⟨w, hw, ?_⟩
      simp only [Bool.and_eq_true, decide_eq_true_eq]
      omega
    · exact isWord_small _ (by omega) (by omega)

theorem lowerFrom_word {c : Char} (h : isWord c = true) (before s : Text) :
    ∃ w : Text, w ≠ [] ∧ (∀ d ∈ w, isWord d = true) ∧ lowerFrom before (c :: s) = w ++ lowerFrom (c :: before) s := by
  rw [lowerFrom]
  refine ⟨_, ?_, ?_, rfl⟩
  · split
    · exact List.cons_ne_nil _ _
    · split <;> exact List.cons_ne_nil _ _
  · split
    · exact forall_mem_of_all (by decide +kernel)
    · split
      · split <;> exact forall_mem_of_all (by decide +kernel)
      · exact List.forall_mem_singleton.2 (isWord_lowerChar h)

theorem lowerFrom_hyphen (before s : Text) : lowerFrom before ('-' :: s) = '-' :: lowerFrom ('-' :: before) s := rfl

end StylePrune.Text
