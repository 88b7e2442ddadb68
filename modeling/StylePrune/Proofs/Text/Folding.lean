import StylePrune.Proofs.Text.LetterCase
import StylePrune.Text.Word

/-!
Starts of texts under case folding, and white space.

A text starts with a folded word if its first characters fold to the word (`dropFolded?_eq_some_iff`). A letter of
ASCII other than s and k is folded to from its two cases only (`fold_eq_iff`). White space is a list of code points
(`mem_blankCodes`); none of them is folded, and none is a decimal digit.
-/
namespace StylePrune.Text

theorem dropFolded?_eq_some_iff {p s w r : Text} : dropFolded? p s = some (w, r) ↔ w.map fold = p ∧ w ++ r = s := by
  induction p generalizing s w r with
  | nil =>
    rw [dropFolded?, Option.some_inj, Prod.mk.injEq, List.map_eq_nil_iff]
    constructor <;> rintro ⟨rfl, rfl⟩ <;> exact ⟨rfl, rfl⟩
  | cons a p ih =>
    cases s with
    | nil => cases w <;> simp [dropFolded?]
    | cons c s =>
      rw [dropFolded?]
      constructor
      · intro h
        split at h
        · next hc =>
          obtain ⟨⟨v, t⟩, hv, heq⟩ := Option.map_eq_some_iff.1 h
          obtain ⟨rfl, rfl⟩ := Prod.mk.inj heq
          obtain ⟨hfold, rfl⟩ := ih.1 hv
          exact ⟨by rw [List.map_cons, hfold, hc], rfl⟩
        · cases h
      · rintro ⟨hfold, heq⟩
        obtain ⟨d, v, rfl, hd, hv⟩ := List.map_eq_cons_iff.1 hfold
        obtain ⟨rfl, hs⟩ := List.cons.inj heq
        rw [if_pos hd.symm, ih.2 ⟨hv, hs⟩]
        rfl

/-! ## Letters of ASCII -/

/-- Beyond ASCII only the long s and the sign for kelvin are folded to a letter of ASCII. -/
theorem foldRuns_target : ∀ r ∈ foldRuns, r.hi < 128 ∨
    r.lo = r.hi ∧ (Int.ofNat r.lo + r.delta = 's'.toNat ∨ Int.ofNat r.lo + r.delta = 'k'.toNat) ∨
    128 ≤ Int.ofNat r.lo + r.delta ∧ (Int.ofNat r.hi + r.delta < 0xd800 ∨
      0xdfff < Int.ofNat r.lo + r.delta ∧ Int.ofNat r.hi + r.delta < 0x110000) := by
  decide +kernel

theorem fold_eq_iff {c k : Char} (hk : k.toNat < 128) (hs : k ≠ 's') (hkelvin : k ≠ 'k') :
    fold c = k ↔ lowerAsciiChar c = k := by
  rw [fold]
  split
  · rfl
  next hwide =>
  have hlower : lowerAsciiChar c = c := by
    rw [lowerAsciiChar, if_neg]
    intro hupper
    have hrange : 0x41 ≤ c.toNat ∧ c.toNat ≤ 0x5a := of_decide_eq_true hupper
    omega
  rw [hlower]
  refine iff_of_false ?_ (fun h => hwide (h ▸ hk))
  rw [moveBy]
  cases hfind : foldRuns.find? (·.covers c.toNat) with
  | none =>
    show Char.ofNat c.toNat ≠ k
    rw [Char.ofNat_toNat]
    exact fun h => hwide (h ▸ hk)
  | some r =>
    have hcovers := List.find?_some hfind
    simp only [CaseRun.covers, Bool.and_eq_true, decide_eq_true_eq] at hcovers
    show Char.ofNat (Int.ofNat c.toNat + r.delta).toNat ≠ k
    rcases foldRuns_target r (List.mem_of_find?_eq_some hfind) with h | ⟨heq, h | h⟩ | ⟨hlow, hhigh⟩
    · omega
    · have htarget : (Int.ofNat c.toNat + r.delta).toNat = 's'.toNat := by
        simp only [Int.ofNat_eq_natCast] at h ⊢
        omega
      rw [htarget, Char.ofNat_toNat]
      exact hs.symm
    · have htarget : (Int.ofNat c.toNat + r.delta).toNat = 'k'.toNat := by
        simp only [Int.ofNat_eq_natCast] at h ⊢
        omega
      rw [htarget, Char.ofNat_toNat]
      exact hkelvin.symm
    · intro h
      simp only [Int.ofNat_eq_natCast] at hlow hhigh h
      have hcode := congrArg Char.toNat h
      rw [toNat_ofNat_of_valid (by omega)] at hcode
      omega

theorem map_fold_eq_iff {p s : Text} (hp : ∀ k ∈ p, k.toNat < 128 ∧ k ≠ 's' ∧ k ≠ 'k') :
    s.map fold = p ↔ lowerAscii s = p := by
  induction p generalizing s with
  | nil => rw [lowerAscii, List.map_eq_nil_iff, List.map_eq_nil_iff]
  | cons k p ih =>
    obtain ⟨hk, hs, hkelvin⟩ := hp k List.mem_cons_self
    rw [lowerAscii]
    have hrest (r : Text) := ih (s := r) fun j hj => hp j (List.mem_cons_of_mem k hj)
    simp only [List.map_eq_cons_iff, fold_eq_iff hk hs hkelvin, hrest, lowerAscii]

/-! ## White space -/

def blankCodes : List Nat :=
  List.range' 0x9 5 ++ 0x20 :: blankRanges.flatMap fun r => List.range' r.1 (r.2 + 1 - r.1)

theorem mem_blankCodes {c : Char} (h : isBlank c = true) : c.toNat ∈ blankCodes := by
  rw [isBlank, Bool.or_eq_true, Bool.or_eq_true, Bool.and_eq_true, decide_eq_true_eq, decide_eq_true_eq,
    beq_iff_eq] at h
  rw [blankCodes, List.mem_append, List.mem_cons, List.mem_flatMap]
  rcases h with (⟨hlo, hhi⟩ | rfl) | h
  · exact .inl (List.mem_range'_1.2 ⟨hlo, by omega⟩)
  · exact .inr (.inl rfl)
  · obtain ⟨r, hr, hin⟩ := List.any_eq_true.1 h
    rw [Bool.and_eq_true, decide_eq_true_eq, decide_eq_true_eq] at hin
    exact .inr (.inr ⟨r, hr, List.mem_range'_1.2 ⟨hin.1, by omega⟩⟩)

theorem blankCodes_plain :
    ∀ n ∈ blankCodes, fold (Char.ofNat n) = Char.ofNat n ∧ isDecimal (Char.ofNat n) = false := by
  decide +kernel

theorem fold_of_isBlank {c : Char} (h : isBlank c = true) : fold c = c := by
  have := (blankCodes_plain _ (mem_blankCodes h)).1
  rwa [Char.ofNat_toNat] at this

theorem isBlank_of_isDecimal {c : Char} (h : isDecimal c = true) : isBlank c = false := by
  cases hc : isBlank c with
  | false => rfl
  | true =>
    have := (blankCodes_plain _ (mem_blankCodes hc)).2
    rw [Char.ofNat_toNat, h] at this
    cases this

end StylePrune.Text
