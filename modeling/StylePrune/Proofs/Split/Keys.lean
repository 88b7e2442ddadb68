import Mathlib.Data.List.Nodup
import Mathlib.Data.List.Perm.Subperm
import StylePrune.Proofs.Text.Basic
import StylePrune.Proofs.Text.LetterCase
import StylePrune.Split.Basic

/-!
The keys of the groups of a split stylesheet.

Among as many numbers as there are taken keys, and one more, a number is free: so a fresh key is new
(`freshKey_notMem`), and no two groups of a stylesheet have the same key (`nodup_keys`). A key has no
separator below the digits (`notMem_key`), whatever the condition that it is made from; above all it has no slash
(`slash_notMem_key`), so a file can be named by it.
-/
namespace StylePrune.Split

/-! ## Fresh keys -/

theorem numbered_inj {candidate : Text} {m n : Nat} : numbered candidate m = numbered candidate n ↔ m = n := by
  refine ⟨fun h => ?_, fun h => h ▸ rfl⟩
  have hdigits : Text.ofNat m = Text.ofNat n := List.cons_injective (List.append_cancel_left h)
  rw [Text.ofNat, Text.ofNat, Nat.toString_eq_repr, Nat.toString_eq_repr, Nat.toList_repr,
    Nat.toList_repr] at hdigits
  have hread := congrArg (Nat.ofDigitChars 10 · 0) hdigits
  simpa only [Nat.ofDigitChars_toDigits (by decide : 1 < 10) (by decide : 10 ≤ 10)] using hread

/-- A search that ends at a taken key has met taken keys only. -/
theorem numbered_mem_of_firstFree_mem {candidate : Text} {taken : List Text} {tries n : Nat}
    (h : firstFree candidate taken tries n ∈ taken) :
    ∀ i, i ≤ tries → numbered candidate (n + i) ∈ taken := by
  induction tries generalizing n with
  | zero =>
    intro i hi
    obtain rfl := Nat.le_zero.1 hi
    exact h
  | succ tries ih =>
    rw [firstFree] at h
    split at h
    · next hn =>
      intro i hi
      cases i with
      | zero => exact List.contains_iff_mem.1 hn
      | succ i =>
        have := ih h i (by omega)
        rwa [show n + (i + 1) = n + 1 + i by omega]
    · next hn => exact absurd (List.contains_iff_mem.2 h) hn

theorem freshKey_notMem (candidate : Text) (taken : List Text) : freshKey candidate taken ∉ taken := by
  rw [freshKey]
  split
  · intro h
    have hall := numbered_mem_of_firstFree_mem h
    -- one key more than there are taken ones would be taken
    have hnodup : ((List.range (taken.length + 1)).map fun i => numbered candidate (2 + i)).Nodup := by
      refine List.Nodup.map (fun i j hij => ?_) List.nodup_range
      have := numbered_inj.1 hij
      omega
    have hsubset : ((List.range (taken.length + 1)).map fun i => numbered candidate (2 + i)) ⊆ taken := by
      intro k hk
      obtain ⟨i, hi, rfl⟩ := List.mem_map.1 hk
      exact hall i (Nat.lt_succ_iff.1 (List.mem_range.1 hi))
    have hlength := hnodup.length_le_of_subset hsubset
    rw [List.length_map, List.length_range] at hlength
    omega
  · next h => exact fun hmem => h (List.contains_iff_mem.2 hmem)

theorem mediaGroups_keys (taken : List Text) (bs : Bodies) :
    ((mediaGroups taken bs).map SplitGroup.key).Nodup ∧
      ∀ k ∈ (mediaGroups taken bs).map SplitGroup.key, k ∉ taken := by
  induction bs generalizing taken with
  | nil => simp [mediaGroups]
  | cons e bs ih =>
    obtain ⟨hnodup, hnew⟩ := ih (taken ++ [freshKey (mediaKey e.1) taken])
    rw [mediaGroups, List.map_cons]
    refine ⟨List.nodup_cons.2 ⟨fun h => hnew _ h (by simp), hnodup⟩, fun k hk => ?_⟩
    rcases List.mem_cons.1 hk with rfl | hk
    · exact freshKey_notMem _ _
    · exact fun h => hnew k hk (by simp [h])

theorem nodup_keys (css : Text) : ((split css).map SplitGroup.key).Nodup := by
  obtain ⟨hnodup, hnew⟩ := mediaGroups_keys [baseKey] (mediaBodies (Outline.nodes css))
  rw [split, List.map_cons]
  exact List.nodup_cons.2 ⟨fun h => hnew _ h (by simp), hnodup⟩

/-! ## Characters of keys -/

theorem mem_hyphenate {s : Text} {c : Char} (h : c ∈ hyphenate s) : isSeparator c = false := by
  have hyphen : isSeparator '-' = false := by decide
  induction s with
  | nil => cases h
  | cons d s ih =>
    unfold hyphenate at h
    split at h
    · split at h
      · obtain rfl := List.mem_singleton.1 h
        exact hyphen
      · split at h
        · exact ih h
        · rcases List.mem_cons.1 h with rfl | h
          · exact hyphen
          · exact ih h
    · next hd =>
      rcases List.mem_cons.1 h with rfl | h
      · exact Bool.eq_false_iff.2 hd
      · exact ih h

theorem squeezeHyphens_sublist (s : Text) : (squeezeHyphens s).Sublist s := by
  induction s with
  | nil => exact List.Sublist.slnil
  | cons c s ih =>
    unfold squeezeHyphens
    split
    · exact List.Sublist.refl _
    · split
      · exact ih.cons c
      · exact ih.cons_cons c

theorem trimHyphens_sublist (s : Text) : (trimHyphens s).Sublist s := by
  rw [trimHyphens, Text.dropEndWhile]
  have hend := List.dropWhile_sublist (· == '-') (l := (s.dropWhile (· == '-')).reverse)
  exact (List.reverse_sublist.1 (by simpa using hend)).trans (List.dropWhile_sublist _)

variable {c : Char}

/-- A slug has word characters, hyphens and what lower-casing makes of them. -/
theorem notMem_slug (hsep : isSeparator c = true) (hlow : c.toNat < 0x30) (condition : Text) :
    c ∉ slug condition := by
  intro h
  rcases Text.mem_lower h with h | h
  · have hword := mem_hyphenate ((squeezeHyphens_sublist _).mem ((trimHyphens_sublist _).mem h))
    exact absurd (hsep.symm.trans hword) (by decide)
  · omega

theorem notMem_of_all {s : Text} (hsep : isSeparator c = true) (hs : s.all (fun d => !isSeparator d) = true) :
    c ∉ s := by
  intro h
  have := List.all_eq_true.1 hs c h
  rw [hsep] at this
  cases this

theorem notMem_mediaKey (hsep : isSeparator c = true) (hlow : c.toNat < 0x30) (condition : Text) :
    c ∉ mediaKey condition := by
  rw [mediaKey]
  split
  · exact notMem_of_all hsep (by decide)
  · rw [List.mem_append, not_or]
    exact ⟨notMem_of_all hsep (by decide), notMem_slug hsep hlow condition⟩

theorem notMem_numbered (hsep : isSeparator c = true) (hlow : c.toNat < 0x30) {candidate : Text}
    (h : c ∉ candidate) (n : Nat) : c ∉ numbered candidate n := by
  have hhyphen : c ≠ '-' := by
    rintro rfl
    exact absurd hsep (by decide)
  have hdigits : c ∉ Text.ofNat n := by
    intro hmem
    have hdigit := Text.isDigit_of_mem_ofNat hmem
    simp only [Char.isDigit, Bool.and_eq_true, decide_eq_true_eq] at hdigit
    exact absurd (UInt32.le_iff_toNat_le.1 hdigit.1) (Nat.not_le.2 hlow)
  rw [numbered, List.mem_append, List.mem_cons]
  rintro (hc | hc | hc)
  · exact h hc
  · exact hhyphen hc
  · exact hdigits hc

theorem notMem_freshKey (hsep : isSeparator c = true) (hlow : c.toNat < 0x30) {candidate : Text}
    (h : c ∉ candidate) (taken : List Text) : c ∉ freshKey candidate taken := by
  have search (tries n : Nat) : c ∉ firstFree candidate taken tries n := by
    induction tries generalizing n with
    | zero => exact notMem_numbered hsep hlow h n
    | succ tries ih =>
      rw [firstFree]
      split
      · exact ih _
      · exact notMem_numbered hsep hlow h n
  rw [freshKey]
  split
  · exact search _ _
  · exact h

/-- A key has no separator below the digits, as white space, control characters and most punctuation are. -/
theorem notMem_key (hsep : isSeparator c = true) (hlow : c.toNat < 0x30) {css : Text} {g : SplitGroup}
    (h : g ∈ split css) : c ∉ g.key := by
  have media (taken : List Text) (bs : Bodies) : ∀ g ∈ mediaGroups taken bs, c ∉ g.key := by
    induction bs generalizing taken with
    | nil => simp [mediaGroups]
    | cons e bs ih =>
      intro g hg
      rw [mediaGroups] at hg
      rcases List.mem_cons.1 hg with rfl | hg
      · exact notMem_freshKey hsep hlow (notMem_mediaKey hsep hlow e.1) taken
      · exact ih _ g hg
  rw [split] at h
  rcases List.mem_cons.1 h with rfl | h
  · show c ∉ baseKey
    exact notMem_of_all hsep (by decide)
  · exact media _ _ g h

theorem slash_notMem_key {css : Text} {g : SplitGroup} (h : g ∈ split css) : '/' ∉ g.key :=
  notMem_key (by decide) (by decide) h

end StylePrune.Split
