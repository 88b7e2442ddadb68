import StylePrune.Proofs.FlexBasis.Declaration
import StylePrune.Proofs.Text.Runs

/-!
Flex values and their bases.

A value lacks its basis if it is one number, two numbers, or two numbers and a zero without a unit, whatever its
priority (`LacksBasis`). A declaration gains a basis if its value lacks one and no block follows it (`Decl.Gains`); any
other stays as it was written (`Decl.rewritten_of_not_gains`). What a declaration becomes is a declaration of the same
name that gains nothing more (`Decl.IsWritten.exists_settled`).
-/
namespace StylePrune.FlexBasis

open Text (isBlank isDecimal)

variable {d : Decl} {c : Char} {t u v w pr gap : Text}

/-! ## Numbers -/

theorem mem_number (h : isNumber t = true) (hc : c ∈ t) : c = '.' ∨ isDecimal c = true := by
  rw [← List.takeWhile_append_dropWhile (p := isDecimal) (l := t), List.mem_append] at hc
  rcases hc with hc | hc
  · exact .inr (List.mem_takeWhile_imp hc)
  · rw [isNumber] at h
    split at h
    · next hdrop =>
      rw [hdrop] at hc
      cases hc
    · next r hdrop =>
      rw [hdrop] at hc
      rcases List.mem_cons.1 hc with rfl | hc
      · exact .inl rfl
      · exact .inr (List.all_eq_true.1 (Bool.and_eq_true_iff.1 h).2 c hc)
    · cases h

theorem number_ne_nil (h : isNumber t = true) : t ≠ [] := by
  rintro rfl
  cases h

theorem isBlank_of_mem_number (h : isNumber t = true) (hc : c ∈ t) : isBlank c = false := by
  rcases mem_number h hc with rfl | hdigit
  · decide
  · exact Text.isBlank_of_isDecimal hdigit

theorem words_number (h : isNumber t = true) : Text.words t = [t] := by
  have hword : Text.wordsBy isBlank (t ++ []) = t :: Text.wordsBy isBlank [] :=
    Text.wordsBy_run_append (number_ne_nil h) (fun c hc => isBlank_of_mem_number h hc) fun c hc => nomatch hc
  rwa [List.append_nil] at hword

/-! ## Priorities -/

/-- A priority in any letter case, or none. -/
def IsPriority (pr : Text) : Prop := pr = [] ∨ Text.lowerAscii pr = "!important".toList

theorem mem_priority (h : Text.lowerAscii pr = "!important".toList) (hc : c ∈ pr) :
    Text.lowerAsciiChar c ∈ "!important".toList := by
  rw [← h]
  exact List.mem_map_of_mem hc

theorem IsPriority.mem (h : IsPriority pr) (hc : c ∈ pr) : Text.lowerAsciiChar c ∈ "!important".toList := by
  rcases h with rfl | h
  · cases hc
  · exact mem_priority h hc

theorem blankCodes_noPriority :
    ∀ n ∈ Text.blankCodes, Text.lowerAsciiChar (Char.ofNat n) ∉ "!important".toList := by
  decide +kernel

theorem isBlank_of_mem_priority (h : Text.lowerAscii pr = "!important".toList) (hc : c ∈ pr) : isBlank c = false := by
  rw [Bool.eq_false_iff]
  intro hblank
  have := blankCodes_noPriority _ (Text.mem_blankCodes hblank)
  rw [Char.ofNat_toNat] at this
  exact this (mem_priority h hc)

theorem length_priority (h : Text.lowerAscii pr = "!important".toList) : pr.length = "!important".toList.length := by
  simpa [Text.lowerAscii] using congrArg List.length h

theorem exists_concat_of_priority (h : Text.lowerAscii pr = "!important".toList) :
    ∃ p e, pr = p ++ [e] ∧ Text.lowerAsciiChar e = 't' := by
  rcases List.eq_nil_or_concat pr with rfl | ⟨p, e, rfl⟩
  · cases h
  · have hlast := congrArg List.getLast? h
    rw [List.concat_eq_append, Text.lowerAscii, List.map_append, List.map_singleton, List.getLast?_concat] at hlast
    exact ⟨p, e, List.concat_eq_append, Option.some.inj hlast⟩

/-- A text that ends with a priority is parted in front of it, but for white space at its end. -/
theorem partPriority_of_priority (htrim : Text.trimEnd v = u ++ pr) (hpr : Text.lowerAscii pr = "!important".toList) :
    partPriority v = (Text.trimEnd u, pr) := by
  have hlen := length_priority hpr
  have hat : (u ++ pr).length - "!important".toList.length = u.length := by
    rw [List.length_append, hlen, Nat.add_sub_cancel]
  unfold partPriority
  simp only [htrim, hat, List.drop_left, List.take_left]
  rw [if_pos ⟨by rw [List.length_append, hlen]; exact Nat.le_add_left _ _, hpr⟩]

theorem partPriority_of_noPriority (h : ∀ u pr, Text.trimEnd v = u ++ pr → Text.lowerAscii pr ≠ "!important".toList) :
    partPriority v = (Text.trimEnd v, []) := by
  unfold partPriority
  simp only
  rw [if_neg]
  exact fun hend => h _ _ (List.take_append_drop _ _).symm hend.2

/-- How a value is parted: in front of the priority that ends it, or not at all. -/
theorem partPriority_cases (v : Text) :
    (∃ u pr, Text.trimEnd v = u ++ pr ∧ Text.lowerAscii pr = "!important".toList ∧
        partPriority v = (Text.trimEnd u, pr)) ∨ partPriority v = (Text.trimEnd v, []) := by
  by_cases h : ∃ u pr, Text.trimEnd v = u ++ pr ∧ Text.lowerAscii pr = "!important".toList
  · obtain ⟨u, pr, htrim, hpr⟩ := h
    exact .inl ⟨u, pr, htrim, hpr, partPriority_of_priority htrim hpr⟩
  · exact .inr (partPriority_of_noPriority fun u pr htrim hpr => h ⟨u, pr, htrim, hpr⟩)

theorem isPriority_partPriority (v : Text) : IsPriority (partPriority v).2 := by
  rcases partPriority_cases v with ⟨u, pr, -, hpr, heq⟩ | heq <;> rw [heq]
  · exact .inr hpr
  · exact .inl rfl

theorem mem_partPriority (hc : c ∈ v) : isBlank c = true ∨ c ∈ (partPriority v).1 ∨ c ∈ (partPriority v).2 := by
  have htrim {s : Text} (h : c ∈ s) : isBlank c = true ∨ c ∈ Text.trimEnd s := by
    obtain ⟨w, hw, hs⟩ := Text.exists_trimEnd_append s
    rw [hs, List.mem_append] at h
    exact h.elim .inr fun h => .inl (hw c h)
  rcases partPriority_cases v with ⟨u, pr, hwhole, -, heq⟩ | heq <;> rw [heq]
  · rcases htrim hc with hblank | hc
    · exact .inl hblank
    · rw [hwhole, List.mem_append] at hc
      rcases hc with hc | hc
      · exact (htrim hc).imp_right .inl
      · exact .inr (.inr hc)
  · exact (htrim hc).imp_right .inl

/-- A value that ends with a percent sign is parted in front of the priority that is written behind it. -/
theorem partPriority_percent (hgap : ∀ c ∈ gap, isBlank c = true) (hpr : IsPriority pr) :
    partPriority (u ++ ['%'] ++ (gap ++ pr)) = (u ++ ['%'], pr) := by
  have htrim : Text.trimEnd (u ++ ['%'] ++ gap) = u ++ ['%'] := by
    rw [List.append_assoc, List.singleton_append, Text.trimEnd_append_cons u gap (by decide),
      Text.trimEnd_eq_nil_iff.2 hgap]
  rcases hpr with rfl | hpr
  · rw [List.append_nil, partPriority_of_noPriority, htrim]
    intro q pr hend hpr
    obtain ⟨p, e, rfl, he⟩ := exists_concat_of_priority hpr
    rw [htrim, ← List.append_assoc] at hend
    have hsign : '%' = e := List.singleton_inj.1 (List.append_inj' hend rfl).2
    rw [← hsign] at he
    exact absurd he (by decide)
  · obtain ⟨p, e, rfl, -⟩ := exists_concat_of_priority hpr
    have hwhole : Text.trimEnd (u ++ ['%'] ++ (gap ++ (p ++ [e]))) = u ++ ['%'] ++ gap ++ (p ++ [e]) := by
      rw [← List.append_assoc, ← List.append_assoc, Text.trimEnd_concat _ (isBlank_of_mem_priority hpr (by simp))]
    rw [partPriority_of_priority hwhole hpr, htrim]

/-! ## Values -/

/-- The words of a value that lacks its basis. -/
inductive Lacks : List Text → Prop where
  | grow {g : Text} : isNumber g = true → Lacks [g]
  | shrink {g s : Text} : isNumber g = true → isNumber s = true → Lacks [g, s]
  /-- The basis is a zero without a unit. -/
  | zero {g s : Text} : isNumber g = true → isNumber s = true → Lacks [g, s, ['0']]

def LacksBasis (v : Text) : Prop := Lacks (Text.words (partPriority v).1)

theorem LacksBasis.mem (h : LacksBasis v) (hc : c ∈ v) :
    isBlank c = true ∨ c = '.' ∨ isDecimal c = true ∨ Text.lowerAsciiChar c ∈ "!important".toList := by
  have hnumber {t : Text} (ht : isNumber t = true) (hc : c ∈ t) : isBlank c = true ∨ c = '.' ∨ isDecimal c = true ∨
      Text.lowerAsciiChar c ∈ "!important".toList := (mem_number ht hc).elim (.inr ∘ .inl) (.inr ∘ .inr ∘ .inl)
  rcases mem_partPriority hc with hblank | hmem | hmem
  · exact .inl hblank
  · rcases Bool.eq_false_or_eq_true (isBlank c) with hblank | hblank
    · exact .inl hblank
    · obtain ⟨w, hw, hcw⟩ := Text.exists_mem_wordsBy hmem hblank
      rw [LacksBasis, Text.words] at h
      generalize Text.wordsBy isBlank (partPriority v).1 = ws at h hw
      refine hnumber ?_ hcw
      cases h with
      | grow hg => rwa [List.mem_singleton.1 hw]
      | shrink hg hs => rcases List.mem_pair.1 hw with rfl | rfl <;> assumption
      | zero hg hs =>
        rcases List.mem_cons.1 hw with rfl | hw
        · exact hg
        · rcases List.mem_pair.1 hw with rfl | rfl
          · exact hs
          · decide
  · exact .inr (.inr (.inr ((isPriority_partPriority v).mem hmem)))

theorem LacksBasis.notMem (h : LacksBasis v) (hblank : isBlank c = false) (hplain : c ≠ '.' ∧ isDecimal c = false)
    (hpr : Text.lowerAsciiChar c ∉ "!important".toList) : c ∉ v := by
  intro hc
  rcases h.mem hc with hmem | hmem | hmem | hmem
  · rw [hblank] at hmem
    cases hmem
  · exact hplain.1 hmem
  · rw [hplain.2] at hmem
    cases hmem
  · exact hpr hmem

/-- A value is given a basis if it lacks one, behind its two numbers. -/
theorem explicit?_cases (v : Text) :
    (Lacks (Text.words v) ∧ ∃ g s, isNumber g = true ∧ isNumber s = true ∧
      explicit? v = some (g ++ ' ' :: (s ++ " 0%".toList))) ∨ ¬ Lacks (Text.words v) ∧ explicit? v = none := by
  rw [explicit?]
  generalize Text.words v = ws
  split
  · next g =>
    cases hg : isNumber g with
    | true => exact .inl ⟨.grow hg, g, ['1'], hg, by decide, rfl⟩
    | false =>
      refine .inr ⟨fun h => ?_, rfl⟩
      cases h with
      | grow h => cases hg.symm.trans h
  · next g s =>
    cases hgs : isNumber g && isNumber s with
    | true =>
      obtain ⟨hg, hs⟩ := Bool.and_eq_true_iff.1 hgs
      exact .inl ⟨.shrink hg hs, g, s, hg, hs, by simp⟩
    | false =>
      refine .inr ⟨fun h => ?_, rfl⟩
      cases h with
      | shrink hg hs => simp [hg, hs] at hgs
  · next g s =>
    cases hgs : isNumber g && isNumber s with
    | true =>
      obtain ⟨hg, hs⟩ := Bool.and_eq_true_iff.1 hgs
      exact .inl ⟨.zero hg hs, g, s, hg, hs, by simp⟩
    | false =>
      refine .inr ⟨fun h => ?_, rfl⟩
      cases h with
      | zero hg hs => simp [hg, hs] at hgs
  · next h1 h2 h3 =>
    refine .inr ⟨fun h => ?_, rfl⟩
    cases h with
    | grow => exact h1 _ rfl
    | shrink => exact h2 _ _ rfl
    | zero => exact h3 _ _ rfl

/-- A value with a basis as it is written for one that lacks it. -/
inductive IsExplicit : Text → Prop where
  | mk {g s gap pr : Text} : isNumber g = true → isNumber s = true → (∀ c ∈ gap, c = ' ') → IsPriority pr →
    IsExplicit (g ++ ' ' :: (s ++ (" 0%".toList ++ (gap ++ pr))))

theorem partPriority_explicit {g s : Text} (hgap : ∀ c ∈ gap, c = ' ') (hpr : IsPriority pr) :
    partPriority (g ++ ' ' :: (s ++ (" 0%".toList ++ (gap ++ pr)))) = (g ++ ' ' :: (s ++ " 0%".toList), pr) := by
  have hparted := partPriority_percent (u := g ++ ' ' :: (s ++ " 0".toList))
    (fun c hc => hgap c hc ▸ (by decide : isBlank ' ' = true)) hpr
  simpa using hparted

theorem IsExplicit.not_lacksBasis (h : IsExplicit v) : ¬ LacksBasis v := by
  obtain ⟨hg, hs, hgap, hpr⟩ := h
  have hblank : isBlank ' ' = true := by decide
  have hzero : Text.words "0%".toList = ["0%".toList] := by decide
  have hwords (g s : Text) : Text.words (g ++ ' ' :: (s ++ " 0%".toList)) =
      Text.words g ++ (Text.words s ++ Text.words "0%".toList) := by
    rw [Text.words, Text.wordsBy_append_cons hblank]
    exact congrArg _ (Text.wordsBy_append_cons hblank s "0%".toList)
  rw [LacksBasis, partPriority_explicit hgap hpr, hwords, words_number hg, words_number hs, hzero]
  rintro ⟨⟩

theorem IsExplicit.mem (h : IsExplicit v) (hc : c ∈ v) :
    c = ' ' ∨ c = '.' ∨ c = '%' ∨ isDecimal c = true ∨ Text.lowerAsciiChar c ∈ "!important".toList := by
  obtain ⟨hg, hs, hgap, hpr⟩ := h
  rw [List.mem_append, List.mem_cons, List.mem_append, List.mem_append, List.mem_append] at hc
  have hnumber {t : Text} (ht : isNumber t = true) (hc : c ∈ t) :
      c = ' ' ∨ c = '.' ∨ c = '%' ∨ isDecimal c = true ∨ Text.lowerAsciiChar c ∈ "!important".toList :=
    (mem_number ht hc).elim (fun h => .inr (.inl h)) fun h => .inr (.inr (.inr (.inl h)))
  rcases hc with hc | rfl | hc | hc | hc | hc
  · exact hnumber hg hc
  · exact .inl rfl
  · exact hnumber hs hc
  · have hzero : ∀ k ∈ " 0%".toList, k = ' ' ∨ k = '%' ∨ isDecimal k = true :=
      Text.forall_mem_of_all (by decide)
    rcases hzero c hc with h | h | h
    · exact .inl h
    · exact .inr (.inr (.inl h))
    · exact .inr (.inr (.inr (.inl h)))
  · exact .inl (hgap c hc)
  · exact .inr (.inr (.inr (.inr (hpr.mem hc))))

theorem IsExplicit.notMem (h : IsExplicit v) (hplain : c ∉ " .%!important".toList ∧ isDecimal c = false)
    (hlower : Text.lowerAsciiChar c = c) : c ∉ v := by
  intro hc
  have hmem := h.mem hc
  rw [hplain.2, hlower] at hmem
  refine hplain.1 ?_
  rcases hmem with rfl | rfl | rfl | h | h
  · decide
  · decide
  · decide
  · cases h
  · exact List.mem_append_right " .%".toList h

theorem IsExplicit.segment (h : IsExplicit v) : IsSegment v := by
  intro c hc
  rw [Bool.eq_false_iff]
  intro hend
  rcases endsValue_iff.1 hend with rfl | rfl | rfl <;> exact h.notMem (by decide +kernel) (by decide) hc

theorem IsExplicit.start (h : IsExplicit v) : ∀ c ∈ v.head?, isBlank c = false := by
  obtain ⟨hg, -, -, -⟩ := h
  rintro c hc
  obtain ⟨a, g, rfl⟩ := List.exists_cons_of_ne_nil (number_ne_nil hg)
  obtain rfl := Option.some.inj hc
  exact isBlank_of_mem_number hg List.mem_cons_self

/-! ## Declarations -/

/-- The value of the declaration lacks its basis, and no block follows it. -/
def Decl.Gains (d : Decl) : Prop := d.rest.head? ≠ some '{' ∧ LacksBasis d.value

theorem Decl.rewritten_of_not_gains (spacing : Spacing) (h : ¬ d.Gains) : d.rewritten spacing = d.text := by
  rw [Decl.rewritten]
  split
  · rfl
  · next hblock =>
    rcases explicit?_cases (partPriority d.value).1 with ⟨hlacks, -⟩ | ⟨-, hnone⟩
    · exact absurd ⟨hblock, hlacks⟩ h
    · simp only [hnone]

theorem Decl.Gains.exists_rewritten (spacing : Spacing) (h : d.Gains) :
    ∃ w v, (∀ c ∈ w, c = ' ') ∧ IsExplicit v ∧
      d.rewritten spacing = { d with gap := ':' :: w, value := v }.text := by
  obtain ⟨hblock, hlacks⟩ := h
  rcases explicit?_cases (partPriority d.value).1 with ⟨-, g, s, hg, hs, hsome⟩ | ⟨hnot, -⟩
  · have hpr := isPriority_partPriority d.value
    rw [Decl.rewritten, if_neg hblock]
    simp only [hsome]
    generalize (partPriority d.value).2 = pr at hpr
    cases spacing with
    | compact =>
      refine ⟨[], _, fun c hc => (nomatch hc), @IsExplicit.mk g s [] pr hg hs (fun c hc => nomatch hc) hpr, ?_⟩
      simp [Decl.text]
    | loose =>
      refine ⟨[' '], _, by simp, @IsExplicit.mk g s (if pr.isEmpty then [] else [' ']) pr hg hs ?_ hpr, ?_⟩
      · split <;> simp
      · rcases pr with _ | ⟨c, pr⟩ <;> simp [Decl.text]
  · exact absurd hlacks hnot

theorem Decl.IsWritten.of_explicit (hd : d.IsWritten) (hw : ∀ c ∈ w, c = ' ') (hv : IsExplicit v) :
    { d with gap := ':' :: w, value := v }.IsWritten where
  name := hd.name
  gap := ⟨[], w, rfl, fun c hc => (nomatch hc), fun c hc => hw c hc ▸ by decide⟩
  value := hv.segment
  start := hv.start
  rest := hd.rest

/-- What a declaration becomes: a declaration of the same name that gains no basis. -/
theorem Decl.IsWritten.exists_settled (spacing : Spacing) (hd : d.IsWritten) :
    ∃ e : Decl, e.IsWritten ∧ e.name = d.name ∧ e.rest = d.rest ∧ d.rewritten spacing = e.text ∧ ¬ e.Gains := by
  by_cases h : d.Gains
  · obtain ⟨w, v, hw, hv, heq⟩ := h.exists_rewritten spacing
    exact ⟨_, hd.of_explicit hw hv, rfl, rfl, heq, fun hgains => hv.not_lacksBasis hgains.2⟩
  · exact ⟨d, hd, rfl, rfl, Decl.rewritten_of_not_gains spacing h, h⟩

theorem Decl.Gains.rewritten_ne (spacing : Spacing) (hd : d.IsWritten) (h : d.Gains) : d.rewritten spacing ≠ d.text := by
  obtain ⟨e, he, -, hrest, heq, hsettled⟩ := hd.exists_settled spacing
  intro hsame
  have hd' : decl? (d.text ++ d.rest) = some d := decl?_eq_some_iff.2 ⟨hd, rfl⟩
  have he' : decl? (d.text ++ d.rest) = some e := decl?_eq_some_iff.2 ⟨he, by rw [← heq, hsame, hrest]⟩
  obtain rfl := Option.some.inj (hd'.symm.trans he')
  exact hsettled h

end StylePrune.FlexBasis
