import Mathlib.Data.List.DropRight
import Mathlib.Data.List.TakeWhile
import StylePrune.Text.Basic

/-!
What trimming does at the two ends of a text, how joining goes on, and what a sorted set holds.

Trimming the end of a text looks no further back than the last character that is no white space
(`trimEnd_append`), and a text that neither starts nor ends with white space is its own trimmed form
(`trim_eq_self`).
-/
namespace StylePrune.Text

theorem trimStart_cons_of_pos {c : Char} (s : Text) (h : isBlank c = true) :
    trimStart (c :: s) = trimStart s := by
  simp [trimStart, h]

theorem trimStart_cons_of_neg {c : Char} (s : Text) (h : isBlank c = false) :
    trimStart (c :: s) = c :: s := by
  simp [trimStart, h]

theorem forall_mem_of_all {s : Text} {p : Char → Prop} [DecidablePred p] (h : s.all (fun c => decide (p c)) = true) :
    ∀ c ∈ s, p c :=
  fun c hc => of_decide_eq_true (List.all_eq_true.1 h c hc)

/-- Removing from the end stops inside the second part of a text if something of that part is left. -/
theorem dropEndWhile_append (p : Char → Bool) (s t : Text) :
    dropEndWhile p (s ++ t) = if (dropEndWhile p t).isEmpty then dropEndWhile p s else s ++ dropEndWhile p t := by
  simp only [dropEndWhile, List.reverse_append, List.dropWhile_append, List.isEmpty_reverse]
  split
  · rfl
  · simp

theorem dropEndWhile_cons_of_neg {p : Char → Bool} {c : Char} (s : Text) (h : p c = false) :
    dropEndWhile p (c :: s) = c :: dropEndWhile p s := by
  have hsplit := dropEndWhile_append p [c] s
  have hself : dropEndWhile p [c] = [c] := by simp [dropEndWhile, h]
  rw [List.singleton_append, hself] at hsplit
  rw [hsplit]
  split
  · next hempty => rw [List.isEmpty_iff.1 hempty]
  · rfl

theorem trimEnd_append (s t : Text) :
    trimEnd (s ++ t) = if (trimEnd t).isEmpty then trimEnd s else s ++ trimEnd t := dropEndWhile_append isBlank s t

theorem trimEnd_singleton (c : Char) : trimEnd [c] = if isBlank c then [] else [c] :=
  List.rdropWhile_singleton isBlank c

theorem trimEnd_concat {c : Char} (s : Text) (h : isBlank c = false) : trimEnd (s ++ [c]) = s ++ [c] :=
  List.rdropWhile_concat_neg isBlank s c (by simp [h])

theorem trimEnd_cons_of_neg {c : Char} (s : Text) (h : isBlank c = false) :
    trimEnd (c :: s) = c :: trimEnd s := dropEndWhile_cons_of_neg s h

theorem trim_cons_of_neg {c : Char} (s : Text) (h : isBlank c = false) : trim (c :: s) = c :: trimEnd s := by
  rw [trim, trimStart_cons_of_neg s h, trimEnd_cons_of_neg s h]

/-- Trimming the end does not get past a character that is no white space. -/
theorem trimEnd_append_cons {c : Char} (s t : Text) (h : isBlank c = false) :
    trimEnd (s ++ c :: t) = s ++ c :: trimEnd t := by
  rw [trimEnd_append, trimEnd_cons_of_neg t h]
  rfl

theorem trimEnd_eq_nil_iff {s : Text} : trimEnd s = [] ↔ ∀ c ∈ s, isBlank c = true :=
  List.rdropWhile_eq_nil_iff

theorem exists_trimEnd_append (s : Text) : ∃ w : Text, (∀ c ∈ w, isBlank c = true) ∧ s = trimEnd s ++ w := by
  refine ⟨(s.reverse.takeWhile isBlank).reverse, fun c hc => ?_, ?_⟩
  · exact List.mem_takeWhile_imp (List.mem_reverse.1 hc)
  · rw [trimEnd, dropEndWhile, ← List.reverse_append, List.takeWhile_append_dropWhile, List.reverse_reverse]

theorem trim_append_blanks {w : Text} (s : Text) (hw : ∀ c ∈ w, isBlank c = true) :
    trim (s ++ w) = trim s := by
  have hend : trimEnd w = [] := trimEnd_eq_nil_iff.2 hw
  have hstart : w.dropWhile isBlank = [] := List.dropWhile_eq_nil_iff.2 hw
  rw [trim, trim, trimStart, List.dropWhile_append, trimStart]
  split
  · next h => rw [hstart, List.isEmpty_iff.1 h]
  · simp [trimEnd_append, hend]

/-- A run is not longer for what follows a text if that starts with no character of the run. -/
theorem takeWhile_append_of_head {p : Char → Bool} {w : Text} (s : Text) (hw : ∀ c ∈ w.head?, p c = false) :
    (s ++ w).takeWhile p = s.takeWhile p ∧ (s ++ w).dropWhile p = s.dropWhile p ++ w := by
  induction s with
  | nil => cases w <;> simp_all
  | cons c s ih => cases h : p c <;> simp [h, ih]

theorem takeWhile_run {p : Char → Bool} {s r : Text} (hs : ∀ c ∈ s, p c = true) (hr : ∀ c ∈ r.head?, p c = false) :
    (s ++ r).takeWhile p = s ∧ (s ++ r).dropWhile p = r := by
  obtain ⟨htake, hdrop⟩ := takeWhile_append_of_head s hr
  rw [htake, hdrop, List.takeWhile_eq_self_iff.2 hs, List.dropWhile_eq_nil_iff.2 hs]
  exact ⟨rfl, rfl⟩

theorem trim_eq_self {s : Text} (hs : ∀ c ∈ s.head?, isBlank c = false)
    (he : ∀ c ∈ s.getLast?, isBlank c = false) : trim s = s := by
  have start : trimStart s = s := by
    cases s with
    | nil => rfl
    | cons c r => exact trimStart_cons_of_neg r (hs c rfl)
  rw [trim, start]
  rcases List.eq_nil_or_concat s with rfl | ⟨r, c, rfl⟩
  · rfl
  · rw [List.concat_eq_append] at he ⊢
    exact trimEnd_concat r (he c (by simp))

theorem trim_trim (s : Text) : trim (trim s) = trim s := by
  have hend (t : Text) : trimEnd (trimEnd t) = trimEnd t := List.rdropWhile_idempotent isBlank t
  rw [trim, trim]
  cases hs : trimStart s with
  | nil => rfl
  | cons c r =>
    have hc : isBlank c = false := by
      have := List.head?_dropWhile_not isBlank s
      rw [trimStart] at hs
      rwa [hs] at this
    rw [trimEnd_cons_of_neg r hc, trimStart_cons_of_neg _ hc, ← trimEnd_cons_of_neg r hc, hend]

theorem trim_ne_nil {s : Text} {c : Char} (hc : c ∈ s) (hblank : isBlank c = false) : trim s ≠ [] := by
  intro h
  rw [trim, trimEnd_eq_nil_iff, trimStart] at h
  rw [← List.takeWhile_append_dropWhile (p := isBlank) (l := s), List.mem_append] at hc
  have hall : isBlank c = true := hc.elim (fun hc => List.mem_takeWhile_imp hc) (h c)
  rw [hblank] at hall
  cases hall

theorem join_cons (sep t : Text) {ts : List Text} (h : ts ≠ []) :
    join sep (t :: ts) = t ++ sep ++ join sep ts := by
  cases ts with
  | nil => exact absurd rfl h
  | cons u ts => rfl

/-- Behind the first part stand the others, each with the separator in front of it. -/
theorem join_cons_eq_append (sep t : Text) (ts : List Text) : join sep (t :: ts) = t ++ ts.flatMap (sep ++ ·) := by
  induction ts generalizing t with
  | nil => rw [List.flatMap_nil, List.append_nil, join]
  | cons u ts ih =>
    rw [join_cons sep t (List.cons_ne_nil u ts), ih, List.flatMap_cons]
    simp only [List.append_assoc]

theorem infix_join (sep : Text) {t : Text} {ts : List Text} (h : t ∈ ts) : t <:+: join sep ts := by
  induction ts with
  | nil => cases h
  | cons u ts ih =>
    rcases List.mem_cons.1 h with rfl | h
    · rw [join_cons_eq_append]
      exact (List.prefix_append _ _).isInfix
    · rw [join_cons sep u (List.ne_nil_of_mem h)]
      exact (ih h).trans (List.suffix_append _ _).isInfix

/-! ## Texts without white space at their ends -/

/-- Something is left of the text, and it neither starts nor ends with white space. -/
structure Tight (s : Text) : Prop where
  nonempty : s ≠ []
  head : ∀ c ∈ s.head?, isBlank c = false
  last : ∀ c ∈ s.getLast?, isBlank c = false

theorem Tight.trim {s : Text} (h : Tight s) : Text.trim s = s := trim_eq_self h.head h.last

theorem tight_trim {s : Text} (h : Text.trim s ≠ []) : Tight (Text.trim s) := by
  have hstart : ∀ c ∈ (trimStart s).head?, isBlank c = false := by
    intro c hc
    have := List.head?_dropWhile_not isBlank s
    rw [← trimStart, hc] at this
    exact this
  obtain ⟨w, -, hw⟩ := exists_trimEnd_append (trimStart s)
  refine ⟨h, fun c hc => hstart c ?_, fun c hc => ?_⟩
  · -- the end that is cut off is not what the text starts with
    rw [hw, List.head?_append]
    exact Option.or_eq_some_iff.2 (.inl hc)
  · have hlast := List.rdropWhile_last_not isBlank (trimStart s) h
    rw [List.getLast?_eq_getLast_of_ne_nil h] at hc
    obtain rfl := Option.some.inj hc
    exact Bool.eq_false_iff.2 hlast

/-- Trimming does not cut into what is tight. -/
theorem Tight.infix_trim {s t : Text} (ht : Tight t) (h : t <:+: s) : t <:+: Text.trim s := by
  obtain ⟨u, v, rfl⟩ := h
  have hhead : ∀ c ∈ (t ++ v).head?, isBlank c = false := by
    rw [List.head?_append_of_ne_nil _ ht.nonempty]
    exact ht.head
  obtain ⟨w, d, hw⟩ := (List.eq_nil_or_concat t).resolve_left ht.nonempty
  rw [List.concat_eq_append] at hw
  have hd : isBlank d = false := ht.last d (by simp [hw])
  have hstart : trimStart (u ++ t ++ v) = trimStart u ++ (t ++ v) := by
    rw [List.append_assoc]
    exact (takeWhile_append_of_head u hhead).2
  refine ⟨trimStart u, trimEnd v, ?_⟩
  rw [Text.trim, hstart, ← List.append_assoc, hw, ← List.append_assoc, List.append_assoc (trimStart u ++ w),
    List.append_assoc (trimStart u ++ w)]
  exact (trimEnd_append_cons _ v hd).symm

theorem Tight.append {s t : Text} (hs : Tight s) (u : Text) (ht : Tight t) : Tight (s ++ u ++ t) := by
  refine ⟨by simp [hs.nonempty], fun c hc => hs.head c ?_, fun c hc => ht.last c ?_⟩
  · rwa [List.append_assoc, List.head?_append_of_ne_nil _ hs.nonempty] at hc
  · rwa [List.getLast?_append_of_ne_nil _ ht.nonempty] at hc

theorem Tight.join {ts : List Text} (sep : Text) (hne : ts ≠ []) (h : ∀ t ∈ ts, Tight t) :
    Tight (Text.join sep ts) := by
  induction ts with
  | nil => exact absurd rfl hne
  | cons t ts ih =>
    have ht := h t (by simp)
    by_cases hts : ts = []
    · subst hts
      exact ht
    · rw [join_cons sep t hts]
      exact ht.append sep (ih hts fun u hu => h u (by simp [hu]))

/-! ## Starts of texts -/

theorem startsWith_iff {p s : Text} : startsWith p s = true ↔ p <+: s := by
  induction p generalizing s with
  | nil => exact iff_of_true rfl s.nil_prefix
  | cons a p ih =>
    cases s with
    | nil => exact iff_of_false Bool.false_ne_true (by simp)
    | cons c s =>
      rw [List.cons_prefix_cons, ← ih, startsWith, dropPrefix?]
      split
      · next h => rw [startsWith, h, eq_self, true_and]
      · next h => exact iff_of_false Bool.false_ne_true fun hp => h hp.1

/-! ## Sorted sets -/

theorem eq_of_compareCodes_eq : ∀ {s t : Text}, compareCodes s t = .eq → s = t
  | [], [], _ => rfl
  | a :: s, b :: t, h => by
    rw [compareCodes] at h
    split at h
    · cases h
    · split at h
      · cases h
      · have hab : a = b := Char.ext (UInt32.toNat_inj.1 (by simp only [Char.toNat] at *; omega))
        rw [hab, eq_of_compareCodes_eq h]

theorem mem_insertSorted {t u : Text} {ts : List Text} : u ∈ insertSorted t ts ↔ u = t ∨ u ∈ ts := by
  induction ts with
  | nil => simp [insertSorted]
  | cons v ts ih =>
    rw [insertSorted]
    cases h : compareCodes t v with
    | lt => simp
    | eq => simp [eq_of_compareCodes_eq h]
    | gt =>
      simp only [List.mem_cons, ih]
      exact or_left_comm

theorem mem_sortedSet {u : Text} {ts : List Text} : u ∈ sortedSet ts ↔ u ∈ ts := by
  induction ts with
  | nil => simp [sortedSet]
  | cons t ts ih => rw [sortedSet, List.foldr_cons, mem_insertSorted, ← sortedSet, ih, List.mem_cons]

/-! ## Numbers -/

theorem isDigit_of_mem_ofNat {n : Nat} {c : Char} (h : c ∈ ofNat n) : c.isDigit = true := by
  rw [ofNat, Nat.toString_eq_repr, Nat.toList_repr] at h
  exact Nat.isDigit_of_mem_toDigits (by decide) (by decide) h

end StylePrune.Text
