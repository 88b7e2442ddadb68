import Mathlib.Data.List.TakeWhile
import StylePrune.Proofs.Text.Basic

/-!
The words of a text are its maximal runs.

A run of a class of characters is maximal if no neighbour of it belongs to the class (`IsRun`).
`mem_wordsBy` says that cutting a text at the characters outside a class gives the maximal runs of the
class and nothing else. It rests on two equations of the cut: at a character that separates, the words of
both sides come one after another (`wordsBy_append_cons`), and a run in front of such a character is one word
(`wordsBy_run_append`).
-/
namespace StylePrune.Text

variable {p : Char → Bool}

/-- A maximal run of characters of a class. -/
structure IsRun (p : Char → Bool) (s w : Text) : Prop where
  nonempty : w ≠ []
  all : ∀ c ∈ w, p c = true
  /-- No character of the class stands before the run or after it. -/
  maximal : ∃ before after : Text, s = before ++ w ++ after ∧
    (∀ c ∈ before.getLast?, p c = false) ∧ ∀ c ∈ after.head?, p c = false

/-- A maximal run stays maximal when something is put in front of the text, unless the two grow
together. -/
theorem IsRun.append_left {s w : Text} (h : IsRun p s w) (u : Text)
    (hu : (∀ c ∈ u.getLast?, p c = false) ∨ ∀ c ∈ s.head?, p c = false) : IsRun p (u ++ s) w := by
  obtain ⟨hne, hall, before, after, rfl, hbefore, hafter⟩ := h
  refine ⟨hne, hall, u ++ before, after, by simp, ?_, hafter⟩
  intro c hc
  rcases List.eq_nil_or_concat before with rfl | ⟨b, d, rfl⟩
  · rw [List.append_nil] at hc
    rcases hu with hu | hu
    · exact hu c hc
    · -- the text starts with the run, whose characters are of the class
      obtain ⟨d, w', rfl⟩ := List.exists_cons_of_ne_nil hne
      have hd := hu d rfl
      rw [hall d (by simp)] at hd
      cases hd
  · rw [List.concat_eq_append] at hbefore hc
    rw [← List.append_assoc, List.getLast?_concat] at hc
    exact hbefore c (by rwa [List.getLast?_concat])

/-- A part of a text that has a character outside the class on either side. -/
def Delimited (p : Char → Bool) (s w : Text) : Prop :=
  ∃ (before after : Text) (c d : Char), s = before ++ c :: (w ++ d :: after) ∧ p c = false ∧ p d = false

theorem Delimited.of_isInfix {s t w : Text} (h : Delimited p s w) (hst : s <:+: t) : Delimited p t w := by
  obtain ⟨before, after, c, d, rfl, hc, hd⟩ := h
  obtain ⟨u, v, rfl⟩ := hst
  exact ⟨u ++ before, after ++ v, c, d, by simp, hc, hd⟩

theorem Delimited.isRun {s w : Text} (h : Delimited p s w) (hne : w ≠ []) (hw : ∀ c ∈ w, p c = true) :
    IsRun p s w := by
  obtain ⟨before, after, c, d, rfl, hc, hd⟩ := h
  exact ⟨hne, hw, before ++ [c], d :: after, by simp, by simpa using hc, by simpa using hd⟩

theorem delimited_join {sep first last : Char} (hsep : p sep = false) (hfirst : p first = false)
    (hlast : p last = false) {w : Text} {ws : List Text} (hw : w ∈ ws) :
    Delimited p (first :: (join [sep] ws ++ [last])) w := by
  induction ws generalizing first with
  | nil => cases hw
  | cons v ws ih =>
    by_cases hws : ws = []
    · subst hws
      rw [List.mem_singleton] at hw
      subst hw
      exact ⟨[], [], first, last, rfl, hfirst, hlast⟩
    · rw [join_cons [sep] v hws]
      rcases List.mem_cons.1 hw with rfl | hw
      · exact ⟨[], join [sep] ws ++ [last], first, sep, by simp, hfirst, hsep⟩
      · -- the separator that follows `v` is the first character of the rest
        exact (ih hsep hw).of_isInfix ⟨first :: v, [], by simp⟩

theorem exists_run_append {c : Char} (r : Text) (hc : p c = true) :
    ∃ w after : Text, c :: r = w ++ after ∧ w ≠ [] ∧ (∀ d ∈ w, p d = true) ∧
      ∀ d ∈ after.head?, p d = false := by
  refine ⟨(c :: r).takeWhile p, (c :: r).dropWhile p, List.takeWhile_append_dropWhile.symm, by simp [hc],
    fun d => List.mem_takeWhile_imp, fun d hd => ?_⟩
  have := List.head?_dropWhile_not p (c :: r)
  rw [hd] at this
  exact this

/-! ## The cut -/

theorem wordsBy_cons_of_pos {c : Char} (r : Text) (h : p c = true) : wordsBy p (c :: r) = wordsBy p r := by
  simp [wordsBy, h]

theorem wordsBy_run_append {w after : Text} (hne : w ≠ []) (hw : ∀ c ∈ w, p c = false)
    (ha : ∀ c ∈ after.head?, p c = true) : wordsBy p (w ++ after) = w :: wordsBy p after := by
  induction w with
  | nil => exact absurd rfl hne
  | cons c w ih =>
    have hc : p c = false := hw c (by simp)
    cases w with
    | nil =>
      cases after with
      | nil => simp [wordsBy, hc]
      | cons d r =>
        have hd : p d = true := ha d rfl
        simp [wordsBy, hc, hd]
    | cons d w =>
      have hd : p d = false := hw d (by simp)
      rw [List.cons_append, List.cons_append, wordsBy, hc, hd, ← List.cons_append,
        ih (by simp) fun e he => hw e (by simp [he])]
      rfl

/-- At a character that separates, the text falls apart. -/
theorem wordsBy_append_cons {c : Char} (hc : p c = true) (s t : Text) :
    wordsBy p (s ++ c :: t) = wordsBy p s ++ wordsBy p t := by
  induction s with
  | nil => exact wordsBy_cons_of_pos t hc
  | cons d s ih =>
    rw [List.cons_append]
    cases hd : p d with
    | true => rw [wordsBy_cons_of_pos _ hd, wordsBy_cons_of_pos _ hd, ih]
    | false =>
      cases s with
      | nil => simp [wordsBy, hc, hd]
      | cons e s =>
        cases he : p e with
        | true => simp_all [wordsBy]
        | false =>
          obtain ⟨w, after, hes, hne, hw, hafter⟩ :=
            exists_run_append (p := fun c => !p c) (c := e) s (by simp [he])
          have hword : wordsBy p (e :: s) = w :: wordsBy p after := by
            rw [hes]
            exact wordsBy_run_append hne (by simpa using hw) (by simpa using hafter)
          rw [List.cons_append] at ih ⊢
          rw [wordsBy, wordsBy, ih, hd, he, hword]
          rfl

theorem exists_mem_wordsBy {s : Text} {c : Char} (h : c ∈ s) (hc : p c = false) : ∃ w ∈ wordsBy p s, c ∈ w := by
  induction hn : s.length using Nat.strong_induction_on generalizing s with
  | _ n ih =>
    cases s with
    | nil => cases h
    | cons d r =>
      cases hd : p d with
      | true =>
        rw [wordsBy_cons_of_pos r hd]
        have hmem : c ∈ r := (List.mem_cons.1 h).resolve_left fun heq => by simp [heq, hd] at hc
        exact ih r.length (by simp at hn; omega) hmem rfl
      | false =>
        obtain ⟨w, after, hcut, hne, hw, hafter⟩ := exists_run_append (p := fun c => !p c) (c := d) r (by simp [hd])
        rw [hcut] at h hn ⊢
        rw [wordsBy_run_append hne (by simpa using hw) (by simpa using hafter)]
        rcases List.mem_append.1 h with h | h
        · exact ⟨w, List.mem_cons_self, h⟩
        · have hlt : after.length < n := by
            have := List.length_pos_iff.2 hne
            rw [List.length_append] at hn
            omega
          obtain ⟨v, hv, hcv⟩ := ih _ hlt h rfl
          exact ⟨v, List.mem_cons_of_mem w hv, hcv⟩

theorem isRun_of_mem_wordsBy {s w : Text} (h : w ∈ wordsBy (fun c => !p c) s) : IsRun p s w := by
  -- a word can have many characters, so the induction is on the length of what is left
  induction hn : s.length using Nat.strong_induction_on generalizing s with
  | _ n ih =>
    cases s with
    | nil => simp [wordsBy] at h
    | cons c r =>
      cases hc : p c with
      | false =>
        rw [wordsBy_cons_of_pos r (by simp [hc])] at h
        have hrun := ih r.length (by simp at hn; omega) h rfl
        exact hrun.append_left [c] (.inl (by simpa using hc))
      | true =>
        obtain ⟨u, after, hcr, hne, hu, hafter⟩ := exists_run_append r hc
        rw [hcr] at h hn ⊢
        rw [wordsBy_run_append hne (by simpa using hu) (by simpa using hafter)] at h
        rcases List.mem_cons.1 h with rfl | h
        · exact ⟨hne, hu, [], after, rfl, by simp, hafter⟩
        · have hlt : after.length < n := by
            have := List.length_pos_iff.2 hne
            rw [List.length_append] at hn
            omega
          exact (ih _ hlt h rfl).append_left u (.inr hafter)

theorem IsRun.mem_wordsBy {s w : Text} (h : IsRun p s w) : w ∈ wordsBy (fun c => !p c) s := by
  obtain ⟨hne, hall, before, after, rfl, hbefore, hafter⟩ := h
  have hword : wordsBy (fun c => !p c) (w ++ after) = w :: wordsBy (fun c => !p c) after :=
    wordsBy_run_append hne (by simpa using hall) (by simpa using hafter)
  rw [List.append_assoc]
  rcases List.eq_nil_or_concat before with rfl | ⟨b, d, rfl⟩
  · rw [List.nil_append, hword]
    exact List.mem_cons_self
  · rw [List.concat_eq_append] at hbefore ⊢
    have hd : p d = false := hbefore d (by simp)
    rw [List.append_assoc, List.singleton_append, wordsBy_append_cons (by simp [hd]), hword]
    exact List.mem_append_right _ List.mem_cons_self

/-- The words are the maximal runs: every word is one, and every one is a word. -/
theorem mem_wordsBy {s w : Text} : w ∈ wordsBy (fun c => !p c) s ↔ IsRun p s w :=
  ⟨isRun_of_mem_wordsBy, IsRun.mem_wordsBy⟩

end StylePrune.Text
