import StylePrune.Proofs.Json.Strings
import StylePrune.Proofs.Text.Basic

/-!
Reading back natural numbers in JSON.

A number has no end of its own, so what follows counts: it must not go on with the number (`Stops`), as nothing
does that stands behind a value. The digits of a natural number then are read as that number
(`readNumber_of_written`). A first digit zero is the whole number, as the reader asks.
-/
namespace StylePrune.Json

/-- A text before which a value ends: nothing, or white space, a comma or a closing bracket first. -/
def Stops (t : Text) : Prop := ∀ ch ∈ t.head?, isSpace ch = true ∨ ch = ',' ∨ ch = ']' ∨ ch = '}'

theorem stops_nil : Stops [] := fun _ h => nomatch h

theorem stops_cons {ch : Char} {t : Text} (h : isSpace ch = true ∨ ch = ',' ∨ ch = ']' ∨ ch = '}') :
    Stops (ch :: t) := by
  intro d hd
  obtain rfl : ch = d := by simpa using hd
  exact h

/-- Nothing before which a value ends goes on with a number. -/
theorem Stops.head {t : Text} (h : Stops t) {ch : Char} (hch : ch ∈ t.head?) :
    ch.isDigit = false ∧ ch ≠ '.' ∧ ch ≠ 'e' ∧ ch ≠ 'E' := by
  have hspace (hs : isSpace ch = true) : ch = ' ' ∨ ch = '\n' ∨ ch = '\t' ∨ ch = '\r' := by
    simpa [isSpace, or_assoc] using hs
  rcases h ch hch with hs | rfl | rfl | rfl
  · rcases hspace hs with rfl | rfl | rfl | rfl <;> decide
  all_goals decide

/-! ## Digits -/

theorem digitsValue_ofNat (n : Nat) : digitsValue (Text.ofNat n) = n := by
  have hfold : digitsValue (Nat.toDigits 10 n) = Nat.ofDigitChars 10 (Nat.toDigits 10 n) 0 := by
    rw [digitsValue, Nat.ofDigitChars]
    simp only [Nat.mul_comm]
    rfl
  rw [Text.ofNat, Nat.toString_eq_repr, Nat.toList_repr, hfold]
  exact Nat.ofDigitChars_toDigits (by decide) (by decide)

theorem head_toDigits {n : Nat} (hn : n ≠ 0) : ∃ ch ds, Nat.toDigits 10 n = ch :: ds ∧ ch ≠ '0' := by
  induction n using Nat.strongRecOn with
  | ind n ih =>
    by_cases h : n < 10
    · have hdigit : ∀ d < 10, d ≠ 0 → Nat.digitChar d ≠ '0' := by decide
      exact ⟨_, [], Nat.toDigits_of_lt_base h, hdigit n h hn⟩
    · obtain ⟨ch, ds, hds, hch⟩ := ih (n / 10) (by omega) (by omega)
      refine ⟨ch, ds ++ [(n % 10).digitChar], ?_, hch⟩
      rw [Nat.toDigits_of_base_le (by decide) (by omega), hds, List.cons_append]

theorem exists_ofNat (n : Nat) : ∃ ch ds, Text.ofNat n = ch :: ds ∧ (ch = '0' → ds = []) := by
  rw [Text.ofNat, Nat.toString_eq_repr, Nat.toList_repr]
  by_cases hn : n = 0
  · subst hn
    exact ⟨'0', [], rfl, fun _ => rfl⟩
  · obtain ⟨ch, ds, hds, hch⟩ := head_toDigits hn
    exact ⟨ch, ds, hds, fun h => absurd h hch⟩

theorem Cursor.skipDigits_of_rest {c : Cursor} {ds rest : Text} (hds : ∀ d ∈ ds, d.isDigit = true)
    (hrest : Stops rest) (hc : c.rest = ds ++ rest) : ∃ d : Cursor, c.skipDigits = (ds, d) ∧ d.rest = rest := by
  have hend : rest.takeWhile Char.isDigit = [] := by
    cases rest with
    | nil => rfl
    | cons ch r =>
      have hch : ch.isDigit = false := (hrest.head rfl).1
      rw [List.takeWhile_cons_of_neg (by simp [hch])]
  have htake : c.rest.takeWhile Char.isDigit = ds := by
    rw [hc, List.takeWhile_append_of_pos hds, hend, List.append_nil]
  refine ⟨c.skip ds.length, ?_, Cursor.rest_skip hc⟩
  rw [skipDigits, htake]

theorem readNumber_of_written {c : Cursor} {n : Nat} {rest : Text} (hn : n < Nat.pow 2 64) (hrest : Stops rest)
    (hc : c.rest = Text.ofNat n ++ rest) : ∃ d : Cursor, readNumber false c = .ok (.natural n, d) ∧ d.rest = rest := by
  obtain ⟨ch, ds, hds, hzero⟩ := exists_ofNat n
  have hdigit : ∀ d ∈ Text.ofNat n, d.isDigit = true := fun d hd => Text.isDigit_of_mem_ofNat hd
  have hch : ch.isDigit = true := hdigit ch (by rw [hds]; exact List.mem_cons_self)
  obtain ⟨d, hskip, hdrest⟩ : ∃ d : Cursor,
      (if ch = '0' then (['0'], c.next) else c.skipDigits) = (Text.ofNat n, d) ∧ d.rest = rest := by
    by_cases h0 : ch = '0'
    · have hone : c.rest = ch :: rest := by rw [hc, hds, hzero h0, List.singleton_append]
      refine ⟨c.next, ?_, Cursor.rest_next hone⟩
      rw [if_pos h0, hds, h0, hzero h0]
    · rw [if_neg h0]
      exact Cursor.skipDigits_of_rest hdigit hrest hc
  refine ⟨d, ?_, hdrest⟩
  have hnodigit : (d.rest.head?.map Char.isDigit).getD false = false := by
    rw [hdrest]
    cases hr : rest.head? with
    | none => rfl
    | some e => exact (hrest.head hr).1
  have hhead : ∀ e ∈ d.rest.head?, e ≠ '.' ∧ e ≠ 'e' ∧ e ≠ 'E' := by
    rw [hdrest]
    exact fun e he => (hrest.head he).2
  rw [readNumber, hc, hds, List.cons_append]
  simp only [hch, hskip, hnodigit, digitsValue_ofNat, hn, Bool.not_true, Bool.false_eq_true, if_false, and_false]
  split
  · next hpoint => exact absurd rfl (hhead '.' (by rw [hpoint]; rfl)).1
  · dsimp only [bind, Except.bind]
    split
    · next hmark => exact absurd rfl (hhead 'e' (by rw [hmark]; rfl)).2.1
    · next hmark => exact absurd rfl (hhead 'E' (by rw [hmark]; rfl)).2.2
    · rfl

end StylePrune.Json
