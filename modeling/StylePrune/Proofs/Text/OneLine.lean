import StylePrune.Decimal.Shortest
import StylePrune.Proofs.Text.Basic
import StylePrune.Text.Quoted

/-!
Texts on one line.

A text is on one line if neither a line feed nor a carriage return is in it. What is shown of a value in a message
is: quoting escapes both (`oneLine_quoted`), and numbers are written in digits, a sign and a point
(`oneLine_ofNat`, `oneLine_doubleText`).
-/
namespace StylePrune

namespace Text

/-- No line ends in the text. -/
def OneLine (s : Text) : Prop := ∀ c ∈ s, c ≠ '\n' ∧ c ≠ '\r'

instance (s : Text) : Decidable (OneLine s) := List.decidableBAll _ s

theorem oneLine_nil : OneLine [] := fun _ h => nomatch h

theorem oneLine_cons {c : Char} {s : Text} : OneLine (c :: s) ↔ (c ≠ '\n' ∧ c ≠ '\r') ∧ OneLine s :=
  List.forall_mem_cons

theorem oneLine_append {s t : Text} : OneLine (s ++ t) ↔ OneLine s ∧ OneLine t := List.forall_mem_append

theorem oneLine_replicate {c : Char} (h : c ≠ '\n' ∧ c ≠ '\r') (n : Nat) : OneLine (List.replicate n c) := by
  intro d hd
  rw [(List.mem_replicate.1 hd).2]
  exact h

theorem OneLine.of_sublist {s t : Text} (h : OneLine t) (hst : s.Sublist t) : OneLine s :=
  fun c hc => h c (hst.subset hc)

/-! ## Numbers -/

theorem oneLine_ofNat (n : Nat) : OneLine (ofNat n) := by
  intro c hc
  have hdigit : c.isDigit = true := isDigit_of_mem_ofNat hc
  refine ⟨?_, ?_⟩
  · rintro rfl
    cases hdigit
  · rintro rfl
    cases hdigit

/-! ## Quoted texts -/

theorem hexDigit_ne : ∀ d < 16, hexDigit d ≠ '\n' ∧ hexDigit d ≠ '\r' := by decide

theorem oneLine_hexDigitsFrom (k n : Nat) : OneLine (hexDigitsFrom k n) := by
  induction k generalizing n with
  | zero => exact oneLine_nil
  | succ k ih =>
    rw [hexDigitsFrom, oneLine_cons]
    refine ⟨hexDigit_ne _ (Nat.mod_lt n (by decide)), ?_⟩
    split
    · exact oneLine_nil
    · exact ih _

theorem oneLine_hex (n : Nat) : OneLine (hex n) := by
  intro c hc
  exact oneLine_hexDigitsFrom 16 n c (List.mem_reverse.1 hc)

theorem oneLine_escapeChar (c : Char) : OneLine (escapeChar c) := by
  rw [escapeChar]
  by_cases hn : c = '\n'
  · subst hn
    decide
  by_cases hr : c = '\r'
  · subst hr
    decide
  have hself : OneLine [c] := oneLine_cons.2 ⟨⟨hn, hr⟩, oneLine_nil⟩
  have hhex : OneLine (['\\', 'u', '{'] ++ hex c.toNat ++ ['}']) := by
    simp only [oneLine_append]
    exact ⟨⟨by decide, oneLine_hex _⟩, by decide⟩
  repeat' split
  all_goals first | exact hself | exact hhex | decide

theorem oneLine_quoted (s : Text) : OneLine (quoted s) := by
  have hescaped : OneLine (s.flatMap escapeChar) := by
    intro c hc
    obtain ⟨d, -, hd⟩ := List.mem_flatMap.1 hc
    exact oneLine_escapeChar d c hd
  rw [quoted, List.cons_append, oneLine_cons, oneLine_append]
  exact ⟨by decide, hescaped, by decide⟩

end Text

theorem Decimal.oneLine_doubleText (x : Float) : Text.OneLine (doubleText x) := by
  have hzeros (n : Nat) : Text.OneLine (List.replicate n '0') := Text.oneLine_replicate (by decide) n
  rw [doubleText]
  obtain ⟨neg, m, q⟩ := parts x
  have hsign {body : Text} (h : Text.OneLine body) : Text.OneLine (if neg then '-' :: body else body) := by
    split
    · exact Text.oneLine_cons.2 ⟨by decide, h⟩
    · exact h
  have hdigits := Text.oneLine_ofNat (shortest m q 53).digits
  refine hsign ?_
  dsimp only
  split
  · decide
  split
  · -- an integer
    exact Text.oneLine_append.2 ⟨Text.oneLine_append.2 ⟨hdigits, hzeros _⟩, by decide⟩
  split
  · -- a point within the digits
    exact Text.oneLine_append.2 ⟨hdigits.of_sublist (List.take_sublist _ _),
      Text.oneLine_cons.2 ⟨by decide, hdigits.of_sublist (List.drop_sublist _ _)⟩⟩
  split
  · -- zeros before the digits
    exact Text.oneLine_append.2 ⟨Text.oneLine_cons.2 ⟨by decide, Text.oneLine_cons.2 ⟨by decide, hzeros _⟩⟩, hdigits⟩
  · -- one digit, the others after a point, and an exponent
    refine Text.oneLine_append.2 ⟨?_, Text.oneLine_cons.2 ⟨by decide, Text.oneLine_cons.2 ⟨?_, Text.oneLine_ofNat _⟩⟩⟩
    · revert hdigits
      generalize Text.ofNat (shortest m q 53).digits = ds
      intro hdigits
      split
      · exact hdigits
      · obtain ⟨hc, hr⟩ := Text.oneLine_cons.1 hdigits
        exact Text.oneLine_cons.2 ⟨hc, Text.oneLine_cons.2 ⟨by decide, hr⟩⟩
      · exact Text.oneLine_nil
    · split <;> decide

end StylePrune
