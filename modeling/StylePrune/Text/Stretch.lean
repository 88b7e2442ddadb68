import StylePrune.Text.Basic

/-!
Sets of code points written as texts.

A stretch is `a`, `a-b` or `a-b/2` in hexadecimal: one code point, all of a range, or every second one
of a range. `stretches` reads lines of stretches between blanks.
-/
namespace StylePrune.Text

/-- The code points `lo, lo + step, …, hi`. -/
structure Stretch where
  lo : Nat
  hi : Nat
  step : Nat
deriving Repr

/-- The stretch holds this code point. -/
def Stretch.covers (s : Stretch) (n : Nat) : Bool := s.lo ≤ n && n ≤ s.hi && (n - s.lo) % s.step == 0

/-- The number that hexadecimal digits in lower case stand for. -/
def hexNumber (t : Text) : Nat :=
  t.foldl (fun n c => n * 16 + (if c.isDigit then c.toNat - 48 else c.toNat - 87)) 0

/-- Reads one stretch. -/
def Stretch.ofText (w : Text) : Stretch :=
  let lo := w.takeWhile (· != '-')
  match w.drop lo.length with
  | [] => ⟨hexNumber lo, hexNumber lo, 1⟩
  | _ :: r =>
    let hi := r.takeWhile (· != '/')
    ⟨hexNumber lo, hexNumber hi, if hi.length = r.length then 1 else 2⟩

/-- Reads lines of stretches. -/
def stretches (lines : List String) : List Stretch :=
  lines.flatMap fun l => (wordsBy (· == ' ') l.toList).map Stretch.ofText

/-- One of the stretches holds the character. -/
def inStretches (s : List Stretch) (c : Char) : Bool := s.any (·.covers c.toNat)

end StylePrune.Text
