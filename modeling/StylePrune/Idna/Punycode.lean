import StylePrune.Text.Basic

/-!
Labels beyond ASCII in letters of ASCII.

A label is written as its ASCII characters, a hyphen if there are any, and digits that say which other
characters are inserted where. The digits form numbers of variable length: a digit below its threshold
ends a number, and thresholds adapt to the numbers before.
-/
namespace StylePrune.Idna

/-- Number of digits. -/
def digitCount : Nat := 36

/-- How the threshold of a digit depends on its place. -/
def threshold (place bias : Nat) : Nat := min 26 (max 1 (place - bias))

/-- Halves a distance until it is small, and counts how often. -/
def shrink (k delta : Nat) : Nat × Nat :=
  if h : 455 < delta then shrink (k + digitCount) (delta / 35) else (k, delta)
termination_by delta
decreasing_by omega

/-- The bias after a distance; `count` characters are there, and `first` tells the first distance. -/
def adapt (delta count : Nat) (first : Bool) : Nat :=
  let d := if first then delta / 700 else delta / 2
  let (k, d) := shrink 0 (d + d / count)
  k + digitCount * d / (d + 38)

/-- The value of a digit. -/
def digitValue? (c : Char) : Option Nat :=
  if '0' ≤ c ∧ c ≤ '9' then some (c.toNat - '0'.toNat + 26)
  else if 'a' ≤ c ∧ c ≤ 'z' then some (c.toNat - 'a'.toNat)
  else if 'A' ≤ c ∧ c ≤ 'Z' then some (c.toNat - 'A'.toNat)
  else none

/-- The digit of a value. -/
def digit (n : Nat) : Char := Char.ofNat (if n < 26 then n + 'a'.toNat else n - 26 + '0'.toNat)

/-! ## Reading -/

/-- Reads a number: its value added to `i`, and what follows it. -/
def readNumber? (bias : Nat) : (place weight i : Nat) → Text → Option (Nat × Text)
  | _, _, _, [] => none
  | place, weight, i, c :: r =>
    match digitValue? c with
    | none => none
    | some d =>
      let t := threshold place bias
      if d < t then some (i + d * weight, r)
      else readNumber? bias (place + digitCount) (weight * (digitCount - t)) (i + d * weight) r

theorem readNumber?_length {bias place weight i n : Nat} {s r : Text}
    (h : readNumber? bias place weight i s = some (n, r)) : r.length < s.length := by
  induction s generalizing place weight i with
  | nil => simp [readNumber?] at h
  | cons c t ih =>
    simp only [readNumber?] at h
    split at h
    · simp at h
    · split at h
      · simp only [Option.some.injEq, Prod.mk.injEq] at h
        obtain ⟨-, rfl⟩ := h
        exact Nat.lt_succ_self _
      · exact Nat.lt_succ_of_lt (ih h)

/-- A character of a code point, if it is one. -/
def charOf? (n : Nat) : Option Char := if n.isValidChar then some (Char.ofNat n) else none

/-- Reads insertions: `code` is the code point and `i` the place of the last one, `bias` belongs to the
next number. -/
def readInsertions? (code i bias : Nat) (out s : Text) : Option Text :=
  if s.isEmpty then some out
  else
    match _hn : readNumber? bias digitCount 1 i s with
    | none => none
    | some (j, r) =>
      let count := out.length + 1
      match charOf? (code + j / count) with
      | none => none
      | some c =>
        readInsertions? (code + j / count) (j % count + 1) (adapt (j - i) count (i == 0))
          (out.take (j % count) ++ c :: out.drop (j % count)) r
termination_by s.length
decreasing_by exact readNumber?_length _hn

/-- The code point after which characters are inserted. -/
def firstCode : Nat := 128

/-- The bias of the first number. -/
def firstBias : Nat := 72

/-- Reads a label: what stands before its last hyphen, and insertions into that. -/
def decode? (s : Text) : Option Text :=
  match s.reverse.dropWhile (· != '-') with
  | _ :: c :: before =>
    let base := (c :: before).reverse
    readInsertions? firstCode 0 firstBias base (s.drop (base.length + 1))
  | _ => readInsertions? firstCode 0 firstBias [] s

/-! ## Writing -/

/-- The digits of a number after its first so many digits have been left out; `fuel` bounds the digits. -/
def writeNumber (bias : Nat) : (fuel place n : Nat) → Text
  | 0, _, _ => []
  | fuel + 1, place, n =>
    let t := threshold place bias
    if n < t then [digit n]
    else digit (t + (n - t) % (digitCount - t)) ::
      writeNumber bias fuel (place + digitCount) ((n - t) / (digitCount - t))

/-- What has been written of a label. -/
structure Writing where
  /-- Places that were passed since the last insertion. -/
  delta : Nat
  bias : Nat
  /-- How many characters are there. -/
  count : Nat
  isFirst : Bool
  out : Text

/-- Passes one character of the label while code point `n` is inserted. -/
def Writing.pass (n : Nat) (w : Writing) (c : Char) : Writing :=
  if c.toNat < n then { w with delta := w.delta + 1 }
  else if c.toNat = n then
    { delta := 0
      bias := adapt w.delta (w.count + 1) w.isFirst
      count := w.count + 1
      isFirst := false
      out := w.out ++ writeNumber w.bias (w.delta + 1) digitCount w.delta }
  else w

/-- Writes the insertions of code points in ascending order; `before` is the one after which they come. -/
def writeInsertions (s : Text) : (before : Nat) → Writing → List Nat → Writing
  | _, w, [] => w
  | before, w, n :: r =>
    let w' := s.foldl (Writing.pass n) { w with delta := w.delta + (n - before) * (w.count + 1) }
    writeInsertions s (n + 1) { w' with delta := w'.delta + 1 } r

/-- Puts a number into an ascending list unless it is there. -/
def insertCode (n : Nat) : List Nat → List Nat
  | [] => [n]
  | m :: r => if n < m then n :: m :: r else if n = m then m :: r else m :: insertCode n r

/-- Writes a label. -/
def encode (s : Text) : Text :=
  let base := s.filter fun c => c.toNat < firstCode
  let codes := ((s.map Char.toNat).filter (firstCode ≤ ·)).foldr insertCode []
  let w := writeInsertions s firstCode ⟨0, firstBias, base.length, true, []⟩ codes
  base ++ (if base.isEmpty then [] else ['-']) ++ w.out

end StylePrune.Idna
