import StylePrune.Text.Basic

/-!
How similar two words are, to guess what a misspelt one was meant to be.

Two equal letters match if their places lie near each other. The score is the mean of the matched part of
either word and the part of the matches that stand in the same order.
-/
namespace StylePrune.CommandLine

/-- A word whose letters are marked when they are matched. -/
abbrev Marked := List (Char × Bool)

/-- Marks the first unmarked letter that is equal to one, at a place from `low` up to below `high`. -/
def markFrom (c : Char) (low high : Nat) : Nat → Marked → Option Marked
  | _, [] => none
  | i, (d, taken) :: r =>
    if low ≤ i ∧ i < high ∧ c = d ∧ taken = false then some ((d, true) :: r)
    else (markFrom c low high (i + 1) r).map ((d, taken) :: ·)

/-- The letters of one word that match, in order, and the other word with its matches marked. -/
def matchLetters (reach : Nat) : Nat → Text → Marked → Text × Marked
  | _, [], b => ([], b)
  | i, c :: r, b =>
    match markFrom c (i - reach) (i + reach + 1) 0 b with
    | some b' =>
      let (cs, b'') := matchLetters reach (i + 1) r b'
      (c :: cs, b'')
    | none => matchLetters reach (i + 1) r b

/-- A score as a fraction. -/
structure Score where
  part : Nat
  whole : Nat
deriving DecidableEq, Repr

/-- One score is less than another. -/
def Score.less (s t : Score) : Bool := s.part * t.whole < t.part * s.whole

/-- How similar two words are. -/
def similarity (a b : Text) : Score :=
  let reach := max a.length b.length / 2 - 1
  let (left, marked) := matchLetters reach 0 a (b.map fun c => (c, false))
  let right := (marked.filter Prod.snd).map Prod.fst
  let n := left.length
  let moved := ((left.zip right).filter fun p => p.1 != p.2).length / 2
  if n = 0 then ⟨0, 1⟩
  else ⟨n * n * (a.length + b.length) + (n - moved) * a.length * b.length, 3 * n * a.length * b.length⟩

/-- A word is guessed only if the score is above this one. -/
def leastScore : Score := ⟨7, 10⟩

/-- Of the words that are similar enough the most similar one; of equally similar ones the last. -/
def guess? (word : Text) (choices : List Text) : Option Text :=
  (choices.foldl (fun best c =>
    let s := similarity word c
    if !leastScore.less s then best
    else match best with
      | some (t, _) => if s.less t then best else some (s, c)
      | none => some (s, c)) (none : Option (Score × Text))).map Prod.snd

end StylePrune.CommandLine
