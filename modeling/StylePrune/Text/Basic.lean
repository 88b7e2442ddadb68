/-!
Texts as lists of characters.

Every scanner of the library recurses on a `Text`, so that a statement about it is an induction on
the list. This module holds what all of them share: membership in a table of ranges, the white space
that trimming removes, joining, and the search for a fixed word.
-/
namespace StylePrune

/-- A text is the list of its characters. -/
abbrev Text := List Char

namespace Text

/-- The number lies in one of the closed ranges. -/
def inRanges (ranges : List (Nat × Nat)) (n : Nat) : Bool :=
  ranges.any fun r => r.1 ≤ n && n ≤ r.2

/-- White space above ASCII. -/
def blankRanges : List (Nat × Nat) :=
  [(0x85, 0x85), (0xa0, 0xa0), (0x1680, 0x1680), (0x2000, 0x200a), (0x2028, 0x2029),
   (0x202f, 0x202f), (0x205f, 0x205f), (0x3000, 0x3000)]

/-- White space of any script: the characters that `trim` removes and that separate words. -/
def isBlank (c : Char) : Bool :=
  (0x9 ≤ c.toNat && c.toNat ≤ 0xd) || c == ' ' || inRanges blankRanges c.toNat

/-- The five ASCII white space characters of markup and stylesheets. -/
def isAsciiBlank (c : Char) : Bool :=
  c == ' ' || c == '\t' || c == '\n' || c == '\x0c' || c == '\r'

/-- Removes characters of a class from the end. -/
def dropEndWhile (p : Char → Bool) (s : Text) : Text := (s.reverse.dropWhile p).reverse

/-- Removes white space from the start. -/
def trimStart (s : Text) : Text := s.dropWhile isBlank

/-- Removes white space from the end. -/
def trimEnd (s : Text) : Text := dropEndWhile isBlank s

/-- Removes white space from both ends. -/
def trim (s : Text) : Text := trimEnd (trimStart s)

/-- The parts in order with a separator between neighbours. -/
def join (sep : Text) : List Text → Text
  | [] => []
  | [t] => t
  | t :: u :: r => t ++ sep ++ join sep (u :: r)

/-- What follows a given start, when the text has it. -/
def dropPrefix? : Text → Text → Option Text
  | [], s => some s
  | _ :: _, [] => none
  | p :: ps, c :: cs => if p = c then dropPrefix? ps cs else none

/-- The text starts with the given one. -/
def startsWith (p s : Text) : Bool := (dropPrefix? p s).isSome

/-- The text contains the given one. -/
def hasInfix (p : Text) : Text → Bool
  | [] => p.isEmpty
  | c :: r => startsWith p (c :: r) || hasInfix p r

/-- The maximal runs of characters outside a class, in order, empty ones left out. -/
def wordsBy (p : Char → Bool) : Text → List Text
  | [] => []
  | c :: r =>
    if p c then wordsBy p r
    else match r with
      | [] => [[c]]
      | d :: _ =>
        if p d then [c] :: wordsBy p r
        else match wordsBy p r with
          | [] => [[c]]
          | w :: ws => (c :: w) :: ws

/-- The words of a text, separated by white space. -/
def words (s : Text) : List Text := wordsBy isBlank s

/-- Cuts at every occurrence of a character; there is always one more part than cuts. -/
def splitOnChar (sep : Char) : Text → List Text
  | [] => [[]]
  | c :: r =>
    match splitOnChar sep r with
    | [] => [[c]]
    | p :: ps => if c = sep then [] :: p :: ps else (c :: p) :: ps

/-- Code points in ascending order, the shorter text first among equals. -/
def compareCodes : Text → Text → Ordering
  | [], [] => .eq
  | [], _ :: _ => .lt
  | _ :: _, [] => .gt
  | a :: r, b :: s => if a.toNat < b.toNat then .lt else if b.toNat < a.toNat then .gt else compareCodes r s

/-- Puts a text into an ascending list of texts once. -/
def insertSorted (t : Text) : List Text → List Text
  | [] => [t]
  | u :: r =>
    match compareCodes t u with
    | .lt => t :: u :: r
    | .eq => u :: r
    | .gt => u :: insertSorted t r

/-- The distinct texts in ascending order of code points. -/
def sortedSet (ts : List Text) : List Text := ts.foldr insertSorted []

/-- Decimal digits of a natural number. -/
def ofNat (n : Nat) : Text := (toString n).toList

end Text
end StylePrune
