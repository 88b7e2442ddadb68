import StylePrune.Text.LetterCase
import StylePrune.Text.Trait
import StylePrune.Text.Word

/-!
Patterns and what they match.

`Node.ends` gives the positions at which a match that starts at one of some positions can end. A pattern
occurs in a text if a match can start anywhere in it.
-/
namespace StylePrune.Pattern

/-- A set of characters. -/
inductive CharSet where
  | range (lo hi : Char)
  /-- The characters with a property. -/
  | having (p : Char → Bool)
  | all
  | not (s : CharSet)
  | union (a b : CharSet)
  | inter (a b : CharSet)
  | without (a b : CharSet)
  | exclusive (a b : CharSet)
  /-- The characters that agree with a member up to letter case, perhaps that of ASCII letters only. -/
  | caseless (ascii : Bool) (s : CharSet)

namespace CharSet

/-- The set without members. -/
def none : CharSet := .not .all

/-- The set with one member. -/
def only (c : Char) : CharSet := .range c c

/-- The other spelling of an ASCII letter, and the character itself. -/
def asciiVariants (c : Char) : List Char := [c, c.toLower, c.toUpper]

/-- Membership. -/
def has : CharSet → Char → Bool
  | range lo hi, c => lo.toNat ≤ c.toNat && c.toNat ≤ hi.toNat
  | having p, c => p c
  | all, _ => true
  | not s, c => !has s c
  | union a b, c => has a c || has b c
  | inter a b, c => has a c && has b c
  | without a b, c => has a c && !has b c
  | exclusive a b, c => has a c != has b c
  | caseless true s, c => (asciiVariants c).any fun d => has s d
  | caseless false s, c => (Text.caseVariants c).any fun d => has s d

/-- Word characters. -/
def word (ascii : Bool) : CharSet := .having (if ascii then Text.isAsciiWord else Text.isWord)

/-- Decimal digits. -/
def decimal (ascii : Bool) : CharSet := .having (if ascii then Char.isDigit else Text.isDecimal)

/-- White space. -/
def blank (ascii : Bool) : CharSet :=
  .having (if ascii then fun c => Text.isAsciiBlank c || c == '\x0b' else Text.isBlank)

/-- Every member is below 128, among the first 256 characters. -/
def isAscii (s : CharSet) : Bool := (List.range 128).all fun n => !s.has (Char.ofNat (128 + n))

end CharSet

/-- A position in a text: the character before it and what follows. -/
structure Position where
  before : Option Char
  after : Text

/-- What a position itself has to be like. -/
inductive Look where
  | textStart
  | textEnd
  /-- The start of a line; whether a carriage return ends a line, too. -/
  | lineStart (returns : Bool)
  | lineEnd (returns : Bool)
  | boundary (ascii : Bool)
  | noBoundary (ascii : Bool)
  | wordStart (ascii : Bool)
  | wordEnd (ascii : Bool)
  | wordStartHalf (ascii : Bool)
  | wordEndHalf (ascii : Bool)

namespace Look

/-- A word character stands there. -/
def isWord (ascii : Bool) (c : Option Char) : Bool := c.any (CharSet.word ascii).has

/-- A position is as it has to be. -/
def holds (l : Look) (p : Position) : Bool :=
  let next := p.after.head?
  match l with
  | textStart => p.before.isNone
  | textEnd => p.after.isEmpty
  | lineStart false => p.before.all (· == '\n')
  | lineStart true =>
    p.before.all fun c => c == '\n' || (c == '\r' && next != some '\n')
  | lineEnd false => next.all (· == '\n')
  | lineEnd true =>
    next.all fun c => c == '\r' || (c == '\n' && p.before != some '\r')
  | boundary a => isWord a p.before != isWord a next
  | noBoundary a => isWord a p.before == isWord a next
  | wordStart a => !isWord a p.before && isWord a next
  | wordEnd a => isWord a p.before && !isWord a next
  | wordStartHalf a => !isWord a p.before
  | wordEndHalf a => !isWord a next

end Look

/-- A pattern. -/
inductive Node where
  | empty
  | chars (s : CharSet)
  | look (l : Look)
  | concat (a b : Node)
  | either (a b : Node)
  /-- At least `least` times, and at most `more` times beyond that, or any number of times. -/
  | repeated (n : Node) (least : Nat) (more : Option Nat)
  /-- A group whose match is captured, which changes nothing in what is matched. -/
  | captured (n : Node)

namespace Position

/-- The position behind the next character, if it is in a set. -/
def step (s : CharSet) (p : Position) : Option Position :=
  match p.after with
  | c :: r => if s.has c then some ⟨some c, r⟩ else none
  | [] => none

/-- Adds positions that are not yet among others. Positions in one text differ in what follows. -/
def join (ps : List Position) : List Position → List Position
  | [] => ps
  | q :: r => join (if ps.any fun p => p.after.length == q.after.length then ps else ps ++ [q]) r

/-- Goes on from positions `n` times. -/
def times (go : List Position → List Position) : Nat → List Position → List Position
  | 0, ps => ps
  | n + 1, ps => if ps.isEmpty then [] else times go n (go ps)

/-- All positions reached by going on at most `n` times; those reached last are given apart. -/
def upTo (go : List Position → List Position) : Nat → List Position → List Position → List Position
  | 0, seen, _ => seen
  | n + 1, seen, last =>
    let more := (go last).filter fun q => !seen.any fun p => p.after.length == q.after.length
    if more.isEmpty then seen else upTo go n (join seen more) more

/-- All positions of a text. -/
def allOf (before : Option Char) : Text → List Position
  | [] => [⟨before, []⟩]
  | c :: r => ⟨before, c :: r⟩ :: allOf (some c) r

end Position

namespace Node

/-- Where matches that start at some positions can end. -/
def ends : Node → List Position → List Position
  | empty, ps => ps
  | captured n, ps => ends n ps
  | chars s, ps => ps.filterMap (Position.step s)
  | look l, ps => ps.filter l.holds
  | concat a b, ps => ends b (ends a ps)
  | either a b, ps => Position.join (ends a ps) (ends b ps)
  | repeated n least more, ps =>
    let start := Position.times (ends n) least ps
    let longest := start.foldl (fun m p => max m p.after.length) 0 + 1
    Position.upTo (ends n) ((more.getD longest).min longest) start start

/-- The pattern matches somewhere in a text. -/
def occursIn (n : Node) (t : Text) : Bool := !(n.ends (Position.allOf none t)).isEmpty

end Node
end StylePrune.Pattern
