import StylePrune.Pattern.Node

/-!
How large a pattern is once it has been compiled.

A pattern is compiled into an automaton that reads bytes, once from the left and once from the right.
`Node.isTooLarge` says that one of them takes more than `sizeLimit` bytes.
-/
namespace StylePrune.Pattern

/-- The most bytes that a compiled pattern may take. -/
def sizeLimit : Nat := 10485760

/-- What is said about a pattern that takes more. -/
def sizeReport : Text :=
  "Compiled regex exceeds size limit of ".toList ++ Text.ofNat sizeLimit ++ " bytes.".toList

/-- The bytes that a state takes. -/
def stateSize : Nat := 32

/-! ## Classes -/

/-- The bytes from a first to a last one. -/
abbrev ByteRange := Nat × Nat

namespace Utf8

/-- A range of code points cut where a condition says so: the parts before and from the second number. -/
def cutAt (at_ : Nat) (ranges : List (Nat × Nat)) : List (Nat × Nat) :=
  ranges.flatMap fun (a, b) => if a < at_ && at_ ≤ b then [(a, at_ - 1), (at_, b)] else [(a, b)]

/-- A range of code points of one length cut until each byte but the last runs over whole blocks. -/
def align (block : Nat) (r : Nat × Nat) : List (Nat × Nat) :=
  let (a, b) := r
  if a / block = b / block then [r]
  else
    let head := if a % block = 0 then [] else [(a, (a / block + 1) * block - 1)]
    let from_ := if a % block = 0 then a else (a / block + 1) * block
    let to_ := if b % block = block - 1 then b else b / block * block - 1
    let tail := if b % block = block - 1 then [] else [(b / block * block, b)]
    head ++ (if from_ ≤ to_ then [(from_, to_)] else []) ++ tail

/-- The bytes of a code point. -/
def bytes (n : Nat) : List Nat :=
  if n < 0x80 then [n]
  else if n < 0x800 then [0xc0 + n / 64, 0x80 + n % 64]
  else if n < 0x10000 then [0xe0 + n / 4096, 0x80 + n / 64 % 64, 0x80 + n % 64]
  else [0xf0 + n / 262144, 0x80 + n / 4096 % 64, 0x80 + n / 64 % 64, 0x80 + n % 64]

/-- Ranges of code points as sequences of ranges of bytes. -/
def sequences (ranges : List (Nat × Nat)) : List (List ByteRange) :=
  let cut := cutAt 0x80 (cutAt 0x800 (cutAt 0x10000 ranges))
  let parts := cut.flatMap fun r =>
    if r.2 < 0x80 then [r]
    else ((align 64 r).flatMap (align 4096)).flatMap (align 262144)
  parts.map fun (a, b) => (bytes a).zip (bytes b)

end Utf8

namespace CharSet

/-- Code points at which members are looked for: all of the lower planes, and every sixteenth one above. -/
def probes : List Nat :=
  (List.range 0x20000).filter (fun n => n < 0xd800 || 0xdfff < n)
    ++ (List.range 0xf000).map fun n => 0x20000 + 16 * n

/-- The ranges of members. -/
def ranges (s : CharSet) : List (Nat × Nat) :=
  let step (acc : List (Nat × Nat) × Nat) (n : Nat) : List (Nat × Nat) × Nat :=
    let width := if n < 0x20000 then 0 else 15
    if s.has (Char.ofNat n) then
      match acc.1 with
      | (a, b) :: r =>
        if b = acc.2 && (b + 1 = n || n = 0xe000) && n ≠ 0xe000 then ((a, n + width) :: r, n + width)
        else ((n, n + width) :: acc.1, n + width)
      | [] => ([(n, n + width)], n + width)
    else (acc.1, acc.2)
  (probes.foldl step ([], 0)).1.reverse

/-- What stands behind each first range of bytes, those with the same first range together. -/
def behind : List (List ByteRange) → List (ByteRange × List (List ByteRange))
  | [] => []
  | [] :: r => behind r
  | (b :: bs) :: r =>
    match behind r with
    | (c, tails) :: more => if b = c then (c, bs :: tails) :: more else (b, [bs]) :: (c, tails) :: more
    | [] => [(b, [bs])]

/-- The states behind the first bytes of sequences, level by level. -/
def statesBelow : Nat → List (List ByteRange) → List (List (List ByteRange))
  | 0, _ => []
  | fuel + 1, seqs =>
    let next := ((behind seqs).map (·.2)).filter fun tails => tails.any fun t => !t.isEmpty
    next ++ next.flatMap (statesBelow fuel)

/-- Members of a list, each once. -/
def distinct {α : Type} [BEq α] (l : List α) : List α :=
  l.foldl (fun acc a => if acc.contains a then acc else a :: acc) []

/-- The size of a state that chooses between sequences. -/
def choiceSize (seqs : List (List ByteRange)) : Nat := stateSize + 8 * (behind seqs).length

/-- The bytes that a class takes, read from the left and from the right. -/
def size (s : CharSet) : Nat × Nat :=
  let seqs := Utf8.sequences s.ranges
  if seqs.all (·.length = 1) then
    let n := 2 * stateSize + 8 * seqs.length
    (n, n)
  else
    let forward := stateSize + choiceSize seqs + ((distinct (statesBelow 4 seqs)).map choiceSize).foldr (· + ·) 0
    let starts := seqs.flatMap fun q => (List.range q.length).map fun i => q.take (i + 1)
    (forward, 2 * stateSize + stateSize * (distinct starts).length + 4 * seqs.length)

/-- A class surely takes no more bytes than this. -/
def sizeBound : Nat := 200000

/-- The only member, where that can be seen. -/
def only? : CharSet → Option Char
  | range lo hi => if lo = hi then some lo else Option.none
  | _ => Option.none

end CharSet

namespace Node

/-- The sizes of both automata, added up. -/
def plus (a b : Nat × Nat) : Nat × Nat := (a.1 + b.1, a.2 + b.2)

/-- The sizes of both automata, a number of times. -/
def copies (n : Nat) (a : Nat × Nat) : Nat × Nat := (n * a.1, n * a.2)

/-- The sizes of some states. -/
def states (n : Nat) : Nat × Nat := (n * stateSize, n * stateSize)

/-- The empty string matches. -/
def matchesEmpty : Node → Bool
  | empty | look _ => true
  | chars _ => false
  | captured n => matchesEmpty n
  | concat a b => matchesEmpty a && matchesEmpty b
  | either a b => matchesEmpty a || matchesEmpty b
  | repeated n least _ => least = 0 || matchesEmpty n

/-- The class that a choice between characters comes to, if it is one. -/
def class? : Node → Option CharSet
  | chars s => some s
  | either a b => match class? a, class? b with
    | some s, some t => some (.union s t)
    | _, _ => none
  | _ => none

/-- The sizes of both automata of a pattern, given those of classes. -/
def sizeWith (ofClass : CharSet → Nat × Nat) : Node → Nat × Nat
  | empty => (0, 0)
  | look _ => states 1
  | chars s => match s.only? with
    | some c => states (Utf8.bytes c.toNat).length
    | none => ofClass s
  | captured n => plus (2 * stateSize, 0) (sizeWith ofClass n)
  | concat a b => plus (sizeWith ofClass a) (sizeWith ofClass b)
  | either a b => match (either a b).class? with
    | some s => ofClass s
    | none => plus (states 2) (plus (sizeWith ofClass a) (sizeWith ofClass b))
  | repeated n least more =>
    let one := sizeWith ofClass n
    let again := plus (states 1) (8, 8)
    match more with
    | some m => plus (copies least one) (copies m (plus one again))
    | none =>
      if least = 0 then plus one (if n.matchesEmpty then plus again again else again)
      else plus (copies least one) again

/-- One of the automata takes more bytes than it may. Classes are only looked at where that may matter. -/
def isTooLarge (n : Node) : Bool :=
  let exceeds (s : Nat × Nat) : Bool := sizeLimit < s.1 || sizeLimit < s.2
  exceeds (n.sizeWith fun _ => (CharSet.sizeBound, CharSet.sizeBound)) && exceeds (n.sizeWith CharSet.size)

end Node
end StylePrune.Pattern
