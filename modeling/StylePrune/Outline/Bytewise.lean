import StylePrune.Outline.Node
import StylePrune.Text.Utf8

/-!
The outline of a stylesheet, read from its bytes.

`Bytewise.nodes` walks over the bytes of a stylesheet by their offsets and cuts the parts of a node out of the text
between offsets. Everything that can go wrong on such a walk is checked where it could happen and reported as a
`Mishap`: a byte read outside the text, a depth below zero, a cut whose ends are not in order, not in the text or
inside a character, and a round of a loop that does not get ahead and so would go on for ever.
-/
namespace StylePrune.Outline.Bytewise

/-- What can go wrong on a walk over bytes. -/
inductive Mishap where
  /-- There is no byte at the offset. -/
  | noByte (offset : Nat)
  /-- A brace closes what no brace opened. -/
  | depthBelowZero
  /-- These are not the two ends of a part of the text. -/
  | badCut (start stop : Nat)
  /-- A round of a loop that starts here does not get ahead. -/
  | standstill (offset : Nat)
deriving DecidableEq, Repr

/-- The outcome of something that can go wrong. -/
abbrev Checked := Except Mishap

/-! ## Bytes -/

/-- The byte at an offset. -/
def byteAt (bytes : List UInt8) (i : Nat) : Checked UInt8 :=
  match bytes[i]? with
  | some b => pure b
  | none => throw (.noByte i)

/-- The byte of an ASCII character. -/
def ascii (c : Char) : UInt8 := c.toNat.toUInt8

/-- The bytes of ASCII white space. -/
def isBlankByte (b : UInt8) : Bool :=
  b == ascii ' ' || b == ascii '\t' || b == ascii '\n' || b == ascii '\x0c' || b == ascii '\r'

/-- A comment starts at the offset. -/
def opensComment (bytes : List UInt8) (i : Nat) : Checked Bool := do
  let b ← byteAt bytes i
  return b == ascii '/' && bytes[i + 1]? == some (ascii '*')

/-- The offset behind a comment, from an offset inside it. -/
def commentEnd (bytes : List UInt8) (i : Nat) : Checked Nat :=
  if i + 1 < bytes.length then do
    let b ← byteAt bytes i
    let ends ← if b == ascii '*' then (· == ascii '/') <$> byteAt bytes (i + 1) else pure false
    if ends then pure (i + 2) else commentEnd bytes (i + 1)
  else pure bytes.length
termination_by bytes.length - i

/-- The offset behind a string, from an offset inside it. A backslash takes the next byte along. -/
def stringEnd (bytes : List UInt8) (quote : UInt8) (i : Nat) : Checked Nat :=
  if i < bytes.length then do
    let b ← byteAt bytes i
    if b == ascii '\\' then stringEnd bytes quote (i + 2)
    else if b == ascii '\n' || b == quote then pure (i + 1)
    else stringEnd bytes quote (i + 1)
  else pure bytes.length
termination_by bytes.length - i

/-- The offset behind the string, escape or comment that starts at an offset; none if none does. -/
def skip? (bytes : List UInt8) (i : Nat) : Checked (Option Nat) := do
  let b ← byteAt bytes i
  if b == ascii '"' || b == ascii '\'' then some <$> stringEnd bytes b (i + 1)
  else if b == ascii '\\' then pure (some (i + 2))
  else if ← opensComment bytes i then some <$> commentEnd bytes (i + 2)
  else pure none

/-- The offset of the brace that closes the block whose opening brace stands at an offset, or the end. `depth` counts
the braces that are open in front of the offset. -/
def closingBrace (bytes : List UInt8) (depth i : Nat) : Checked Nat :=
  if i < bytes.length then do
    match ← skip? bytes i with
    | some j => if i < j then closingBrace bytes depth j else throw (.standstill i)
    | none =>
      let b ← byteAt bytes i
      if b == ascii '{' then closingBrace bytes (depth + 1) (i + 1)
      else if b == ascii '}' then
        if depth = 0 then throw .depthBelowZero
        else if depth = 1 then pure i
        else closingBrace bytes (depth - 1) (i + 1)
      else closingBrace bytes depth (i + 1)
  else pure bytes.length
termination_by bytes.length - i

/-! ## Cuts -/

/-- The text without its first `n` bytes; none if it has no character that starts there. -/
def dropBytes? : Nat → Text → Option Text
  | 0, s => some s
  | _ + 1, [] => none
  | n + 1, c :: s => if Text.charBytes c ≤ n + 1 then dropBytes? (n + 1 - Text.charBytes c) s else none

/-- The first `n` bytes of a text; none if it has no character that ends there. -/
def takeBytes? : Nat → Text → Option Text
  | 0, _ => some []
  | _ + 1, [] => none
  | n + 1, c :: s =>
    if Text.charBytes c ≤ n + 1 then (takeBytes? (n + 1 - Text.charBytes c) s).map (c :: ·) else none

/-- The part of a text between two offsets. -/
def cut (s : Text) (start stop : Nat) : Checked Text :=
  match if start ≤ stop then (dropBytes? start s).bind (takeBytes? (stop - start)) else none with
  | some t => pure t
  | none => throw (.badCut start stop)

/-- The node between two offsets, with the offset at which its prelude ends and the offsets between which the inside
of its block lies. -/
def cutNode (css : Text) (start preludeEnd : Nat) (block : Option (Nat × Nat)) (stop : Nat) :
    Checked (Option Node) := do
  let whole := Text.trim (← cut css start stop)
  if whole.isEmpty then return none
  match Text.trim (← cut css start preludeEnd) with
  | '@' :: r =>
    let nameEnd := Text.byteCount (r.takeWhile isNameChar)
    let name ← cut r 0 nameEnd
    let params ← cut r nameEnd (Text.byteCount r)
    let body ← block.mapM fun (i, j) => cut css i j
    return some (.atRule name (Text.trim params) body whole)
  | _ => return some (.rule whole)

/-! ## The walk -/

mutual
/-- The nodes from an offset between nodes on. -/
def between (css : Text) (bytes : List UInt8) (i : Nat) : Checked (List Node) :=
  if i < bytes.length then do
    let b ← byteAt bytes i
    if isBlankByte b || b == ascii '}' then between css bytes (i + 1)
    else if ← opensComment bytes i then
      let j ← commentEnd bytes (i + 2)
      if i < j then between css bytes j else throw (.standstill i)
    else inPrelude css bytes i i
  else pure []
termination_by (bytes.length - i, 1)

/-- The nodes from an offset in a prelude on, which started at `start`. -/
def inPrelude (css : Text) (bytes : List UInt8) (start i : Nat) : Checked (List Node) :=
  if i < bytes.length then do
    match ← skip? bytes i with
    | some j => if i < j then inPrelude css bytes start j else throw (.standstill i)
    | none =>
      let b ← byteAt bytes i
      if b == ascii ';' then
        let node ← cutNode css start i none (i + 1)
        let others ← between css bytes (i + 1)
        return node.toList ++ others
      else if b == ascii '{' then
        let close ← closingBrace bytes 0 i
        let stop := min (close + 1) bytes.length
        let node ← cutNode css start i (some (i + 1, close)) stop
        let others ← if i < stop then between css bytes stop else throw (.standstill i)
        return node.toList ++ others
      else inPrelude css bytes start (i + 1)
  else Option.toList <$> cutNode css start bytes.length none bytes.length
termination_by (bytes.length - i, 0)
end

/-- The top-level nodes of a stylesheet, in order. -/
def nodes (css : Text) : Checked (List Node) := between css (Text.toBytes css) 0

end StylePrune.Outline.Bytewise
