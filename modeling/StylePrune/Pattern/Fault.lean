import StylePrune.Text.Basic

/-!
What can be wrong with a pattern, and how it is shown.

`Fault.report` shows the pattern with marks below the characters that a fault is about.
-/
namespace StylePrune.Pattern

/-- What is wrong with a pattern. -/
inductive Cause where
  | classEscapeInvalid
  | classRangeInvalid
  | classRangeLiteral
  | classUnclosed
  | decimalInvalid
  | escapeHexEmpty
  | escapeHexInvalid
  | escapeHexInvalidDigit
  | escapeUnexpectedEnd
  | escapeUnrecognized
  | flagDanglingNegation
  | flagDuplicate
  | flagRepeatedNegation
  | flagUnexpectedEnd
  | flagUnrecognized
  | groupNameDuplicate
  | groupNameEmpty
  | groupNameInvalid
  | groupNameUnexpectedEnd
  | groupUnclosed
  | groupUnopened
  | nestedTooDeep
  | countInvalid
  | countEmpty
  | countUnclosed
  | repetitionMissing
  | boundaryUnclosed
  | boundaryUnrecognized
  | boundaryUnexpectedEnd
  | unicodeClassInvalid
  | backreference
  | lookAround
  | invalidBytes
  | unknownProperty
  | unknownPropertyValue
  | unicodeNotAllowed
deriving DecidableEq

/-- The words for what is wrong. -/
def Cause.message : Cause → String
  | classEscapeInvalid => "invalid escape sequence found in character class"
  | classRangeInvalid => "invalid character class range, the start must be <= the end"
  | classRangeLiteral => "invalid range boundary, must be a literal"
  | classUnclosed => "unclosed character class"
  | decimalInvalid => "decimal literal invalid"
  | escapeHexEmpty => "hexadecimal literal empty"
  | escapeHexInvalid => "hexadecimal literal is not a Unicode scalar value"
  | escapeHexInvalidDigit => "invalid hexadecimal digit"
  | escapeUnexpectedEnd => "incomplete escape sequence, reached end of pattern prematurely"
  | escapeUnrecognized => "unrecognized escape sequence"
  | flagDanglingNegation => "dangling flag negation operator"
  | flagDuplicate => "duplicate flag"
  | flagRepeatedNegation => "flag negation operator repeated"
  | flagUnexpectedEnd => "expected flag but got end of regex"
  | flagUnrecognized => "unrecognized flag"
  | groupNameDuplicate => "duplicate capture group name"
  | groupNameEmpty => "empty capture group name"
  | groupNameInvalid => "invalid capture group character"
  | groupNameUnexpectedEnd => "unclosed capture group name"
  | groupUnclosed => "unclosed group"
  | groupUnopened => "unopened group"
  | nestedTooDeep => "exceed the maximum number of nested parentheses/brackets (250)"
  | countInvalid => "invalid repetition count range, the start must be <= the end"
  | countEmpty => "repetition quantifier expects a valid decimal"
  | countUnclosed => "unclosed counted repetition"
  | repetitionMissing => "repetition operator missing expression"
  | boundaryUnclosed =>
    "special word boundary assertion is either unclosed or contains an invalid character"
  | boundaryUnrecognized =>
    "unrecognized special word boundary assertion, valid choices are: start, end, start-half or end-half"
  | boundaryUnexpectedEnd =>
    "found either the beginning of a special word boundary or a bounded repetition on a \\b with an opening brace, but no closing brace"
  | unicodeClassInvalid => "invalid Unicode character class"
  | backreference => "backreferences are not supported"
  | lookAround => "look-around, including look-ahead and look-behind, is not supported"
  | invalidBytes => "pattern can match invalid UTF-8"
  | unknownProperty => "Unicode property not found"
  | unknownPropertyValue => "Unicode property value not found"
  | unicodeNotAllowed => "Unicode not allowed here"

/-- A place in a pattern: its line and column, both counted from 1. -/
structure Spot where
  line : Nat
  column : Nat
deriving DecidableEq

/-- A stretch of a pattern, up to a place behind it. -/
structure Span where
  start : Spot
  finish : Spot
deriving DecidableEq

/-- A cause with the stretch it is about, and another one where two stretches clash. -/
structure Fault where
  cause : Cause
  span : Span
  other : Option Span

/-- A line that a line feed ends, without a carriage return before it. -/
def withoutReturn (line : Text) : Text := if line.getLast? = some '\r' then line.dropLast else line

/-- The lines of a text, without an empty one at the end. -/
def linesOf (pattern : Text) : List Text :=
  match (Text.splitOnChar '\n' pattern).reverse with
  | [] => []
  | last :: before =>
    (before.map withoutReturn).reverse ++ (if last.isEmpty then [] else [last])

/-- A count of blanks. -/
def blanks (n : Nat) : Text := List.replicate n ' '

/-- Marks below stretches of one line, the first stretch first; where the marking goes on. -/
def marks (column : Nat) : List Span → Text
  | [] => []
  | s :: r =>
    let width := max 1 (s.finish.column - s.start.column)
    let gap := (s.start.column - 1) - column
    blanks gap ++ List.replicate width '^' ++ marks (column + gap + width) r

/-- A stretch comes before another one. -/
def Span.before (a b : Span) : Bool :=
  a.start.line < b.start.line || (a.start.line == b.start.line && (a.start.column < b.start.column
    || (a.start.column == b.start.column && a.finish.column ≤ b.finish.column)))

/-- The stretches that a fault is about, in order. -/
def Fault.spans (f : Fault) : List Span :=
  match f.other with
  | none => [f.span]
  | some o => if f.span.before o then [f.span, o] else [o, f.span]

/-- The pattern with marks below the stretches that a fault is about, and what is wrong. -/
def Fault.report (pattern : Text) (f : Fault) : Text :=
  let lines := linesOf pattern
  let count := lines.length + (if pattern.getLast? = some '\n' then 1 else 0)
  let width := if count ≤ 1 then 0 else (Text.ofNat count).length
  let inLine (s : Span) : Bool := s.start.line == s.finish.line
  let front (i : Nat) : Text :=
    if width = 0 then blanks 4
    else
      let n := Text.ofNat (i + 1)
      blanks (width - n.length) ++ n ++ ": ".toList
  let pad := if width = 0 then 4 else width + 2
  let shown := lines.zipIdx.map fun (l, i) =>
    let here := f.spans.filter fun s => inLine s && s.start.line == i + 1
    front i ++ l ++ ['\n'] ++ (if here.isEmpty then [] else blanks pad ++ marks 0 here ++ ['\n'])
  let notes := (f.spans.filter fun s => !inLine s).map fun s =>
    "on line ".toList ++ Text.ofNat s.start.line ++ " (column ".toList ++ Text.ofNat s.start.column
      ++ ") through line ".toList ++ Text.ofNat s.finish.line ++ " (column ".toList
      ++ Text.ofNat (s.finish.column - 1) ++ [')']
  let divider := if pattern.contains '\n' then List.replicate 79 '~' ++ ['\n'] else []
  let noteText := if divider.isEmpty || notes.isEmpty then [] else Text.join ['\n'] notes ++ ['\n']
  "regex parse error:\n".toList ++ divider ++ shown.flatten ++ divider ++ noteText ++ "error: ".toList
    ++ f.cause.message.toList

end StylePrune.Pattern
