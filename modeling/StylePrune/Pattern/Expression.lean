import StylePrune.Pattern.Fault
import StylePrune.Pattern.Node

/-!
Patterns as they are written.

An expression keeps where its parts stand, so that a fault in what a part means can be shown.
`Expression.tooDeep?` finds the first part that is nested too deeply.
-/
namespace StylePrune.Pattern

/-- A character as it was written; `isByte` says that it was given by a code of one byte. -/
structure Literal where
  char : Char
  isByte : Bool
  span : Span

/-- A class of characters with a name. -/
inductive NamedClass where
  | decimal
  | blank
  | word
  /-- A property, perhaps with a value. -/
  | property (name : Text) (value : Option Text)

/-- A named class where it stands, perhaps negated. -/
structure NamedPart where
  cls : NamedClass
  negated : Bool
  span : Span

/-- An operator between sets. -/
inductive SetOperator where
  | both
  | less
  | onlyOne

/-- A set of characters as it is written. -/
inductive SetExpression where
  | empty
  | literal (l : Literal)
  | range (lo hi : Literal)
  | ascii (s : CharSet) (negated : Bool) (span : Span)
  | named (p : NamedPart)
  | bracket (negated : Bool) (span : Span) (s : SetExpression)
  | union (span : Span) (items : List SetExpression)
  | operation (o : SetOperator) (span : Span) (a b : SetExpression)

/-- What a position has to be like, as it is written. -/
inductive Anchor where
  | lineStart
  | lineEnd
  | textStart
  | textEnd
  | boundary
  | noBoundary
  | wordStart
  | wordEnd
  | wordStartHalf
  | wordEndHalf

/-- A pattern as it is written. -/
inductive Expression where
  | empty (span : Span)
  /-- Letters of flags, and a hyphen before those that are turned off. -/
  | flags (letters : Text) (span : Span)
  | literal (l : Literal)
  | dot (span : Span)
  | anchor (a : Anchor) (span : Span)
  | named (p : NamedPart)
  | bracket (negated : Bool) (span : Span) (s : SetExpression)
  | repeated (span : Span) (least : Nat) (more : Option Nat) (e : Expression)
  /-- A group with its flags, perhaps one whose match is captured. -/
  | group (span : Span) (captures : Bool) (letters : Text) (e : Expression)
  | either (span : Span) (es : List Expression)
  | concat (span : Span) (es : List Expression)

/-- Where a set stands. -/
def SetExpression.span : SetExpression → Span
  | empty => ⟨⟨1, 1⟩, ⟨1, 1⟩⟩
  | literal l => l.span
  | range lo hi => ⟨lo.span.start, hi.span.finish⟩
  | ascii _ _ s | bracket _ s _ | union s _ | operation _ s _ _ => s
  | named p => p.span

/-- Where an expression stands. -/
def Expression.span : Expression → Span
  | empty s | flags _ s | dot s | anchor _ s | bracket _ s _ | repeated s _ _ _ | group s _ _ _ | either s _
  | concat s _ => s
  | literal l => l.span
  | named p => p.span

/-- The most parts that may be nested in each other. -/
def nestingLimit : Nat := 250

mutual

/-- The first set inside a set that is nested too deeply. -/
def SetExpression.tooDeep? (depth : Nat) : SetExpression → Option Span
  | .bracket _ span s => if depth < nestingLimit then tooDeep? (depth + 1) s else some span
  | .union span items => if depth < nestingLimit then tooDeepAmong? (depth + 1) items else some span
  | .operation _ span a b =>
    if depth < nestingLimit then (tooDeep? (depth + 1) a).or (tooDeep? (depth + 1) b) else some span
  | .empty | .literal _ | .range _ _ | .ascii _ _ _ | .named _ => none

/-- The first set that is nested too deeply inside some sets. -/
def SetExpression.tooDeepAmong? (depth : Nat) : List SetExpression → Option Span
  | [] => none
  | s :: r => (tooDeep? depth s).or (tooDeepAmong? depth r)

end

mutual

/-- The first part of an expression that is nested too deeply, inside `depth` other parts. -/
def Expression.tooDeep? (depth : Nat) : Expression → Option Span
  | .bracket _ span s =>
    if depth < nestingLimit then SetExpression.tooDeep? (depth + 1) s else some span
  | .repeated span _ _ e | .group span _ _ e =>
    if depth < nestingLimit then tooDeep? (depth + 1) e else some span
  | .either span es | .concat span es =>
    if depth < nestingLimit then tooDeepAmong? (depth + 1) es else some span
  | .empty _ | .flags _ _ | .literal _ | .dot _ | .anchor _ _ | .named _ => none

/-- The first part of some expressions that is nested too deeply. -/
def Expression.tooDeepAmong? (depth : Nat) : List Expression → Option Span
  | [] => none
  | e :: r => (tooDeep? depth e).or (tooDeepAmong? depth r)

end

end StylePrune.Pattern
