import StylePrune.Pattern.Property

/-!
Reading patterns as expressions.

`Expression.parse` reads a pattern as it is written or says why it is not well-formed.
-/
namespace StylePrune.Pattern

/-- A letter of a flag. -/
def isFlagLetter (c : Char) : Bool := "imsUuRx".toList.contains c

/-- What is left of a pattern, where that stands, whether blanks have no meaning, and the names of groups
so far. -/
structure State where
  rest : Text
  spot : Spot
  spaced : Bool
  names : List (Text × Span)

/-- A reader of a pattern. -/
abbrev Scan := StateT State (Except Fault)

namespace Scan

/-- Stops with a fault. -/
def fail {α : Type} (cause : Cause) (start finish : Spot) : Scan α := throw ⟨cause, ⟨start, finish⟩, none⟩

/-- Where reading goes on. -/
def spot : Scan Spot := do return (← get).spot

/-- The next character. -/
def peek : Scan (Option Char) := do return (← get).rest.head?

/-- The place behind a character. -/
def behind (s : Spot) (c : Char) : Spot := if c == '\n' then ⟨s.line + 1, 1⟩ else ⟨s.line, s.column + 1⟩

/-- The place behind the next character. -/
def spotAfter : Scan Spot := do
  let s ← get
  return s.rest.head?.elim s.spot (behind s.spot)

/-- Stops with a fault about the next character. -/
def failHere {α : Type} (cause : Cause) : Scan α := do fail cause (← spot) (← spotAfter)

/-- Stops with a fault about no character. -/
def failBetween {α : Type} (cause : Cause) : Scan α := do fail cause (← spot) (← spot)

/-- Passes a character; whether there is another one. -/
def bump : Scan Bool := do
  let s ← get
  match s.rest with
  | [] => return false
  | c :: r =>
    set { s with rest := r, spot := behind s.spot c }
    return !r.isEmpty

/-- Passes some text, if it comes next. -/
def bumpIf (t : String) : Scan Bool := do
  match Text.dropPrefix? t.toList (← get).rest with
  | none => return false
  | some r =>
    modify fun s => { s with rest := r, spot := t.toList.foldl behind s.spot }
    return true

/-- Passes the first of some texts that comes next, if one does. -/
def bumpOne : List String → Scan Bool
  | [] => return false
  | t :: r => do if ← bumpIf t then return true else bumpOne r

/-- Passes blanks and remarks. -/
def skipBlanks (remark : Bool) (spot : Spot) : Text → Spot × Text
  | [] => (spot, [])
  | c :: r =>
    if remark then skipBlanks (c != '\n') (behind spot c) r
    else if Text.isBlank c then skipBlanks false (behind spot c) r
    else if c == '#' then skipBlanks true (behind spot c) r
    else (spot, c :: r)

/-- Passes blanks and remarks where they have no meaning. -/
def bumpSpace : Scan Unit := modify fun s =>
  if s.spaced then
    let (spot, rest) := skipBlanks false s.spot s.rest
    { s with spot, rest }
  else s

/-- Passes a character and the blanks behind it; whether there is another one. -/
def bumpBoth : Scan Bool := do
  if !(← bump) then return false
  bumpSpace
  return (← peek).isSome

/-- The character behind the next one, blanks passed over. -/
def peekSpace : Scan (Option Char) := do
  let s ← get
  match s.rest with
  | [] => return none
  | _ :: r =>
    if s.spaced then return (skipBlanks false s.spot r).2.head? else return r.head?

/-! ## Parts -/

/-- A part of a pattern that stands for one position or character. -/
inductive Primitive where
  | literal (l : Literal)
  | anchor (a : Anchor) (span : Span)
  | dot (span : Span)
  | named (p : NamedPart)

/-- Where a part stands. -/
def Primitive.span : Primitive → Span
  | literal l => l.span
  | anchor _ s | dot s => s
  | named p => p.span

/-- A hexadecimal digit. -/
def isHex (c : Char) : Bool := c.isDigit || ('a' ≤ c && c ≤ 'f') || ('A' ≤ c && c ≤ 'F')

/-- The value of hexadecimal digits. -/
def hexValue (t : Text) : Nat := t.foldl (fun n c =>
  n * 16 + (if c.isDigit then c.toNat - 48 else (Text.lowerAsciiChar c).toNat - 87)) 0

/-- The character with a code. -/
def charOf? (n : Nat) : Option Char :=
  if n < 0xd800 || (0xe000 ≤ n && n < 0x110000) then some (Char.ofNat n) else none

/-- A given number of hexadecimal digits. -/
def hexDigits : Nat → Bool → Scan Text
  | 0, _ => return []
  | n + 1, first => do
    let more ← if first then pure true else bumpBoth
    if !more then failBetween .escapeUnexpectedEnd
    match ← peek with
    | some c => if isHex c then return c :: (← hexDigits n false) else failHere .escapeHexInvalidDigit
    | none => failBetween .escapeUnexpectedEnd

/-- Hexadecimal digits up to a closing brace. -/
def hexInBraces : Nat → Spot → Scan Text
  | 0, _ => return []
  | fuel + 1, brace => do
    if !(← bumpBoth) then fail .escapeUnexpectedEnd brace (← spot)
    match ← peek with
    | some '}' => return []
    | some c => if isHex c then return c :: (← hexInBraces fuel brace) else failHere .escapeHexInvalidDigit
    | none => fail .escapeUnexpectedEnd brace (← spot)

/-- A character by its code, and whether that stands in braces. -/
def hex (digits : Nat) : Scan (Char × Bool) := do
  if !(← bumpBoth) then failBetween .escapeUnexpectedEnd
  if (← peek) = some '{' then
    let brace ← spot
    let start ← spotAfter
    let t ← hexInBraces ((← get).rest.length + 1) brace
    let finish ← spot
    let _ ← bumpBoth
    if t.isEmpty then fail .escapeHexEmpty brace (← spot)
    match charOf? (hexValue t) with
    | some c => return (c, true)
    | none => fail .escapeHexInvalid start finish
  else
    let start ← spot
    let t ← hexDigits digits true
    let _ ← bumpBoth
    match charOf? (hexValue t) with
    | some c => return (c, false)
    | none => fail .escapeHexInvalid start (← spot)

/-- The name of a class up to a closing brace. -/
def nameInBraces : Nat → Scan Text
  | 0 => return []
  | fuel + 1 => do
    if !(← bumpBoth) then failBetween .escapeUnexpectedEnd
    match ← peek with
    | some '}' => return []
    | some c => return c :: (← nameInBraces fuel)
    | none => failBetween .escapeUnexpectedEnd

/-- What stands before and behind the first occurrence of a separator. -/
def cutAt (sep : Text) : Text → Text → Option (Text × Text)
  | _, [] => none
  | before, c :: r =>
    match Text.dropPrefix? sep (c :: r) with
    | some rest => some (before.reverse, rest)
    | none => cutAt sep (c :: before) r

/-- A class by the name of a property. -/
def unicodeClass (start : Spot) : Scan Primitive := do
  let negated := (← peek) = some 'P'
  if !(← bumpBoth) then failBetween .escapeUnexpectedEnd
  let (name, value, differs) ← do
    if (← peek) = some '{' then
      let t ← nameInBraces ((← get).rest.length + 1)
      let _ ← bump
      pure <| match cutAt "!=".toList [] t with
        | some (n, v) => (n, some v, true)
        | none => match (cutAt [':'] [] t).or (cutAt ['='] [] t) with
          | some (n, v) => (n, some v, false)
          | none => (t, none, false)
    else
      let c ← peek
      if c = some '\\' then failHere .unicodeClassInvalid
      let _ ← bumpBoth
      pure (c.toList, none, false)
  return .named ⟨.property name value, negated != differs, ⟨start, ← spot⟩⟩

/-- The words inside a boundary in braces. -/
def boundaryWord : Nat → Scan Text
  | 0 => return []
  | fuel + 1 => do
    match ← peek with
    | some c =>
      if c.isAlpha || c == '-' then
        let _ ← bumpBoth
        return c :: (← boundaryWord fuel)
      else return []
    | none => return []

/-- The special boundary of a word in braces, unless the braces mean something else. -/
def specialBoundary (start : Spot) : Scan (Option Anchor) := do
  let saved ← get
  let brace ← spot
  if !(← bumpBoth) then fail .boundaryUnexpectedEnd start (← spot)
  let inside ← spot
  if !((← peek).any fun c => c.isAlpha || c == '-') then
    set saved
    return none
  let w ← boundaryWord ((← get).rest.length + 1)
  if (← peek) ≠ some '}' then fail .boundaryUnclosed brace (← spot)
  let finish ← spot
  let _ ← bump
  match String.ofList w with
  | "start" => return some .wordStart
  | "end" => return some .wordEnd
  | "start-half" => return some .wordStartHalf
  | "end-half" => return some .wordEndHalf
  | _ => fail .boundaryUnrecognized inside finish

/-- A character that has a meaning in patterns. -/
def isMeta (c : Char) : Bool := "\\.+*?()|[]\x7b\x7d^$#&-~".toList.contains c

/-- What follows a backslash. -/
def escape : Scan Primitive := do
  let start ← spot
  if !(← bump) then fail .escapeUnexpectedEnd start (← spot)
  let c := (← peek).getD ' '
  let literal (c : Char) : Scan Primitive := do return .literal ⟨c, false, ⟨start, ← spot⟩⟩
  let anchor (a : Anchor) : Scan Primitive := do return .anchor a ⟨start, ← spot⟩
  let named (k : NamedClass) (negated : Bool) : Scan Primitive := do
    let _ ← bump
    return .named ⟨k, negated, ⟨start, ← spot⟩⟩
  if c.isDigit then fail .backreference start (← spotAfter)
  match c with
  | 'x' =>
    let (c, inBraces) ← hex 2
    return .literal ⟨c, !inBraces, ⟨start, ← spot⟩⟩
  | 'u' => literal (← hex 4).1
  | 'U' => literal (← hex 8).1
  | 'p' | 'P' => unicodeClass start
  | 'd' => named .decimal false
  | 'D' => named .decimal true
  | 's' => named .blank false
  | 'S' => named .blank true
  | 'w' => named .word false
  | 'W' => named .word true
  | _ =>
    let _ ← bump
    if isMeta c then return ← literal c
    match c with
    | 'a' => literal '\x07'
    | 'f' => literal '\x0c'
    | 't' => literal '\t'
    | 'n' => literal '\n'
    | 'r' => literal '\r'
    | 'v' => literal '\x0b'
    | 'A' => anchor .textStart
    | 'z' => anchor .textEnd
    | 'b' =>
      if (← peek) = some '\x7b' then anchor ((← specialBoundary start).getD .boundary)
      else anchor .boundary
    | 'B' => anchor .noBoundary
    | '<' => anchor .wordStart
    | '>' => anchor .wordEnd
    | _ =>
      if c.toNat < 128 && !c.isAlphanum then literal c
      else fail .escapeUnrecognized start (← spot)

/-! ## Classes in brackets -/

/-- A union that is still open: its items, the last one first, and where it starts. -/
structure OpenUnion where
  start : Spot
  items : List SetExpression

/-- Adds an item to a union, which starts with its first item. -/
def OpenUnion.add (u : OpenUnion) (s : SetExpression) : OpenUnion :=
  ⟨if u.items.isEmpty then s.span.start else u.start, s :: u.items⟩

/-- The set of a union. -/
def OpenUnion.close (u : OpenUnion) : SetExpression := match u.items with
  | [] => .empty
  | [s] => s
  | last :: _ => .union ⟨u.start, last.span.finish⟩ u.items.reverse

/-- A class that is still open: what stands before the current operand, the operand so far, whether the
class is negated, and where it starts. -/
structure OpenClass where
  left : Option (SetExpression × SetOperator)
  union : OpenUnion
  negated : Bool
  span : Span

/-- What an open class holds. -/
def OpenClass.content (k : OpenClass) : SetExpression :=
  let right := k.union.close
  match k.left with
  | some (l, o) => .operation o ⟨l.span.start, right.span.finish⟩ l right
  | none => right

/-- Adds characters to a class. -/
def OpenClass.add (k : OpenClass) (s : SetExpression) : OpenClass := { k with union := k.union.add s }

/-- The next character as a literal. -/
def literalHere (c : Char) : Scan Literal := do return ⟨c, false, ⟨← spot, ← spotAfter⟩⟩

/-- The hyphens at the start of a class. -/
def leadingHyphens : Nat → Spot → OpenUnion → Scan OpenUnion
  | 0, _, u => return u
  | fuel + 1, start, u => do
    if (← peek) = some '-' then
      let l ← literalHere '-'
      if !(← bumpBoth) then fail .classUnclosed start start
      leadingHyphens fuel start (u.add (.literal l))
    else return u

/-- The start of a class. -/
def openClass : Scan OpenClass := do
  let start ← spot
  if !(← bumpBoth) then fail .classUnclosed start (← spot)
  let negated ← do
    if (← peek) = some '^' then
      if !(← bumpBoth) then fail .classUnclosed start (← spot)
      pure true
    else pure false
  let u ← leadingHyphens ((← get).rest.length + 1) start ⟨← spot, []⟩
  let u ← do
    if u.items.isEmpty && (← peek) = some ']' then
      let l ← literalHere ']'
      if !(← bumpBoth) then fail .classUnclosed start (← spot)
      pure (u.add (.literal l))
    else pure u
  return ⟨none, u, negated, ⟨start, ← spot⟩⟩

/-- Stops because a class is not closed. -/
def unclosed {α : Type} (k : OpenClass) : Scan α := fail .classUnclosed k.span.start k.span.finish

/-- A named class of ASCII characters, unless something else stands there. -/
def asciiClass : Scan (Option SetExpression) := do
  let saved ← get
  let start ← spot
  if !(← bumpIf "[:") then return none
  let negated ← bumpIf "^"
  let name := (← get).rest.takeWhile (· != ':')
  modify fun s => { s with rest := s.rest.drop name.length, spot := name.foldl behind s.spot }
  if !(← bumpIf ":]") then
    set saved
    return none
  match asciiNamed? name with
  | some s => return some (.ascii s negated ⟨start, ← spot⟩)
  | none =>
    set saved
    return none

/-- One member of a class. -/
def classMember : Scan Primitive := do
  match ← peek with
  | some '\\' => escape
  | some c =>
    let l ← literalHere c
    let _ ← bump
    return .literal l
  | none => failBetween .escapeUnexpectedEnd

/-- The end of a range in a class. -/
def rangeEnd (p : Primitive) : Scan Literal := do
  match p with
  | .literal l => return l
  | p => fail .classRangeLiteral p.span.start p.span.finish

/-- A member or range of a class. -/
def classItem (k : OpenClass) : Scan SetExpression := do
  let p ← classMember
  bumpSpace
  if (← peek).isNone then unclosed k
  let after ← peekSpace
  if (← peek) ≠ some '-' || after = some ']' || after = some '-' then
    match p with
    | .literal l => return .literal l
    | .named n => return .named n
    | p => fail .classEscapeInvalid p.span.start p.span.finish
  else
    if !(← bumpBoth) then unclosed k
    let q ← classMember
    let lo ← rangeEnd p
    let hi ← rangeEnd q
    if hi.char.toNat < lo.char.toNat then fail .classRangeInvalid lo.span.start hi.span.finish
    return .range lo hi

/-- The classes that are open, the innermost first, up to the end of the outermost one. -/
def classFrom : Nat → OpenClass → List OpenClass → Scan Expression
  | 0, k, _ => unclosed k
  | fuel + 1, k, outer => do
    bumpSpace
    let operator (t : String) (o : SetOperator) : Scan (Option OpenClass) := do
      if ← bumpIf t then return some { k with left := some (k.content, o), union := ⟨← spot, []⟩ }
      else return none
    match ← peek with
    | none => unclosed k
    | some '[' =>
      match ← asciiClass with
      | some s => classFrom fuel (k.add s) outer
      | none => classFrom fuel (← openClass) (k :: outer)
    | some ']' =>
      let _ ← bump
      let span : Span := ⟨k.span.start, ← spot⟩
      match outer with
      | [] => return .bracket k.negated span k.content
      | o :: os => classFrom fuel (o.add (.bracket k.negated span k.content)) os
    | some _ =>
      let next ← do
        match ← operator "&&" .both with
        | some n => pure (some n)
        | none => match ← operator "--" .less with
          | some n => pure (some n)
          | none => operator "~~" .onlyOne
      match next with
      | some n => classFrom fuel n outer
      | none => classFrom fuel (k.add (← classItem k)) outer

/-- A class in brackets. -/
def bracketClass : Scan Expression := do
  let fuel := (← get).rest.length + 2
  classFrom fuel (← openClass) []

/-! ## Repetition -/

/-- Blanks before and behind a number. -/
def skipAllBlanks (both : Bool) : Nat → Scan Unit
  | 0 => return
  | fuel + 1 => do
    if (← peek).any Text.isBlank then
      let _ ← if both then bumpBoth else bump
      skipAllBlanks both fuel

/-- The digits of a number. -/
def digitsHere : Nat → Scan Text
  | 0 => return []
  | fuel + 1 => do
    match ← peek with
    | some c =>
      if c.isDigit then
        let _ ← bumpBoth
        return c :: (← digitsHere fuel)
      else return []
    | none => return []

/-- A number, or why there is none. -/
def decimal : Scan (Except Fault Nat) := do
  let fuel := (← get).rest.length + 1
  skipAllBlanks false fuel
  let start ← spot
  let ds ← digitsHere fuel
  let span : Span := ⟨start, ← spot⟩
  skipAllBlanks true fuel
  if ds.isEmpty then return .error ⟨.countEmpty, span, none⟩
  let n := ds.foldl (fun n d => n * 10 + (d.toNat - 48)) 0
  return if n < Nat.pow 2 32 then .ok n else .error ⟨.decimalInvalid, span, none⟩

/-- Passes the mark of a lazy repetition. -/
def skipLazy (more : Bool) : Scan Unit := do
  if more && (← peek) = some '?' then
    let _ ← bump

/-- A repetition in braces of what stands before it. -/
def counted (e : Expression) : Scan Expression := do
  let start ← spot
  let unclosed {α : Type} : Scan α := do fail .countUnclosed start (← spot)
  if !(← bumpBoth) then unclosed
  let least ← decimal
  if (← peek).isNone then unclosed
  let result (r : Except Fault Nat) : Scan Nat := match r with
    | .ok n => return n
    | .error f => throw f
  let (lo, hi) ← do
    if (← peek) = some ',' then
      if !(← bumpBoth) then unclosed
      if (← peek) ≠ some '}' then
        let lo ← result least
        let hi ← result (← decimal)
        pure (lo, some hi)
      else do pure (← result least, none)
    else do
      let lo ← result least
      pure (lo, some lo)
  if (← peek) ≠ some '}' then unclosed
  skipLazy (← bumpBoth)
  let span : Span := ⟨e.span.start, ← spot⟩
  match hi with
  | none => return .repeated span lo none e
  | some hi =>
    if hi < lo then fail .countInvalid start (← spot)
    return .repeated span lo (some (hi - lo)) e

/-! ## Groups -/

/-- Flags up to a colon or bracket, given those before with their places, the last one first. -/
def flagList : Nat → List (Char × Span) → Scan (List (Char × Span))
  | 0, seen => return seen
  | fuel + 1, seen => do
    match ← peek with
    | none => failBetween .flagUnexpectedEnd
    | some c =>
      let here : Span := ⟨← spot, ← spotAfter⟩
      if c == ':' || c == ')' then
        match seen with
        | ('-', s) :: _ => fail .flagDanglingNegation s.start s.finish
        | _ => return seen
      if c != '-' && !isFlagLetter c then failHere .flagUnrecognized
      match seen.find? fun e => e.1 == c with
      | some e =>
        throw ⟨if c == '-' then .flagRepeatedNegation else .flagDuplicate, here, some e.2⟩
      | none =>
        if !(← bump) then failBetween .flagUnexpectedEnd
        flagList fuel ((c, here) :: seen)

/-- Whether blanks have no meaning behind some flags. -/
def spacedAfter (spaced : Bool) (letters : Text) : Bool :=
  let on := letters.takeWhile (· != '-')
  if on.contains 'x' then true else if (letters.drop on.length).contains 'x' then false else spaced

/-- The characters of a group's name. -/
def nameChars : Nat → Bool → Scan Text
  | 0, _ => return []
  | fuel + 1, first => do
    match ← peek with
    | none => return []
    | some '>' => return []
    | some c =>
      let fits := c == '_' || Text.Trait.holds .alphabetic c
        || (!first && (c == '.' || c == '[' || c == ']' || Text.isOfCategory ["N"] c))
      if !fits then failHere .groupNameInvalid
      let _ ← bump
      return c :: (← nameChars fuel false)

/-- The name of a group. -/
def groupName : Scan Unit := do
  if (← peek).isNone then failBetween .groupNameUnexpectedEnd
  let start ← spot
  let name ← nameChars ((← get).rest.length + 1) true
  let finish ← spot
  if (← peek).isNone then failBetween .groupNameUnexpectedEnd
  let _ ← bump
  if name.isEmpty then fail .groupNameEmpty start start
  match (← get).names.find? fun e => e.1 == name with
  | some e => throw ⟨.groupNameDuplicate, ⟨start, finish⟩, some e.2⟩
  | none => modify fun s => { s with names := (name, ⟨start, finish⟩) :: s.names }

/-- What an opening bracket starts: a change of flags, or a group with its flags. -/
inductive Opened where
  | flags (letters : Text)
  | group (captures : Bool) (letters : Text)

/-- What stands behind an opening bracket. -/
def openGroup : Scan Opened := do
  let start ← spot
  let opened ← spotAfter
  let _ ← bump
  bumpSpace
  let inner ← spot
  if ← bumpOne ["?=", "?!", "?<=", "?<!"] then fail .lookAround start (← spot)
  if ← bumpOne ["?P<", "?<"] then
    groupName
    return .group true []
  else if ← bumpIf "?" then
    if (← peek).isNone then fail .groupUnclosed start opened
    let letters := (← flagList ((← get).rest.length + 1) []).reverse.map (·.1)
    let last ← peek
    let _ ← bump
    if last = some ')' then
      if letters.isEmpty then fail .repetitionMissing inner inner
      return .flags letters
    else return .group false letters
  else return .group true []

/-- The items of a sequence, the last one first, as one expression. -/
def sequence (span : Span) (items : List Expression) : Expression := match items with
  | [] => .empty span
  | [e] => e
  | es => .concat span es.reverse

/-- One character, position or class outside brackets. -/
def primitive : Scan Expression := do
  let span : Span := ⟨← spot, ← spotAfter⟩
  let p ← do
    match ← peek with
    | some '\\' => escape
    | some '.' => do let _ ← bump; pure (.dot span)
    | some '^' => do let _ ← bump; pure (.anchor .lineStart span)
    | some '$' => do let _ ← bump; pure (.anchor .lineEnd span)
    | some c => do let _ ← bump; pure (.literal ⟨c, false, span⟩)
    | none => failBetween .escapeUnexpectedEnd
  match p with
  | .literal l => return .literal l
  | .named n => return .named n
  | .anchor a s => return .anchor a s
  | .dot s => return .dot s

/-- What a repetition is applied to, and the items before it. -/
def operand (items : List Expression) : Scan (Expression × List Expression) := do
  match items with
  | .flags _ _ :: _ | .empty _ :: _ | [] => failBetween .repetitionMissing
  | e :: r => return (e, r)

/-- A sequence and its alternatives inside the group that starts at a place, or in the whole pattern:
where the sequence starts, its items, the last one first, and the alternatives before it, the last one
first, with the place where they start. -/
def alternatives : Nat → Option Span → Spot → List Expression → Spot → List Expression → Scan Expression
  | 0, _, _, _, _, _ => failBetween .nestedTooDeep
  | fuel + 1, group, start, items, first, before => do
    bumpSpace
    let here ← spot
    let last := sequence ⟨start, here⟩ items
    let finished := if before.isEmpty then last else .either ⟨first, here⟩ (last :: before).reverse
    let again (items : List Expression) : Scan Expression := alternatives fuel group start items first before
    match ← peek with
    | none =>
      match group with
      | none => return finished
      | some s => fail .groupUnclosed s.start s.finish
    | some '(' =>
      let span : Span := ⟨here, ← spotAfter⟩
      match ← openGroup with
      | .flags letters =>
        modify fun s => { s with spaced := spacedAfter s.spaced letters }
        again (.flags letters ⟨here, ← spot⟩ :: items)
      | .group captures letters =>
        let outer := (← get).spaced
        modify fun s => { s with spaced := spacedAfter s.spaced letters }
        let inner ← spot
        let e ← alternatives fuel (some span) inner [] inner []
        modify fun s => { s with spaced := outer }
        let _ ← bump
        again (.group ⟨here, ← spot⟩ captures letters e :: items)
    | some ')' =>
      match group with
      | none => failHere .groupUnopened
      | some _ => return finished
    | some '|' =>
      let _ ← bump
      alternatives fuel group (← spot) [] first (last :: before)
    | some '[' => again ((← bracketClass) :: items)
    | some '\x7b' =>
      let (e, r) ← operand items
      again ((← counted e) :: r)
    | some c =>
      if c == '?' || c == '*' || c == '+' then
        let (e, r) ← operand items
        skipLazy (← bump)
        let span : Span := ⟨e.span.start, ← spot⟩
        let repeated : Expression := match c with
          | '?' => .repeated span 0 (some 1) e
          | '*' => .repeated span 0 none e
          | _ => .repeated span 1 none e
        again (repeated :: r)
      else again ((← primitive) :: items)

end Scan

/-- Reads a pattern as it is written. -/
def Expression.parse (pattern : Text) : Except Fault Expression :=
  let start : Spot := ⟨1, 1⟩
  let state : State := ⟨pattern, start, false, []⟩
  match (Scan.alternatives (2 * pattern.length + 4) none start [] start []).run state with
  | .error f => .error f
  | .ok (e, _) => match e.tooDeep? 0 with
    | some span => .error ⟨.nestedTooDeep, span, none⟩
    | none => .ok e

end StylePrune.Pattern
