import StylePrune.Pattern.Parse

/-!
What patterns mean.

`Pattern.parse` reads a pattern and gives what it matches, or says what is wrong with it. Flags hold from
where they are set to the end of their group. Where the flag `u` is off, a set holds bytes, and one that
could match a part of a character is refused.
-/
namespace StylePrune.Pattern

/-- How a part of a pattern is understood. -/
structure Flags where
  caseless : Bool
  lines : Bool
  dotAll : Bool
  unicode : Bool
  returns : Bool

namespace Flags

/-- The flags at the start of a pattern. -/
def usual : Flags := ⟨false, false, false, true, false⟩

/-- Turns a flag on or off. -/
def set (f : Flags) (on : Bool) : Char → Flags
  | 'i' => { f with caseless := on }
  | 'm' => { f with lines := on }
  | 's' => { f with dotAll := on }
  | 'u' => { f with unicode := on }
  | 'R' => { f with returns := on }
  | _ => f

/-- Applies letters of flags. Those behind a hyphen are turned off. -/
def apply (f : Flags) (letters : Text) : Flags :=
  let on := letters.takeWhile (· != '-')
  let off := letters.drop on.length
  off.foldl (fun f c => f.set false c) (on.foldl (fun f c => f.set true c) f)

/-- The characters of a set, and those that agree with them where letter case does not count. -/
def folded (f : Flags) (s : CharSet) : CharSet := if f.caseless then .caseless (!f.unicode) s else s

/-- A set under the flags, perhaps negated. -/
def closed (f : Flags) (negated : Bool) (span : Span) (s : CharSet) : Except Fault CharSet :=
  let s := if negated then .not (f.folded s) else f.folded s
  if f.unicode || s.isAscii then .ok s else .error ⟨.invalidBytes, span, none⟩

end Flags

/-- The character of a literal. One that stands for a byte has to be ASCII where sets hold bytes. -/
def Literal.scalar (l : Literal) (f : Flags) : Except Fault Char :=
  if !f.unicode && l.isByte && l.char.toNat > 127 then .error ⟨.invalidBytes, l.span, none⟩ else .ok l.char

/-- The character of a literal in a set. -/
def Literal.member (l : Literal) (f : Flags) : Except Fault Char := do
  let c ← l.scalar f
  if !f.unicode && c.toNat > 127 then .error ⟨.unicodeNotAllowed, l.span, none⟩ else .ok c

/-- The characters of a named class. -/
def NamedPart.set (p : NamedPart) (f : Flags) : Except Fault CharSet :=
  let plain (s : CharSet) : Except Fault CharSet :=
    let s := if p.negated then .not s else s
    if f.unicode || s.isAscii then .ok s else .error ⟨.invalidBytes, p.span, none⟩
  match p.cls with
  | .decimal => plain (.decimal !f.unicode)
  | .blank => plain (.blank !f.unicode)
  | .word => plain (.word !f.unicode)
  | .property name value =>
    if !f.unicode then .error ⟨.unicodeNotAllowed, p.span, none⟩
    else match classNamed name value with
      | .ok s => .ok (if p.negated then .not (f.folded s) else f.folded s)
      | .error cause => .error ⟨cause, p.span, none⟩

/-- Applies an operator to sets, each of them under the flags. -/
def SetOperator.apply (o : SetOperator) (f : Flags) (a b : CharSet) : CharSet := match o with
  | both => .inter (f.folded a) (f.folded b)
  | less => .without (f.folded a) (f.folded b)
  | onlyOne => .exclusive (f.folded a) (f.folded b)

mutual

/-- The characters of a set. -/
def SetExpression.set (f : Flags) : SetExpression → Except Fault CharSet
  | .empty => .ok .none
  | .literal l => do return .only (← l.member f)
  | .range lo hi => do return .range (← lo.member f) (← hi.member f)
  | .ascii s negated span => f.closed negated span s
  | .named p => p.set f
  | .bracket negated span s => do f.closed negated span (← SetExpression.set f s)
  | .union _ items => SetExpression.unionOf f items
  | .operation o _ a b => do return o.apply f (← SetExpression.set f a) (← SetExpression.set f b)

/-- The characters of some sets together. -/
def SetExpression.unionOf (f : Flags) : List SetExpression → Except Fault CharSet
  | [] => .ok .none
  | s :: r => do return .union (← SetExpression.set f s) (← SetExpression.unionOf f r)

end

/-- What an anchor asks of a position. -/
def Anchor.look (f : Flags) : Anchor → Look
  | lineStart => if f.lines then .lineStart f.returns else .textStart
  | lineEnd => if f.lines then .lineEnd f.returns else .textEnd
  | textStart => .textStart
  | textEnd => .textEnd
  | boundary => .boundary !f.unicode
  | noBoundary => .noBoundary !f.unicode
  | wordStart => .wordStart !f.unicode
  | wordEnd => .wordEnd !f.unicode
  | wordStartHalf => .wordStartHalf !f.unicode
  | wordEndHalf => .wordEndHalf !f.unicode

/-- The characters that a dot stands for. -/
def Flags.dot (f : Flags) : CharSet :=
  if f.dotAll then .all
  else if f.returns then .not (.union (.only '\n') (.only '\r'))
  else .not (.only '\n')

mutual

/-- What an expression matches, and the flags behind it. -/
def Expression.node (f : Flags) : Expression → Except Fault (Node × Flags)
  | .empty _ => .ok (.empty, f)
  | .flags letters _ => .ok (.empty, f.apply letters)
  | .literal l => do return (.chars (f.folded (.only (← l.scalar f))), f)
  | .dot span => if f.unicode then .ok (.chars f.dot, f) else .error ⟨.invalidBytes, span, none⟩
  | .anchor a _ => .ok (.look (a.look f), f)
  | .named p => do return (.chars (← p.set f), f)
  | .bracket negated span s => do return (.chars (← f.closed negated span (← s.set f)), f)
  | .repeated _ least more e => do
    let (n, g) ← Expression.node f e
    return (.repeated n least more, g)
  | .group _ captures letters e => do
    let (n, _) ← Expression.node (f.apply letters) e
    return (if captures then .captured n else n, f)
  | .either _ es => Expression.eitherOf f es
  | .concat _ es => Expression.concatOf f es

/-- What one of some expressions matches. -/
def Expression.eitherOf (f : Flags) : List Expression → Except Fault (Node × Flags)
  | [] => .ok (.chars .none, f)
  | e :: r => do
    let (n, g) ← Expression.node f e
    let (m, h) ← Expression.eitherOf g r
    return (.either n m, h)

/-- What some expressions in order match. -/
def Expression.concatOf (f : Flags) : List Expression → Except Fault (Node × Flags)
  | [] => .ok (.empty, f)
  | e :: r => do
    let (n, g) ← Expression.node f e
    let (m, h) ← Expression.concatOf g r
    return (.concat n m, h)

end

/-- Reads a pattern. -/
def parse (pattern : Text) : Except Fault Node := do
  let e ← Expression.parse pattern
  let (n, _) ← e.node .usual
  return n

end StylePrune.Pattern
