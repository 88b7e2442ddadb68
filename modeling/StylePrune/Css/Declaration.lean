import StylePrune.Css.Piece
import StylePrune.Css.Property.Background
import StylePrune.Css.Property.Grammar
import StylePrune.Css.Property.Name
import StylePrune.Css.Property.Timing

/-!
Declarations.

A declaration gives a value to a property, perhaps under the marks of several vendors at once. A value
that its property's grammar reads to the end is kept in the form that the grammar gives it, any other one
as pieces.
-/
namespace StylePrune.Css

/-- What a declaration gives to its property. -/
inductive Content where
  | terms (ts : List Term)
  | background (v : Background.Value)
  | timing (v : Timing.Value)
  | pieces (ps : List Piece)
deriving Repr

/-- A declaration. It is written once for each of its vendors. -/
structure Declaration where
  name : Property.Name
  vendors : Vendors
  content : Content
deriving Repr

/-- The declarations of a block. Important ones are kept apart and stand behind the others. -/
structure Declarations where
  usual : List Declaration
  important : List Declaration
deriving Repr

namespace Content

/-- Equality of contents, part by part. -/
def same : Content → Content → Bool
  | terms ts, terms us => Term.sameAll ts us
  | background v, background w => v == w
  | timing v, timing w => v == w
  | pieces ps, pieces qs => Piece.sameAll ps qs
  | _, _ => false

instance : BEq Content := ⟨same⟩

/-- The value follows the grammar of its property. -/
def isRead : Content → Bool
  | pieces _ => false
  | _ => true

/-- Every browser knows the units and functions in the value. -/
def isKnown (t : Targets) : Content → Bool
  | terms ts => Term.allKnown t ts
  | _ => true

/-- The text of what a property is given. -/
def text (l : Layout) (base : Text) : Content → Text
  | terms ts => Property.valueText l base ts
  | background v => v.text l
  | timing v => v.text l
  | pieces ps => Piece.text l ps

/-- The grammar of a property, for a property whose values are read. -/
def grammar? (base : Text) : Option (Reader Content) :=
  ((Background.grammar? base).map fun g => do return background (← g)).or <|
    ((Timing.grammar? base).map fun g => do return timing (← g)).or <|
      (Property.grammar? base).map fun g => do return terms (← g)

/-- Reads everything that is left as the value of a property. -/
def ofStream (name : Property.Name) (s : Stream) : Except Fault Content :=
  match (if name.standing = .known then grammar? name.base else none) with
  | some g => match Reader.whole g s with
    | .ok c => .ok c
    | .error _ => pieces <$> Piece.ofComponents s.items
  | none => pieces <$> Piece.ofComponents s.items

end Content

namespace Declaration

/-- The value of a declaration whose name has been read, and whether it is important. A property that
is not custom has no block in its value. -/
def value (name : Property.Name) : Reader (Content × Bool) := do
  let stop (t : Token) : Bool := t == .delim '!' || (name.standing != .custom && t == .opening .curly)
  let (before, rest) := (← get).cut stop
  match Content.ofStream name before with
  | .error e => throw e
  | .ok content =>
    set rest
    let important ← Reader.takes do
      Reader.delim '!'
      Reader.word "important"
    Reader.expectEnd
    return (content, important)

/-- A declaration behind its name, and whether it is important. -/
def afterName (written : Text) : Reader (Declaration × Bool) := do
  Reader.colon
  let name := Property.Name.ofText written
  let (content, important) ← value name
  return (⟨name, .only name.vendor, content⟩, important)

/-- The texts of a declaration, one for each vendor. -/
def texts (l : Layout) (important : Bool) (d : Declaration) : List Text :=
  let value := d.content.text l d.name.base ++ (if important then l.gap ++ "!important".toList else [])
  d.vendors.toList.map fun v => v.mark ++ Written.ident d.name.base ++ l.after ':' ++ value

/-- Two declarations have the same value. -/
def sameValue (d e : Declaration) : Bool := d.content == e.content

/-- Two declarations are the same. -/
def same (d e : Declaration) : Bool := d.name == e.name && d.vendors == e.vendors && d.sameValue e

/-- Equality of lists of declarations. -/
def sameAll : List Declaration → List Declaration → Bool
  | [], [] => true
  | d :: r, e :: s => d.same e && sameAll r s
  | _, _ => false

end Declaration

namespace Declarations

/-- No declaration. -/
def empty : Declarations := ⟨[], []⟩

/-- There is no declaration. -/
def isEmpty (d : Declarations) : Bool := d.usual.isEmpty && d.important.isEmpty

/-- Adds a declaration behind the others. -/
def push (d : Declarations) (e : Declaration) (important : Bool) : Declarations :=
  if important then { d with important := d.important ++ [e] } else { d with usual := d.usual ++ [e] }

/-- The declarations of both blocks. -/
def append (d e : Declarations) : Declarations := ⟨d.usual ++ e.usual, d.important ++ e.important⟩

/-- The texts of the declarations. -/
def texts (l : Layout) (d : Declarations) : List Text :=
  d.usual.flatMap (·.texts l false) ++ d.important.flatMap (·.texts l true)

/-- Equality of blocks. -/
def same (d e : Declarations) : Bool :=
  Declaration.sameAll d.usual e.usual && Declaration.sameAll d.important e.important

end Declarations
end StylePrune.Css
