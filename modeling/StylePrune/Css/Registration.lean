import StylePrune.Css.Body
import StylePrune.Css.Piece
import StylePrune.Css.Property.Grammar

/-!
Custom properties that are registered with a syntax.

`Registration.read` reads the block of a `@property` rule. The syntax and whether the property is
inherited have to be there, and a value at the start unless the syntax takes everything; the value has to
follow the syntax.
-/
namespace StylePrune.Css

/-- What one value of a registered property is. -/
inductive ValueKind where
  | named (name : String)
  | literal (word : Text)
deriving DecidableEq, Repr

/-- How often a value may be given. -/
inductive Multiplier where
  | once
  | spaced
  | listed
deriving DecidableEq, Repr

/-- The values that a registered property takes. -/
inductive ValueSyntax where
  | anything
  | choice (list : List (ValueKind × Multiplier))
deriving DecidableEq, Repr

namespace ValueSyntax

/-- White space in a syntax. -/
def isSpace (c : Char) : Bool := [' ', '\n', '\t', '\r', '\x0c'].contains c

/-- The kinds that have names, with what they read. -/
def kinds : List (String × Reader (List Term)) :=
  let one (p : Reader Term) : Reader (List Term) := do return [← p]
  let quantity (p : Reader Quantity) : Reader (List Term) := do return [.quantity (← p)]
  [("length", one Measure.length), ("number", one Measure.numberTerm),
   ("percentage", quantity (Calculation.definite .percent)), ("length-percentage", one Measure.lengthPercent),
   ("string", one (do return .string (← Reader.string))), ("color", one Measure.color), ("image", one Measure.url),
   ("url", one Measure.url), ("integer", one Measure.integerTerm), ("angle", quantity Calculation.angle),
   ("time", quantity Calculation.time),
   ("resolution", one (Reader.expect fun
     | .dimension n u => if isResolutionUnit (Text.lowerAscii u) then some (.resolution n.value (Text.lowerAscii u)) else none
     | _ => none)),
   ("transform-function", one Transform.function), ("transform-list", Transform.read),
   ("custom-ident", one (Reader.expect fun
     | .ident n => if isWide n then none else some (.word (Written.ident n))
     | _ => none))]

/-- A kind at the start of a syntax, and what stands behind it. -/
def kind? (s : Text) : Option (ValueKind × Text) :=
  match s.dropWhile isSpace with
  | '<' :: r =>
    let name := Text.lowerAscii (r.takeWhile (· ≠ '>'))
    match r.dropWhile (· ≠ '>'), kinds.find? fun e => e.1.toList = name with
    | _ :: behind, some e => some (.named e.1, behind)
    | _, _ => none
  | c :: r =>
    let inWord (c : Char) : Bool := c.isAlphanum || c == '_' || c == '-' || c.toNat ≥ 128
    if c.isDigit || c == '-' || !inWord c then none
    else some (.literal (c :: r.takeWhile inWord), r.dropWhile inWord)
  | [] => none

/-- The choices of a syntax. -/
def choices? : Nat → Text → Option (List (ValueKind × Multiplier))
  | 0, _ => none
  | fuel + 1, s => do
    let (kind, rest) ← kind? s
    let repeats := kind ≠ ValueKind.named "transform-list"
    let (multiplier, rest) : Multiplier × Text := match rest with
      | '+' :: r => if repeats then (.spaced, r) else (.once, rest)
      | '#' :: r => if repeats then (.listed, r) else (.once, rest)
      | r => (.once, r)
    match rest.dropWhile isSpace with
    | [] => return [(kind, multiplier)]
    | '|' :: r => return (kind, multiplier) :: (← choices? fuel r)
    | _ => none

/-- A syntax from its text. -/
def ofText? (s : Text) : Option ValueSyntax :=
  let s := Text.dropEndWhile isSpace (s.dropWhile isSpace)
  if s = ['*'] then some .anything else choice <$> choices? (s.length + 1) s

/-- One value of a kind. -/
def value : ValueKind → Reader (List Term)
  | .named n => ((kinds.find? fun e => e.1 = n).map (·.2)).getD (Reader.fail .invalidValue)
  | .literal w => do
    let place ← Reader.here
    let n ← Reader.ident
    if n = w then return [.word (Written.ident n)] else Reader.failAt (.unexpected (.ident n)) place

/-- Values that may be repeated. -/
def values (k : ValueKind) (m : Multiplier) : Nat → Reader (List Term)
  | 0 => Reader.fail .invalidValue
  | fuel + 1 => do
    let a ← value k
    match m with
    | .once => return a
    | .spaced => if ← Reader.atEnd then return a else return a ++ (← values k m fuel)
    | .listed =>
      if ← Reader.atEnd then return a
      Reader.comma
      return a ++ .comma :: (← values k m fuel)

/-- A value that follows the syntax: the first choice that can be read. -/
def readChoice : List (ValueKind × Multiplier) → Reader (List Term)
  | [] => do
    let s := (← get).skipSpace
    match s.items with
    | c :: r => Reader.failAt (.unexpected c.token) ({ s with items := r } : Stream).place
    | [] => Reader.failAt .endOfInput s.finish
  | (k, m) :: r => Reader.orTry (do values k m ((← get).items.length + 1)) (readChoice r)

/-- The text of a kind. -/
def kindText : ValueKind → Text
  | .named n => '<' :: n.toList ++ ['>']
  | .literal w => w

/-- The text of a syntax, quoted. -/
def text (l : Layout) : ValueSyntax → Text
  | anything => "\"*\"".toList
  | choice list =>
    let one (c : ValueKind × Multiplier) : Text := kindText c.1 ++ match c.2 with
      | .once => []
      | .spaced => ['+']
      | .listed => ['#']
    '"' :: Text.join (l.around '|') (list.map one) ++ ['"']

end ValueSyntax

/-- A custom property that is registered. -/
structure Registration where
  name : Text
  values : ValueSyntax
  inherits : Bool
  initial : Option (List Term ⊕ List Piece)

namespace Registration

/-- What has been said of a property: its syntax, whether it is inherited and its value at the start. -/
structure Said where
  values : Option ValueSyntax
  inherits : Option Bool
  initial : Option Text

/-- A descriptor behind its name. -/
def descriptor (written : Text) : Reader (Said → Said) := do
  Reader.colon
  match String.ofList (Text.lowerAscii written) with
  | "syntax" =>
    match ValueSyntax.ofText? (← Reader.string) with
    | some v => return fun s => { s with values := some v }
    | none => Reader.fail .invalidValue
  | "inherits" =>
    let yes ← Reader.expect fun
      | .ident n =>
        if Text.eqIgnoringAsciiCase n "true".toList then some true
        else if Text.eqIgnoringAsciiCase n "false".toList then some false
        else none
      | _ => none
    return fun s => { s with inherits := some yes }
  | "initial-value" =>
    let rest ← get
    set ({ rest with items := [] } : Stream)
    return fun s => { s with initial := some (Component.sources rest.items) }
  | _ => Reader.fail .invalidDeclaration

/-- The value at the start under a syntax, from its text. -/
def initialOf (v : ValueSyntax) (written : Text) : Except Fault (List Term ⊕ List Piece) :=
  let s := Stream.ofText written
  match v with
  | .anything =>
    if s.skipSpace.items.isEmpty then .ok (.inr []) else .inr <$> Piece.ofComponents s.items
  | .choice list => (fun r => .inl r.1) <$> ValueSyntax.readChoice list s

/-- A registration from the block of its rule. -/
def read (name : Text) (s : Stream) : Except Fault Registration := do
  let said : Said ← (Body.items descriptor s).foldlM (fun said item => (· said) <$> item) ⟨none, none, none⟩
  let incomplete : Fault := ⟨.invalidBody, s.finish⟩
  match said.values, said.inherits with
  | some v, some i =>
    match v, said.initial with
    | .anything, none => return ⟨name, v, i, none⟩
    | _, none => .error incomplete
    | v, some w => return ⟨name, v, i, some (← initialOf v w)⟩
  | _, _ => .error incomplete

end Registration
end StylePrune.Css
