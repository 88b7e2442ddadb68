import StylePrune.Css.Reader
import StylePrune.Css.Property.Name
import StylePrune.Css.Piece

/-!
Conditions of `@supports`.
-/
namespace StylePrune.Css.Supports

/-- A condition. A declaration is kept with its value as it was written. -/
inductive Condition where
  | not (c : Condition)
  | all (cs : List Condition)
  | any (cs : List Condition)
  | declaration (name : Property.Name) (vendors : Vendors) (value : Text)
  | selector (written : Text)
  | unknown (written : Text)
deriving Repr

/-- Everything that is left, as it was written, if nothing in it is broken. -/
def rest : Reader Text := do
  let s ← get
  match Component.anyBroken? s.items with
  | some (t, place) => Reader.failAt (.unexpected t) place
  | none => set ({ s with items := [] } : Stream); return Component.sources s.items

/-- A declaration inside its brackets. -/
def declaration : Reader Condition := do
  let name := Property.Name.ofText (← Reader.ident)
  Reader.colon
  Reader.skipSpace
  return .declaration name (.only name.vendor) (← rest)

/-- Joins a declaration to an earlier one that differs from it only in its vendor. -/
def merge (c : Condition) : List Condition → List Condition
  | [] => [c]
  | d :: r => match c, d with
    | .declaration n v x, .declaration m w y =>
      if n.base = m.base && x = y then .declaration m (w.union v) y :: r else d :: merge c r
    | _, _ => d :: merge c r

mutual
/-- A condition. -/
def condition : Nat → Reader Condition
  | 0 => Reader.fail .nestedTooDeep
  | fuel + 1 => do
    if ← Reader.takes (Reader.word "not") then return .not (← bracketed fuel)
    let first ← bracketed fuel
    if ← Reader.takes (Reader.word "and") then joined fuel "and" .all [first]
    else if ← Reader.takes (Reader.word "or") then joined fuel "or" .any [first]
    else return first

/-- The parts behind a word that joins them. -/
def joined : Nat → String → (List Condition → Condition) → List Condition → Reader Condition
  | 0, _, _, _ => Reader.fail .nestedTooDeep
  | fuel + 1, w, make, before => do
    let parts := merge (← bracketed fuel) before
    if ← Reader.takes (Reader.word w) then joined fuel w make parts
    else match parts with
      | [c] => return c
      | cs => return make cs

/-- A condition in brackets, a test of a selector, or a form without a meaning. -/
def bracketed : Nat → Reader Condition
  | 0 => Reader.fail .nestedTooDeep
  | fuel + 1 => do
    Reader.skipSpace
    let place ← Reader.here
    let c ← Reader.next
    let known : Reader (Option Condition) := match c.token with
      | .function f =>
        if Text.eqIgnoringAsciiCase f "selector".toList then
          Reader.attempt (do return .selector (← Reader.inside c rest))
        else return none
      | .opening .round => Reader.attempt (Reader.inside c (Reader.orTry (do
          let d ← condition fuel
          Reader.expectEnd
          return d) declaration))
      | t => Reader.failAt (.unexpected t) place
    match ← known with
    | some k => return k
    | none =>
      let _ ← Reader.inside c rest
      return .unknown c.source
end

/-- A condition. -/
def read : Reader Condition := do condition (4 * (← get).size + 8)

/-- A condition or a declaration without brackets. -/
def readInCall : Reader Condition := Reader.orTry (do
    let c ← read
    Reader.expectEnd
    return c) declaration

mutual
/-- Gives declarations the marks that browsers need. -/
def forTargets (t : Targets) : Condition → Condition
  | .not c => .not (forTargets t c)
  | .all cs => .all (forTargetsAll t cs)
  | .any cs => .any (forTargetsAll t cs)
  | .declaration n v x => .declaration n (Property.vendors t v n.base) x
  | c => c

/-- Gives declarations in a list of conditions the marks that browsers need. -/
def forTargetsAll (t : Targets) : List Condition → List Condition
  | [] => []
  | c :: r => forTargets t c :: forTargetsAll t r
end

/-- A condition needs brackets inside a negation, an `and` or an `or`. -/
def needsBrackets (inAll inAny : Bool) : Condition → Bool
  | .not _ => true
  | .all _ => !inAll
  | .any _ => !inAny
  | _ => false

/-- Brackets where they are needed. -/
def bracket (needed : Bool) (t : Text) : Text := if needed then '(' :: t ++ [')'] else t

/-- A declaration, once for each of its vendors. -/
def declarationText (l : Layout) (n : Property.Name) (v : Vendors) (value : Text) : Text :=
  let one (w : Vendor) : Text := '(' :: w.mark ++ Written.ident n.base ++ l.after ':' ++ value ++ [')']
  match v.toList with
  | [w] => one w
  | ws => '(' :: Text.join " or ".toList (ws.map one) ++ [')']

mutual
/-- The text of a condition. -/
def text (l : Layout) : Condition → Text
  | .not c => "not ".toList ++ bracket (needsBrackets false false c) (text l c)
  | .all cs => Text.join " and ".toList (texts l true false cs)
  | .any cs => Text.join " or ".toList (texts l false true cs)
  | .declaration n v x => declarationText l n v x
  | .selector w => "selector(".toList ++ w ++ [')']
  | .unknown w => w

/-- The texts of the parts of a condition. -/
def texts (l : Layout) (inAll inAny : Bool) : List Condition → List Text
  | [] => []
  | c :: r => bracket (needsBrackets inAll inAny c) (text l c) :: texts l inAll inAny r
end

/-- Two conditions are the same: they are written the same. -/
def same (a b : Condition) : Bool := text .short a == text .short b

end StylePrune.Css.Supports
