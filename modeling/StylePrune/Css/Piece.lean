import StylePrune.Css.Color
import StylePrune.Css.Quantity
import StylePrune.Css.Resolution

/-!
Values that are kept much as they were written.

The value of a property without a grammar, and any value that its grammar does not read, is a list of
pieces. A piece is a token, or something with a spelling of its own: a colour, a path, a quantity, a call
or a reference. White space around commas is dropped, any other white space becomes one space.
-/
namespace StylePrune.Css

/-- The channels of a colour whose opacity is not known yet. -/
inductive Channels where
  | rgb (red green blue : Nat)
  /-- The hue in degrees, the others as fractions. -/
  | hsl (hue saturation lightness : Rat)
deriving DecidableEq, Repr

/-- A part of a value that is kept much as it was written. -/
inductive Piece where
  | token (t : Token)
  | color (c : Color)
  | url (u : Text)
  | measure (q : Quantity)
  | resolution (r : Rat) (unit : Text)
  | call (name : Text) (args : List Piece)
  /-- A `var()` with its fallback. -/
  | reference (name : Text) (fallback : Option (List Piece))
  /-- An `env()` with its indices and its fallback. -/
  | environment (name : Text) (indices : List Int) (fallback : Option (List Piece))
  /-- A colour whose opacity is not known yet. -/
  | mixed (channels : Channels) (opacity : List Piece)
deriving Repr

namespace Piece

mutual
/-- Equality of pieces, part by part. -/
def same : Piece → Piece → Bool
  | token t, token u => t == u
  | color c, color d => c == d
  | url u, url v => u == v
  | measure p, measure q => p == q
  | resolution r u, resolution s v => r == s && u == v
  | call n a, call m b => n == m && sameAll a b
  | reference n none, reference m none => n == m
  | reference n (some a), reference m (some b) => n == m && sameAll a b
  | environment n i none, environment m j none => n == m && i == j
  | environment n i (some a), environment m j (some b) => n == m && i == j && sameAll a b
  | mixed c a, mixed d b => c == d && sameAll a b
  | _, _ => false

/-- Equality of lists of pieces. -/
def sameAll : List Piece → List Piece → Bool
  | [], [] => true
  | p :: r, q :: s => same p q && sameAll r s
  | _, _ => false
end

instance : BEq Piece := ⟨same⟩

/-- One space. -/
def space : Piece := token (.blank [' '])

/-- White space. -/
def isBlank : Piece → Bool
  | token (.blank _) => true
  | _ => false

/-! ## Reading -/

/-- Joins the pieces of components without the white space around commas. The pieces so far come in
reverse, with whether the last of them is a comma. -/
def gather : List Piece → Bool → List (List Piece) → List Piece
  | acc, _, [] => acc.reverse
  | acc, afterComma, ps :: r =>
    match ps with
    | [] => gather acc afterComma r
    | [token .comma] =>
      let before := match acc with
        | p :: more => if p.isBlank then more else acc
        | [] => []
      gather (token .comma :: before) true r
    | [token (.blank w)] =>
      if afterComma then gather acc true r else gather (token (.blank w) :: acc) false r
    | ps => gather (ps.reverse ++ acc) false r

/-- Pieces without the white space at their ends. White space alone is kept. -/
def trimmed (ps : List Piece) : List Piece :=
  if ps.length < 2 then ps
  else
    let ps := if (ps.head?.any isBlank) then ps.tail else ps
    if (ps.getLast?.any isBlank) then ps.dropLast else ps

/-- A list of pieces from the pieces of its components. -/
def collect (parts : List (Except Fault (List Piece))) : Except Fault (List Piece) := do
  return trimmed (gather [] false (← parts.mapM id))

/-- The pieces of a token outside brackets. Comments have none. -/
def ofToken (t : Token) (place : Place) : Except Fault (List Piece) :=
  if t.isBroken then .error ⟨.unexpected t, place⟩
  else match t with
    | .comment _ => .ok []
    | .blank _ => .ok [space]
    | .hash h | .idHash h => .ok [((Color.ofHash? h).map color).getD (token t)]
    | .url u => .ok [url u]
    | .dimension n u =>
      let l := Text.lowerAscii u
      if isResolutionUnit l then .ok [resolution n.value l]
      else .ok [((Quantity.ofToken? t).map measure).getD (token t)]
    | _ => .ok [token t]

/-- The name of a custom property. -/
def customName : Reader Text := do
  let place ← Reader.here
  let n ← Reader.ident
  if (Text.dropPrefix? "--".toList n).isSome then return n
  else Reader.failAt (.unexpected (.ident n)) place

/-- The names that browsers give to their surroundings. -/
def surroundings : List String :=
  ["safe-area-inset-top", "safe-area-inset-right", "safe-area-inset-bottom", "safe-area-inset-left",
   "viewport-segment-width", "viewport-segment-height", "viewport-segment-top", "viewport-segment-left",
   "viewport-segment-bottom", "viewport-segment-right"]

/-- The name of something in the surroundings, with indices. -/
def surrounding : Reader (Text × List Int) := do
  let place ← Reader.here
  let n ← Reader.ident
  let l := Text.lowerAscii n
  if isWide n then Reader.failAt (.unexpected (.ident n)) place
  let name := if surroundings.any (·.toList = l) then l else n
  return (name, ← Reader.many (Reader.expect fun
    | .number k => k.int?
    | _ => none))

/-- What a reader reads up to a comma or the end, and how many components stand behind the comma. -/
def upToFallback {α : Type} (p : Reader α) (s : Stream) : Except Fault (α × Option Nat) :=
  match (do
    let a ← p
    let more ← Reader.takes Reader.comma
    if !more then Reader.expectEnd
    return (a, more) : Reader (α × Bool)) s with
  | .ok ((a, more), rest) => .ok (a, if more then some rest.items.length else none)
  | .error e => .error e

/-- The last of the parts as a list of pieces. -/
def fallbackOf (parts : List (Except Fault (List Piece))) : Option Nat → Except Fault (Option (List Piece))
  | none => .ok none
  | some n => some <$> collect (parts.drop (parts.length - n))

/-- The channels of a colour up to the slash before its opacity. -/
def channels? (f : Text) (s : Stream) : Option (Channels × Nat) :=
  let reader? : Option (Reader (Channels × Bool)) :=
    let l := Text.lowerAscii f
    if l = "rgb".toList then some do
      let ((r, g, b), commas) ← Color.rgbChannels false
      return (.rgb r g b, commas)
    else if l = "hsl".toList then some do
      let ((h, s, l), commas) ← Color.hslParts false
      return (.hsl h s l, commas)
    else none
  reader?.bind fun p => match (do
      let (c, commas) ← p
      if commas then Reader.fail .invalidValue
      Reader.delim '/'
      return c : Reader Channels) s with
    | .ok (c, rest) => some (c, rest.items.length)
    | .error _ => none

/-- The pieces of a call, given the pieces of its arguments. -/
def ofCall (f : Text) (c : Component) (s : Stream) (args : List (Except Fault (List Piece))) :
    Except Fault (List Piece) :=
  let mixed? : Option Piece := (channels? f s).bind fun (k, n) =>
    match collect (args.drop (args.length - n)) with
    | .ok ps => some (mixed k ps)
    | .error _ => none
  match ((Color.ofComponent? c).map color).or mixed? with
  | some p => .ok [p]
  | none =>
    if f = "url".toList then do return [url (← Reader.whole Reader.string s)]
    else if f = "var".toList then do
      let (name, behind) ← upToFallback customName s
      return [reference name (← fallbackOf args behind)]
    else if f = "env".toList then do
      let ((name, indices), behind) ← upToFallback surrounding s
      return [environment name indices (← fallbackOf args behind)]
    else do return [call f (← collect args)]

mutual
/-- The pieces of each component, or the fault in it. -/
def ofEach : List Component → List (Except Fault (List Piece))
  | [] => []
  | c :: r => ofComponent c :: ofEach r

/-- The pieces of a component. -/
def ofComponent : Component → Except Fault (List Piece)
  | .leaf t place _ => ofToken t place
  | .block (.function f) place w parts finish ending =>
    ofCall f (.block (.function f) place w parts finish ending) ⟨parts, finish⟩ (ofEach parts)
  | .block t _ _ parts _ _ => do
    let inner := gather [] false (← (ofEach parts).mapM id)
    return token t :: inner ++ [token (.closing (t.opens.getD .round))]
end

/-- The pieces of a value. -/
def ofComponents (cs : List Component) : Except Fault (List Piece) := collect (ofEach cs)

/-! ## Writing -/

/-- The text of a single token. -/
def tokenText (l : Layout) : Token → Text
  | .comma => l.after ','
  | .number n => Numeral.text n.value
  | .dimension n u => Written.dimension n.value u
  | t => Written.token t

/-- The channels of a colour, before its opacity. -/
def channelsText (l : Layout) : Channels → Text
  | .rgb r g b =>
    let parts := [Text.ofNat r, Text.ofNat g, Text.ofNat b]
    if l.supports .spacedColor then "rgb(".toList ++ Text.join [' '] parts ++ l.around '/'
    else "rgba(".toList ++ (parts.map (· ++ l.after ',')).flatten
  | .hsl h s k =>
    let parts := [Numeral.text h, Written.percentage s, Written.percentage k]
    if l.supports .spacedColor then "hsl(".toList ++ Text.join [' '] parts ++ l.around '/'
    else "hsla(".toList ++ (parts.map (· ++ l.after ',')).flatten

mutual
/-- The text of pieces one behind the other. -/
def writeAll (l : Layout) : List Piece → Text
  | [] => []
  | p :: r => write l p ++ writeAll l r

/-- The text of one piece. -/
def write (l : Layout) : Piece → Text
  | token t => tokenText l t
  | color c => c.text l
  | url u => Written.url l.compact u
  | measure q => q.fullText
  | resolution r u => resolutionText l r u
  | call n args => Written.ident n ++ '(' :: writeList l args ++ [')']
  | reference n none => "var(".toList ++ Written.ident n ++ [')']
  | reference n (some ps) => "var(".toList ++ Written.ident n ++ l.after ',' ++ writeList l ps ++ [')']
  | environment n is none =>
    "env(".toList ++ Text.join [' '] (Written.ident n :: is.map Numeral.ofInt) ++ [')']
  | environment n is (some ps) =>
    "env(".toList ++ Text.join [' '] (Written.ident n :: is.map Numeral.ofInt) ++ l.after ','
      ++ writeList l ps ++ [')']
  | mixed k ps => channelsText l k ++ writeList l ps ++ [')']

/-- The text of a list of pieces. White space alone is left out unless the layout is compact. -/
def writeList (l : Layout) : List Piece → Text
  | [p] => if !l.compact && p.isBlank then [] else write l p
  | ps => writeAll l ps
end

/-- The text of a value in pieces. -/
def text (l : Layout) (ps : List Piece) : Text := writeList l ps

end Piece
end StylePrune.Css
