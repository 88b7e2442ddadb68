import StylePrune.Css.Measure

/-!
Backgrounds.

A background is a list of layers over a colour. The shorthand says all of a layer at once, every other
property one thing of each layer; `Layer.text` leaves out what is the same as when nothing is said.
-/
namespace StylePrune.Css.Background

/-! ## Positions -/

/-- The side of a box that an offset is measured from: left or top, right or bottom. -/
inductive Side where
  | low
  | high
deriving DecidableEq, Repr

/-- The axis of an offset. -/
inductive Axis where
  | across
  | down
deriving DecidableEq, Repr

/-- Where a layer stands along one axis. -/
inductive Offset where
  | center
  | at (t : Term)
  | side (s : Side) (distance : Option Term)
deriving Repr

namespace Side

/-- The word for a side. -/
def word : Axis → Side → String
  | .across, low => "left"
  | .across, high => "right"
  | .down, low => "top"
  | .down, high => "bottom"

/-- A side by its word. -/
def read (a : Axis) : Reader Side := Reader.expect fun
  | .ident n =>
    let l := Text.lowerAscii n
    if l = (word a low).toList then some low else if l = (word a high).toList then some high else none
  | _ => none

/-- A side as a length. -/
def term : Side → Term
  | low => .zero
  | high => .percent 1

end Side

namespace Offset

/-- Equality of offsets. -/
def same : Offset → Offset → Bool
  | center, center => true
  | .at t, .at u => t == u
  | side s none, side r none => s == r
  | side s (some t), side r (some u) => s == r && t == u
  | _, _ => false

instance : BEq Offset := ⟨same⟩

/-- An offset. -/
def read (a : Axis) : Reader Offset := do
  if ← Reader.takes (Reader.word "center") then return center
  if let some t ← Reader.attempt Measure.lengthPercent then return .at t
  let s ← Side.read a
  return side s (← Reader.attempt Measure.lengthPercent)

/-- The offset is in the middle. -/
def isCenter : Offset → Bool
  | center => true
  | .at (.quantity (.percent r)) => r == 1 / 2
  | _ => false

/-- The offset is a length or a percentage of zero. -/
def isZero : Offset → Bool
  | .at t => t.isZero
  | _ => false

/-- The text of an offset. -/
def text (l : Layout) (a : Axis) : Offset → Text
  | center => if l.compact then "50%".toList else "center".toList
  | .at t => t.text l
  | side s d => (s.word a).toList ++ d.elim [] fun t => ' ' :: t.text l

/-- The offset as a length from the left or the top, where it is one. -/
def length? : Offset → Option Term
  | center => some (.percent (1 / 2))
  | .at t => some (if t.isZero then .zero else t)
  | side .low none => some .zero
  | side .low (some t) => some (if t.isZero then .zero else t)
  | side .high _ => none

end Offset

/-- Where a layer stands. -/
structure Spot where
  x : Offset
  y : Offset
deriving Repr, BEq

namespace Spot

/-- Where a layer stands if nothing is said. -/
def usual : Spot := ⟨.at (.percent 0), .at (.percent 0)⟩

/-- What stands behind a word for the left or the right. -/
def behindSide (s : Side) (d : Option Term) : Reader Spot := do
  if ← Reader.takes (Reader.word "center") then return ⟨.side s d, .center⟩
  if let some v ← Reader.attempt (Side.read .down) then
    return ⟨.side s d, .side v (← Reader.attempt Measure.lengthPercent)⟩
  return ⟨.side s none, d.elim .center .at⟩

/-- A position whose word for the top or the bottom comes first. -/
def sideways : Reader Spot := do
  let v ← Side.read .down
  let rest ← Reader.attempt do
    let d ← Reader.attempt Measure.lengthPercent
    if let some s ← Reader.attempt (Side.read .across) then
      return (d, Offset.side s (← Reader.attempt Measure.lengthPercent))
    Reader.word "center"
    return (d, Offset.center)
  match rest with
  | some (d, x) => return ⟨x, .side v d⟩
  | none => return ⟨.center, .side v none⟩

/-- A position: offsets along both axes, words in either order. -/
def read : Reader Spot := do
  match ← Reader.attempt (Offset.read .across) with
  | some .center =>
    if let some y ← Reader.attempt (Offset.read .down) then return ⟨.center, y⟩
    return ⟨(← Reader.attempt (Offset.read .across)).getD .center, .center⟩
  | some (.at t) =>
    if let some v ← Reader.attempt (Side.read .down) then return ⟨.at t, .side v none⟩
    if let some u ← Reader.attempt Measure.lengthPercent then return ⟨.at t, .at u⟩
    let _ ← Reader.takes (Reader.word "center")
    return ⟨.at t, .center⟩
  | some (.side s d) => behindSide s d
  | none => sideways

/-- The text of a position; the middle need not be written. -/
def text (l : Layout) (p : Spot) : Text :=
  let both (x y : Text) : Text := x ++ ' ' :: y
  let x := p.x.text l .across
  let y := p.y.text l .down
  let rest : Text :=
    match p.x, p.y with
    | .side s none, .side v none => both (s.term.text l) (v.term.text l)
    | _, _ => match p.x.length?, p.y.length? with
      | some t, some u => both (t.text l) (u.text l)
      | _, _ => both x y
  match p.x, p.y with
  | .side .high (some _), .at u => both x (both "top".toList (u.text l))
  | .side .high (some _), .center => both x "center".toList
  | .at t, .side .high (some _) => both (both "left".toList (t.text l)) y
  | .center, .side .high (some _) => both "center".toList y
  | .at t, v => if v.isCenter then t.text l else if p.x.isCenter then (match v with
      | .side _ none => y
      | _ => rest) else rest
  | .center, .center => x
  | .center, .side _ none => y
  | .center, v => if v.isCenter then x else rest
  | .side s none, v => if v.isCenter then s.term.text l else rest
  | _, _ => rest

end Spot

/-! ## The other parts of a layer -/

/-- An image. -/
inductive Image where
  | none
  | url (u : Text)
deriving DecidableEq, Repr

/-- An image. -/
def Image.read : Reader Image := Reader.orTry (do Reader.word "none"; return none) (do return url (← Reader.url))

/-- The text of an image. -/
def Image.text (l : Layout) : Image → Text
  | none => "none".toList
  | url u => Written.url l.compact u

/-- The size of an image. -/
inductive Size where
  | explicit (width height : Term)
  | word (w : Text)
deriving Repr

namespace Size

/-- Equality of sizes. -/
def same : Size → Size → Bool
  | explicit a b, explicit c d => a == c && b == d
  | word v, word w => v == w
  | _, _ => false

instance : BEq Size := ⟨same⟩

/-- The word for a size of its own. -/
def auto : Term := .word "auto".toList

/-- The size of an image if nothing is said. -/
def usual : Size := explicit auto auto

/-- A size: two lengths, one, or a word. -/
def read : Reader Size := do
  let one := Measure.orAuto Measure.lengthPercent
  if let some w ← Reader.attempt one then return explicit w ((← Reader.attempt one).getD auto)
  match ← Measure.oneOf ["cover", "contain"] with
  | .word w => return word w
  | _ => Reader.fail .invalidValue

/-- The text of a size. -/
def text (l : Layout) : Size → Text
  | explicit w h => w.text l ++ if h == auto then [] else ' ' :: h.text l
  | word w => w

end Size

/-- How an image repeats along both axes. -/
structure Repetition where
  x : Text
  y : Text
deriving DecidableEq, Repr

namespace Repetition

/-- How an image repeats if nothing is said. -/
def usual : Repetition := ⟨"repeat".toList, "repeat".toList⟩

/-- One word for an axis. -/
def axis : Reader Text := Reader.expect fun
  | .ident n =>
    let l := Text.lowerAscii n
    if ["repeat", "space", "round", "no-repeat"].any (·.toList = l) then some l else none
  | _ => none

/-- A repetition by one or two words. -/
def read : Reader Repetition := do
  if ← Reader.takes (Reader.word "repeat-x") then return ⟨"repeat".toList, "no-repeat".toList⟩
  if ← Reader.takes (Reader.word "repeat-y") then return ⟨"no-repeat".toList, "repeat".toList⟩
  let x ← axis
  return ⟨x, (← Reader.attempt axis).getD x⟩

/-- The text of a repetition. -/
def text (r : Repetition) : Text :=
  if r = ⟨"repeat".toList, "no-repeat".toList⟩ then "repeat-x".toList
  else if r = ⟨"no-repeat".toList, "repeat".toList⟩ then "repeat-y".toList
  else if r.x = r.y then r.x
  else r.x ++ ' ' :: r.y

end Repetition

/-- One of some words, in lower case. -/
def oneOf (ws : List String) : Reader Text := Reader.expect fun
  | .ident n => if ws.any (·.toList = Text.lowerAscii n) then some (Text.lowerAscii n) else none
  | _ => none

/-- Whether a layer moves with its contents. -/
def attachment : Reader Text := oneOf ["scroll", "fixed", "local"]

/-- The box that a layer is placed in. -/
def origin : Reader Text := oneOf ["border-box", "padding-box", "content-box"]

/-- The box that a layer is painted in. -/
def clip : Reader Text := oneOf ["border-box", "padding-box", "content-box", "border", "text"]

/-! ## Layers -/

/-- A layer. Its colour shows in the last layer only. -/
structure Layer where
  color : Color
  image : Image
  place : Spot
  size : Size
  repetition : Repetition
  attachment : Text
  origin : Text
  clip : Text
deriving Repr, BEq

namespace Layer

/-- The colour that nothing is seen of. -/
def clear : Color := .channels 0 0 0 0

/-- What has been said of a layer. -/
structure Said where
  color : Option Color
  place : Option Spot
  size : Option Size
  image : Option Image
  repetition : Option Repetition
  attachment : Option Text
  origin : Option Text
  clip : Option Text

/-- One more thing said of a layer. -/
def more (s : Said) : Reader Said := do
  if s.color.isNone then
    if let some c ← Reader.attempt Color.read then return { s with color := some c }
  if s.place.isNone then
    if let some p ← Reader.attempt Spot.read then
      let z ← Reader.attempt do Reader.delim '/'; Size.read
      return { s with place := some p, size := z }
  if s.image.isNone then
    if let some i ← Reader.attempt Image.read then return { s with image := some i }
  if s.repetition.isNone then
    if let some r ← Reader.attempt Repetition.read then return { s with repetition := some r }
  if s.attachment.isNone then
    if let some a ← Reader.attempt Background.attachment then return { s with attachment := some a }
  if s.origin.isNone then
    if let some o ← Reader.attempt Background.origin then return { s with origin := some o }
  if s.clip.isNone then
    if let some c ← Reader.attempt Background.clip then return { s with clip := some c }
  Reader.fail .invalidValue

/-- All that is said of a layer; there are at most seven things to say. -/
def said : Nat → Said → Reader Said
  | 0, s => pure s
  | fuel + 1, s => do
    match ← Reader.attempt (more s) with
    | some t => said fuel t
    | none => return s

/-- A layer. Where one box is named a layer is placed and painted in it. -/
def read : Reader Layer := do
  let s ← said 8 ⟨none, none, none, none, none, none, none, none⟩
  return {
    color := s.color.getD clear
    image := s.image.getD .none
    place := s.place.getD .usual
    size := s.size.getD .usual
    repetition := s.repetition.getD .usual
    attachment := s.attachment.getD "scroll".toList
    origin := s.origin.getD "padding-box".toList
    clip := (s.clip.or s.origin).getD "border-box".toList }

/-- The texts of the boxes of a layer. -/
def boxTexts (b : Layer) : List Text :=
  let padded := b.origin ≠ "padding-box".toList
    || (b.clip ≠ "border-box".toList && ["padding-box", "content-box"].any (·.toList = b.clip))
  (if padded then [b.origin] else [])
    ++ if (padded && b.clip ≠ b.origin) || b.clip ≠ "border-box".toList then [b.clip] else []

/-- The text of a layer. One that says nothing is written by its position, or as `none`. -/
def text (l : Layout) (b : Layer) : Text :=
  let placed := !(b.place.x.isZero && b.place.y.isZero) || b.size != .usual
  let one (kept : Bool) (t : Text) : List Text := if kept then [t] else []
  let parts := one (b.color ≠ clear) (b.color.text l) ++ one (b.image ≠ .none) (b.image.text l)
    ++ one placed (b.place.text l ++ if b.size == .usual then [] else l.around '/' ++ b.size.text l)
    ++ one (b.repetition ≠ .usual) b.repetition.text
    ++ one (b.attachment ≠ "scroll".toList) b.attachment ++ boxTexts b
  if parts.isEmpty then (if l.compact then b.place.text l else "none".toList) else Text.join [' '] parts

end Layer

/-! ## Values -/

/-- A value of a property of backgrounds. -/
inductive Value where
  | layers (ls : List Layer)
  | images (is : List Image)
  | spots (ps : List Spot)
  | offsets (a : Axis) (os : List Offset)
  | sizes (ss : List Size)
  | repetitions (rs : List Repetition)
  | boxes (ws : List Text)
deriving Repr, BEq

/-- The properties with their readers. -/
def table : List (String × Reader Value) :=
  [("background", do return .layers (← Reader.separated Layer.read)),
   ("background-image", do return .images (← Reader.separated Image.read)),
   ("background-position", do return .spots (← Reader.separated Spot.read)),
   ("background-position-x", do return .offsets .across (← Reader.separated (Offset.read .across))),
   ("background-position-y", do return .offsets .down (← Reader.separated (Offset.read .down))),
   ("background-size", do return .sizes (← Reader.separated Size.read)),
   ("background-repeat", do return .repetitions (← Reader.separated Repetition.read)),
   ("background-attachment", do return .boxes (← Reader.separated attachment)),
   ("background-origin", do return .boxes (← Reader.separated origin)),
   ("background-clip", do return .boxes (← Reader.separated clip))]

/-- The reader of a property of backgrounds. -/
def grammar? (base : Text) : Option (Reader Value) := (table.find? fun e => e.1.toList = base).map (·.2)

/-- The texts of the parts of a value. -/
def Value.texts (l : Layout) : Value → List Text
  | layers ls => ls.map (·.text l)
  | images is => is.map (·.text l)
  | spots ps => ps.map (·.text l)
  | offsets a os => os.map (·.text l a)
  | sizes ss => ss.map (·.text l)
  | repetitions rs => rs.map (·.text)
  | boxes ws => ws

/-- The text of a value. -/
def Value.text (l : Layout) (v : Value) : Text := Text.join (l.after ',') (v.texts l)

end StylePrune.Css.Background
