import StylePrune.Css.Browsers
import StylePrune.Css.Written

/-!
Lengths, percentages, angles and times.

Two quantities of one unit can be added and compared, and so can any two whose units are fixed multiples
of each other. `Quantity.text` writes a quantity in the shorter of the units that it can have.
-/
namespace StylePrune.Css

open Decimal

/-- A unit of length. -/
def isLengthUnit (u : Text) : Bool :=
  ["px", "in", "cm", "mm", "q", "pt", "pc", "em", "rem", "ex", "rex", "ch", "rch", "cap", "rcap", "ic",
   "ric", "lh", "rlh", "vw", "lvw", "svw", "dvw", "cqw", "vh", "lvh", "svh", "dvh", "cqh", "vi", "svi",
   "lvi", "dvi", "cqi", "vb", "svb", "lvb", "dvb", "cqb", "vmin", "svmin", "lvmin", "dvmin", "cqmin",
   "vmax", "svmax", "lvmax", "dvmax", "cqmax"].any (·.toList = u)

/-- A unit of length as it is written. -/
def lengthUnit (u : Text) : Text := if u = ['q'] then ['Q'] else u

/-- A unit of angle. -/
def isAngleUnit (u : Text) : Bool := ["deg", "grad", "rad", "turn"].any (·.toList = u)

/-- A unit of time. -/
def isTimeUnit (u : Text) : Bool := ["s", "ms"].any (·.toList = u)

/-- A quantity with its unit. A percentage is kept as the fraction that it stands for. -/
inductive Quantity where
  | length (r : Rat) (unit : Text)
  | percent (fraction : Rat)
  | angle (r : Rat) (unit : Text)
  | time (r : Rat) (unit : Text)
deriving DecidableEq, Repr

namespace Quantity

/-- A length in pixels. -/
def pixels (r : Rat) : Quantity := length r ['p', 'x']

/-- The quantity that a token gives. -/
def ofToken? : Token → Option Quantity
  | .percentage n => some (percent n.value)
  | .dimension n u =>
    let l := Text.lowerAscii u
    if isLengthUnit l then some (length n.value (lengthUnit l))
    else if isAngleUnit l then some (angle n.value l)
    else if isTimeUnit l then some (time n.value l)
    else none
  | _ => none

/-- The number before the unit. -/
def size : Quantity → Rat
  | length r _ | percent r | angle r _ | time r _ => r

/-- The quantity is zero. -/
def isZero (q : Quantity) : Bool := q.size == 0

/-- A quantity with another number before its unit. -/
def resize (q : Quantity) (r : Rat) : Quantity :=
  match q with
  | length _ u => length r u
  | percent _ => percent r
  | angle _ u => angle r u
  | time _ u => time r u

/-- A quantity times a number. -/
def scale (k : Rat) (q : Quantity) : Quantity := q.resize (Single.mul q.size k)

/-- How many pixels a unit of length has, where that is fixed. -/
def pixelsPer? (u : Text) : Option Rat :=
  let inch : Rat := 96
  let cm := Single.div inch (Single.round (254 / 100))
  (([("px", 1), ("in", inch), ("cm", cm), ("mm", Single.div cm 10), ("Q", Single.div cm 40),
    ("pt", Single.div inch 72), ("pc", 16)] : List (String × Rat)).find? fun e => e.1.toList = u).map (·.2)

/-- The ratio of a circle to its diameter. -/
def pi : Rat := (13176795 : Nat) / ((Nat.pow 2 22 : Nat) : Rat)

/-- An angle in degrees. -/
def degrees (r : Rat) (unit : Text) : Rat :=
  if unit = "rad".toList then Single.mul r (Single.div 180 pi)
  else if unit = "grad".toList then Single.div (Single.mul r 180) 200
  else if unit = "turn".toList then Single.mul r 360
  else r

/-- A number by which quantities of one kind can be compared, where there is one. -/
def common? : Quantity → Option Rat
  | length r u => (pixelsPer? u).map (Single.mul r)
  | percent r => some r
  | angle r u => some (degrees r u)
  | time r u => some (if u = ['s'] then Single.mul r 1000 else r)

/-- Quantities of one kind. -/
def sameKind : Quantity → Quantity → Bool
  | length _ _, length _ _ | percent _, percent _ | angle _ _, angle _ _ | time _ _, time _ _ => true
  | _, _ => false

/-- Quantities of one unit. -/
def sameUnit : Quantity → Quantity → Bool
  | length _ u, length _ v | angle _ u, angle _ v | time _ u, time _ v => u == v
  | percent _, percent _ => true
  | _, _ => false

/-- What a function of two numbers makes of two quantities, in their unit or in one that both can be
converted to. -/
def combine? (f : Rat → Rat → Rat) (a b : Quantity) : Option Quantity :=
  if sameUnit a b then some (a.resize (f a.size b.size))
  else if !sameKind a b then none
  else match a, b, a.common?, b.common? with
    | length _ _, _, some x, some y => some (pixels (f x y))
    | angle _ _, _, some x, some y => some (angle (f x y) "deg".toList)
    | time r u, time s _, _, _ =>
      let s := if u = ['s'] then Single.div s 1000 else Single.mul s 1000
      some (time (f r s) u)
    | _, _, _, _ => none

/-- The sum of two quantities. -/
def add? : Quantity → Quantity → Option Quantity := combine? Single.add

/-- The order of two numbers. -/
def order (x y : Rat) : Ordering := if x < y then .lt else if x = y then .eq else .gt

/-- The order of two quantities. -/
def compare? (a b : Quantity) : Option Ordering :=
  if sameUnit a b then some (order a.size b.size)
  else if sameKind a b then
    match a.common?, b.common? with
    | some x, some y => some (order x y)
    | _, _ => none
  else none

/-- A time in the shorter of its two units. -/
def timeText (r : Rat) (unit : Text) : Text :=
  if unit = ['s'] then
    if 0 < r ∧ r < Single.round (1 / 10) then Written.dimension (Single.mul r 1000) ['m', 's']
    else Written.dimension r unit
  else if r = 0 ∨ 100 ≤ r then Written.dimension (Single.div r 1000) ['s']
  else Written.dimension r unit

/-- An angle; one in radians is written in degrees. -/
def angleText (r : Rat) (unit : Text) : Text :=
  if unit = "rad".toList then Written.dimension (degrees r unit) "deg".toList
  else Written.dimension r unit

/-- A quantity with its unit, even where it is zero. -/
def fullText : Quantity → Text
  | length r u => Written.dimension r u
  | percent r => Written.percentage r
  | angle r u => angleText r u
  | time r u => timeText r u

/-- A quantity. The length zero and the angle zero need no unit. -/
def text (q : Quantity) : Text :=
  match q with
  | length r _ | angle r _ => if r = 0 then ['0'] else q.fullText
  | _ => q.fullText

/-- The feature behind a unit of length that some browsers do not know. -/
def unitFeature? (u : Text) : Option Feature :=
  let table : List (List String × Feature) :=
    [(["vmax"], .vmaxUnit), (["Q"], .quarterUnit), (["lh"], .lineHeightUnit), (["rlh"], .rootLineHeightUnit),
     (["ic"], .ideographUnit), (["ric"], .rootIdeographUnit), (["cap"], .capHeightUnit),
     (["rcap"], .rootCapHeightUnit), (["rch"], .rootIdeographUnit), (["rex"], .rootIdeographUnit),
     (["vi", "vb", "svw", "lvw", "dvw", "svh", "lvh", "dvh", "svi", "lvi", "dvi", "svb", "lvb", "dvb", "svmin",
       "lvmin", "dvmin", "svmax", "lvmax", "dvmax"], .viewportUnits),
     (["cqw", "cqh", "cqi", "cqb", "cqmin", "cqmax"], .containerUnits)]
  (table.find? fun e => e.1.any (·.toList = u)).map (·.2)

/-- Every browser knows the unit. -/
def isKnown (t : Targets) : Quantity → Bool
  | length _ u => (unitFeature? u).all t.supports
  | _ => true

end Quantity
end StylePrune.Css
