import StylePrune.Css.Calc
import StylePrune.Css.Reader

/-!
Reading calculations, and numbers and quantities that can be worked out.

A calculation of some kind holds numbers and quantities of that kind. It is worked out as it is read.
-/
namespace StylePrune.Css.Calculation

open Decimal

/-- What may stand in a calculation besides numbers. -/
inductive Kind where
  | nothing
  | length
  | percent
  | lengthPercent
  | angle
  | time
deriving DecidableEq, Repr

/-- A quantity belongs to a kind. -/
def Kind.holds : Kind → Quantity → Bool
  | .length, .length _ _ | .percent, .percent _ | .angle, .angle _ _ | .time, .time _ _ => true
  | .lengthPercent, .length _ _ | .lengthPercent, .percent _ => true
  | _, _ => false

/-- A quantity of a kind. -/
def quantity (k : Kind) : Reader Quantity := Reader.expect fun t => (Quantity.ofToken? t).filter k.holds

/-- A plain number. -/
def plain : Reader Rat := Reader.expect fun
  | .number n => some n.value
  | _ => none

/-- The numbers that have names. -/
def constants : List (String × Rat) :=
  [("e", (2850325 : Nat) / ((Nat.pow 2 20 : Nat) : Rat)), ("pi", Quantity.pi), ("infinity", Single.infinity),
   ("-infinity", -Single.infinity)]

/-- A number by its name. -/
def constant : Reader Rat := Reader.expect fun
  | .ident n => (constants.find? fun e => e.1.toList = Text.lowerAscii n).map (·.2)
  | _ => none

/-- An addition or subtraction sign behind white space. -/
def spacedSign : Reader Bool := do
  let c ← Reader.nextTight
  match c.token with
  | .blank _ => Reader.expect fun
    | .delim '+' => some true
    | .delim '-' => some false
    | _ => none
  | t => Reader.fail (.unexpected t)

/-- A multiplication or division sign. -/
def productSign : Reader Bool := Reader.expect fun
  | .delim '*' => some true
  | .delim '/' => some false
  | _ => none

/-- White space and something behind it. -/
def continues : Reader Bool := do
  let s ← get
  match (s.items.dropWhile fun c => c.token.isSpace && !Reader.skipComments.isBlank c.token) with
  | c :: _ => return c.token.isSpace && !s.skipSpace.items.isEmpty
  | [] => return false

/-- A strategy of rounding with the comma behind it, where one is named. -/
def rounding : Reader Rounding := do
  let named ← Reader.attempt (Reader.expect fun
    | .ident n => ([("nearest", Rounding.nearest), ("up", .up), ("down", .down), ("to-zero", .toZero)].find?
        fun e => e.1.toList = Text.lowerAscii n).map (·.2)
    | _ => none)
  match named with
  | some r => Reader.comma; return r
  | none => return .nearest

/-- The number that a calculation comes to. -/
def numberOf : Calc → Reader Rat
  | .number r => return r
  | _ => Reader.fail .invalidValue

/-- A result that is a number. -/
def numberResult (r : Option Rat) : Reader Calc := match r with
  | some r => return .number r
  | none => Reader.fail .invalidValue

/-- A result that is an angle, where the calculation is one of angles. -/
def angleResult (k : Kind) (r : Option Rat) : Reader Calc := match k, r with
  | .angle, some r => return .value (.angle r "rad".toList)
  | _, _ => Reader.fail .invalidValue

/-- The number of radians that a calculation comes to. -/
def radiansOf : Calc → Reader Rat
  | .number r => return r
  | .value (.angle r u) =>
    return if u = "rad".toList then r
      else Single.mul (Quantity.degrees r u) (Single.div Quantity.pi 180)
  | _ => Reader.fail .invalidValue

mutual
/-- A sum of products. -/
def sum (k : Kind) : Nat → Reader Calc
  | 0 => Reader.fail .nestedTooDeep
  | fuel + 1 => do sumRest k fuel (← product k fuel)

/-- The products behind the first one. -/
def sumRest (k : Kind) : Nat → Calc → Reader Calc
  | 0, c => pure c
  | fuel + 1, c => do
    if ← continues then
      let plus ← spacedSign
      let d ← product k fuel
      sumRest k fuel (c.add (if plus then d else d.negated))
    else return c

/-- A product of values. -/
def product (k : Kind) : Nat → Reader Calc
  | 0 => Reader.fail .nestedTooDeep
  | fuel + 1 => do productRest k fuel (← value k fuel)

/-- The values behind the first one. One factor at least of a product is a number, and so is a divisor. -/
def productRest (k : Kind) : Nat → Calc → Reader Calc
  | 0, c => pure c
  | fuel + 1, c => do
    match ← Reader.attempt productSign with
    | some true =>
      match ← value k fuel, c with
      | .number x, c => productRest k fuel (c.times x)
      | d, .number x => productRest k fuel (d.times x)
      | _, _ => Reader.fail (.unexpected (.delim '*'))
    | some false =>
      match ← value k fuel with
      | .number x => if x = 0 then Reader.fail .invalidValue else productRest k fuel (c.times (Single.div 1 x))
      | _ => Reader.fail .invalidValue
    | none => return c

/-- A function, a sum in brackets, a number or a quantity. -/
def value (k : Kind) : Nat → Reader Calc
  | 0 => Reader.fail .nestedTooDeep
  | fuel + 1 => do
    if let some c ← Reader.attempt (call k fuel) then return c.unwrap
    if let some c ← Reader.attempt Reader.parentheses then return ← Reader.inside c (sum k fuel)
    let number (p : Reader Rat) : Reader Calc := do return .number (← p)
    Reader.orTry (number plain) (Reader.orTry (number constant) (do return .value (← quantity k)))

/-- A function of calculations. -/
def call (k : Kind) : Nat → Reader Calc
  | 0 => Reader.fail .nestedTooDeep
  | fuel + 1 => do
    let place ← Reader.here
    let c ← Reader.blockOf fun t => (t matches .function _)
    let name : Text := match c.token with
      | .function f => Text.lowerAscii f
      | _ => []
    let pair (k : Kind) : Reader (Calc × Calc) := do
      let a ← sum k fuel
      Reader.comma
      return (a, ← sum k fuel)
    let one (f : Calc → Reader Calc) (k : Kind) : Reader Calc := Reader.inside c do f (← sum k fuel)
    let numeric (f : Float32 → Float32) : Reader Calc :=
      one (fun a => do numberResult (Single.through? f (← numberOf a))) .nothing
    let numeric₂ (f : Float32 → Float32 → Float32) : Reader Calc := Reader.inside c do
      let (a, b) ← pair .nothing
      numberResult (Single.through₂? f (← numberOf a) (← numberOf b))
    let ofAngle (f : Float32 → Float32) : Reader Calc :=
      one (fun a => do numberResult (Single.through? f (← radiansOf a))) .angle
    let toAngle (f : Float32 → Float32) : Reader Calc :=
      one (fun a => do angleResult k (Single.through? f (← numberOf a))) .angle
    match String.ofList name with
    | "calc" => one (fun a => pure a.wrap) k
    | "min" => return Calc.extreme .min .lt (← Reader.inside c (Reader.separated (sum k fuel)))
    | "max" => return Calc.extreme .max .gt (← Reader.inside c (Reader.separated (sum k fuel)))
    | "clamp" => Reader.inside c do
      let (low, center) ← pair k
      Reader.comma
      return Calc.clamped low center (← sum k fuel)
    | "round" => Reader.inside c do
      let how ← rounding
      let (a, b) ← pair k
      return Calc.binary (.round how) (Calc.roundTo how) a b
    | "rem" => Reader.inside c do
      let (a, b) ← pair k
      return Calc.binary .rem Calc.remainder a b
    | "mod" => Reader.inside c do
      let (a, b) ← pair k
      return Calc.binary .mod Calc.modulus a b
    | "abs" => one (fun a => pure a.absolute) k
    | "sign" => one (fun a => pure a.signum) k
    | "sin" => ofAngle Float32.sin
    | "cos" => ofAngle Float32.cos
    | "tan" => ofAngle Float32.tan
    | "asin" => toAngle Float32.asin
    | "acos" => toAngle Float32.acos
    | "atan" => toAngle Float32.atan
    | "atan2" => Reader.inside c do
      let arc (k : Kind) : Reader Rat := do
        let (a, b) ← pair k
        match Calc.arc? a b with
        | some r => return r
        | none => Reader.fail .invalidValue
      let r ← [Kind.percent, .angle, .time, .nothing].foldl (fun p k => Reader.orTry p (arc k)) (arc .length)
      angleResult k (some r)
    | "hypot" => return Calc.hypotenuse (← Reader.inside c (Reader.separated (sum k fuel)))
    | "log" => Reader.inside c do
      let a ← numberOf (← sum .nothing fuel)
      match ← Reader.attempt Reader.comma with
      | none => numberResult (Single.through? Float32.log a)
      | some _ =>
        let b ← numberOf (← sum .nothing fuel)
        numberResult (Single.through₂? (fun x y => x.log / y.log) a b)
    | "sqrt" => numeric Float32.sqrt
    | "exp" => numeric Float32.exp
    | "pow" => numeric₂ Float32.pow
    | _ => Reader.failAt (.unexpected (.ident name)) place
end

/-- A function of calculations of a kind. -/
def calculation (k : Kind) : Reader Calc := do call k (6 * (← get).size + 16)

/-- A number. -/
def number : Reader Rat := Reader.orTry plain (do numberOf (← calculation .nothing))

/-- An integer, which no calculation gives. -/
def integer : Reader Int := Reader.expect fun
  | .number n => n.int?
  | _ => none

/-- A quantity of a kind in which every calculation can be worked out. -/
def definite (k : Kind) : Reader Quantity := Reader.orTry (quantity k) (do
  match ← calculation k with
  | .value q => return q
  | _ => Reader.fail .invalidValue)

/-- A time. -/
def time : Reader Quantity := definite .time

/-- An angle. -/
def angle : Reader Quantity := definite .angle

/-- An angle; zero needs no unit. -/
def angleOrZero : Reader Quantity := Reader.orTry angle (Reader.expect fun
  | .number n => if n.value = 0 then some (.angle 0 "deg".toList) else none
  | _ => none)

end StylePrune.Css.Calculation
