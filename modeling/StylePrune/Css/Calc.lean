import StylePrune.Css.Layout
import StylePrune.Css.Quantity
import StylePrune.Decimal.Elementary

/-!
Calculations with quantities and numbers.

A calculation is worked out as far as its units allow: `Calc.add` joins quantities of one unit, and a
product goes into the parts of a sum. What stays open is kept as a tree and written by `Calc.text`.
-/
namespace StylePrune.Css

open Decimal

/-- How `round()` rounds. -/
inductive Rounding where
  | nearest
  | up
  | down
  | toZero
deriving DecidableEq, Repr

/-- A function of calculations. -/
inductive MathFunction where
  | calc
  | min
  | max
  | clamp
  | round (r : Rounding)
  | rem
  | mod
  | abs
  | sign
  | hypot
deriving DecidableEq, Repr

/-- A calculation. -/
inductive Calc where
  | value (q : Quantity)
  | number (r : Rat)
  | sum (a b : Calc)
  | product (k : Rat) (c : Calc)
  | call (f : MathFunction) (args : List Calc)
deriving Repr

namespace Calc

mutual
/-- Equality of calculations, part by part. -/
def same : Calc → Calc → Bool
  | value p, value q => p == q
  | number x, number y => x == y
  | sum a b, sum c d => same a c && same b d
  | product k a, product m b => k == m && same a b
  | call f as, call g bs => f == g && sameAll as bs
  | _, _ => false

/-- Equality of lists of calculations. -/
def sameAll : List Calc → List Calc → Bool
  | [], [] => true
  | a :: r, b :: s => same a b && sameAll r s
  | _, _ => false
end

instance : BEq Calc := ⟨same⟩

mutual
/-- How many parts a calculation has. -/
def size : Calc → Nat
  | value _ | number _ => 1
  | sum a b => size a + size b + 1
  | product _ c => size c + 1
  | call _ args => sizes args + 1

/-- How many parts calculations have. -/
def sizes : List Calc → Nat
  | [] => 0
  | c :: r => size c + sizes r
end

/-- The calculation is the quantity zero. -/
def isZero : Calc → Bool
  | value q => q.isZero
  | _ => false

/-- The sign of a number. -/
def signOf (r : Rat) : Int := if r < 0 then -1 else 1

/-- The sign of a calculation, where it can be told. -/
def sign? : Calc → Option Int
  | value q => some (signOf q.size)
  | number r => some (signOf r)
  | product k c => (sign? c).map (· * signOf k)
  | sum _ _ | call _ _ => none

/-- A calculation times a number. -/
def scale (k : Rat) : Calc → Calc
  | value q => value (q.scale k)
  | number r => number (Single.mul r k)
  | sum a b => sum (scale k a) (scale k b)
  | product m c =>
    let n := Single.mul m k
    if n = 1 then c else product n c
  | call .calc [c] => call .calc [scale k c]
  | c => product k c

/-- A calculation times a number; one leaves it as it is. -/
def times (k : Rat) (c : Calc) : Calc := if k = 1 then c else scale k c

/-! ## Sums -/

/-- A sum of two calculations that have no unit in common: zero is left out, and of a negative and a
positive part the positive one comes first. -/
def beside (a b : Calc) : Calc :=
  if a.isZero then b
  else if b.isZero then a
  else if a.sign? = some (-1) && b.sign? = some 1 then sum b a
  else sum a b

mutual
/-- A sum of two calculations; the first argument bounds how deep it looks for a common unit. -/
def join : Nat → Calc → Calc → Calc
  | 0, a, b => beside a b
  | fuel + 1, a, b => (merge? fuel a b).getD (beside a b)

/-- Adds one of two calculations to a part of the other that has its unit. -/
def merge? : Nat → Calc → Calc → Option Calc
  | 0, _, _ => none
  | _ + 1, value p, value q => (p.add? q).map value
  | fuel + 1, sum x y, b =>
    match merge? fuel x b with
    | some r => some (join fuel r y)
    | none => (merge? fuel y b).map (join fuel x)
  | fuel + 1, a, sum x y =>
    match merge? fuel a x with
    | some r => some (join fuel r y)
    | none => (merge? fuel a y).map (join fuel x)
  | _ + 1, _, _ => none
end

/-- The sum of two calculations. -/
def add (a b : Calc) : Calc :=
  let joined := join (2 * (a.size + b.size)) a b
  match a, b with
  | number x, number y => number (Single.add x y)
  | sum (number x) r, number y => sum (number (Single.add x y)) r
  | sum l (number x), number y => sum l (number (Single.add x y))
  | number x, sum (number y) r => sum (number (Single.add x y)) r
  | number x, sum l (number y) => sum (number (Single.add x y)) l
  | number _, _ | _, number _ | product _ _, _ | _, product _ _ | call _ _, _ | _, call _ _ => sum a b
  | _, _ => joined

/-! ## Functions -/

/-- A calculation that has been worked out is the argument of no `calc()`. -/
def wrap : Calc → Calc
  | value q => value q
  | number r => number r
  | c => call .calc [c]

/-- What a calculation says inside another one. -/
def unwrap : Calc → Calc
  | call .calc [c] => c
  | c => c

/-- Takes an argument of `min()` or `max()` among the earlier ones: of two comparable quantities only the
one that comes first in the given order stays. -/
def takeExtreme (keep : Ordering) (earlier : List Calc) (new : Calc) : List Calc :=
  match new with
  | value q =>
    let rec go : List Calc → Option (List Calc)
      | [] => none
      | value p :: r => match q.compare? p with
        | some o => some ((if o = keep then new else value p) :: r)
        | none => (go r).map (value p :: ·)
      | c :: r => (go r).map (c :: ·)
    (go earlier).getD (earlier ++ [new])
  | _ => earlier ++ [new]

/-- `min()` or `max()` of some calculations. -/
def extreme (f : MathFunction) (keep : Ordering) (args : List Calc) : Calc :=
  match args.foldl (takeExtreme keep) [] with
  | [c] => c
  | cs => call f cs

/-- The order of two quantities among calculations. -/
def compare? : Calc → Calc → Option Ordering
  | value p, value q => p.compare? q
  | _, _ => none

/-- `clamp()` without the bounds that cannot be reached. -/
def clamped (low center high : Calc) : Calc :=
  let (center, high) : Calc × Option Calc := match compare? center high with
    | some .gt => (high, none)
    | some _ => (center, none)
    | none => (center, some high)
  let (center, low) : Calc × Option Calc := match compare? center low with
    | some .lt => (low, none)
    | some _ => (center, none)
    | none => (center, some low)
  match low, high with
  | none, none => center
  | some l, none => call .max [l, center]
  | none, some h => call .min [center, h]
  | some l, some h => call .clamp [l, center, h]

/-- A number rounded to a multiple of another one. -/
def roundTo (how : Rounding) (x step : Rat) : Rat :=
  let v := Single.div x step
  let n : Int := match how with
    | .down => v.floor
    | .up => -(-v).floor
    | .toZero => if v < 0 then -(-v).floor else v.floor
    | .nearest => if v < 0 then -(-v + 1 / 2).floor else (v + 1 / 2).floor
  Single.mul n step

/-- What is left of a number after whole multiples of another one, with the sign of the first. -/
def remainder (x step : Rat) : Rat :=
  let v := x / step
  Single.round (x - step * (if v < 0 then -(-v).floor else v.floor : Int))

/-- What is left of a number after whole multiples of another one, with the sign of the second. -/
def modulus (x step : Rat) : Rat := remainder (Single.add (remainder x step) step) step

/-- A function of two numbers that is worked out where its arguments allow it. -/
def binary (f : MathFunction) (op : Rat → Rat → Rat) (a b : Calc) : Calc :=
  match a, b with
  | value p, value q => if q.isZero then call f [a, b] else ((p.combine? op q).map value).getD (call f [a, b])
  | number x, number y => if y = 0 then call f [a, b] else number (op x y)
  | _, _ => call f [a, b]

/-- `abs()`; that of a percentage is not known before the percentage is. -/
def absolute : Calc → Calc
  | value (.percent r) => call .abs [value (.percent r)]
  | value q => value (q.resize (if q.size < 0 then -q.size else q.size))
  | number r => number (if r < 0 then -r else r)
  | c => call .abs [c]

/-- `sign()`; that of a percentage is not known before the percentage is. -/
def signum : Calc → Calc
  | value (.percent r) => call .sign [value (.percent r)]
  | value q => number (if q.size = 0 then 0 else signOf q.size)
  | number r => number (if r = 0 then 0 else signOf r)
  | c => call .sign [c]

/-- What a function of two numbers makes of two calculations. -/
def combine? (op : Rat → Rat → Rat) : Calc → Calc → Option Calc
  | value p, value q => (p.combine? op q).map value
  | number x, number y => some (number (op x y))
  | _, _ => none

/-- What a function of numbers makes of a calculation. -/
def map? (op : Rat → Rat) : Calc → Option Calc
  | value (.percent _) => none
  | value q => some (value (q.resize (op q.size)))
  | number x => some (number (op x))
  | _ => none

/-- The angle in radians whose tangent is the ratio of two calculations. -/
def arc? (a b : Calc) : Option Rat :=
  match combine? (fun x y => (Single.through₂? Float32.atan2 x y).getD 0) a b with
  | some (value q) => some q.size
  | some (number r) => some r
  | _ => none

/-- The square of a number. -/
def square (x : Rat) : Rat := Single.mul x x

/-- `hypot()`. -/
def hypotenuse (args : List Calc) : Calc :=
  let open_ := call .hypot args
  match args with
  | [] => open_
  | [a] => a
  | [a, b] => (combine? Single.hypotenuse a b).getD open_
  | a :: r =>
    let squares := r.foldl (fun s b => s.bind fun c => combine? (fun x y => Single.add x (square y)) c b) (map? square a)
    (squares.bind (map? Single.sqrt)).getD open_

/-! ## Writing -/

/-- The name of a function. -/
def nameOf : MathFunction → String
  | .calc => "calc"
  | .min => "min"
  | .max => "max"
  | .clamp => "clamp"
  | .round _ => "round"
  | .rem => "rem"
  | .mod => "mod"
  | .abs => "abs"
  | .sign => "sign"
  | .hypot => "hypot"

/-- What stands before the arguments of a function. -/
def opening (l : Layout) : MathFunction → Text
  | .round .up => "round(up".toList ++ l.after ','
  | .round .down => "round(down".toList ++ l.after ','
  | .round .toZero => "round(to-zero".toList ++ l.after ','
  | f => (nameOf f).toList ++ ['(']

/-- The calculation with the opposite sign. -/
def negated (c : Calc) : Calc := c.times (-1)

/-- A calculation; the first argument bounds its height. -/
def write (l : Layout) : Nat → Calc → Text
  | 0, _ => []
  | _ + 1, value q => q.fullText
  | _ + 1, number r => Numeral.text r
  | fuel + 1, sum a b =>
    write l fuel a ++
      if b.sign? = some (-1) then " - ".toList ++ write l fuel b.negated
      else " + ".toList ++ write l fuel b
  | fuel + 1, product k c =>
    if -1 < k ∧ k < 1 ∧ k ≠ 0 then write l fuel c ++ l.around '/' ++ Numeral.text (Single.div 1 k)
    else Numeral.text k ++ l.around '*' ++ write l fuel c
  | fuel + 1, call f args =>
    let texts := args.map (write l fuel)
    match f, texts with
    | .clamp, [a, b, c] =>
      if l.supports .clampFunction then "clamp(".toList ++ Text.join (l.after ',') [a, b, c] ++ [')']
      else "max(".toList ++ a ++ l.after ',' ++ "min(".toList ++ b ++ l.after ',' ++ c ++ [')', ')']
    | f, texts => opening l f ++ Text.join (l.after ',') texts ++ [')']

/-- The text of a calculation. -/
def text (l : Layout) (c : Calc) : Text := write l (c.size + 1) c

/-! ## Browsers -/

/-- The feature behind a function. -/
def featureOf : MathFunction → Feature
  | .calc => .calcFunction
  | .min | .max => .minFunction
  | .clamp => .clampFunction
  | .round _ | .rem | .mod => .roundFunction
  | .abs | .sign => .absFunction
  | .hypot => .trigonometry

mutual
/-- Every browser knows the units and functions of a calculation. -/
def isKnown (t : Targets) : Calc → Bool
  | value q => q.isKnown t
  | number _ => true
  | sum a b => isKnown t a && isKnown t b
  | product _ c => isKnown t c
  | call f args => t.supports (featureOf f) && allKnown t args

/-- Every browser knows the units and functions of calculations. -/
def allKnown (t : Targets) : List Calc → Bool
  | [] => true
  | c :: r => isKnown t c && allKnown t r
end

end Calc
end StylePrune.Css
