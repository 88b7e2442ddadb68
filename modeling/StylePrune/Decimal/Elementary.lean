import StylePrune.Decimal.Single

/-!
Elementary functions of numbers of single precision.

`Single.through?` and `Single.through₂?` carry a function of machine numbers over to fractions; a result that
is not a number is `none`.
-/
namespace StylePrune.Decimal.Single

/-- A number as a machine number. -/
def toMachine (r : Rat) : Float32 := (Float32.ofInt r.num).scaleB (-(Nat.log2 r.den : Int))

/-- A machine number as a fraction: a sign, eight bits of exponent and 23 bits of mantissa. -/
def ofMachine? (x : Float32) : Option Rat :=
  if x.isNaN then none
  else
    let bits : Nat := x.toBits.toNat
    let e : Nat := bits / Nat.pow 2 23 % 256
    let m : Nat := bits % Nat.pow 2 23
    let size : Rat :=
      if e = 255 then infinity
      else if e = 0 then (m : Rat) * twoTo (-149)
      else (((m + Nat.pow 2 23 : Nat) : Nat) : Rat) * twoTo ((e : Int) - 150)
    some (if Nat.pow 2 31 ≤ bits then -size else size)

/-- A function of one number. -/
def through? (f : Float32 → Float32) (x : Rat) : Option Rat := ofMachine? (f (toMachine x))

/-- A function of two numbers. -/
def through₂? (f : Float32 → Float32 → Float32) (x y : Rat) : Option Rat :=
  ofMachine? (f (toMachine x) (toMachine y))

/-- The square root of a number that is not negative. -/
def sqrt (x : Rat) : Rat := (through? Float32.sqrt x).getD 0

/-- The root of the sum of two squares. -/
def hypotenuse (x y : Rat) : Rat :=
  let root (a b : Float32) : Float32 :=
    (Float.sqrt (a.toFloat * a.toFloat + b.toFloat * b.toFloat)).toFloat32
  (through₂? root x y).getD 0

end StylePrune.Decimal.Single
