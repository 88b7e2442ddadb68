import StylePrune.Decimal.Shortest

/-!
Binary floating-point numbers of single precision, as fractions.

A finite number is `m * 2 ^ q` with `m < 2 ^ 24` and `-149 ≤ q ≤ 104`. `Single.round` gives the number
nearest to a fraction, of two equally near ones that with the even mantissa. Fractions beyond the greatest
number become `infinity`, which is kept as the power of two that no finite number reaches.
-/
namespace StylePrune.Decimal.Single

/-- What stands for infinity. -/
def infinity : Rat := (Nat.pow 2 128 : Nat)

/-- The greatest finite number. -/
def greatest : Rat := (Nat.pow 2 128 - Nat.pow 2 104 : Nat)

/-- Two to an integer power. -/
def twoTo (q : Int) : Rat := if 0 ≤ q then (Nat.pow 2 q.toNat : Nat) else 1 / ((Nat.pow 2 (-q).toNat : Nat) : Rat)

/-- The exponent `e` of a positive fraction: `2 ^ e ≤ r < 2 ^ (e + 1)`. -/
def exponent (r : Rat) : Int :=
  let e : Int := (Nat.log2 r.num.natAbs : Int) - Nat.log2 r.den
  if twoTo e ≤ r then e else e - 1

/-- The exponent of the last place of a positive number. -/
def lastPlace (r : Rat) : Int := max (exponent r - 23) (-149)

/-- The nearest integer, of two equally near ones the even one. -/
def nearestEven (r : Rat) : Int :=
  let n := r.floor
  let part := r - n
  if part < 1 / 2 then n else if 1 / 2 < part then n + 1 else if n % 2 = 0 then n else n + 1

/-- The number nearest to a positive fraction. -/
def roundPositive (r : Rat) : Rat :=
  let q := lastPlace r
  let v := (nearestEven (r / twoTo q) : Rat) * twoTo q
  if infinity ≤ v then infinity else v

/-- The number nearest to a fraction. -/
def round (r : Rat) : Rat := if r = 0 then 0 else if r < 0 then -roundPositive (-r) else roundPositive r

/-- The sum of two numbers. -/
def add (a b : Rat) : Rat := round (a + b)

/-- The product of two numbers. -/
def mul (a b : Rat) : Rat := round (a * b)

/-- The quotient of two numbers. -/
def div (a b : Rat) : Rat := round (a / b)

/-- The number is not finite. -/
def isInfinite (r : Rat) : Bool := infinity ≤ r || r ≤ -infinity

/-- The number is finite and whole. -/
def isWhole (r : Rat) : Bool := r.den == 1 && !isInfinite r

/-- The shortest decimal that reads back as a positive number; for infinity that of the greatest one. -/
def shortest (r : Rat) : Scaled :=
  let r := if r ≤ greatest then r else greatest
  let q := lastPlace r
  Decimal.shortest (r / twoTo q).num.natAbs q 24

/-- The nearest integer of 32 bits with a sign, towards zero. -/
def toInt32 (r : Rat) : Int :=
  let n := if r < 0 then -(-r).floor else r.floor
  max (-2147483648) (min 2147483647 n)

end StylePrune.Decimal.Single
