import StylePrune.Text.Basic

/-!
The shortest decimal that reads back as a binary floating-point number.

A finite number is `m * 2 ^ q`. Every real number between it and the middles to its neighbours reads
back as it, the middles included when `m` is even. For one digit, two digits and so on the two decimals
beside the number are tried; the first count of digits that has a hit wins, and of two hits the nearer.
-/
namespace StylePrune.Decimal

/-- A decimal `digits * 10 ^ exponent`. -/
structure Scaled where
  digits : Nat
  exponent : Int
deriving Repr, DecidableEq

/-- A positive fraction. -/
structure Ratio where
  num : Nat
  den : Nat

/-- `m * 2 ^ q`. -/
def Ratio.ofBinary (m : Nat) (q : Int) : Ratio :=
  if 0 ≤ q then ⟨m * Nat.pow 2 q.toNat, 1⟩ else ⟨m, Nat.pow 2 (-q).toNat⟩

/-- `digits * 10 ^ exponent`. -/
def Ratio.ofDecimal (d : Scaled) : Ratio :=
  if 0 ≤ d.exponent then ⟨d.digits * Nat.pow 10 d.exponent.toNat, 1⟩
  else ⟨d.digits, Nat.pow 10 (-d.exponent).toNat⟩

/-- `a < b`. -/
def Ratio.lt (a b : Ratio) : Bool := a.num * b.den < b.num * a.den

/-- `a ≤ b`. -/
def Ratio.le (a b : Ratio) : Bool := a.num * b.den ≤ b.num * a.den

/-- The distance between two fractions. -/
def Ratio.dist (a b : Ratio) : Ratio :=
  let x := a.num * b.den
  let y := b.num * a.den
  ⟨(x - y) + (y - x), a.den * b.den⟩

/-- The greatest integer that is at most `r / 10 ^ e`. -/
def floorAt (r : Ratio) (e : Int) : Nat :=
  if 0 ≤ e then r.num / (r.den * Nat.pow 10 e.toNat) else r.num * Nat.pow 10 (-e).toNat / r.den

/-- The decimal among those with the exponent that reads back as the number, if one does. -/
def hit? (value low high : Ratio) (closed : Bool) (e : Int) : Option Scaled :=
  let inside (d : Scaled) : Bool :=
    let r := Ratio.ofDecimal d
    if closed then low.le r && r.le high else low.lt r && r.lt high
  let below : Scaled := ⟨floorAt value e, e⟩
  let above : Scaled := ⟨floorAt value e + 1, e⟩
  match inside below, inside above with
  | true, true =>
    if ((Ratio.ofDecimal above).dist value).lt ((Ratio.ofDecimal below).dist value) then some above
    else some below
  | true, false => some below
  | false, true => some above
  | false, false => none

/-- The first hit when one more digit is allowed at each try. -/
def firstHit (value low high : Ratio) (closed : Bool) : Nat → Int → Scaled
  | 0, e => ⟨floorAt value e, e⟩
  | k + 1, e => (hit? value low high closed e).getD (firstHit value low high closed k (e - 1))

/-- Moves zeros at the end of the digits into the exponent. -/
def dropZeros : Nat → Scaled → Scaled
  | 0, d => d
  | k + 1, d =>
    if d.digits ≠ 0 ∧ d.digits % 10 = 0 then dropZeros k ⟨d.digits / 10, d.exponent + 1⟩ else d

/-- The shortest decimal that reads back as `m * 2 ^ q`, where numbers of this size have a mantissa
of at most `bits` bits. -/
def shortest (m : Nat) (q : Int) (bits : Nat) : Scaled :=
  if m = 0 then ⟨0, 0⟩
  else
    let high := Ratio.ofBinary (2 * m + 1) (q - 1)
    let low := if m = Nat.pow 2 (bits - 1) then Ratio.ofBinary (4 * m - 1) (q - 2) else Ratio.ofBinary (2 * m - 1) (q - 1)
    let top : Int := (Int.ofNat (Nat.log2 m) + q) * 30103 / 100000 + 1
    dropZeros 400 (firstHit (Ratio.ofBinary m q) low high (m % 2 = 0) 40 top)

/-- Sign, mantissa and binary exponent of a finite double. -/
def parts (x : Float) : Bool × Nat × Int :=
  let b := x.toBits.toNat
  let e := b / Nat.pow 2 52 % 2048
  let f := b % Nat.pow 2 52
  (b / Nat.pow 2 63 = 1, if e = 0 then f else f + Nat.pow 2 52, (if e = 0 then 1 else Int.ofNat e) - 1075)

/-- The digits of a finite double in a layout: positional for decimal exponents from -5 to 15, with a
zero after a bare point, else one digit, the others after a point, and a signed exponent. -/
def doubleText (x : Float) : Text :=
  let (neg, m, q) := parts x
  let d := shortest m q 53
  let ds := Text.ofNat d.digits
  let point : Int := ds.length + d.exponent
  let body : Text :=
    if d.digits = 0 then ['0', '.', '0']
    else if 0 ≤ d.exponent ∧ point ≤ 16 then
      ds ++ List.replicate d.exponent.toNat '0' ++ ['.', '0']
    else if 0 < point ∧ point ≤ 16 then ds.take point.toNat ++ '.' :: ds.drop point.toNat
    else if -5 < point ∧ point ≤ 0 then '0' :: '.' :: List.replicate (-point).toNat '0' ++ ds
    else
      let e := point - 1
      let tail := match ds with
        | [c] => [c]
        | c :: r => c :: '.' :: r
        | [] => []
      tail ++ 'e' :: (if e < 0 then '-' else '+') :: Text.ofNat e.natAbs
  if neg then '-' :: body else body

end StylePrune.Decimal
