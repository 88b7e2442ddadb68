import StylePrune.Decimal.Single

/-!
Numbers of a stylesheet.

A number has single precision. `Numeral.text` writes it with at most six significant digits and without a
zero before the point: positional where the point stands among the first 21 digits or at most five zeros
follow it, with an exponent otherwise. `Numeral.measured` writes whole numbers in full.
-/
namespace StylePrune.Css

open Decimal

/-- A number as it stands in a stylesheet: its value, whether a sign was written, whether that was a minus,
and the integer that it is if it was written without a fraction and an exponent. -/
structure Numeral where
  value : Rat
  signed : Bool
  negative : Bool
  int? : Option Int
deriving DecidableEq, Repr

namespace Numeral

/-- Ten to an integer power. -/
def tenTo (e : Int) : Rat := if 0 ≤ e then (Nat.pow 10 e.toNat : Nat) else 1 / ((Nat.pow 10 (-e).toNat : Nat) : Rat)

/-- The nearest integer, halves going up. -/
def round (r : Rat) : Int := (r + 1 / 2).floor

/-- The value of decimal digits. -/
def valueOf (ds : Text) : Nat := ds.foldl (fun n c => n * 10 + (c.toNat - 48)) 0

/-- The digits of a number with the count of those before the point, after rounding to six significant
digits, halves going up. -/
def sixDigits (ds : Text) (point : Nat) : Text × Nat :=
  let zeros := (ds.takeWhile (· == '0')).length
  let keep := zeros + 6
  if ds.length ≤ keep then (ds, point)
  else
    let up : Nat := if '5'.toNat ≤ (ds[keep]?.getD '0').toNat then 1 else 0
    let rounded := Text.ofNat (valueOf (ds.take keep) + up)
    let rounded := List.replicate (keep - rounded.length) '0' ++ rounded
    (rounded, point + (rounded.length - keep))

/-- Digits with a point after some of them, without zeros at the end of the fraction. -/
def pointed (ds : Text) (point : Nat) : Text :=
  let whole := ds.take point
  let whole := whole ++ List.replicate (point - whole.length) '0'
  match Text.dropEndWhile (· == '0') (ds.drop point) with
  | [] => whole
  | fraction => whole ++ '.' :: fraction

/-- A positive number at six significant digits. -/
def positive (r : Rat) : Text :=
  let d := Single.shortest r
  let ds := Text.ofNat d.digits
  let point : Int := ds.length + d.exponent
  let layOut (ds : Text) (point : Nat) : Text :=
    let (ds, point) := sixDigits ds point
    pointed ds point
  if 0 < point ∧ point ≤ 21 then layOut ds point.toNat
  else if -6 < point ∧ point ≤ 0 then layOut (List.replicate (-point).toNat '0' ++ ds) 0
  else
    let e := point - 1
    layOut ds 1 ++ 'e' :: (if e < 0 then ['-'] else []) ++ Text.ofNat e.natAbs

/-- A number at six significant digits. -/
def text (r : Rat) : Text :=
  if r = 0 then ['0'] else if r < 0 then '-' :: positive (-r) else positive r

/-- An integer. -/
def ofInt (n : Int) : Text := (toString n).toList

/-- A number before a unit: in full if it is whole, as far as 32 bits go. -/
def measured (r : Rat) : Text := if Single.isWhole r then ofInt (Single.toInt32 r) else text r

/-- A number with the zero before its point. -/
def withZero (r : Rat) : Text :=
  match text r with
  | '.' :: s => '0' :: '.' :: s
  | '-' :: '.' :: s => '-' :: '0' :: '.' :: s
  | t => t

/-- A number as messages name it: the fewest digits that read back, and a fraction even where it is
zero. Numbers from 1e16 on and below 1e-4 have an exponent. -/
def labelPositive (r : Rat) : Text :=
  if Single.isInfinite r then "inf".toList
  else
    let d := Single.shortest r
    let ds := Text.ofNat d.digits
    let point : Int := ds.length + d.exponent
    if (Nat.pow 10 16 : Nat) ≤ r ∨ r < 1 / (Nat.pow 10 4 : Nat) then
      let e := point - 1
      (match ds with
        | [c] => [c]
        | c :: s => c :: '.' :: s
        | [] => []) ++ 'e' :: (if e < 0 then ['-'] else []) ++ Text.ofNat e.natAbs
    else if 0 ≤ d.exponent then ds ++ List.replicate d.exponent.toNat '0' ++ ['.', '0']
    else if 0 < point then ds.take point.toNat ++ '.' :: ds.drop point.toNat
    else '0' :: '.' :: List.replicate (-point).toNat '0' ++ ds

/-- A number as messages name it, zero with the sign it was given. -/
def label (n : Numeral) : Text :=
  (if n.negative then ['-'] else []) ++
    if n.value = 0 then "0.0".toList else labelPositive (if n.value < 0 then -n.value else n.value)

end Numeral
end StylePrune.Css
