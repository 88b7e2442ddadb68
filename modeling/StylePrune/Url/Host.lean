import StylePrune.Url.Escape

/-!
Hosts.

A host is a name, or a number of 32 bits, or one of 128 bits in eight pieces. This module reads and
writes the numbers.
-/
namespace StylePrune.Url

/-- A host of an address. -/
inductive Host where
  | name (n : Text)
  | short (number : Nat)
  | long (pieces : List Nat)
deriving DecidableEq, Repr

/-! ## Numbers of 32 bits -/

/-- The value of a digit in bases up to sixteen. -/
def digitOf? (base : Nat) (c : Char) : Option Nat :=
  let v :=
    if '0' ≤ c && c ≤ '9' then c.toNat - 48
    else if 'a' ≤ c && c ≤ 'f' then c.toNat - 87
    else if 'A' ≤ c && c ≤ 'F' then c.toNat - 55
    else base
  if v < base then some v else none

/-- The number that digits write in a base. -/
def numberIn? (base : Nat) (digits : Text) : Option Nat :=
  (digits.mapM (digitOf? base)).map fun vs => vs.foldl (fun n v => n * base + v) 0

/-- A part of a number of 32 bits: hexadecimal after `0x`, octal after `0`, decimal otherwise. -/
def shortPart? : Text → Option Nat
  | [] => none
  | '0' :: 'x' :: r => if r.isEmpty then some 0 else numberIn? 16 r
  | '0' :: 'X' :: r => if r.isEmpty then some 0 else numberIn? 16 r
  | '0' :: d :: r => numberIn? 8 (d :: r)
  | s => numberIn? 10 s

/-- The parts of a name between its dots, without an empty one at the end. -/
def dotParts (name : Text) : List Text :=
  let ps := Text.splitOnChar '.' name
  if ps.getLast? == some [] then ps.dropLast else ps

/-- The last part of a name is a number, so the name must be a number of 32 bits. -/
def endsInNumber (name : Text) : Bool :=
  match (dotParts name).getLast? with
  | none => false
  | some last => (!last.isEmpty && last.all Char.isDigit) || (shortPart? last).isSome

/-- The number of 32 bits that parts write: each but the last is one byte, the last all that is left. -/
def shortNumber? (name : Text) : Option Nat :=
  match (dotParts name).mapM shortPart? with
  | none => none
  | some ns =>
    match ns.getLast? with
    | none => none
    | some last =>
      let lead := ns.dropLast
      if lead.length > 3 then none
      else if lead.any (255 < ·) then none
      else if Nat.pow 256 (4 - lead.length) ≤ last then none
      else some (lead.foldl (fun n b => n * 256 + b) 0 * Nat.pow 256 (4 - lead.length) + last)

/-- A number of 32 bits as four bytes. -/
def shortText (n : Nat) : Text :=
  Text.join ['.'] ([n / 16777216 % 256, n / 65536 % 256, n / 256 % 256, n % 256].map Text.ofNat)

/-! ## Numbers of 128 bits -/

/-- Pieces that were read, and how many of them stand before a gap of zeros. -/
structure Pieces where
  /-- Last piece first. -/
  taken : List Nat
  gap : Option Nat

/-- A decimal byte without leading zeros. -/
def byte? (s : Text) : Option Nat :=
  match s with
  | [] => none
  | '0' :: _ :: _ => none
  | _ => (numberIn? 10 s).bind fun n => if n < 256 then some n else none

/-- Two pieces written as four decimal bytes. -/
def dottedPieces? (s : Text) : Option (Nat × Nat) :=
  match (Text.splitOnChar '.' s).mapM byte? with
  | some [a, b, c, d] => some (a * 256 + b, c * 256 + d)
  | _ => none

/-- Reads pieces from where one may start; `fuel` bounds the pieces and gaps. -/
def readPieces? : Nat → Pieces → Text → Option Pieces
  | _, p, [] => some p
  | 0, _, _ :: _ => none
  | fuel + 1, p, c :: r =>
    if 8 ≤ p.taken.length then none
    else if c = ':' then
      if p.gap.isSome then none
      else readPieces? fuel ⟨0 :: p.taken, some (p.taken.length + 1)⟩ r
    else
      let digits := ((c :: r).take 4).takeWhile fun d => (digitOf? 16 d).isSome
      let rest := (c :: r).drop digits.length
      let value := (numberIn? 16 digits).getD 0
      match rest with
      | [] => some { p with taken := value :: p.taken }
      | ':' :: [] => none
      | ':' :: d :: t => readPieces? fuel { p with taken := value :: p.taken } (d :: t)
      | '.' :: _ =>
        if digits.isEmpty || 6 < p.taken.length then none
        else (dottedPieces? (c :: r)).map fun (a, b) => { p with taken := b :: a :: p.taken }
      | _ => none

/-- Fills the gap with zeros, so that there are eight pieces. -/
def Pieces.fill? (p : Pieces) : Option (List Nat) :=
  let ps := p.taken.reverse
  match p.gap with
  | some n => some (ps.take n ++ List.replicate (8 - ps.length) 0 ++ ps.drop n)
  | none => if ps.length = 8 then some ps else none

/-- The number of 128 bits between square brackets. -/
def longNumber? (s : Text) : Option (List Nat) :=
  match s with
  | [] | [_] => none
  | ':' :: ':' :: r => (readPieces? 17 ⟨[0], some 1⟩ r).bind Pieces.fill?
  | ':' :: _ => none
  | _ => (readPieces? 17 ⟨[], none⟩ s).bind Pieces.fill?

/-- A hexadecimal number in lower case. -/
def hexText (n : Nat) : Text := Nat.toDigits 16 n

/-- Length of the run of zeros at the start. -/
def zeroRun (ps : List Nat) : Nat := (ps.takeWhile (· == 0)).length

/-- Start and length of the longest run of zeros, the first of equals. -/
def longestZeros : Nat → List Nat → Nat × Nat
  | _, [] => (0, 0)
  | i, p :: r =>
    let here := zeroRun (p :: r)
    let later := longestZeros (i + 1) r
    if later.2 ≤ here then (i, here) else later

/-- A number of 128 bits; the longest run of at least two zeros is left out. -/
def longText (ps : List Nat) : Text :=
  let (start, length) := longestZeros 0 ps
  if length < 2 then Text.join [':'] (ps.map hexText)
  else
    Text.join [':'] ((ps.take start).map hexText) ++ "::".toList ++
      Text.join [':'] ((ps.drop (start + length)).map hexText)

/-- A host as written. -/
def Host.text : Host → Text
  | name n => n
  | short n => shortText n
  | long ps => '[' :: longText ps ++ [']']

end StylePrune.Url
