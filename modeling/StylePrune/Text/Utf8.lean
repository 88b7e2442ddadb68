import StylePrune.Text.Basic

/-!
Texts as bytes.

`Text.byteCount` is the length of a text in bytes, `Text.toBytes` writes them, and `Text.ofBytes?`
reads them back when they are well formed: shortest forms only, no surrogates, nothing above the last
code point. `Text.ofBytesLossy` puts the replacement character in place of each maximal piece that is
not.
-/
namespace StylePrune.Text

/-- Bytes that a character takes. -/
def charBytes (c : Char) : Nat :=
  if c.toNat < 0x80 then 1 else if c.toNat < 0x800 then 2 else if c.toNat < 0x10000 then 3 else 4

/-- Length of a text in bytes. -/
def byteCount (s : Text) : Nat := s.foldr (fun c n => charBytes c + n) 0

/-- The bytes of one character. -/
def encodeChar (c : Char) : List UInt8 :=
  let n := c.toNat
  if n < 0x80 then [n.toUInt8]
  else if n < 0x800 then [(0xc0 + n / 64).toUInt8, (0x80 + n % 64).toUInt8]
  else if n < 0x10000 then
    [(0xe0 + n / 4096).toUInt8, (0x80 + n / 64 % 64).toUInt8, (0x80 + n % 64).toUInt8]
  else
    [(0xf0 + n / 262144).toUInt8, (0x80 + n / 4096 % 64).toUInt8, (0x80 + n / 64 % 64).toUInt8,
     (0x80 + n % 64).toUInt8]

/-- The bytes of a text. -/
def toBytes (s : Text) : List UInt8 := s.flatMap encodeChar

/-- How many bytes follow a first byte, and the closed range in which the next of them must lie. -/
def followers? (b : UInt8) : Option (Nat × UInt8 × UInt8) :=
  if b < 0x80 then some (0, 0, 0)
  else if 0xc2 ≤ b && b ≤ 0xdf then some (1, 0x80, 0xbf)
  else if b == 0xe0 then some (2, 0xa0, 0xbf)
  else if b == 0xed then some (2, 0x80, 0x9f)
  else if 0xe1 ≤ b && b ≤ 0xef then some (2, 0x80, 0xbf)
  else if b == 0xf0 then some (3, 0x90, 0xbf)
  else if 0xf1 ≤ b && b ≤ 0xf3 then some (3, 0x80, 0xbf)
  else if b == 0xf4 then some (3, 0x80, 0x8f)
  else none

/-- The value bits of a first byte. -/
def leadBits (b : UInt8) : Nat :=
  if b < 0x80 then b.toNat
  else if b < 0xe0 then b.toNat - 0xc0
  else if b < 0xf0 then b.toNat - 0xe0
  else b.toNat - 0xf0

/-- Where a byte-wise reading stands. -/
inductive Decoding where
  | start
  /-- This many bytes are owed, the next of them in the range; the bits read so far. -/
  | owed (count : Nat) (lo hi : UInt8) (bits : Nat)

/-- Reads bytes; a piece that is not well formed becomes `none`, and reading goes on after it. -/
def decodeFrom : Decoding → List UInt8 → List (Option Char)
  | .start, [] => []
  | .owed .., [] => [none]
  | .start, b :: r =>
    match followers? b with
    | none => none :: decodeFrom .start r
    | some (0, _, _) => some (Char.ofNat b.toNat) :: decodeFrom .start r
    | some (k + 1, lo, hi) => decodeFrom (.owed (k + 1) lo hi (leadBits b)) r
  | .owed k lo hi bits, b :: r =>
    if lo ≤ b && b ≤ hi then
      let bits' := bits * 64 + (b.toNat - 0x80)
      if k ≤ 1 then some (Char.ofNat bits') :: decodeFrom .start r
      else decodeFrom (.owed (k - 1) 0x80 0xbf bits') r
    else
      match followers? b with
      | none => none :: none :: decodeFrom .start r
      | some (0, _, _) => none :: some (Char.ofNat b.toNat) :: decodeFrom .start r
      | some (j + 1, lo', hi') => none :: decodeFrom (.owed (j + 1) lo' hi' (leadBits b)) r

/-- The text that the bytes write, when they are well formed. -/
def ofBytes? (bytes : List UInt8) : Option Text := (decodeFrom .start bytes).mapM id

/-- The text that the bytes write, with a replacement character for each malformed piece. -/
def ofBytesLossy (bytes : List UInt8) : Text :=
  (decodeFrom .start bytes).map fun c => c.getD (Char.ofNat 0xfffd)

end StylePrune.Text
