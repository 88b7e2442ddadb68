import StylePrune.Text.Utf8
import StylePrune.Text.Quoted

/-!
Percent escapes in addresses.

Each part of an address has a set of characters that stand for themselves; every other one is written
as its bytes, each as a percent sign and two hexadecimal digits.
-/
namespace StylePrune.Url

/-- A part of an address. -/
inductive Part where
  | userinfo
  | path
  | query
  /-- The query of an address whose scheme has a fixed form. -/
  | webQuery
  | fragment
  /-- A host without fixed form. -/
  | freeHost
deriving DecidableEq, Repr

/-- A control character, or no ASCII character. -/
def isControlOrWide (c : Char) : Bool := c.toNat < 0x20 || 0x7e < c.toNat

/-- Characters that are escaped in a fragment besides control characters and wide ones. -/
def fragmentMarks : List Char := [' ', '"', '<', '>', '\x60']

/-- Characters that are escaped in a path besides control characters and wide ones. -/
def pathMarks : List Char := fragmentMarks ++ ['#', '?', '\x7b', '\x7d']

/-- Characters that are escaped in a user's name besides control characters and wide ones. -/
def userinfoMarks : List Char := pathMarks ++ ['/', ':', ';', '=', '@', '[', '\\', ']', '^', '|']

/-- Characters that are escaped in a query besides control characters and wide ones. -/
def queryMarks : List Char := [' ', '"', '#', '<', '>']

/-- Characters that are escaped in a part besides control characters and wide ones. -/
def Part.marks : Part → List Char
  | userinfo => userinfoMarks
  | path => pathMarks
  | query => queryMarks
  | webQuery => queryMarks ++ ['\'']
  | fragment => fragmentMarks
  | freeHost => []

/-- A character is escaped in a part. -/
def Part.escapes (p : Part) (c : Char) : Bool := isControlOrWide c || p.marks.contains c

/-- A hexadecimal digit in upper case. -/
def upperHexDigit (n : Nat) : Char := Char.ofNat (if n < 10 then 48 + n else 55 + n)

/-- A byte as an escape. -/
def escapeByte (b : UInt8) : Text := ['%', upperHexDigit (b.toNat / 16), upperHexDigit (b.toNat % 16)]

/-- A character in a part. -/
def escapeChar (p : Part) (c : Char) : Text :=
  if p.escapes c then (Text.encodeChar c).flatMap escapeByte else [c]

/-- A text in a part. -/
def escape (p : Part) (s : Text) : Text := s.flatMap (escapeChar p)

/-- The value of a hexadecimal digit. -/
def hexValue? (b : UInt8) : Option UInt8 :=
  if 48 ≤ b && b ≤ 57 then some (b - 48)
  else if 65 ≤ b && b ≤ 70 then some (b - 55)
  else if 97 ≤ b && b ≤ 102 then some (b - 87)
  else none

/-- The bytes that bytes with escapes stand for; a percent sign without two digits stands for itself. -/
def unescape : List UInt8 → List UInt8
  | 37 :: h :: l :: r =>
    match hexValue? h, hexValue? l with
    | some a, some b => (a * 16 + b) :: unescape r
    | _, _ => 37 :: unescape (h :: l :: r)
  | b :: r => b :: unescape r
  | [] => []

end StylePrune.Url
