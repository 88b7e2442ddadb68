import StylePrune.Idna.Composition
import StylePrune.Idna.Direction
import StylePrune.Idna.Mapping
import StylePrune.Idna.Punycode
import StylePrune.Text.Utf8

/-!
Names of hosts in letters of ASCII.

The characters of a name are replaced and composed, and each label between dots is checked. A label that
is not ASCII is written in digits after `xn--`; one that comes so is read, and has to be what reading a
name would give.
-/
namespace StylePrune.Idna

/-- A character that may not stand in the name of a host. -/
def isForbidden (c : Char) : Bool :=
  c.toNat ≤ 32 || c.toNat == 127 || "%#/:<>?@[\\]^|".toList.contains c

/-- A name as it is compared: replaced and composed. -/
def normal? (s : Text) : Option Text := (mapped? s).map compose

/-- What a label starts with that is written in digits. -/
def mark : Text := "xn--".toList

/-- Characters that a label may have when it is written in digits. -/
def maxEncoded : Nat := 1000

/-- Digits that may be read. -/
def maxDecoded : Nat := 2000

/-- A label in characters of its own. -/
def readLabel? (label : Text) : Option Text :=
  match Text.dropPrefix? mark label with
  | none => some label
  | some digits =>
    if digits.isEmpty || digits.getLast? == some '-' || maxDecoded < digits.length then none
    else
      match decode? digits with
      | none => none
      | some t => if normal? t == some t && !t.contains '.' then some t else none

/-- Writes a label in letters of ASCII. -/
def writeLabel? (label : Text) : Option Text :=
  if label.all fun c => c.toNat < 128 then some label
  else if maxEncoded < label.length then none
  else some (mark ++ encode label)

/-! ## Checks -/

/-- The class of marks that join consonants. -/
def viramaClass : Nat := 9

/-- A joiner stands behind a mark that joins consonants, given what stands before it, backwards. -/
def followsVirama : Text → Bool
  | c :: _ => markClass c == viramaClass
  | [] => false

/-- A separator of joined letters stands between two that would touch. -/
def separatesLetters (before after : Text) : Bool :=
  match before.dropWhile isMark, after.dropWhile isMark with
  | a :: _, b :: _ => touchesNext a && touchesPrevious b
  | _, _ => false

/-- Invisible joiners stand only where they may; `before` is what was read, backwards. -/
def joinersFit : (before : Text) → Text → Bool
  | _, [] => true
  | before, c :: r =>
    (if c = '\u200d' then followsVirama before
      else if c = '\u200c' then followsVirama before || separatesLetters before r
      else true) && joinersFit (c :: before) r

/-- Directions of a label that is read from the right. -/
def fitsRight : Direction → Bool
  | .left | .other => false
  | _ => true

/-- Directions of a label that is read from the left. -/
def fitsLeft : Direction → Bool
  | .right | .arabic | .arabicNumber | .other => false
  | _ => true

/-- The last direction that is no mark. -/
def lastDirection? (ds : List Direction) : Option Direction := (ds.reverse.dropWhile (· == .mark)).head?

/-- The directions of a label do not mix. -/
def directionsFit (ds : List Direction) : Bool :=
  match ds with
  | [] => true
  | .left :: _ => ds.all fitsLeft && (lastDirection? ds == some .left || lastDirection? ds == some .number)
  | d :: _ =>
    (d == .right || d == .arabic) && ds.all fitsRight &&
      !(ds.contains .number && ds.contains .arabicNumber) &&
      match lastDirection? ds with
      | some e => e == .right || e == .arabic || e == .number || e == .arabicNumber
      | none => false

/-- The label has a character that is written from the right. -/
def isRightward (ds : List Direction) : Bool :=
  ds.any fun d => d == .right || d == .arabic || d == .arabicNumber

/-- A label does not start with a mark. -/
def startsWell : Text → Bool
  | c :: _ => (Text.category c).head? != some 'M'
  | [] => true

/-- A label may stand in a name. -/
def isLabel (label : Text) : Bool :=
  startsWell label && joinersFit [] label && !label.any isForbidden

/-- Labels may stand together in a name. -/
def areLabels (labels : List Text) : Bool :=
  let ds := labels.map fun l => l.map direction
  labels.all isLabel && (!ds.any isRightward || ds.all directionsFit)

/-- A name in letters of ASCII. -/
def nameToAscii? (s : Text) : Option Text :=
  match (normal? s).map (Text.splitOnChar '.') with
  | none => none
  | some labels =>
    match labels.mapM readLabel? with
    | none => none
    | some own =>
      if areLabels own then (own.mapM writeLabel?).map (Text.join ['.']) else none

/-- A name of plain letters, digits, dots and hyphens without a label in digits needs no tables. -/
def isPlainName (s : Text) : Bool :=
  s.all (fun c => c.toNat < 128) && !(Text.splitOnChar '.' (s.map Char.toLower)).any (Text.startsWith mark)

/-- The name that bytes write, in letters of ASCII. -/
def toAscii? (bytes : List UInt8) : Option Text :=
  match Text.ofBytes? bytes with
  | none => none
  | some s =>
    if isPlainName s then if s.any isForbidden then none else some (s.map Char.toLower)
    else nameToAscii? s

end StylePrune.Idna
