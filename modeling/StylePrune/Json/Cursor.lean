import StylePrune.Json.Fault
import StylePrune.Text.Utf8

/-!
A position in a JSON text, and the readers of what stands between brackets.

`Cursor.skipBlanks` passes white space; `readString` and `readNumber` read one token each, `skipValue`
passes a whole value without keeping it. A failure is placed either where reading stands (`here`) or
one byte further on (`ahead`), at the character that does not fit.
-/
namespace StylePrune.Json

/-- The rest of a text, with the line and the byte of the line that it starts at. -/
structure Cursor where
  rest : Text
  line : Nat
  column : Nat

/-- The start of a text. -/
def Cursor.start (s : Text) : Cursor := ⟨s, 1, 0⟩

/-- The place after one more character. -/
def Cursor.past (c : Cursor) (ch : Char) (r : Text) : Cursor :=
  if ch = '\n' then ⟨r, c.line + 1, 0⟩ else ⟨r, c.line, c.column + Text.charBytes ch⟩

/-- Passes one character. -/
def Cursor.next (c : Cursor) : Cursor :=
  match c.rest with
  | [] => c
  | ch :: r => c.past ch r

/-- A failure at the place where reading stands. -/
def Cursor.here (c : Cursor) (f : Fault) : Failure := ⟨f, c.line, c.column⟩

/-- A failure one byte further on, if there is one. -/
def Cursor.ahead (c : Cursor) (f : Fault) : Failure :=
  match c.rest with
  | [] => ⟨f, c.line, c.column⟩
  | ch :: _ => if ch = '\n' then ⟨f, c.line + 1, 0⟩ else ⟨f, c.line, c.column + 1⟩

/-- White space of JSON. -/
def isSpace (c : Char) : Bool := c == ' ' || c == '\n' || c == '\t' || c == '\r'

/-- Passes white space from a place on. -/
def skipFrom (c : Cursor) : Text → Cursor
  | [] => { c with rest := [] }
  | ch :: r => if isSpace ch then skipFrom (c.past ch r) r else { c with rest := ch :: r }

/-- Passes white space. -/
def Cursor.skipBlanks (c : Cursor) : Cursor := skipFrom c c.rest

/-- Passes the rest of a word. -/
def readWord : Text → Cursor → Except Failure Cursor
  | [], c => .ok c
  | w :: ws, c =>
    match c.rest with
    | [] => .error (c.here (.endWithin .value))
    | ch :: r => if ch = w then readWord ws (c.past ch r) else .error ((c.past ch r).here .expectedWord)

/-- The value of a digit in base sixteen. -/
def hexValue? (c : Char) : Option Nat :=
  if c.isDigit then some (c.toNat - 48)
  else if 'a' ≤ c ∧ c ≤ 'f' then some (c.toNat - 87)
  else if 'A' ≤ c ∧ c ≤ 'F' then some (c.toNat - 55)
  else none

/-- A place that many characters further on. -/
def Cursor.skip (c : Cursor) : Nat → Cursor
  | 0 => c
  | n + 1 => c.next.skip n

/-- Passes at most that many bytes. -/
def Cursor.skipBytes (c : Cursor) (n : Nat) : Cursor :=
  match c.rest, n with
  | [], _ => c
  | _ :: _, 0 => c
  | ch :: _, n + 1 => c.next.skipBytes (n - (Text.charBytes ch - 1))
termination_by n
decreasing_by exact Nat.lt_succ_of_le (Nat.sub_le _ _)

/-- The four digits of an escaped code unit. -/
def readUnit (c : Cursor) : Except Failure (Nat × Cursor) :=
  if Text.byteCount c.rest < 4 then
    .error ((c.skip c.rest.length).here (.endWithin .string))
  else
    match c.rest.take 4 |>.mapM hexValue? with
    | some ds => .ok (ds.foldl (fun n d => n * 16 + d) 0, c.skip 4)
    | none => .error ((c.skipBytes 4).here .invalidEscape)

/-- An escaped code point after its `u`. -/
def readCodePoint (c : Cursor) : Except Failure (Char × Cursor) := do
  let (n, c1) ← readUnit c
  if 0xdc00 ≤ n ∧ n ≤ 0xdfff then .error (c1.here .loneSurrogate)
  else if n < 0xd800 ∨ 0xdbff < n then .ok (Char.ofNat n, c1)
  else
    match c1.rest with
    | [] => .error (c1.here (.endWithin .string))
    | '\\' :: _ =>
      let c2 := c1.next
      match c2.rest with
      | [] => .error (c2.here (.endWithin .string))
      | 'u' :: _ =>
        let (m, c3) ← readUnit c2.next
        if m < 0xdc00 ∨ 0xdfff < m then .error (c3.here .loneSurrogate)
        else .ok (Char.ofNat ((n - 0xd800) * 1024 + (m - 0xdc00) + 0x10000), c3)
      | _ :: _ => .error (c2.next.here .unfinishedSurrogate)
    | _ :: _ => .error (c1.next.here .unfinishedSurrogate)

/-- An escape after its backslash. -/
def readEscape (c : Cursor) : Except Failure (Char × Cursor) :=
  match c.rest with
  | [] => .error (c.here (.endWithin .string))
  | ch :: r =>
    let c1 := c.past ch r
    match ch with
    | '"' => .ok ('"', c1)
    | '\\' => .ok ('\\', c1)
    | '/' => .ok ('/', c1)
    | 'b' => .ok ('\x08', c1)
    | 'f' => .ok ('\x0c', c1)
    | 'n' => .ok ('\n', c1)
    | 'r' => .ok ('\r', c1)
    | 't' => .ok ('\t', c1)
    | 'u' => readCodePoint c1
    | _ => .error (c1.here .invalidEscape)

/-- The rest of a string after its opening quote; `fuel` bounds the characters. -/
def readStringFrom : Nat → Text → Cursor → Except Failure (Text × Cursor)
  | 0, _, c => .error (c.here (.endWithin .string))
  | fuel + 1, acc, c =>
    match c.rest with
    | [] => .error (c.here (.endWithin .string))
    | ch :: r =>
      let c1 := c.past ch r
      if ch = '"' then .ok (acc.reverse, c1)
      else if ch = '\\' then
        match readEscape c1 with
        | .ok (e, c2) => readStringFrom fuel (e :: acc) c2
        | .error f => .error f
      else if ch.toNat < 32 then .error (c1.here .controlCharacter)
      else readStringFrom fuel (ch :: acc) c1

/-- The rest of a string after its opening quote. -/
def readString (c : Cursor) : Except Failure (Text × Cursor) :=
  readStringFrom (c.rest.length + 1) [] c

/-- Passes digits. -/
def Cursor.skipDigits (c : Cursor) : Text × Cursor :=
  let ds := c.rest.takeWhile Char.isDigit
  (ds, c.skip ds.length)

/-- The number that digits write. -/
def digitsValue (ds : Text) : Nat := ds.foldl (fun n d => n * 10 + (d.toNat - 48)) 0

/-- The double nearest to a significand times a power of ten, none when it is too large. -/
def scaled? (significand : Nat) (exponent : Int) : Option Float :=
  let f := Float.ofNat significand
  if f == 0.0 then some 0.0
  else if 0 ≤ exponent then
    if 308 < exponent then none
    else
      let g := f * Float.ofScientific 1 false exponent.toNat
      if g.isInf then none else some g
  else
    let e := (-exponent).toNat
    some (if e ≤ 308 then f / Float.ofScientific 1 false e
      else if e ≤ 616 then f / 1e308 / Float.ofScientific 1 false (e - 308)
      else 0.0)

/-- Leading digits that stay below 2 to the 64, and how many digits follow them. -/
def leading (ds : Text) : Nat × Nat :=
  ds.foldl (fun (n, k) d =>
    if k = 0 ∧ n * 10 + (d.toNat - 48) < Nat.pow 2 64 then (n * 10 + (d.toNat - 48), 0) else (n, k + 1)) (0, 0)

/-- The digits of an exponent up to the one that makes it too large, which is 2 to the 31. -/
def fittingDigits (n : Nat) : Text → Nat
  | [] => 0
  | d :: r =>
    let m := n * 10 + (d.toNat - 48)
    if m < Nat.pow 2 31 then 1 + fittingDigits m r else 1

/-- The exponent after its letter. One that is too large is refused unless the number is zero. -/
def readExponent (zero : Bool) (c : Cursor) : Except Failure (Int × Cursor) :=
  let (neg, c1) := match c.rest with
    | '+' :: _ => (false, c.next)
    | '-' :: _ => (true, c.next)
    | _ => (false, c)
  match c1.rest with
  | [] => .error (c1.here (.endWithin .value))
  | ch :: r =>
    if ch.isDigit then
      let (ds, c2) := c1.skipDigits
      if digitsValue ds < Nat.pow 2 31 || zero || neg then
        .ok (if neg then -Int.ofNat (digitsValue ds) else Int.ofNat (digitsValue ds), c2)
      else .error ((c1.skip (fittingDigits 0 ds)).here .numberOutOfRange)
    else .error ((c1.past ch r).here .invalidNumber)

/-- The digits after a point. -/
def readFraction (c : Cursor) : Except Failure (Text × Cursor) :=
  let (ds, c1) := c.skipDigits
  if ds.isEmpty then
    match c1.rest with
    | [] => .error (c1.ahead (.endWithin .value))
    | _ :: _ => .error (c1.ahead .invalidNumber)
  else .ok (ds, c1)

/-- A number after its sign. -/
def readNumber (neg : Bool) (c : Cursor) : Except Failure (Number × Cursor) :=
  match c.rest with
  | [] => .error (c.here (.endWithin .value))
  | ch :: r =>
    if !ch.isDigit then .error ((c.past ch r).here .invalidNumber)
    else
      let (ds, c1) := if ch = '0' then (['0'], c.next) else c.skipDigits
      if ch = '0' ∧ (c1.rest.head?.map Char.isDigit).getD false then .error (c1.ahead .invalidNumber)
      else do
        let (point, fraction, c2) ← match c1.rest with
          | '.' :: _ => (readFraction c1.next).map fun (f, d) => (true, f, d)
          | _ => .ok (false, [], c1)
        let (marked, exponent, c3) ← match c2.rest with
          | 'e' :: _ | 'E' :: _ =>
            let zero := (leading (ds ++ fraction)).1 == 0
            (readExponent zero c2.next).map fun (e, d) => (true, e, d)
          | _ => .ok (false, 0, c2)
        let n := digitsValue ds
        if !point && !marked && n < Nat.pow 2 64 then
          if !neg then .ok (.natural n, c3)
          else if 0 < n ∧ n ≤ Nat.pow 2 63 then .ok (.negative n, c3)
          else .ok (.double (-(Float.ofNat n)), c3)
        else
          let (s, dropped) := leading (ds ++ fraction)
          match scaled? s (exponent - fraction.length + dropped) with
          | some x => .ok (.double (if neg then -x else x), c3)
          | none => .error (c3.here .numberOutOfRange)

/-! ## Passing over values

A value that nothing asks for is passed over: its strings may write surrogates alone, and its numbers
may be of any size. -/

/-- Passes the rest of a string after its opening quote; `fuel` bounds the characters. -/
def skipStringFrom : Nat → Cursor → Except Failure Cursor
  | 0, c => .error (c.here (.endWithin .string))
  | fuel + 1, c =>
    match c.rest with
    | [] => .error (c.here (.endWithin .string))
    | ch :: r =>
      let c1 := c.past ch r
      if ch = '"' then .ok c1
      else if ch = '\\' then
        match c1.rest with
        | 'u' :: _ =>
          match readUnit c1.next with
          | .ok (_, c2) => skipStringFrom fuel c2
          | .error f => .error f
        | _ =>
          match readEscape c1 with
          | .ok (_, c2) => skipStringFrom fuel c2
          | .error f => .error f
      else if ch.toNat < 32 then .error (c.here .controlCharacter)
      else skipStringFrom fuel c1

/-- Passes the rest of a string after its opening quote. -/
def skipString (c : Cursor) : Except Failure Cursor := skipStringFrom (c.rest.length + 1) c

/-- Passes the exponent after its letter. -/
def skipExponent (c : Cursor) : Except Failure Cursor :=
  let c1 := match c.rest with
    | '+' :: _ | '-' :: _ => c.next
    | _ => c
  match c1.rest with
  | [] => .error (c1.here .invalidNumber)
  | ch :: r =>
    if ch.isDigit then .ok c1.skipDigits.2 else .error ((c1.past ch r).here .invalidNumber)

/-- Passes a number after its sign. -/
def skipNumber (c : Cursor) : Except Failure Cursor :=
  match c.rest with
  | [] => .error (c.here .invalidNumber)
  | ch :: r =>
    if !ch.isDigit then .error ((c.past ch r).here .invalidNumber)
    else
      let c1 := if ch = '0' then c.next else c.skipDigits.2
      if ch = '0' ∧ (c1.rest.head?.map Char.isDigit).getD false then .error (c1.ahead .invalidNumber)
      else
        match c1.rest with
        | '.' :: _ =>
          let (ds, c2) := c1.next.skipDigits
          if ds.isEmpty then .error (c2.ahead .invalidNumber)
          else
            match c2.rest with
            | 'e' :: _ | 'E' :: _ => skipExponent c2.next
            | _ => .ok c2
        | 'e' :: _ | 'E' :: _ => skipExponent c1.next
        | _ => .ok c1

mutual

/-- Passes a value; `fuel` bounds the steps. -/
def skipValue : Nat → Cursor → Except Failure Cursor
  | 0, c => .error (c.here .expectedValue)
  | fuel + 1, c0 =>
    let c := c0.skipBlanks
    match c.rest with
    | [] => .error (c.ahead (.endWithin .value))
    | 'n' :: _ => readWord "ull".toList c.next
    | 't' :: _ => readWord "rue".toList c.next
    | 'f' :: _ => readWord "alse".toList c.next
    | '"' :: _ => skipString c.next
    | '-' :: _ => skipNumber c.next
    | '[' :: _ =>
      let d := c.next.skipBlanks
      match d.rest with
      | [] => .error (d.ahead (.endWithin .list))
      | ']' :: _ => .ok d.next
      | _ :: _ => skipItems fuel d
    | '{' :: _ =>
      let d := c.next.skipBlanks
      match d.rest with
      | [] => .error (d.ahead (.endWithin .object))
      | '}' :: _ => .ok d.next
      | _ :: _ => skipMembers fuel d
    | ch :: _ =>
      if ch.isDigit then skipNumber c else .error (c.ahead .expectedValue)

/-- Passes the items of a list and its end. -/
def skipItems : Nat → Cursor → Except Failure Cursor
  | 0, c => .error (c.here .expectedValue)
  | fuel + 1, c =>
    match skipValue fuel c with
    | .error f => .error f
    | .ok d0 =>
      let d := d0.skipBlanks
      match d.rest with
      | [] => .error (d.ahead (.endWithin .list))
      | ',' :: _ => skipItems fuel d.next
      | ']' :: _ => .ok d.next
      | _ :: _ => .error (d.ahead .expectedListEnd)

/-- Passes the members of an object and its end. -/
def skipMembers : Nat → Cursor → Except Failure Cursor
  | 0, c => .error (c.here .expectedValue)
  | fuel + 1, c0 =>
    let c := c0.skipBlanks
    match c.rest with
    | [] => .error (c.ahead (.endWithin .object))
    | '"' :: _ =>
      match skipString c.next with
      | .error f => .error f
      | .ok k0 =>
        let k := k0.skipBlanks
        match k.rest with
        | [] => .error (k.ahead (.endWithin .object))
        | ':' :: _ =>
          match skipValue fuel k.next with
          | .error f => .error f
          | .ok d0 =>
            let d := d0.skipBlanks
            match d.rest with
            | [] => .error (d.ahead (.endWithin .object))
            | ',' :: _ => skipMembers fuel d.next
            | '}' :: _ => .ok d.next
            | _ :: _ => .error (d.ahead .expectedObjectEnd)
        | _ :: _ => .error (k.ahead .expectedColon)
    | _ :: _ => .error (c.ahead .keyNotString)

end

mutual

/-- Reads any value; `fuel` bounds the steps. -/
def readValue : Nat → Cursor → Except Failure (Value × Cursor)
  | 0, c => .error (c.here .expectedValue)
  | fuel + 1, c0 =>
    let c := c0.skipBlanks
    match c.rest with
    | [] => .error (c.ahead (.endWithin .value))
    | 'n' :: _ => (readWord "ull".toList c.next).map fun d => (.null, d)
    | 't' :: _ => (readWord "rue".toList c.next).map fun d => (.bool true, d)
    | 'f' :: _ => (readWord "alse".toList c.next).map fun d => (.bool false, d)
    | '"' :: _ => (readString c.next).map fun (s, d) => (.string s, d)
    | '-' :: _ => (readNumber true c.next).map fun (n, d) => (.number n, d)
    | '[' :: _ =>
      let d := c.next.skipBlanks
      match d.rest with
      | [] => .error (d.ahead (.endWithin .list))
      | ']' :: _ => .ok (.array [], d.next)
      | _ :: _ => (readItems fuel d).map fun (vs, e) => (.array vs, e)
    | '{' :: _ =>
      let d := c.next.skipBlanks
      match d.rest with
      | [] => .error (d.ahead (.endWithin .object))
      | '}' :: _ => .ok (.object [], d.next)
      | _ :: _ => (readMembers fuel d).map fun (ms, e) => (.object ms, e)
    | ch :: _ =>
      if ch.isDigit then (readNumber false c).map fun (n, d) => (.number n, d)
      else .error (c.ahead .expectedValue)

/-- Reads the items of a list and its end. -/
def readItems : Nat → Cursor → Except Failure (List Value × Cursor)
  | 0, c => .error (c.here .expectedValue)
  | fuel + 1, c =>
    match readValue fuel c with
    | .error f => .error f
    | .ok (v, d0) =>
      let d := d0.skipBlanks
      match d.rest with
      | [] => .error (d.ahead (.endWithin .list))
      | ',' :: _ => (readItems fuel d.next).map fun (vs, e) => (v :: vs, e)
      | ']' :: _ => .ok ([v], d.next)
      | _ :: _ => .error (d.ahead .expectedListEnd)

/-- Reads the members of an object and its end. -/
def readMembers : Nat → Cursor → Except Failure (List (Text × Value) × Cursor)
  | 0, c => .error (c.here .expectedValue)
  | fuel + 1, c0 =>
    let c := c0.skipBlanks
    match c.rest with
    | [] => .error (c.ahead (.endWithin .object))
    | '"' :: _ =>
      match readString c.next with
      | .error f => .error f
      | .ok (key, k0) =>
        let k := k0.skipBlanks
        match k.rest with
        | [] => .error (k.ahead (.endWithin .object))
        | ':' :: _ =>
          match readValue fuel k.next with
          | .error f => .error f
          | .ok (v, d0) =>
            let d := d0.skipBlanks
            match d.rest with
            | [] => .error (d.ahead (.endWithin .object))
            | ',' :: _ => (readMembers fuel d.next).map fun (ms, e) => ((key, v) :: ms, e)
            | '}' :: _ => .ok ([(key, v)], d.next)
            | _ :: _ => .error (d.ahead .expectedObjectEnd)
        | _ :: _ => .error (k.ahead .expectedColon)
    | _ :: _ => .error (c.ahead .keyNotString)

end

/-- Steps that are enough for a text of this length. -/
def fuelFor (c : Cursor) : Nat := 2 * c.rest.length + 4

/-- What follows a whole text must be blank. -/
def atEnd (c : Cursor) : Except Failure Unit :=
  let d := c.skipBlanks
  match d.rest with
  | [] => .ok ()
  | _ :: _ => .error (d.ahead .trailingCharacters)

/-- The value that a text writes. -/
def parse (s : Text) : Except Failure Value := do
  let c := Cursor.start s
  let (v, d) ← readValue (fuelFor c) c
  atEnd d
  .ok v

end StylePrune.Json
