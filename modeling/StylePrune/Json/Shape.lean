import StylePrune.Json.Cursor

/-!
Typed reading of JSON.

A `Shape` says what a value must be; `Shape.read` checks it while it reads a text, so of two faults
the one that comes first in the text is reported, and `Shape.check` checks a value that is already
read. Both give a `Datum`, from which the record that the shape describes is taken.
-/
namespace StylePrune.Json

/-- What a value must be. -/
inductive Shape where
  /-- A natural number below the bound. -/
  | natural (bound : Nat) (label : Text)
  | flag
  | text (label : Text)
  /-- The shape, or null. -/
  | optional (s : Shape)
  | list (s : Shape)
  /-- Named fields, each with the mark that it may be left out; written as an object, or as a list of
  the fields in order. -/
  | record (name : Text) (fields : List (Text × Bool × Shape))

/-- A value that has a shape. -/
inductive Datum where
  | natural (n : Nat)
  | flag (b : Bool)
  | text (s : Text)
  | missing
  | list (items : List Datum)
  /-- The fields that were given. -/
  | record (fields : List (Text × Datum))

/-- The outcome of reading: a failure has its place, or gets the place where reading stands when it
leaves the value that it belongs to. -/
inductive Outcome (α : Type) where
  | ok (a : α) (c : Cursor)
  | placed (f : Failure)
  | loose (f : Fault) (c : Cursor)

/-- Gives a failure without place the place where reading stands. -/
def Outcome.settle {α : Type} : Outcome α → Outcome α
  | .loose f c => .placed (c.here f)
  | o => o

/-- What a message says that was expected. -/
def Shape.expectation : Shape → Text
  | natural _ label => label
  | flag => "a boolean".toList
  | text label => label
  | optional s => s.expectation
  | list _ => "a sequence".toList
  | record name _ => "struct ".toList ++ name

/-- The failure for a value of another type, whose first character is next. -/
def mismatch {α : Type} (expected : Text) (c : Cursor) : Outcome α :=
  let wrong (met : Met) (d : Cursor) : Outcome α := .placed (d.here (.wrongType met expected))
  match c.rest with
  | [] => .placed (c.ahead (.endWithin .value))
  | 'n' :: _ => match readWord "ull".toList c.next with
    | .ok d => wrong .null d
    | .error f => .placed f
  | 't' :: _ => match readWord "rue".toList c.next with
    | .ok d => wrong (.bool true) d
    | .error f => .placed f
  | 'f' :: _ => match readWord "alse".toList c.next with
    | .ok d => wrong (.bool false) d
    | .error f => .placed f
  | '-' :: _ => match readNumber true c.next with
    | .ok (n, d) => wrong (.number n) d
    | .error f => .placed f
  | '"' :: _ => match readString c.next with
    | .ok (s, d) => wrong (.string s) d
    | .error f => .placed f
  | '[' :: _ => wrong .sequence c
  | '{' :: _ => wrong .map c
  | ch :: _ =>
    if ch.isDigit then
      match readNumber false c with
      | .ok (n, d) => wrong (.number n) d
      | .error f => .placed f
    else .placed (c.ahead .expectedValue)

/-- A number as a natural number below a bound. -/
def naturalOf (bound : Nat) (label : Text) : Number → Except Fault Datum
  | .natural n =>
    if n < bound then .ok (.natural n) else .error (.wrongValue (.number (.natural n)) label)
  | .negative n => .error (.wrongValue (.number (.negative n)) label)
  | .double x => .error (.wrongType (.number (.double x)) label)

/-- Reads a natural number. -/
def readNatural (bound : Nat) (label : Text) (c : Cursor) : Outcome Datum :=
  let finish (r : Except Failure (Number × Cursor)) : Outcome Datum :=
    match r with
    | .error f => .placed f
    | .ok (n, d) =>
      match naturalOf bound label n with
      | .ok v => .ok v d
      | .error f => .placed (d.here f)
  match c.rest with
  | '-' :: _ => finish (readNumber true c.next)
  | ch :: _ => if ch.isDigit then finish (readNumber false c) else mismatch label c
  | [] => mismatch label c

/-- Reads a truth value. -/
def readFlag (c : Cursor) : Outcome Datum :=
  match c.rest with
  | 't' :: _ => match readWord "rue".toList c.next with
    | .ok d => .ok (.flag true) d
    | .error f => .placed f
  | 'f' :: _ => match readWord "alse".toList c.next with
    | .ok d => .ok (.flag false) d
    | .error f => .placed f
  | _ => mismatch "a boolean".toList c

/-- Reads a string. -/
def readText (label : Text) (c : Cursor) : Outcome Datum :=
  match c.rest with
  | '"' :: _ => match readString c.next with
    | .ok (s, d) => .ok (.text s) d
    | .error f => .placed f
  | _ => mismatch label c

/-- Whether a further item of a list follows, and the place before it. -/
def nextItem (first : Bool) (c0 : Cursor) : Except Failure (Bool × Cursor) :=
  let c := c0.skipBlanks
  match c.rest with
  | [] => .error (c.ahead (.endWithin .list))
  | ']' :: _ => .ok (false, c)
  | ch :: _ =>
    if first then .ok (true, c)
    else if ch = ',' then
      let d := c.next.skipBlanks
      match d.rest with
      | [] => .error (d.ahead (.endWithin .value))
      | ']' :: _ => .error (d.ahead .trailingComma)
      | _ :: _ => .ok (true, d)
    else .error (c.ahead .expectedListEnd)

/-- Passes the end of a list. -/
def endList (c0 : Cursor) : Except Failure Cursor :=
  let c := c0.skipBlanks
  match c.rest with
  | [] => .error (c.ahead (.endWithin .list))
  | ']' :: _ => .ok c.next
  | ',' :: _ =>
    let d := c.next.skipBlanks
    match d.rest with
    | ']' :: _ => .error (d.ahead .trailingComma)
    | _ => .error (d.ahead .trailingCharacters)
  | _ :: _ => .error (c.ahead .trailingCharacters)

/-- Whether a further member of an object follows, and the place before its key. -/
def nextMember (first : Bool) (c0 : Cursor) : Except Failure (Bool × Cursor) :=
  let c := c0.skipBlanks
  match c.rest with
  | [] => .error (c.ahead (.endWithin .object))
  | '}' :: _ => .ok (false, c)
  | ch :: _ =>
    if first then
      if ch = '"' then .ok (true, c) else .error (c.ahead .keyNotString)
    else if ch = ',' then
      let d := c.next.skipBlanks
      match d.rest with
      | [] => .error (d.ahead (.endWithin .value))
      | '"' :: _ => .ok (true, d)
      | '}' :: _ => .error (d.ahead .trailingComma)
      | _ :: _ => .error (d.ahead .keyNotString)
    else .error (c.ahead .expectedObjectEnd)

/-- Passes the end of an object. -/
def endObject (c0 : Cursor) : Except Failure Cursor :=
  let c := c0.skipBlanks
  match c.rest with
  | [] => .error (c.ahead (.endWithin .object))
  | '}' :: _ => .ok c.next
  | ',' :: _ => .error (c.ahead .trailingComma)
  | _ :: _ => .error (c.ahead .trailingCharacters)

/-- Passes the colon after a key. -/
def readColon (c0 : Cursor) : Except Failure Cursor :=
  let c := c0.skipBlanks
  match c.rest with
  | [] => .error (c.ahead (.endWithin .object))
  | ':' :: _ => .ok c.next
  | _ :: _ => .error (c.ahead .expectedColon)

/-- Ends a bracketed value: its end is looked for even when its inside has failed, and a failure
without place is placed where that search stops. -/
def closeWith {α : Type} (close : Cursor → Except Failure Cursor) : Outcome α → Outcome α
  | .ok a c => match close c with
    | .ok d => .ok a d
    | .error f => .placed f
  | .placed f => .placed f
  | .loose f c => match close c with
    | .ok d => .placed (d.here f)
    | .error _ => .placed (c.skipBlanks.here f)

/-- Reads the items of a list; `fuel` bounds their number. -/
def readList (item : Cursor → Outcome Datum) : Nat → Bool → Cursor → Outcome (List Datum)
  | 0, _, c => .placed (c.here .expectedValue)
  | fuel + 1, first, c =>
    match nextItem first c with
    | .error f => .placed f
    | .ok (false, d) => .ok [] d
    | .ok (true, d) =>
      match item d with
      | .placed f => .placed f
      | .loose f e => .loose f e
      | .ok v e =>
        match readList item fuel false e with
        | .ok vs g => .ok (v :: vs) g
        | o => o

/-- A field of a record, with the reader of its value. -/
structure FieldReader where
  name : Text
  mayBeAbsent : Bool
  read : Cursor → Outcome Datum

/-- The first field that must be given and is not. -/
def missing? (fields : List FieldReader) (given : List (Text × Datum)) : Option Text :=
  (fields.find? fun f => !f.mayBeAbsent && !given.any fun g => g.1 == f.name).map (·.name)

/-- Reads the members of a record; `fuel` bounds their number. -/
def readFields (fields : List FieldReader) : Nat → Bool → List (Text × Datum) → Cursor →
    Outcome (List (Text × Datum))
  | 0, _, _, c => .placed (c.here .expectedValue)
  | fuel + 1, first, given, c =>
    match nextMember first c with
    | .error f => .placed f
    | .ok (false, d) =>
      match missing? fields given with
      | some name => .loose (.missingField name) d
      | none => .ok given d
    | .ok (true, d) =>
      match readString d.next with
      | .error f => .placed f
      | .ok (key, k) =>
        match fields.find? fun f => f.name == key with
        | some field =>
          if given.any fun g => g.1 == key then .loose (.duplicateField key) k
          else
            match readColon k with
            | .error f => .placed f
            | .ok v0 =>
              match field.read v0.skipBlanks with
              | .ok v e => readFields fields fuel false (given ++ [(key, v)]) e
              | .placed f => .placed f
              | .loose f e => .loose f e
        | none =>
          match readColon k with
          | .error f => .placed f
          | .ok v0 =>
            match skipValue (fuelFor v0) v0 with
            | .ok e => readFields fields fuel false given e
            | .error f => .placed f

/-- The words for a count of fields. -/
def elementCount (n : Nat) : Text :=
  Text.ofNat n ++ (if n = 1 then " element".toList else " elements".toList)

/-- Reads the fields of a record that is written as a list. -/
def readPositional (expected : Text) (index : Nat) (first : Bool) (given : List (Text × Datum)) :
    List FieldReader → Cursor → Outcome (List (Text × Datum))
  | [], c => .ok given c
  | field :: rest, c =>
    match nextItem first c with
    | .error f => .placed f
    | .ok (false, d) =>
      if field.mayBeAbsent then readPositional expected (index + 1) first given rest d
      else .loose (.wrongLength index expected) d
    | .ok (true, d) =>
      match field.read d with
      | .ok v e => readPositional expected (index + 1) false (given ++ [(field.name, v)]) rest e
      | .placed f => .placed f
      | .loose f e => .loose f e

/-- Reads a record in either writing. -/
def readRecord (name : Text) (fields : List FieldReader) (c : Cursor) : Outcome Datum :=
  let asDatum : Outcome (List (Text × Datum)) → Outcome Datum
    | .ok fs d => .ok (.record fs) d
    | .placed f => .placed f
    | .loose f d => .loose f d
  let expected := "struct ".toList ++ name
  match c.rest with
  | '[' :: _ =>
    closeWith endList (asDatum (readPositional
      (expected ++ " with ".toList ++ elementCount fields.length) 0 true [] fields c.next))
  | '{' :: _ =>
    closeWith endObject (asDatum (readFields fields (c.rest.length + 1) true [] c.next))
  | _ => mismatch expected c

mutual

/-- Reads a value of a shape; the first character of the value is next. -/
def Shape.read : Shape → Cursor → Outcome Datum
  | .natural bound label, c => readNatural bound label c
  | .flag, c => readFlag c
  | .text label, c => readText label c
  | .optional s, c =>
    match c.rest with
    | 'n' :: _ => match readWord "ull".toList c.next with
      | .ok d => .ok .missing d
      | .error f => .placed f
    | _ => s.read c
  | .list s, c =>
    match c.rest with
    | '[' :: _ =>
      closeWith endList (match readList (fun d => s.read d.skipBlanks) (c.rest.length + 1) true c.next with
        | .ok vs d => .ok (.list vs) d
        | .placed f => .placed f
        | .loose f d => .loose f d)
    | _ => mismatch "a sequence".toList c
  | .record name fields, c => readRecord name (fieldReaders fields) c

/-- The readers of the fields of a record. -/
def fieldReaders : List (Text × Bool × Shape) → List FieldReader
  | [] => []
  | (name, absent, s) :: r => ⟨name, absent, fun c => s.read c⟩ :: fieldReaders r

end

/-- The datum that a whole text writes. -/
def Shape.parse (s : Shape) (t : Text) : Except Failure Datum :=
  let c := (Cursor.start t).skipBlanks
  match (s.read c).settle with
  | .ok v d => (atEnd d).map fun _ => v
  | .placed f => .error f
  | .loose f d => .error (d.here f)

/-- A value as a message names it. -/
def metValue : Value → Met
  | .null => .null
  | .bool b => .bool b
  | .number n => .number n
  | .string s => .string s
  | .array _ => .sequence
  | .object _ => .map

/-- A member with its name and value in ascending order of names. -/
def insertMember (m : Text × Value) : List (Text × Value) → List (Text × Value)
  | [] => [m]
  | n :: r => if Text.compareCodes m.1 n.1 == .gt then n :: insertMember m r else m :: n :: r

/-- A field of a record, with the check of its value. -/
structure FieldCheck where
  name : Text
  mayBeAbsent : Bool
  check : Value → Except Fault Datum

/-- Checks every item of a list. -/
def checkList (item : Value → Except Fault Datum) : List Value → Except Fault (List Datum)
  | [] => .ok []
  | v :: r => do
    let d ← item v
    let ds ← checkList item r
    .ok (d :: ds)

/-- Checks the members of a record. -/
def checkFields (fields : List FieldCheck) (given : List (Text × Datum)) :
    List (Text × Value) → Except Fault (List (Text × Datum))
  | [] =>
    match fields.find? fun f => !f.mayBeAbsent && !given.any fun g => g.1 == f.name with
    | some f => .error (.missingField f.name)
    | none => .ok given
  | (key, v) :: r =>
    match fields.find? fun f => f.name == key with
    | some field => do
      let d ← field.check v
      checkFields fields (given ++ [(key, d)]) r
    | none => checkFields fields given r

/-- Checks the fields of a record that is given as a list of `total` items. -/
def checkPositional (expected : Text) (total index : Nat) (given : List (Text × Datum)) :
    List FieldCheck → List Value → Except Fault (List (Text × Datum))
  | [], [] => .ok given
  | [], _ :: _ => .error (.wrongLength total "fewer elements in array".toList)
  | field :: fields, [] =>
    if field.mayBeAbsent then checkPositional expected total (index + 1) given fields []
    else .error (.wrongLength index expected)
  | field :: fields, v :: r => do
    let d ← field.check v
    checkPositional expected total (index + 1) (given ++ [(field.name, d)]) fields r

mutual

/-- Checks that a value has a shape. -/
def Shape.check : Shape → Value → Except Fault Datum
  | .natural bound label, .number n => naturalOf bound label n
  | .natural _ label, v => .error (.wrongType (metValue v) label)
  | .flag, .bool b => .ok (.flag b)
  | .flag, v => .error (.wrongType (metValue v) "a boolean".toList)
  | .text _, .string s => .ok (.text s)
  | .text label, v => .error (.wrongType (metValue v) label)
  | .optional _, .null => .ok .missing
  | .optional s, v => s.check v
  | .list s, .array vs => (checkList (fun v => s.check v) vs).map .list
  | .list _, v => .error (.wrongType (metValue v) "a sequence".toList)
  | .record _ fields, .object ms =>
    (checkFields (fieldChecks fields) [] (ms.foldr insertMember [])).map .record
  | .record name fields, .array vs =>
    (checkPositional ("struct ".toList ++ name ++ " with ".toList ++ elementCount fields.length)
      vs.length 0 [] (fieldChecks fields) vs).map .record
  | .record name _, v => .error (.wrongType (metValue v) ("struct ".toList ++ name))

/-- The checks of the fields of a record. -/
def fieldChecks : List (Text × Bool × Shape) → List FieldCheck
  | [] => []
  | (name, absent, s) :: r => ⟨name, absent, fun v => s.check v⟩ :: fieldChecks r

end

namespace Datum

/-- The field of a record, when it was given. -/
def field? (d : Datum) (name : String) : Option Datum :=
  match d with
  | .record fs => (fs.find? fun f => f.1 == name.toList).map (·.2)
  | _ => none

/-- The number, when the datum is one. -/
def natural? : Datum → Option Nat
  | .natural n => some n
  | _ => none

/-- The truth value, when the datum is one. -/
def flag? : Datum → Option Bool
  | .flag b => some b
  | _ => none

/-- The text, when the datum is one. -/
def text? : Datum → Option Text
  | .text s => some s
  | _ => none

/-- The items, when the datum is a list. -/
def items : Datum → List Datum
  | .list vs => vs
  | _ => []

/-- The items of a list of texts. -/
def texts (d : Datum) : List Text := d.items.filterMap text?

end Datum

end StylePrune.Json
