import StylePrune.Json.Value

/-!
What can be wrong with a JSON text, and how it is reported.

A fault is either in the writing of the text or in what it stands for. `Fault.message` words it, and
`Failure` adds where it was met.
-/
namespace StylePrune.Json

/-- What was being read when the text ended. -/
inductive Construct where
  | list
  | object
  | string
  | value

/-- The word for a construct. -/
def Construct.word : Construct → Text
  | list => "a list".toList
  | object => "an object".toList
  | string => "a string".toList
  | value => "a value".toList

/-- A kind of value that was met where another was expected. -/
inductive Met where
  | null
  | bool (b : Bool)
  | number (n : Number)
  | string (s : Text)
  | sequence
  | map

/-- A value as a message names it. -/
def Met.text : Met → Text
  | null => "null".toList
  | bool true => "boolean `true`".toList
  | bool false => "boolean `false`".toList
  | number (.double x) => "floating point `".toList ++ Decimal.doubleText x ++ ['\x60']
  | number n => "integer `".toList ++ n.text ++ ['\x60']
  | string s => "string ".toList ++ Text.quoted s
  | sequence => "sequence".toList
  | map => "map".toList

/-- What is wrong with a JSON text or value. -/
inductive Fault where
  | endWithin (c : Construct)
  | expectedColon
  | expectedListEnd
  | expectedObjectEnd
  | expectedWord
  | expectedValue
  | invalidEscape
  | invalidNumber
  | numberOutOfRange
  | controlCharacter
  | keyNotString
  | loneSurrogate
  | trailingComma
  | trailingCharacters
  | unfinishedSurrogate
  | wrongType (met : Met) (expected : Text)
  | wrongValue (met : Met) (expected : Text)
  | wrongLength (length : Nat) (expected : Text)
  | missingField (name : Text)
  | duplicateField (name : Text)

/-- The wording of a fault. -/
def Fault.message : Fault → Text
  | endWithin c => "EOF while parsing ".toList ++ c.word
  | expectedColon => "expected `:`".toList
  | expectedListEnd => "expected `,` or `]`".toList
  | expectedObjectEnd => "expected `,` or `".toList ++ ['}', '\x60']
  | expectedWord => "expected ident".toList
  | expectedValue => "expected value".toList
  | invalidEscape => "invalid escape".toList
  | invalidNumber => "invalid number".toList
  | numberOutOfRange => "number out of range".toList
  | controlCharacter => "control character (\\u0000-\\u001F) found while parsing a string".toList
  | keyNotString => "key must be a string".toList
  | loneSurrogate => "lone leading surrogate in hex escape".toList
  | trailingComma => "trailing comma".toList
  | trailingCharacters => "trailing characters".toList
  | unfinishedSurrogate => "unexpected end of hex escape".toList
  | wrongType met expected => "invalid type: ".toList ++ met.text ++ ", expected ".toList ++ expected
  | wrongValue met expected => "invalid value: ".toList ++ met.text ++ ", expected ".toList ++ expected
  | wrongLength n expected => "invalid length ".toList ++ Text.ofNat n ++ ", expected ".toList ++ expected
  | missingField name => "missing field `".toList ++ name ++ ['\x60']
  | duplicateField name => "duplicate field `".toList ++ name ++ ['\x60']

/-- A fault and where it was met: the line, counted from one, and the bytes of that line before it. -/
structure Failure where
  fault : Fault
  line : Nat
  column : Nat

/-- A fault with its place. -/
def Failure.message (f : Failure) : Text :=
  f.fault.message ++ " at line ".toList ++ Text.ofNat f.line ++ " column ".toList ++ Text.ofNat f.column

end StylePrune.Json
