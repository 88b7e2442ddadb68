import StylePrune.Text.Quoted
import StylePrune.Decimal.Shortest

/-!
JSON values and how they are written.

Objects keep their members in order. A number that is an integer of at most 64 bits stays exact; every
other number is a binary floating-point number. `Value.pretty` writes two spaces per level.
-/
namespace StylePrune.Json

/-- A number as a reader takes it. -/
inductive Number where
  /-- A natural number below 2 to the 64. -/
  | natural (n : Nat)
  /-- The negative of a positive number of at most 2 to the 63. -/
  | negative (n : Nat)
  | double (x : Float)

/-- A JSON value. -/
inductive Value where
  | null
  | bool (b : Bool)
  | number (n : Number)
  | string (s : Text)
  | array (items : List Value)
  | object (members : List (Text × Value))

/-- The member of an object with this name. -/
def Value.member? (name : Text) : Value → Option Value
  | .object ms => (ms.find? fun m => m.1 == name).map (·.2)
  | _ => none

/-- A number as written. -/
def Number.text : Number → Text
  | natural n => Text.ofNat n
  | negative n => '-' :: Text.ofNat n
  | double x => Decimal.doubleText x

/-- A character inside a JSON string. -/
def escapeChar (c : Char) : Text :=
  if c == '"' then ['\\', '"']
  else if c == '\\' then ['\\', '\\']
  else if c == '\n' then ['\\', 'n']
  else if c == '\r' then ['\\', 'r']
  else if c == '\t' then ['\\', 't']
  else if c.toNat == 8 then ['\\', 'b']
  else if c.toNat == 12 then ['\\', 'f']
  else if c.toNat < 32 then ['\\', 'u', '0', '0', Text.hexDigit (c.toNat / 16), Text.hexDigit (c.toNat % 16)]
  else [c]

/-- A JSON string. -/
def writeString (s : Text) : Text := '"' :: s.flatMap escapeChar ++ ['"']

mutual

/-- A value on one line without spaces. -/
def Value.compact : Value → Text
  | .null => "null".toList
  | .bool true => "true".toList
  | .bool false => "false".toList
  | .number n => n.text
  | .string s => writeString s
  | .array items => '[' :: compactItems items ++ [']']
  | .object members => '{' :: compactMembers members ++ ['}']

/-- Items with commas between them. -/
def compactItems : List Value → Text
  | [] => []
  | [v] => v.compact
  | v :: w :: r => v.compact ++ ',' :: compactItems (w :: r)

/-- Members with commas between them. -/
def compactMembers : List (Text × Value) → Text
  | [] => []
  | [(k, v)] => writeString k ++ ':' :: v.compact
  | (k, v) :: m :: r => writeString k ++ ':' :: v.compact ++ ',' :: compactMembers (m :: r)

end

/-- A line end and the blanks of a level. -/
def newLine (level : Nat) : Text := '\n' :: List.replicate (2 * level) ' '

mutual

/-- A value over several lines; `level` is the depth at which it stands. -/
def Value.pretty (level : Nat) : Value → Text
  | .null => "null".toList
  | .bool true => "true".toList
  | .bool false => "false".toList
  | .number n => n.text
  | .string s => writeString s
  | .array [] => ['[', ']']
  | .array (v :: r) => '[' :: prettyItems (level + 1) (v :: r) ++ newLine level ++ [']']
  | .object [] => ['{', '}']
  | .object (m :: r) => '{' :: prettyMembers (level + 1) (m :: r) ++ newLine level ++ ['}']

/-- Items on lines of their own. -/
def prettyItems (level : Nat) : List Value → Text
  | [] => []
  | [v] => newLine level ++ v.pretty level
  | v :: w :: r => newLine level ++ v.pretty level ++ ',' :: prettyItems level (w :: r)

/-- Members on lines of their own. -/
def prettyMembers (level : Nat) : List (Text × Value) → Text
  | [] => []
  | [(k, v)] => newLine level ++ writeString k ++ ':' :: ' ' :: v.pretty level
  | (k, v) :: m :: r =>
    newLine level ++ writeString k ++ ':' :: ' ' :: v.pretty level ++ ',' :: prettyMembers level (m :: r)

end

end StylePrune.Json
