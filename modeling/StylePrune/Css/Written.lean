import StylePrune.Css.Component
import StylePrune.Text.Utf8

/-!
How names, strings, paths and numbers are written in a stylesheet.
-/
namespace StylePrune.Css.Written

/-- A character as an escape of its code point. -/
def escapeCode (c : Char) : Text := '\\' :: Text.hex c.toNat ++ [' ']

/-- A control character. -/
def isControl (c : Char) : Bool := c.toNat < 0x20 || c.toNat = 0x7f

/-- One character inside a name. -/
def nameChar (c : Char) : Text :=
  if isNameText c then [c]
  else if c.toNat = 0 then [Char.ofNat 0xfffd]
  else if isControl c then escapeCode c
  else ['\\', c]
where
  /-- A character that stands for itself in a name. -/
  isNameText (c : Char) : Bool := c.isAlphanum || c == '_' || c == '-' || c.toNat ≥ 128

/-- A name after a sign such as `#`, where a digit may come first. -/
def name (s : Text) : Text := s.flatMap nameChar

/-- An identifier. A digit may not come first, nor a hyphen stand alone. -/
def ident (s : Text) : Text :=
  let digitFirst : Text → Text
    | [] => []
    | c :: r => (if c.isDigit then escapeCode c else nameChar c) ++ name r
  match s with
  | '-' :: '-' :: r => '-' :: '-' :: name r
  | ['-'] => ['\\', '-']
  | '-' :: r => '-' :: digitFirst r
  | r => digitFirst r

/-- One character inside a quoted string. -/
def stringChar (c : Char) : Text :=
  if c == '"' then ['\\', '"']
  else if c == '\\' then ['\\', '\\']
  else if c.toNat = 0 then [Char.ofNat 0xfffd]
  else if isControl c then escapeCode c
  else [c]

/-- A quoted string. -/
def string (s : Text) : Text := '"' :: s.flatMap stringChar ++ ['"']

/-- One character of a bare path. -/
def urlChar (c : Char) : Text :=
  if c.toNat ≤ 0x20 || c.toNat = 0x7f then escapeCode c
  else if c == '(' || c == ')' || c == '"' || c == '\'' || c == '\\' then ['\\', c]
  else [c]

/-- A bare path in `url()`. -/
def bareUrl (u : Text) : Text := "url(".toList ++ u.flatMap urlChar ++ [')']

/-- A path in `url()`: quoted, or in the shorter of the two forms. -/
def url (compact : Bool) (u : Text) : Text :=
  let quoted := "url(".toList ++ string u ++ [')']
  let bare := bareUrl u
  if compact then
    if Text.byteCount bare > Text.byteCount u + 7 && Text.byteCount quoted < Text.byteCount bare then quoted
    else bare
  else quoted

/-- A unit. One that could be read as an exponent starts with an escape. -/
def unit (u : Text) : Text :=
  let escaped : Bool := match u with
    | ['e'] | ['E'] | 'e' :: '-' :: _ | 'E' :: '-' :: _ => true
    | _ => false
  if escaped then "\\65 ".toList ++ name u.tail else ident u

/-- A number with a unit. -/
def dimension (r : Rat) (u : Text) : Text := Numeral.measured r ++ unit u

/-- A fraction as a percentage. -/
def percentage (fraction : Rat) : Text := Numeral.measured (Decimal.Single.mul fraction 100) ++ ['%']

/-- A number with the sign it was given, a zero before its point, and a fraction where one was written. -/
def numeral (n : Numeral) (value : Rat) : Text :=
  if value = 0 && n.negative then "-0".toList
  else (if n.signed && !n.negative then ['+'] else []) ++ match n.int? with
    | some i => Numeral.ofInt i
    | none =>
      let t := Numeral.withZero value
      t ++ if Decimal.Single.isWhole value && t.all (fun c => c.isDigit || c == '-') then ".0".toList else []

/-- A token as it is written on its own. -/
def token : Token → Text
  | .ident n => ident n
  | .atKeyword n => '@' :: ident n
  | .hash n => '#' :: name n
  | .idHash n => '#' :: ident n
  | .string s => string s
  | .url u => bareUrl u
  | .delim c => [c]
  | .number n => numeral n n.value
  | .percentage n => numeral n (Decimal.Single.mul n.value 100) ++ ['%']
  | .dimension n u => numeral n n.value ++ unit u
  | .blank w => w
  | .comment w => '/' :: '*' :: w ++ ['*', '/']
  | .colon => [':']
  | .semicolon => [';']
  | .comma => [',']
  | .comparison c => [c, '=']
  | .markupOpen => "<!--".toList
  | .markupClose => "-->".toList
  | .function n => ident n ++ ['(']
  | .opening .round => ['(']
  | .opening .square => ['[']
  | .opening .curly => ['{']
  | .closing .round => [')']
  | .closing .square => [']']
  | .closing .curly => ['}']
  | .badUrl u => "url(".toList ++ u ++ [')']
  | .badString s => '"' :: s

mutual
/-- A component with each of its tokens as it is written on its own. -/
def component : Component → Text
  | .leaf t _ _ => token t
  | .block t _ _ parts _ _ => token t ++ components parts ++ token (.closing (t.opens.getD .round))

/-- Components with each token as it is written on its own. -/
def components : List Component → Text
  | [] => []
  | c :: r => component c ++ components r
end

end StylePrune.Css.Written
