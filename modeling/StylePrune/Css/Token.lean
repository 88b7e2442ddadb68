import StylePrune.Css.Numeral
import StylePrune.Text.Quoted

/-!
Tokens of a stylesheet, the places where they stand, and how a message names them.
-/
namespace StylePrune.Css

/-- A place in a stylesheet: a line counted from 0 and a column counted from 1 in 16-bit units. -/
structure Place where
  line : Nat
  column : Nat
deriving DecidableEq, Repr

namespace Place

/-- The place of the first character. -/
def start : Place := ⟨0, 1⟩

/-- The place behind a text. A carriage return with a line feed ends one line. -/
def behind (p : Place) : Text → Place
  | [] => p
  | '\r' :: '\n' :: r => behind ⟨p.line + 1, 1⟩ r
  | c :: r =>
    if c == '\n' || c == '\r' || c == '\x0c' then behind ⟨p.line + 1, 1⟩ r
    else behind ⟨p.line, p.column + (if c.toNat < 0x10000 then 1 else 2)⟩ r

/-- A place as messages write it. -/
def text (p : Place) : Text := ':' :: Text.ofNat p.line ++ ':' :: Text.ofNat p.column

end Place

/-- The three kinds of brackets. -/
inductive Bracket where
  | round
  | square
  | curly
deriving DecidableEq, Repr

/-- A token. An opening token starts a block that its closing token ends. -/
inductive Token where
  | ident (name : Text)
  | atKeyword (name : Text)
  /-- A `#` with a name that could not be an identifier. -/
  | hash (name : Text)
  /-- A `#` with an identifier. -/
  | idHash (name : Text)
  | string (value : Text)
  | url (value : Text)
  | delim (c : Char)
  | number (n : Numeral)
  /-- A percentage, as the fraction that it stands for. -/
  | percentage (n : Numeral)
  | dimension (n : Numeral) (unit : Text)
  | blank (written : Text)
  | comment (inside : Text)
  | colon
  | semicolon
  | comma
  /-- The five comparisons of attribute selectors: `~=`, `|=`, `^=`, `$=` and `*=`. -/
  | comparison (first : Char)
  /-- `<!--` -/
  | markupOpen
  /-- `-->` -/
  | markupClose
  | function (name : Text)
  | opening (bracket : Bracket)
  | closing (bracket : Bracket)
  | badUrl (value : Text)
  | badString (value : Text)
deriving DecidableEq, Repr

namespace Token

/-- The bracket that ends the block a token opens. -/
def opens : Token → Option Bracket
  | function _ => some .round
  | opening b => some b
  | _ => none

/-- A token that makes a value invalid wherever it stands. -/
def isBroken : Token → Bool
  | badUrl _ | badString _ | closing _ => true
  | _ => false

/-- White space or a comment. -/
def isSpace : Token → Bool
  | blank _ | comment _ => true
  | _ => false

/-- A kind of token with the text it carries. -/
def labelled (label : String) (t : Text) : Text := label.toList ++ '(' :: Text.quoted t ++ [')']

/-- The fields of a number in a message. -/
def numberFields (field : String) (n : Numeral) : Text :=
  "has_sign: ".toList ++ (if n.signed then "true" else "false").toList ++ ", ".toList ++ field.toList
    ++ ": ".toList ++ n.label ++ ", int_value: ".toList
    ++ n.int?.elim "None".toList fun i => "Some(".toList ++ Numeral.ofInt i ++ [')']

/-- A token as messages name it. -/
def label : Token → Text
  | ident n => labelled "Ident" n
  | atKeyword n => labelled "AtKeyword" n
  | hash n => labelled "Hash" n
  | idHash n => labelled "IDHash" n
  | string s => labelled "String" s
  | url u => labelled "UnquotedUrl" u
  | delim c => "Delim('".toList ++ (if c == '\'' then ['\\', '\''] else Text.escapeChar c) ++ "')".toList
  | number n => "Number ".toList ++ '{' :: ' ' :: numberFields "value" n ++ [' ', '}']
  | percentage n =>
    "Percentage ".toList ++ '{' :: ' ' :: numberFields "unit_value" n ++ [' ', '}']
  | dimension n u =>
    "Dimension ".toList ++ '{' :: ' ' :: numberFields "value" n ++ ", unit: ".toList
      ++ Text.quoted u ++ [' ', '}']
  | blank s => labelled "WhiteSpace" s
  | comment s => labelled "Comment" s
  | colon => "Colon".toList
  | semicolon => "Semicolon".toList
  | comma => "Comma".toList
  | comparison '~' => "IncludeMatch".toList
  | comparison '|' => "DashMatch".toList
  | comparison '^' => "PrefixMatch".toList
  | comparison '$' => "SuffixMatch".toList
  | comparison _ => "SubstringMatch".toList
  | markupOpen => "CDO".toList
  | markupClose => "CDC".toList
  | function n => labelled "Function" n
  | opening .round => "ParenthesisBlock".toList
  | opening .square => "SquareBracketBlock".toList
  | opening .curly => "CurlyBracketBlock".toList
  | closing .round => "CloseParenthesis".toList
  | closing .square => "CloseSquareBracket".toList
  | closing .curly => "CloseCurlyBracket".toList
  | badUrl u => labelled "BadUrl" u
  | badString s => labelled "BadString" s

end Token
end StylePrune.Css
