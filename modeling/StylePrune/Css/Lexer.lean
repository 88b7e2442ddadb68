import StylePrune.Css.Token
import StylePrune.Text.LetterCase

/-!
Cutting a stylesheet into tokens.

Each function takes what is still to be read and gives what it read together with the rest.
`Css.lexemes` gives every token with its place and the characters it was written with.
-/
namespace StylePrune.Css

/-- A character that ends a line. -/
def isNewline (c : Char) : Bool := c == '\n' || c == '\r' || c == '\x0c'

/-- A letter, an underscore, a character above ASCII, or the character zero. -/
def isNameStart (c : Char) : Bool := c.isAlpha || c == '_' || c.toNat ≥ 128 || c.toNat = 0

/-- A character of a name that stands for itself. -/
def isNameChar (c : Char) : Bool := isNameStart c || c.isDigit || c == '-'

/-- What stands for a character that a text may not hold. -/
def replacement : Char := Char.ofNat 0xfffd

/-- A digit in base sixteen. -/
def hexValue? (c : Char) : Option Nat :=
  if c.isDigit then some (c.toNat - 48)
  else if 'a' ≤ c ∧ c ≤ 'f' then some (c.toNat - 87)
  else if 'A' ≤ c ∧ c ≤ 'F' then some (c.toNat - 55)
  else none

/-- At most the given count of digits in base sixteen, their value, and the rest. -/
def takeHex : Nat → Nat → Text → Nat × Text
  | 0, n, s => (n, s)
  | _ + 1, n, [] => (n, [])
  | k + 1, n, c :: r => match hexValue? c with
    | some d => takeHex k (n * 16 + d) r
    | none => (n, c :: r)

/-- One white space character, a carriage return with a line feed counting as one, is left out. -/
def skipOneBlank : Text → Text
  | '\r' :: '\n' :: r => r
  | c :: r => if Text.isAsciiBlank c then r else c :: r
  | [] => []

/-- The character of a code point, or the replacement for one that names no character. -/
def charOfCode (n : Nat) : Char := if n = 0 ∨ ¬ n.isValidChar then replacement else Char.ofNat n

/-- The character that an escape stands for, read after its backslash. -/
def takeEscape : Text → Char × Text
  | [] => (replacement, [])
  | c :: r =>
    match hexValue? c with
    | some _ => let (n, s) := takeHex 6 0 (c :: r); (charOfCode n, skipOneBlank s)
    | none => (if c.toNat = 0 then replacement else c, r)

/-- A backslash that starts an escape: it is not followed by the end of a line. -/
def escapes : Text → Bool
  | c :: _ => !isNewline c
  | [] => true

/-- An identifier starts here. -/
def startsIdent : Text → Bool
  | '-' :: '-' :: _ => true
  | '-' :: '\\' :: r => escapes r
  | '-' :: c :: _ => isNameStart c
  | '\\' :: r => escapes r
  | c :: _ => isNameStart c
  | [] => false

/-- The longest name, with its escapes resolved. -/
def takeName : Nat → Text → Text × Text
  | 0, s => ([], s)
  | _ + 1, [] => ([], [])
  | fuel + 1, c :: r =>
    if c == '\\' then
      if escapes r then
        let (e, s) := takeEscape r
        let (n, t) := takeName fuel s
        (e :: n, t)
      else ([], c :: r)
    else if isNameChar c then
      let (n, t) := takeName fuel r
      ((if c.toNat = 0 then replacement else c) :: n, t)
    else ([], c :: r)

/-- A string after its opening quote. It breaks at the end of a line. -/
def takeString (quote : Char) : Nat → Text → Text × Bool × Text
  | 0, s => ([], true, s)
  | _ + 1, [] => ([], true, [])
  | fuel + 1, c :: r =>
    let more (c : Char) (s : Text) : Text × Bool × Text :=
      let (v, ok, t) := takeString quote fuel s
      (c :: v, ok, t)
    if c == quote then ([], true, r)
    else if isNewline c then ([], false, c :: r)
    else if c == '\\' then
      match r with
      | [] => ([], true, [])
      | '\r' :: '\n' :: s => takeString quote fuel s
      | d :: s =>
        if isNewline d then takeString quote fuel s
        else let (e, t) := takeEscape r; more e t
    else more (if c.toNat = 0 then replacement else c) r

/-- What is left after a broken `url(`: everything up to its closing parenthesis is skipped. -/
def skipBadUrl : Text → Text
  | [] => []
  | ')' :: r => r
  | '\\' :: ')' :: r => skipBadUrl r
  | '\\' :: '\\' :: r => skipBadUrl r
  | _ :: r => skipBadUrl r

/-- A character that may not stand bare in `url()`. -/
def breaksUrl (c : Char) : Bool :=
  c == '"' || c == '\'' || c == '(' || c.toNat = 0x7f || c.toNat = 0xb
    || (1 ≤ c.toNat && c.toNat ≤ 8) || (0xe ≤ c.toNat && c.toNat ≤ 0x1f)

/-- A bare path of `url()` after its start, whether it is well formed, and the rest. -/
def takeUrl : Nat → Text → Text × Bool × Text
  | 0, s => ([], true, s)
  | _ + 1, [] => ([], true, [])
  | fuel + 1, c :: r =>
    let more (c : Char) (s : Text) : Text × Bool × Text :=
      let (v, ok, t) := takeUrl fuel s
      (c :: v, ok, t)
    if c == ')' then ([], true, r)
    else if Text.isAsciiBlank c then
      match r.dropWhile Text.isAsciiBlank with
      | [] => ([], true, [])
      | ')' :: s => ([], true, s)
      | s => ([], false, skipBadUrl s)
    else if breaksUrl c then ([], false, skipBadUrl (c :: r))
    else if c == '\\' then
      if escapes r then let (e, s) := takeEscape r; more e s
      else ([], false, skipBadUrl (c :: r))
    else more (if c.toNat = 0 then replacement else c) r

/-- A comment after its opening: what stands inside and the rest. -/
def takeComment : Text → Text × Text
  | [] => ([], [])
  | '*' :: '/' :: r => ([], r)
  | c :: r => let (v, t) := takeComment r; (c :: v, t)

/-- A number starts here, its sign left out. -/
def startsUnsigned : Text → Bool
  | '.' :: c :: _ => c.isDigit
  | c :: _ => c.isDigit
  | [] => false

/-- An exponent after its letter, if there is one. Beyond 80 it makes no further difference. -/
def takeExponent? : Text → Option (Int × Text)
  | 'e' :: r | 'E' :: r =>
    let (negative, s) := match r with
      | '-' :: s => (true, s)
      | '+' :: s => (false, s)
      | s => (false, s)
    match s.takeWhile Char.isDigit with
    | [] => none
    | ds =>
      let n : Nat := min 80 (Numeral.valueOf ds)
      some (if negative then -(n : Int) else n, s.dropWhile Char.isDigit)
  | _ => none

/-- A number as it is written: its exact size, its sign, and whether it is an integer. -/
structure Figure where
  size : Rat
  signed : Bool
  negative : Bool
  whole : Bool

namespace Figure

/-- The number as a whole part of its own, such as a percentage is of hundred. -/
def numeral (f : Figure) (per : Rat) : Numeral :=
  let exact := if f.negative then -f.size else f.size
  { value := Decimal.Single.round (exact / per)
    signed := f.signed
    negative := f.negative
    int? := if f.whole then some (Decimal.Single.toInt32 exact) else none }

end Figure

/-- A number with its sign. -/
def takeFigure (s : Text) : Figure × Text :=
  let (signed, negative, s) := match s with
    | '-' :: r => (true, true, r)
    | '+' :: r => (true, false, r)
    | r => (false, false, r)
  let front := s.takeWhile Char.isDigit
  let s := s.dropWhile Char.isDigit
  let (back, s) := match s with
    | '.' :: c :: r =>
      if c.isDigit then ((c :: r).takeWhile Char.isDigit, (c :: r).dropWhile Char.isDigit) else ([], s)
    | _ => ([], s)
  let size : Rat := (Numeral.valueOf (front ++ back) : Nat) * Numeral.tenTo (-(back.length : Int))
  match takeExponent? s with
  | some (e, r) => (⟨size * Numeral.tenTo e, signed, negative, false⟩, r)
  | none => (⟨size, signed, negative, back.isEmpty⟩, s)

/-- A number, a percentage or a dimension. -/
def takeNumeric (s : Text) : Token × Text :=
  let (f, r) := takeFigure s
  match r with
  | '%' :: t => (.percentage (f.numeral 100), t)
  | _ =>
    if startsIdent r then let (u, t) := takeName r.length r; (.dimension (f.numeral 1) u, t)
    else (.number (f.numeral 1), r)

/-- A name, a function or a bare `url()`. -/
def takeIdentLike (s : Text) : Token × Text :=
  let (n, r) := takeName s.length s
  match r with
  | '(' :: t =>
    if Text.eqIgnoringAsciiCase n "url".toList then
      match t.dropWhile Text.isAsciiBlank with
      | '"' :: _ | '\'' :: _ => (.function n, t)
      | u =>
        let (v, ok, rest) := takeUrl (u.length + 1) u
        (if ok then .url v else .badUrl v, rest)
    else (.function n, t)
  | _ => (.ident n, r)

/-- The first token of a text that is not empty. -/
def takeToken (c : Char) (r : Text) : Token × Text :=
  let s := c :: r
  let compared : Token × Text := match r with
    | '=' :: t => (.comparison c, t)
    | _ => (.delim c, r)
  let quoted : Token × Text :=
    let (v, ok, t) := takeString c (r.length + 1) r
    (if ok then .string v else .badString v, t)
  if Text.isAsciiBlank c then (.blank (s.takeWhile Text.isAsciiBlank), s.dropWhile Text.isAsciiBlank)
  else if c == '"' || c == '\'' then quoted
  else if c == '#' then
    if startsIdent r then let (n, t) := takeName r.length r; (.idHash n, t)
    else match r with
      | d :: _ =>
        if d.isDigit || d == '-' then let (n, t) := takeName r.length r; (.hash n, t) else (.delim c, r)
      | [] => (.delim c, r)
  else if c == '$' || c == '*' || c == '^' || c == '|' || c == '~' then compared
  else if c == '(' then (.opening .round, r)
  else if c == '[' then (.opening .square, r)
  else if c == '{' then (.opening .curly, r)
  else if c == ')' then (.closing .round, r)
  else if c == ']' then (.closing .square, r)
  else if c == '}' then (.closing .curly, r)
  else if c == ',' then (.comma, r)
  else if c == ':' then (.colon, r)
  else if c == ';' then (.semicolon, r)
  else if c == '+' then if startsUnsigned r then takeNumeric s else (.delim c, r)
  else if c == '-' then
    if startsUnsigned r then takeNumeric s
    else match r with
      | '-' :: '>' :: t => (.markupClose, t)
      | _ => if startsIdent s then takeIdentLike s else (.delim c, r)
  else if c == '.' then if startsUnsigned s then takeNumeric s else (.delim c, r)
  else if c == '/' then
    match r with
    | '*' :: t => let (v, u) := takeComment t; (.comment v, u)
    | _ => (.delim c, r)
  else if c.isDigit then takeNumeric s
  else if c == '<' then
    match r with
    | '!' :: '-' :: '-' :: t => (.markupOpen, t)
    | _ => (.delim c, r)
  else if c == '@' then
    if startsIdent r then let (n, t) := takeName r.length r; (.atKeyword n, t) else (.delim c, r)
  else if c == '\\' then if escapes r then takeIdentLike s else (.delim c, r)
  else if isNameStart c then takeIdentLike s
  else (.delim c, r)

/-- A token, where it starts, and the characters it was written with. -/
structure TokenAt where
  token : Token
  place : Place
  written : Text
deriving DecidableEq, Repr

/-- The tokens of a text that starts at a place, as many as the fuel allows. -/
def lexemesFrom : Nat → Place → Text → List TokenAt
  | 0, _, _ => []
  | _ + 1, _, [] => []
  | fuel + 1, p, c :: r =>
    let (t, rest) := takeToken c r
    let written := (c :: r).take (r.length + 1 - rest.length)
    ⟨t, p, written⟩ :: lexemesFrom fuel (p.behind written) rest

/-- The tokens of a stylesheet in order. -/
def lexemes (s : Text) : List TokenAt := lexemesFrom s.length .start s

end StylePrune.Css
