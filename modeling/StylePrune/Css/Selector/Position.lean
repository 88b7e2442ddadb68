import StylePrune.Css.Reader

/-!
Positions among siblings, written `a * n + b`.

`Position.read` takes `even`, `odd`, a whole number, or a multiple of `n` with a number added to it.
-/
namespace StylePrune.Css.Position

/-- A whole number brought into 32 bits. -/
def within (n : Int) : Int := max (-2147483648) (min 2147483647 n)

/-- A whole number with an optional sign from all of a text. -/
def signed? (s : Text) : Option Int :=
  let (negative, ds) := match s with
    | '-' :: r => (true, r)
    | '+' :: r => (false, r)
    | r => (false, r)
  if ds.isEmpty || !ds.all Char.isDigit then none
  else
    let n : Int := Numeral.valueOf ds
    some (within (if negative then -n else n))

/-- The number before `n`, where a sign alone counts for one. -/
def step? : Text → Option Int
  | [] | ['+'] => some 1
  | ['-'] => some (-1)
  | s => signed? s

/-- The number behind `n`: nothing, or a sign and digits with white space around the sign. -/
def offset? (s : Text) : Option Int :=
  match s.dropWhile Text.isAsciiBlank with
  | [] => some 0
  | '+' :: r => digits? r
  | '-' :: c :: r => if Text.isAsciiBlank c then (digits? r).map (- ·) else signed? ('-' :: c :: r)
  | _ => none
where
  /-- Digits without a sign behind white space. -/
  digits? (s : Text) : Option Int :=
    let ds := s.dropWhile Text.isAsciiBlank
    if ds.isEmpty || !ds.all Char.isDigit then none else signed? ds

/-- A position from its text in lower case. -/
def ofText? (s : Text) : Option (Int × Int) :=
  if s = "even".toList then some (2, 0)
  else if s = "odd".toList then some (2, 1)
  else
    let (a, rest) := s.span (· ≠ 'n')
    match rest with
    | _ :: back => do return (← step? a, ← offset? back)
    | [] => (signed? s).map fun b => (0, b)

/-- A position up to the word `of`. -/
def read : Reader (Int × Int) := do
  let place ← Reader.here
  let s := (← get).skipSpace
  let isOf : Token → Bool
    | .ident w => Text.eqIgnoringAsciiCase w "of".toList
    | _ => false
  let (a, b) := s.cut isOf
  match ofText? (Text.lowerAscii (Text.trim (Component.sources a.items))) with
  | some p => set b; return p
  | none => match s.items with
    | c :: _ => Reader.failAt (.unexpected c.token) place
    | [] => Reader.failAt .endOfInput s.finish

end StylePrune.Css.Position
