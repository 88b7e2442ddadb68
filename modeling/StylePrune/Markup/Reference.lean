import StylePrune.Markup.CharacterName

/-!
Character references in markup.

After an ampersand a character may be given by its name or by its number. What cannot be read as a
reference stands for itself.
-/
namespace StylePrune.Markup

/-- The replacement character. -/
def replacement : Char := Char.ofNat 0xfffd

/-- What the numbers from 128 on stand for that name no character of their own. -/
def formerControls : List (Nat × Nat) :=
  [(0x80, 0x20ac), (0x82, 0x201a), (0x83, 0x192), (0x84, 0x201e), (0x85, 0x2026), (0x86, 0x2020),
   (0x87, 0x2021), (0x88, 0x2c6), (0x89, 0x2030), (0x8a, 0x160), (0x8b, 0x2039), (0x8c, 0x152),
   (0x8e, 0x17d), (0x91, 0x2018), (0x92, 0x2019), (0x93, 0x201c), (0x94, 0x201d), (0x95, 0x2022),
   (0x96, 0x2013), (0x97, 0x2014), (0x98, 0x2dc), (0x99, 0x2122), (0x9a, 0x161), (0x9b, 0x203a),
   (0x9c, 0x153), (0x9e, 0x17e), (0x9f, 0x178)]

/-- The character of a number. -/
def numbered (n : Nat) : Char :=
  if n = 0 ∨ 0x10ffff < n ∨ (0xd800 ≤ n ∧ n ≤ 0xdfff) then replacement
  else Char.ofNat ((formerControls.lookup n).getD n)

/-- A hexadecimal digit. -/
def isHexDigit (c : Char) : Bool :=
  c.isDigit || ('a' ≤ c && c ≤ 'f') || ('A' ≤ c && c ≤ 'F')

/-- Removes a semicolon from the start. -/
def dropSemicolon : Text → Text
  | ';' :: r => r
  | s => s

/-- A reference by number after its number sign. -/
def numeric? (s : Text) : Option (Text × Text) :=
  let decimal (t : Text) : Option (Text × Text) :=
    let ds := t.takeWhile Char.isDigit
    if ds.isEmpty then none
    else some ([numbered (ds.foldl (fun n d => n * 10 + (d.toNat - 48)) 0)],
      dropSemicolon (t.dropWhile Char.isDigit))
  let hexadecimal (t : Text) : Option (Text × Text) :=
    let ds := t.takeWhile isHexDigit
    if ds.isEmpty then none
    else some ([numbered (hexNumber (ds.map Char.toLower))], dropSemicolon (t.dropWhile isHexDigit))
  match s with
  | 'x' :: t => hexadecimal t
  | 'X' :: t => hexadecimal t
  | t => decimal t

/-- The longest start of a word, of at most `n` characters, that is a name. -/
def longestName? (word : Text) : Nat → Option (Nat × Text)
  | 0 => none
  | n + 1 =>
    match named? (word.take (n + 1)) with
    | some cs => some (n + 1, cs)
    | none => longestName? word n

/-- A reference by name. In an attribute a name without semicolon must not be followed by an equals
sign, a letter or a digit. -/
def byName? (inAttribute : Bool) (s : Text) : Option (Text × Text) :=
  let run := s.takeWhile Char.isAlphanum
  let word := run ++ if (s.drop run.length).head? == some ';' then [';'] else []
  match longestName? word word.length with
  | none => none
  | some (n, cs) =>
    let closed : Bool := (s.take n).getLast? == some ';'
    let next := (s.drop n).head?
    if !closed && inAttribute && (next.map fun c => c == '=' || c.isAlphanum).getD false then none
    else some (cs, s.drop n)

/-- The characters that a reference stands for, and what follows it; `s` starts after the ampersand. -/
def reference (inAttribute : Bool) (s : Text) : Text × Text :=
  let found := match s with
    | '#' :: r => numeric? r
    | _ => byName? inAttribute s
  found.getD (['&'], s)

end StylePrune.Markup
