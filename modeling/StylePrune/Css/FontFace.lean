import StylePrune.Css.Body
import StylePrune.Css.Piece
import StylePrune.Css.Property.Grammar

/-!
The descriptors of a typeface in `@font-face`.

`FontFace.descriptor` reads a descriptor behind its name. A value that does not fit is kept as pieces.
-/
namespace StylePrune.Css.FontFace

/-- Where the outlines of a typeface come from. -/
inductive Source where
  | url (path : Text) (format : Option Text) (needs : List Text)
  | installed (family : Term)
deriving Repr

/-- The code points from a first to a last one. -/
structure CodeRange where
  first : Nat
  last : Nat
deriving DecidableEq, Repr

/-- What is said about a typeface. -/
inductive Descriptor where
  | sources (list : List Source)
  | ranges (list : List CodeRange)
  | terms (name : Text) (value : List Term)
  | asWritten (name : Text) (value : List Piece)
deriving Repr

/-! ## Reading -/

/-- Formats that are written in lower case. -/
def formats : List String :=
  ["woff", "woff2", "truetype", "opentype", "embedded-opentype", "collection", "svg"]

/-- The name of a format. -/
def format : Reader Text := Reader.expect fun
  | .ident n | .string n =>
    let l := Text.lowerAscii n
    some (if formats.any (·.toList = l) then l else n)
  | _ => none

/-- Something that a browser has to know in order to show a typeface. -/
def need : Reader Text := Reader.expect fun
  | .ident n =>
    let l := Text.lowerAscii n
    if ["features-opentype", "features-aat", "features-graphite", "color-colrv0", "color-colrv1", "color-svg",
        "color-sbix", "color-cbdt", "variations", "palettes", "incremental"].any (·.toList = l) then some l
    else none
  | _ => none

/-- A source by its path. -/
def urlSource : Reader Source := do
  let path ← Reader.url
  let format ← match ← Reader.attempt (Reader.call "format") with
    | some c => do pure (some (← Reader.inside c format))
    | none => pure none
  let needs ← match ← Reader.attempt (Reader.call "tech") with
    | some c => Reader.inside c (Reader.separated need)
    | none => pure []
  return .url path format needs

/-- A source. -/
def source : Reader Source := Reader.orTry urlSource do
  return .installed (← Reader.inside (← Reader.call "local") Property.family)

/-- The value of hexadecimal digits. -/
def hexValue (ds : Text) : Nat := ds.foldl (fun n c => n * 16 + digit c) 0
where
  /-- The value of one digit. -/
  digit (c : Char) : Nat :=
    if c.isDigit then c.toNat - 48 else c.toLower.toNat - 87

/-- A hexadecimal digit. -/
def isHex (c : Char) : Bool := c.isDigit || ('a' ≤ c.toLower && c.toLower ≤ 'f')

/-- The code points that a text stands for: one, those of a pattern, or those from one to another. -/
def CodeRange.ofText? : Text → Option CodeRange
  | u :: '+' :: s =>
    let ds := s.takeWhile isHex
    let rest := s.dropWhile isHex
    let marks := rest.takeWhile (· == '?')
    let rest := rest.dropWhile (· == '?')
    let n := hexValue ds
    let range : Option CodeRange :=
      if u ≠ 'u' ∧ u ≠ 'U' then none
      else if ds.length + marks.length = 0 ∨ 6 < ds.length + marks.length then none
      else match rest with
        | [] => some ⟨n * Nat.pow 16 marks.length, (n + 1) * Nat.pow 16 marks.length - 1⟩
        | '-' :: es =>
          if marks.isEmpty && !es.isEmpty && es.length ≤ 6 && es.all isHex then some ⟨n, hexValue es⟩ else none
        | _ => none
    range.filter fun r => r.last ≤ 0x10ffff && r.first ≤ r.last
  | _ => none

/-- A range of code points. -/
def codeRange : Reader CodeRange := do
  let s ← get
  match CodeRange.ofText? (Text.trim (Component.sources s.items)) with
  | some r => set ({ s with items := [] } : Stream); return r
  | none => Reader.fail .invalidValue

/-- How wide letters are, as the share of their usual width. -/
def widths : List (String × Rat) :=
  [("normal", 1), ("ultra-condensed", 1 / 2), ("extra-condensed", 5 / 8), ("condensed", 3 / 4),
   ("semi-condensed", 7 / 8), ("semi-expanded", 9 / 8), ("expanded", 5 / 4), ("extra-expanded", 3 / 2),
   ("ultra-expanded", 2)]

/-- How slanted letters are. -/
def slant : Reader (List Term) := do
  let w ← Measure.oneOf ["normal", "italic", "oblique"]
  if !w.isWord "oblique" then return [w]
  match ← Reader.attempt Calculation.angle with
  | none => return [w]
  | some a =>
    let b := (← Reader.attempt Calculation.angle).getD a
    let usual : Quantity := .angle 14 "deg".toList
    return if a == usual && b == usual then [w] else w :: (if a == b then [.quantity a] else [.quantity a, .quantity b])

/-- One value, or two that a typeface lies between. -/
def span (p : Reader Term) : Reader (List Term) := do
  let a ← p
  match ← Reader.attempt p with
  | some b => return if a == b then [a] else [a, b]
  | none => return [a]

/-- The value of a descriptor that has a meaning. -/
def known? (name : Text) : Option (Reader Descriptor) :=
  match String.ofList name with
  | "src" => some do return .sources (← Reader.separated source)
  | "unicode-range" => some do return .ranges (← Reader.separated codeRange)
  | "font-family" => some do return .terms name [← Property.family]
  | "font-weight" => some do return .terms name (← span (Reader.orTry Measure.numberTerm
      (Measure.oneOf ["normal", "bold", "bolder", "lighter"])))
  | "font-stretch" => some do return .terms name (← span (Reader.orTry
      (do return .quantity (← Calculation.definite .percent)) (Measure.oneOf (widths.map (·.1)))))
  | "font-style" => some do return .terms name (← slant)
  | _ => none

/-- A descriptor behind its name. -/
def descriptor (written : Text) : Reader Descriptor := do
  Reader.colon
  let asWritten : Reader Descriptor := do
    let (value, rest) := (← get).cut (· = .delim '!')
    match Piece.ofComponents value.items with
    | .ok ps => set rest; return .asWritten written ps
    | .error e => throw e
  match known? (Text.lowerAscii written) with
  | some p => Reader.orTry p asWritten
  | none => asWritten

/-! ## Writing -/

/-- The text of a source. A format is always quoted. -/
def Source.text (l : Layout) : Source → Text
  | url path format needs =>
    Written.url l.compact path
      ++ (format.elim [] fun f => l.gap ++ "format(".toList ++ Written.string f ++ [')'])
      ++ (if needs.isEmpty then [] else l.gap ++ "tech(".toList ++ Text.join (l.after ',') needs ++ [')'])
  | installed family => "local(".toList ++ family.text l ++ [')']

/-- A code point in hexadecimal digits. -/
def codeText (n : Nat) : Text := (Nat.toDigits 16 n).map Char.toUpper

/-- How many of the last hexadecimal digits of a range run from all zeros to all `f`s while the digits
before them are the same, if that is so of any. -/
def CodeRange.open? (r : CodeRange) : Option Nat :=
  [1, 2, 3, 4, 5, 6, 7].find? fun k =>
    r.first / Nat.pow 16 k = r.last / Nat.pow 16 k && r.first % Nat.pow 16 k = 0 && r.last % Nat.pow 16 k = Nat.pow 16 k - 1

/-- The text of a range, as a pattern where there is one. -/
def CodeRange.text (r : CodeRange) : Text :=
  'U' :: '+' :: match (if r.first = r.last then none else r.open?) with
    | some k =>
      let start := r.first / Nat.pow 16 k
      (if start = 0 then [] else codeText start) ++ List.replicate k '?'
    | none => codeText r.first ++ (if r.first = r.last then [] else '-' :: codeText r.last)

/-- A weight or a width in its shorter form. -/
def shortTerm (t : Term) : Term :=
  match t with
  | .word w =>
    if w = "bold".toList then .number 700
    else match widths.find? fun e => e.1.toList = w with
      | some e => .percent e.2
      | none => t
  | t => t

/-- A weight in its shorter form. -/
def shortWeight (t : Term) : Term :=
  if t.isWord "normal" then .number 400 else shortTerm t

/-- The text of a descriptor. -/
def Descriptor.text (l : Layout) : Descriptor → Text
  | sources list => "src".toList ++ l.after ':' ++ Text.join (l.after ',') (list.map (·.text l))
  | ranges list => "unicode-range".toList ++ l.after ':' ++ Text.join (l.after ',') (list.map (·.text))
  | terms name value =>
    let short : Term → Term :=
      if !l.compact then id
      else if name = "font-weight".toList then shortWeight
      else if name = "font-stretch".toList then shortTerm
      else id
    name ++ l.after ':' ++ Term.listText l (value.map short)
  | asWritten name value => Written.ident name ++ l.after ':' ++ Piece.text l value

end StylePrune.Css.FontFace
