import StylePrune.Text.Script
import StylePrune.Text.Trait

/-!
How characters take part in clusters, words and sentences.

Each character has one place in clusters, one in words and one in sentences; the first rule that fits
gives it. `none` stands for all characters without a place of their own.
-/
namespace StylePrune.Text

/-- The place of a character in a cluster: what a reader takes for one character. -/
inductive ClusterPlace where
  | carriageReturn
  | lineFeed
  | control
  | extend
  | joiner
  | prepend
  | spacing
  | regional
  | leading
  | vowel
  | trailing
  | openSyllable
  | closedSyllable
deriving DecidableEq, Repr

namespace ClusterPlace

/-- The places with their names in lower case and without underscores. -/
def names : List (ClusterPlace × List String) :=
  [(carriageReturn, ["cr"]), (lineFeed, ["lf"]), (control, ["control", "cn"]), (extend, ["extend", "ex"]),
   (joiner, ["zwj"]), (prepend, ["prepend", "pp"]), (spacing, ["spacingmark", "sm"]),
   (regional, ["regionalindicator", "ri"]), (leading, ["l"]), (vowel, ["v"]), (trailing, ["t"]),
   (openSyllable, ["lv"]), (closedSyllable, ["lvt"])]

/-- Signs in front of a consonant that join to what follows. -/
def prependPoints : List Stretch := stretches
  ["d4e 111c2-111c3 113d1 1193f 11941 11a3a 11a84-11a89 11d46 11f02"]

/-- Marks with a width that do not join to the character before them. -/
def freeMarkPoints : List Stretch := stretches
  ["102b-102c 1038 1062-1064 1067-106d 1083 1087-108c 108f 109a-109c 1a61 1a63-1a64 aa7b aa7d",
   "11720-11721"]

/-- The place of a character. -/
def of? (c : Char) : Option ClusterPlace :=
  let n := c.toNat
  let isIn (lo hi : Nat) : Bool := lo ≤ n && n ≤ hi
  if n = 13 then some carriageReturn
  else if n = 10 then some lineFeed
  else if n = 0x200d then some joiner
  else if Trait.holds .graphemeExtend c || Trait.holds .emojiModifier c then some extend
  else if Trait.holds .prependedMark c || inStretches prependPoints c then some prepend
  else if isOfCategory ["Zl", "Zp", "Cc", "Cf"] c || (isOfCategory ["Cn"] c && Trait.holds .ignorable c) then
    some control
  else if Trait.holds .regionalIndicator c then some regional
  else if isIn 0x1100 0x115f || isIn 0xa960 0xa97c then some leading
  else if isIn 0x1160 0x11a7 || isIn 0xd7b0 0xd7c6 || n = 0x16d63 || isIn 0x16d67 0x16d6a then some vowel
  else if isIn 0x11a8 0x11ff || isIn 0xd7cb 0xd7fb then some trailing
  else if isIn 0xac00 0xd7a3 then some (if (n - 0xac00) % 28 = 0 then openSyllable else closedSyllable)
  else if n = 0xe33 || n = 0xeb3 then some spacing
  else if isOfCategory ["Mc"] c && !inStretches freeMarkPoints c then some spacing
  else none

end ClusterPlace

/-- The place of a character in a word. -/
inductive WordPlace where
  | carriageReturn
  | lineFeed
  | newline
  | doubleQuote
  | singleQuote
  | joiner
  | extend
  | regional
  | format
  | hebrew
  | katakana
  | midLetter
  | midNumberLetter
  | midNumber
  | numeric
  | letter
  | connector
  | space
deriving DecidableEq, Repr

namespace WordPlace

/-- The places with their names in lower case and without underscores. -/
def names : List (WordPlace × List String) :=
  [(carriageReturn, ["cr"]), (lineFeed, ["lf"]), (newline, ["newline", "nl"]),
   (doubleQuote, ["doublequote", "dq"]), (singleQuote, ["singlequote", "sq"]), (joiner, ["zwj"]),
   (extend, ["extend"]), (regional, ["regionalindicator", "ri"]), (format, ["format", "fo"]),
   (hebrew, ["hebrewletter", "hl"]), (katakana, ["katakana", "ka"]), (midLetter, ["midletter", "ml"]),
   (midNumberLetter, ["midnumlet", "mb"]), (midNumber, ["midnum", "mn"]), (numeric, ["numeric", "nu"]),
   (letter, ["aletter", "le"]), (connector, ["extendnumlet", "ex"]), (space, ["wsegspace"])]

/-- Signs that count as katakana. -/
def katakanaPoints : List Stretch := stretches ["3031-3035 309b-309c 30a0 30fc ff70"]

/-- Signs between letters. -/
def midLetterPoints : List Stretch := stretches ["3a b7 387 55f 5f4 2027 fe13 fe55 ff1a"]

/-- Signs between letters and between digits. -/
def midNumberLetterPoints : List Stretch := stretches ["2e 2018-2019 2024 fe52 ff07 ff0e"]

/-- Signs between digits. -/
def midNumberPoints : List Stretch := stretches
  ["2c 3b 37e 589 60c-60d 66c 7f8 2044 fe10 fe14 fe50 fe54 ff0c ff1b"]

/-- Signs that count as letters. -/
def letterPoints : List Stretch := stretches
  ["2c2-2c5 2d2-2d7 2de-2df 2e5-2eb 2ed 2ef-2ff 55a-55c 55e 58a 5f3 70f a708-a716 a720-a721 a789-a78a",
   "ab5b"]

/-- Spaces at which a line can be broken. -/
def spacePoints : List Stretch := stretches ["20 1680 2000-2006 2008-200a 205f 3000"]

/-- The codes of scripts without a sign between words. -/
def unspacedScripts : List String :=
  ["Ahom", "Khmr", "Lana", "Laoo", "Mymr", "Tale", "Talu", "Tavt", "Thai"]

/-- The character belongs to one of the scripts. -/
def isOfScript (codes : List String) (c : Char) : Bool :=
  Script.all.any fun s => codes.contains s.code && s.has c

/-- The place of a character. -/
def of? (c : Char) : Option WordPlace :=
  let n := c.toNat
  if n = 13 then some carriageReturn
  else if n = 10 then some lineFeed
  else if n = 0xb || n = 0xc || n = 0x85 || n = 0x2028 || n = 0x2029 then some newline
  else if n = 0x22 then some doubleQuote
  else if n = 0x27 then some singleQuote
  else if n = 0x200d then some joiner
  else if Trait.holds .graphemeExtend c || isOfCategory ["Mc"] c || Trait.holds .emojiModifier c then
    some extend
  else if Trait.holds .regionalIndicator c then some regional
  else if isOfCategory ["Cf"] c && n ≠ 0x200b then some format
  else if isOfCategory ["Lo"] c && isOfScript ["Hebr"] c then some hebrew
  else if isOfScript ["Kana"] c || inStretches katakanaPoints c then some katakana
  else if inStretches midLetterPoints c then some midLetter
  else if inStretches midNumberLetterPoints c then some midNumberLetter
  else if inStretches midNumberPoints c then some midNumber
  else if isOfCategory ["Nd"] c || n = 0x66b then some numeric
  else if (Trait.holds .alphabetic c || inStretches letterPoints c) && !Trait.holds .ideographic c
      && !isOfScript ("Hira" :: unspacedScripts) c then some letter
  else if isOfCategory ["Pc"] c || n = 0x202f then some connector
  else if inStretches spacePoints c then some space
  else none

end WordPlace

/-- The place of a character in a sentence. -/
inductive SentencePlace where
  | carriageReturn
  | lineFeed
  | extend
  | separator
  | format
  | space
  | lower
  | upper
  | letter
  | numeric
  | ambiguousEnd
  | continuation
  | ending
  | close
deriving DecidableEq, Repr

namespace SentencePlace

/-- The places with their names in lower case and without underscores. -/
def names : List (SentencePlace × List String) :=
  [(carriageReturn, ["cr"]), (lineFeed, ["lf"]), (extend, ["extend", "ex"]), (separator, ["sep", "se"]),
   (format, ["format", "fo"]), (space, ["sp"]), (lower, ["lower", "lo"]), (upper, ["upper", "up"]),
   (letter, ["oletter", "le"]), (numeric, ["numeric", "nu"]), (ambiguousEnd, ["aterm", "at"]),
   (continuation, ["scontinue", "sc"]), (ending, ["sterm", "st"]), (close, ["close", "cl"])]

/-- Signs after which a sentence goes on. -/
def continuationPoints : List Stretch := stretches
  ["2c-2d 3a-3b 37e 55d 60c-60d 7f8 1802 1808 2013-2014 3001 fe10-fe11 fe13-fe14 fe31-fe32 fe50-fe51",
   "fe54-fe55 fe58 fe63 ff0c-ff0d ff1a-ff1b ff64"]

/-- Quotation marks beyond the categories of opening and closing ones. -/
def quotePoints : List Stretch := stretches
  ["22 27 275b-2760 2e00-2e01 2e06-2e08 2e0b 1f676-1f678"]

/-- The place of a character. -/
def of? (c : Char) : Option SentencePlace :=
  let n := c.toNat
  let isIn (lo hi : Nat) : Bool := lo ≤ n && n ≤ hi
  if n = 13 then some carriageReturn
  else if n = 10 then some lineFeed
  else if Trait.holds .graphemeExtend c || isOfCategory ["Mc"] c || n = 0x200d then some extend
  else if n = 0x85 || n = 0x2028 || n = 0x2029 then some separator
  else if isOfCategory ["Cf"] c then some format
  else if isBlank c then some space
  else if Trait.holds .lowercase c && !isIn 0x10d0 0x10fa && !isIn 0x10fd 0x10ff then some lower
  else if (isOfCategory ["Lt"] c || Trait.holds .uppercase c) && !isIn 0x1c90 0x1cba
      && !isIn 0x1cbd 0x1cbf then some upper
  else if Trait.holds .alphabetic c || n = 0x5f3 then some letter
  else if isOfCategory ["Nd"] c || n = 0x66b || n = 0x66c then some numeric
  else if n = 0x2e || n = 0x2024 || n = 0xfe52 || n = 0xff0e then some ambiguousEnd
  else if inStretches continuationPoints c then some continuation
  else if Trait.holds .sentenceTerminal c then some ending
  else if isOfCategory ["Ps", "Pe", "Pi", "Pf"] c || inStretches quotePoints c then some close
  else none

end SentencePlace
end StylePrune.Text
