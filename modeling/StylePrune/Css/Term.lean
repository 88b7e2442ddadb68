import StylePrune.Css.Calc
import StylePrune.Css.Color
import StylePrune.Css.Resolution

/-!
Values that follow the grammar of their property.

Such a value is a list of terms. Terms are compared part by part, and `Term.isKnown` says that every
browser knows the units and functions in a term.
-/
namespace StylePrune.Css

/-- A part of a value that follows the grammar of its property. -/
inductive Term where
  | word (w : Text)
  | number (r : Rat)
  | integer (n : Int)
  | quantity (q : Quantity)
  | resolution (r : Rat) (unit : Text)
  /-- A calculation that stays open. -/
  | math (c : Calc)
  | color (c : Color)
  | url (u : Text)
  | string (s : Text)
  /-- The name of a family of typefaces. -/
  | family (name : Text)
  | call (name : Text) (args : List Term)
  | comma
  | slash
deriving Repr

namespace Term

mutual
/-- Equality of terms, part by part. -/
def same : Term → Term → Bool
  | word v, word w => v == w
  | number r, number s => r == s
  | integer n, integer m => n == m
  | quantity p, quantity q => p == q
  | resolution r u, resolution s v => r == s && u == v
  | math a, math b => a == b
  | color c, color d => c == d
  | url u, url v => u == v
  | string s, string t => s == t
  | family n, family m => n == m
  | call n a, call m b => n == m && sameAll a b
  | comma, comma | slash, slash => true
  | _, _ => false

/-- Equality of lists of terms. -/
def sameAll : List Term → List Term → Bool
  | [], [] => true
  | a :: r, b :: s => same a b && sameAll r s
  | _, _ => false
end

instance : BEq Term := ⟨same⟩

/-- A length of zero pixels. -/
def zero : Term := quantity (.pixels 0)

/-- A percentage, given as a fraction. -/
def percent (fraction : Rat) : Term := quantity (.percent fraction)

/-- A term from a calculation, which may have come out as a single quantity. -/
def ofCalc : Calc → Term
  | .value q => quantity q
  | c => math c

/-- The term is the given word. -/
def isWord (w : String) : Term → Bool
  | word v => v = w.toList
  | _ => false

/-- A quantity that is zero. -/
def isZero : Term → Bool
  | quantity q => q.isZero
  | _ => false

/-! ## Writing -/

/-- The name of a family of typefaces: quoted where its words are no identifiers or mean something. -/
def familyText (s : Text) : Text :=
  let kept := ["serif", "sans-serif", "cursive", "fantasy", "monospace", "system-ui", "emoji", "math",
    "fangsong", "ui-serif", "ui-sans-serif", "ui-monospace", "ui-rounded", "initial", "inherit", "unset",
    "default", "revert", "revert-layer"]
  let bare := Text.join [' '] ((Text.splitOnChar ' ' s).map Written.ident)
  if s.isEmpty || kept.any (·.toList = Text.lowerAscii s) || Text.hasInfix [' ', ' '] s
      || Text.byteCount bare ≥ Text.byteCount s + 2 then Written.string s
  else bare

mutual
/-- The text of one term. -/
def text (l : Layout) : Term → Text
  | word w => w
  | number r => Numeral.text r
  | integer n => Numeral.ofInt n
  | quantity q => q.text
  | resolution r u => resolutionText l r u
  | math c => c.text l
  | color c => c.text l
  | url u => Written.url l.compact u
  | string s => Written.string s
  | family n => familyText n
  | call n args => n ++ '(' :: argumentText l args ++ [')']
  | comma => [',']
  | slash => ['/']

/-- The text of the arguments of a call. -/
def argumentText (l : Layout) : List Term → Text
  | [] => []
  | [t] => text l t
  | t :: r => text l t ++ l.after ',' ++ argumentText l r
end

/-- The text of terms, with a space between neighbours that no separator stands between. -/
def listText (l : Layout) : List Term → Text
  | [] => []
  | comma :: r => l.after ',' ++ listText l r
  | slash :: r => l.around '/' ++ listText l r
  | t :: r => text l t ++ (match r with
    | [] | comma :: _ | slash :: _ => []
    | _ => [' ']) ++ listText l r

/-! ## Browsers -/

mutual
/-- Every browser knows the units and functions in a term. -/
def isKnown (t : Targets) : Term → Bool
  | quantity q => q.isKnown t
  | math c => c.isKnown t
  | call _ args => allKnown t args
  | _ => true

/-- Every browser knows the units and functions in terms. -/
def allKnown (t : Targets) : List Term → Bool
  | [] => true
  | a :: r => isKnown t a && allKnown t r
end

end Term
end StylePrune.Css
