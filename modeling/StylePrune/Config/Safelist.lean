import StylePrune.Pattern.Meaning
import StylePrune.Pattern.Size

/-!
Identifiers that are never pruned.

A safelist names identifiers, and gives patterns of identifiers.
-/
namespace StylePrune.Config

/-- Identifiers and patterns of identifiers that are kept. -/
structure Safelist where
  /-- The identifiers, each once. -/
  tokens : List Text
  patterns : List Pattern.Node

namespace Safelist

/-- A safelist that keeps nothing. -/
def empty : Safelist := ⟨[], []⟩

/-- An identifier as it may be given: with blanks around it and with the sign of a class or id. -/
def bare (token : Text) : Text := (Text.trim token).dropWhile fun c => c == '.' || c == '#'

/-- Adds an identifier once. -/
def insert (token : Text) (tokens : List Text) : List Text :=
  if tokens.contains token then tokens else token :: tokens

/-- The identifiers that are given, each once. -/
def collect (tokens : List Text) : List Text :=
  ((tokens.map bare).filter fun t => !t.isEmpty).foldr insert []

/-- A pattern, or what is wrong with it. -/
def readPattern (p : Text) : Except Text Pattern.Node :=
  match Pattern.parse p with
  | .error f => .error (f.report p)
  | .ok n => if n.isTooLarge then .error Pattern.sizeReport else .ok n

/-- The patterns that are given, or what is wrong with the first one that cannot be used. -/
def readPatterns : List Text → Except Text (List Pattern.Node)
  | [] => .ok []
  | p :: r =>
    match readPattern p with
    | .error m => .error ("Invalid safelist pattern '".toList ++ p ++ "': ".toList ++ m)
    | .ok n => match readPatterns r with
      | .error m => .error m
      | .ok ns => .ok (n :: ns)

/-- A safelist from identifiers and patterns. -/
def ofLists (tokens patterns : List Text) : Except Text Safelist :=
  match readPatterns patterns with
  | .error m => .error m
  | .ok ns => .ok ⟨collect tokens, ns⟩

/-- An identifier is kept. -/
def contains (s : Safelist) (ident : Text) : Bool :=
  s.tokens.contains ident || s.patterns.any fun p => p.occursIn ident

/-- How many identifiers and patterns there are. -/
def size (s : Safelist) : Nat := s.tokens.length + s.patterns.length

/-- The safelist keeps nothing. -/
def isEmpty (s : Safelist) : Bool := s.tokens.isEmpty && s.patterns.isEmpty

end Safelist
end StylePrune.Config
