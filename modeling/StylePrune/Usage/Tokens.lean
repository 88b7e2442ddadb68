import StylePrune.Text.Word

/-!
The names that a page mentions.

`Usage.tokens` takes the maximal runs of word characters, hyphens, slashes and colons of the whole
markup, not only of its class and id attributes, and removes the colons at the end of each. The set
is larger than what the page really uses, which is the safe side.
-/
namespace StylePrune.Usage

/-- A character that a token may hold. -/
def isTokenChar (c : Char) : Bool := Text.isWord c || c == '-' || c == '/' || c == ':'

/-- A run of token characters without the colons at its end. -/
def trimColons (run : Text) : Text := Text.dropEndWhile (· == ':') run

/-- Every token in the order of the text, repetitions included. -/
def tokenList (markup : Text) : List Text :=
  ((Text.wordsBy (fun c => !isTokenChar c) markup).map trimColons).filter fun t => !t.isEmpty

/-- The distinct tokens of a page, in ascending order. -/
def tokens (markup : Text) : List Text := Text.sortedSet (tokenList markup)

end StylePrune.Usage
