import StylePrune.Outline.Lexeme
import StylePrune.Text.LetterCase

/-!
The top-level statements and blocks of a stylesheet, as written.

`Outline.nodes` finds them in one pass over the lexemes: between nodes it passes over white space,
comments and closing braces that close nothing; a node runs to its semicolon, to the brace that
closes its block, or to the end of the text. Nothing is interpreted, so an at-rule keeps its
parameters and its block exactly as they stand.
-/
namespace StylePrune

/-- One top-level statement or block. -/
inductive Node where
  /-- A qualified rule. -/
  | rule (text : Text)
  /-- An at-rule with its name, its parameters and, if it has one, the inside of its block. -/
  | atRule (name params : Text) (body : Option Text) (text : Text)
deriving DecidableEq, Repr

namespace Node

/-- The whole node as written. -/
def text : Node → Text
  | rule t => t
  | atRule _ _ _ t => t

/-- The inside of an at-rule's block. -/
def body : Node → Option Text
  | rule _ => none
  | atRule _ _ b _ => b

/-- The condition of a block of media-dependent rules. -/
def mediaCondition : Node → Option Text
  | rule _ => none
  | atRule name params body _ =>
    if body.isSome && Text.eqIgnoringAsciiCase name "media".toList then some params else none

end Node

namespace Outline

/-- A character of an at-rule's name. -/
def isNameChar (c : Char) : Bool := c.isAlphanum || c == '-' || c == '_'

/-- The node with this prelude, block and text; none when the text is blank. -/
def makeNode (prelude : Text) (body : Option Text) (text : Text) : Option Node :=
  let whole := Text.trim text
  if whole.isEmpty then none
  else match Text.trim prelude with
    | '@' :: r => some (.atRule (r.takeWhile isNameChar) (Text.trim (r.dropWhile isNameChar)) body whole)
    | _ => some (.rule whole)

/-- Where the scan stands: what it has read of the node it is in, the last lexeme first. -/
inductive Place where
  | between
  | inPrelude (prelude : List Lexeme)
  | inBlock (prelude inside : List Lexeme) (depth : Nat)

/-- White space, comments and closing braces stand between nodes. -/
def isFiller : Lexeme → Bool
  | .plain c => Text.isAsciiBlank c || c == '}'
  | .comment _ => true
  | _ => false

/-- The text of lexemes that were read last first. -/
def readBack (ls : List Lexeme) : Text := textOf ls.reverse

/-- The node that the end of the text leaves unfinished. -/
def unfinished : Place → Option Node
  | .between => none
  | .inPrelude p => makeNode (readBack p) none (readBack p)
  | .inBlock p b _ => makeNode (readBack p) (some (readBack b)) (readBack p ++ '{' :: readBack b)

/-- Reads one lexeme inside a prelude. -/
def stepPrelude (p : List Lexeme) (l : Lexeme) : Place × Option Node :=
  match l with
  | .plain ';' => (.between, makeNode (readBack p) none (readBack p ++ [';']))
  | .plain '{' => (.inBlock p [] 0, none)
  | _ => (.inPrelude (l :: p), none)

/-- Reads one lexeme inside a block; `depth` counts the open braces within it. -/
def stepBlock (p b : List Lexeme) (depth : Nat) (l : Lexeme) : Place × Option Node :=
  match l, depth with
  | .plain '{', d => (.inBlock p (l :: b) (d + 1), none)
  | .plain '}', 0 =>
    (.between, makeNode (readBack p) (some (readBack b)) (readBack p ++ '{' :: readBack b ++ ['}']))
  | .plain '}', d + 1 => (.inBlock p (l :: b) d, none)
  | _, d => (.inBlock p (l :: b) d, none)

/-- Reads one lexeme; the second part is the node that it ends. -/
def step : Place → Lexeme → Place × Option Node
  | .between, l => if isFiller l then (.between, none) else stepPrelude [] l
  | .inPrelude p, l => stepPrelude p l
  | .inBlock p b d, l => stepBlock p b d l

/-- The nodes that the rest of the text completes. -/
def scan : Place → List Lexeme → List Node
  | place, [] => (unfinished place).toList
  | place, l :: ls => (step place l).2.toList ++ scan (step place l).1 ls

/-- The top-level nodes of a stylesheet, in order. -/
def nodes (css : Text) : List Node := scan .between (lexemes css)

end Outline
end StylePrune
