import StylePrune.Text.LetterCase

/-!
Stylesheet texts before they are joined.

A text counts as a stylesheet when it has an opening and a closing brace. A declaration of the
character set holds only at the start of a file, so it is removed before texts are joined, and a
stylesheet that is linked for a medium is put into a media block.
-/
namespace StylePrune.Sheet

/-- The text has both braces. -/
def isPlausible (css : Text) : Bool := css.contains '{' && css.contains '}'

/-- The text in a media block of its own lines. -/
def wrapInMedia (css condition : Text) : Text :=
  "@media ".toList ++ condition ++ [' ', '{', '\n'] ++ css ++ ['\n', '}']

/-- What follows a quoted text. -/
def dropQuoted? : Text → Option Text
  | q :: r =>
    if q = '"' ∨ q = '\'' then
      match r.dropWhile (· != q) with
      | _ :: t => some t
      | [] => none
    else none
  | [] => none

/-- What follows a declaration of the character set at the start of the text. -/
def dropCharset? (css : Text) : Option Text :=
  match Text.dropFolded? "@charset".toList (css.dropWhile Text.isBlank) with
  | none => none
  | some (_, r) =>
    if (r.head?.map Text.isBlank).getD false then
      match dropQuoted? (r.dropWhile Text.isBlank) with
      | none => none
      | some t =>
        match t.dropWhile Text.isBlank with
        | ';' :: u => some u
        | _ => none
    else none

/-- The text without a declaration of the character set at its start. -/
def stripCharset (css : Text) : Text := (dropCharset? css).getD css

end StylePrune.Sheet
