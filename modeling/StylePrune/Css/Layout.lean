import StylePrune.Css.Browsers
import StylePrune.Text.Basic

/-!
How a stylesheet is laid out.
-/
namespace StylePrune.Css

/-- How a stylesheet is laid out: on one line without spare characters, or one declaration a line; and
the browsers that it has to be written for. -/
structure Layout where
  compact : Bool
  targets : Option Targets
deriving DecidableEq, Repr

namespace Layout

/-- A space that may be left out. -/
def gap (l : Layout) : Text := if l.compact then [] else [' ']

/-- A separator with the space behind it. -/
def after (l : Layout) (c : Char) : Text := c :: l.gap

/-- A separator with a space on both sides. -/
def around (l : Layout) (c : Char) : Text := l.gap ++ c :: l.gap

/-- A feature may be used as it is. -/
def supports (l : Layout) (f : Feature) : Bool := l.targets.all (·.supports f)

/-- The one-line layout for any browser, in which values are compared. -/
def short : Layout := ⟨true, none⟩

end Layout
end StylePrune.Css
