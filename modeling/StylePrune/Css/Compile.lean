import StylePrune.Css.Reduce.Rules
import StylePrune.Css.Rule.Parse
import StylePrune.Css.Rule.Print

/-!
Rewriting a stylesheet for browsers.
-/
namespace StylePrune.Css

/-- The line that is shown for a fault in the reading of a stylesheet. -/
def parseMessage (f : Fault) : Text := "CSS parse error: ".toList ++ f.message

namespace Stylesheet

/-- Reads a stylesheet, reduces it for browsers and writes it again. -/
def compile (t : Targets) (recovers compact : Bool) (css : Text) : Except Text Text :=
  match parse recovers css with
  | .ok s => .ok ((s.reduce t).print ⟨compact, some t⟩)
  | .error f => .error (parseMessage f)

end Stylesheet
end StylePrune.Css
