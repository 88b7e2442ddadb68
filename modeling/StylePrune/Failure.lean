import StylePrune.Text.Basic

/-!
Why a run stops, or leaves a stylesheet out.

A failure has two texts: `Failure.message` says everything that is known, `Failure.userMessage` is what
a person is shown.
-/
namespace StylePrune

/-- A cause with what was being done when it arose, innermost first. -/
abbrev Cause := List Text

/-- A cause on one line, outermost first. -/
def Cause.text (c : Cause) : Text := Text.join ": ".toList c.reverse

/-- Why a run stops, or leaves a stylesheet out. -/
inductive Failure where
  /-- A stylesheet could not be downloaded. -/
  | fetchFailed (url cause : Text)
  /-- The file that stands in for a stylesheet could not be read. -/
  | overrideMissing (path : Text)
  /-- What was read is no stylesheet. -/
  | invalidCss (source : Text)
  /-- A pass over the stylesheet failed. -/
  | transformFailed (stage cause : Text)
  /-- The page has no stylesheet that could be read. -/
  | noStylesheets
  /-- The page could not be read. -/
  | pageFailed (target cause : Text)
  | badConfig (reason : Text)
  | writeFailed (reason : Text)
deriving DecidableEq, Repr

namespace Failure

/-- Everything that is known about a failure. -/
def message : Failure → Text
  | fetchFailed url cause => "Failed to fetch stylesheet ".toList ++ url ++ ": ".toList ++ cause
  | overrideMissing path => "Override file missing or unreadable: ".toList ++ path
  | invalidCss source => "Content from ".toList ++ source ++ " is not valid CSS".toList
  | transformFailed stage cause =>
    "CSS transform failed in ".toList ++ stage ++ " pass: ".toList ++ cause
  | noStylesheets => "No external stylesheets found".toList
  | pageFailed target cause => "Failed to load page ".toList ++ target ++ ": ".toList ++ cause
  | badConfig reason => "Configuration error: ".toList ++ reason
  | writeFailed reason => "IO error: ".toList ++ reason

/-- What a person is shown. -/
def userMessage : Failure → Text
  | fetchFailed url _ => "Could not download stylesheet ".toList ++ url
  | overrideMissing path => "Override file ".toList ++ path ++ " does not exist".toList
  | invalidCss source => source ++ " did not contain valid CSS; nothing was generated".toList
  | transformFailed stage _ =>
    "Processing failed during the ".toList ++ stage ++ " step; nothing was generated".toList
  | noStylesheets => "No external CSS files found on the provided page".toList
  | pageFailed target _ => "Could not load page ".toList ++ target
  | badConfig reason => "Invalid configuration: ".toList ++ reason
  | writeFailed _ => "Could not write output files".toList

/-- The failure ends the run. A stylesheet that could not be downloaded is left out, and a page without
stylesheets gives an empty result. -/
def isFatal : Failure → Bool
  | fetchFailed .. => false
  | noStylesheets => false
  | _ => true

/-- There was nothing to do. -/
def isEmptyResult : Failure → Bool
  | noStylesheets => true
  | _ => false

end Failure
end StylePrune
