import StylePrune.Pass
import StylePrune.Resolution.Session
import StylePrune.Split.Basic
import StylePrune.Text.Utf8

/-!
The purged stylesheet of a page.

The stylesheets that the page links are resolved, joined in the order of their links, and taken through
the passes. A page without a stylesheet that could be resolved has no purged stylesheet.
-/
namespace StylePrune.Run

open Resolution (World Stylesheet Skipped Origin Outcome)

/-- A stylesheet that went into the result. -/
structure Used where
  url : Text
  fileName : Text
  origin : Origin
  media : Option Text
deriving DecidableEq, Repr

/-- What a run used and what it left out. -/
structure Report where
  used : List Used
  skipped : List Skipped
  inputBytes : Nat
  outputBytes : Nat
deriving DecidableEq, Repr

/-- The purged stylesheet of a page. -/
structure Purged where
  css : Text
  /-- The groups of the stylesheet if it was to be split. -/
  groups : Option (List SplitGroup)
  report : Report

/-- What the report says of a stylesheet. -/
def Used.ofStylesheet (s : Stylesheet) : Used := ⟨s.url, s.fileName, s.origin, s.media⟩

/-- Content type of a purged stylesheet. -/
def contentType : Text := "text/css".toList

/-- Name of the file that holds a purged stylesheet that is not split. -/
def purgedFileName : Text := "purged.css".toList

/-- Content disposition of a purged stylesheet. -/
def contentDisposition : Text := "attachment; filename=\"".toList ++ purgedFileName ++ ['"']

/-- Headers that serve the purged stylesheet as a file; a split one is not served. -/
def Purged.headers? (p : Purged) : Option (List (Text × Text)) :=
  match p.groups with
  | none => some [("Content-Type".toList, contentType), ("Content-Disposition".toList, contentDisposition)]
  | some _ => none

/-- The purged stylesheet with its report. -/
def Purged.ofCss (o : Outcome) (isSplit : Bool) (css : Text) : Purged :=
  { css := css
    groups := if isSplit then some (Split.split css) else none
    report := ⟨o.stylesheets.map Used.ofStylesheet, o.skipped, Text.byteCount o.css, Text.byteCount css⟩ }

/-- The purged stylesheet of a page whose links came to this. -/
def purgeOutcome (c : Config) (markup : Text) (isSplit : Bool) (o : Outcome) : Except Failure Purged :=
  if o.stylesheets.isEmpty then .error .noStylesheets
  else (Pass.runAll (Pass.standard c) o.css markup).map (Purged.ofCss o isSplit)

/-- Purges the stylesheets that a page links: the addresses that were asked for, and the result. -/
def purgePage (w : World) (markup : Text) (isSplit : Bool) : List Text × Except Failure Purged :=
  let (calls, outcome) := w.resolveAll (Page.styleLinks markup)
  (calls, outcome.bind (purgeOutcome w.config markup isSplit))

end StylePrune.Run
