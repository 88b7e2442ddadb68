import StylePrune.Config.Basic
import StylePrune.FlexBasis
import StylePrune.Usage.Prune

/-!
Passes over a stylesheet.

A pass makes a stylesheet of a stylesheet; it may look at the page. Passes run one after another, and the
first that fails names itself in the failure, so that no unfinished stylesheet comes out.
-/
namespace StylePrune

/-- A pass over a stylesheet. -/
structure Pass where
  name : Text
  /-- The stylesheet that it makes of a stylesheet, given the markup of the page. -/
  apply : (css markup : Text) → Except Text Text

namespace Pass

/-- Runs a pass; a failure names it. -/
def run (markup : Text) (css : Text) (p : Pass) : Except Failure Text :=
  (p.apply css markup).mapError (.transformFailed p.name)

/-- Runs passes one after another. -/
def runAll (ps : List Pass) (css markup : Text) : Except Failure Text := ps.foldlM (run markup) css

/-! ## The passes of a run -/

/-- Gives flex values an explicit basis. -/
def compatibility : Pass := ⟨"compatibility".toList, fun css _ => .ok (FlexBasis.rewrite .loose css)⟩

/-- Writes new syntax in an older form, without vendor prefixes. -/
def lowering (c : Config) : Pass :=
  ⟨"lowering".toList, fun css _ => Css.Stylesheet.compile c.browsers.unmarked c.recovers false css⟩

/-- Adds and removes vendor prefixes. -/
def prefixing (c : Config) : Pass :=
  ⟨"prefix".toList, fun css _ => Css.Stylesheet.compile c.browsers.full c.recovers false css⟩

/-- Removes what the page does not use. -/
def purging (c : Config) : Pass :=
  ⟨"purge".toList, fun css markup =>
    Css.Stylesheet.prune c.browsers.full c.recovers (.ofMarkup markup c.safelist) css⟩

/-- Writes a stylesheet as short as it can be, but keeps explicit flex bases. -/
def minifying (c : Config) : Pass :=
  ⟨"minify".toList, fun css _ =>
    FlexBasis.rewrite .compact <$> Css.Stylesheet.compile c.browsers.full c.recovers true css⟩

/-- The passes of a run, in order. -/
def standard (c : Config) : List Pass :=
  [compatibility, lowering c, prefixing c, purging c, minifying c]

end Pass
end StylePrune
