import StylePrune.Css.Layout
import StylePrune.Css.Written

/-!
Resolutions: dots in a length.

The unit `x` is the short name of `dppx`, which some browsers do not know.
-/
namespace StylePrune.Css

open Decimal

/-- A unit of resolution. -/
def isResolutionUnit (u : Text) : Bool := ["dpi", "dpcm", "dppx", "x"].any (·.toList = u)

/-- A resolution as it is written. -/
def resolutionText (l : Layout) (r : Rat) (unit : Text) : Text :=
  let dots := unit = ['x'] || unit = "dppx".toList
  Written.dimension r (if dots then (if l.supports .resolutionX then ['x'] else "dppx".toList) else unit)

/-- The dots of a resolution in a pixel. -/
def dotsPerPixel (r : Rat) (unit : Text) : Rat :=
  if unit = "dpi".toList then Single.div r 96
  else if unit = "dpcm".toList then
    Single.div (Single.mul r (Single.round (254 / 100))) 96
  else r

end StylePrune.Css
