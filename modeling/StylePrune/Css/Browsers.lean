import StylePrune.Css.Vendor

/-!
What browsers support.

`Browsers` names the oldest version of each browser that a stylesheet is written for. A feature is
supported when each of them has it. For a name that browsers know under a vendor's mark,
`Marked.vendors` gives the marks that they need.
-/
namespace StylePrune.Css

/-- The browsers that a stylesheet can be written for. -/
inductive Browser where
  | android
  | chrome
  | edge
  | firefox
  | ie
  | iosSafari
  | opera
  | safari
  | samsung
deriving DecidableEq, Repr

/-- A version as one number: 65536 for each major and 256 for each minor one. -/
abbrev Version := Nat

/-- A version from its major and minor number. -/
def release (major minor : Nat) : Version := major * 65536 + minor * 256

/-- The first version with a major number. -/
def version (major : Nat) : Version := release major 0

/-- The oldest version of each browser that matters, where a browser matters at all. -/
structure Browsers where
  android : Option Version
  chrome : Option Version
  edge : Option Version
  firefox : Option Version
  ie : Option Version
  iosSafari : Option Version
  opera : Option Version
  safari : Option Version
  samsung : Option Version
deriving DecidableEq, Repr

/-- The oldest version of one browser. -/
def Browsers.get? (b : Browsers) : Browser → Option Version
  | .android => b.android
  | .chrome => b.chrome
  | .edge => b.edge
  | .firefox => b.firefox
  | .ie => b.ie
  | .iosSafari => b.iosSafari
  | .opera => b.opera
  | .safari => b.safari
  | .samsung => b.samsung

/-- All browsers. -/
def Browser.all : List Browser :=
  [.android, .chrome, .edge, .firefox, .ie, .iosSafari, .opera, .safari, .samsung]

/-- Features that a browser has from some version on. -/
inductive Feature where
  | nesting
  | isSelector
  | notSelectorList
  | langSelectorList
  | mediaRange
  | mediaInterval
  | logicalInset
  | hexAlpha
  | selectors2
  | selectors3
  | caseInsensitive
  | namespaces
  | generatedContent
  | firstLetter
  | firstLine
  | selection
  | placeholder
  | marker
  | dialog
  | cue
  | cueFunction
  | anyLink
  | focusVisible
  | focusWithin
  | defaultPseudo
  | dirSelector
  | hasSelector
  | nthChildOf
  | shadowDom
  | partPseudo
  | readOnlyWrite
  | placeholderShown
  | optionalPseudo
  | indeterminate
  | fullscreen
  | formValidation
  | inOutOfRange
  | autofill
  | logicalMargin
  | logicalMarginShorthand
  | logicalPadding
  | logicalPaddingShorthand
  | logicalSize
  | overflowShorthand
  | minContentSize
  | fitContentSize
  | fitContentFunction
  | stretchSize
  | placeContent
  | placeItems
  | placeSelf
  | spacedColor
  | resolutionX
  | minFunction
  | clampFunction
  | roundFunction
  | absFunction
  | trigonometry
  | calcFunction
  | vmaxUnit
  | quarterUnit
  | lineHeightUnit
  | rootLineHeightUnit
  | ideographUnit
  | rootIdeographUnit
  | capHeightUnit
  | rootCapHeightUnit
  | viewportUnits
  | containerUnits
deriving DecidableEq, Repr

namespace Feature

/-- The first version of each browser that has a feature. A browser that is not listed has it in no
version. -/
def since : Feature → List (Browser × Version)
  | nesting => [(.android, version 120), (.chrome, version 120), (.edge, version 120),
      (.firefox, version 117), (.iosSafari, release 17 2), (.opera, version 106),
      (.safari, release 17 2), (.samsung, version 25)]
  | isSelector => [(.android, version 88), (.chrome, version 88), (.edge, version 88),
      (.firefox, version 78), (.iosSafari, version 14), (.opera, version 74), (.safari, version 14),
      (.samsung, version 15)]
  | notSelectorList => [(.android, version 88), (.chrome, version 88), (.edge, version 88),
      (.firefox, version 84), (.iosSafari, version 9), (.opera, version 74), (.safari, version 9),
      (.samsung, version 15)]
  | langSelectorList => [(.iosSafari, release 10 3), (.safari, release 10 1)]
  | mediaRange => [(.android, version 104), (.chrome, version 104), (.edge, version 104),
      (.firefox, version 63), (.iosSafari, release 16 4), (.opera, version 91), (.safari, release 16 4),
      (.samsung, version 20)]
  | mediaInterval => [(.android, version 104), (.chrome, version 104), (.edge, version 104),
      (.firefox, version 102), (.iosSafari, release 16 4), (.opera, version 91),
      (.safari, release 16 4), (.samsung, version 20)]
  | logicalInset => [(.android, version 87), (.chrome, version 87), (.edge, version 87),
      (.firefox, version 63), (.iosSafari, release 14 5), (.opera, version 73), (.safari, release 14 1),
      (.samsung, version 14)]
  | hexAlpha => [(.android, version 62), (.chrome, version 62), (.edge, version 79),
      (.firefox, version 49), (.iosSafari, version 10), (.opera, version 49), (.safari, version 10),
      (.samsung, version 8)]
  | selectors2 => [(.android, release 2 1), (.chrome, version 4), (.edge, version 12),
      (.firefox, version 2), (.ie, version 7), (.iosSafari, release 3 2), (.opera, version 10),
      (.safari, release 3 1), (.samsung, version 4)]
  | selectors3 => [(.android, release 2 1), (.chrome, version 4), (.edge, version 12),
      (.firefox, release 3 5), (.ie, version 9), (.iosSafari, release 3 2), (.opera, version 10),
      (.safari, release 3 2), (.samsung, version 4)]
  | caseInsensitive => [(.android, version 49), (.chrome, version 49), (.edge, version 79),
      (.firefox, version 47), (.iosSafari, version 9), (.opera, version 36), (.safari, version 9),
      (.samsung, version 5)]
  | namespaces => [(.android, release 2 1), (.chrome, version 4), (.edge, version 12),
      (.firefox, version 2), (.ie, version 9), (.iosSafari, version 4), (.opera, version 10),
      (.safari, version 4), (.samsung, version 4)]
  | generatedContent => [(.android, release 2 1), (.chrome, version 4), (.edge, version 12),
      (.firefox, version 2), (.ie, version 9), (.iosSafari, release 3 2), (.opera, version 9),
      (.safari, release 3 1), (.samsung, version 4)]
  | firstLetter => [(.android, version 3), (.chrome, version 9), (.edge, version 12),
      (.firefox, release 3 5), (.ie, version 9), (.iosSafari, version 5), (.opera, release 11 6),
      (.safari, release 5 1), (.samsung, version 4)]
  | firstLine => [(.android, version 3), (.chrome, version 4), (.edge, version 12),
      (.firefox, version 2), (.ie, version 9), (.iosSafari, release 3 2), (.opera, version 9),
      (.safari, version 4), (.samsung, version 4)]
  | selection => [(.android, release 4 4), (.chrome, version 4), (.edge, version 12),
      (.firefox, version 62), (.ie, version 9), (.opera, version 10), (.safari, release 3 1),
      (.samsung, version 4)]
  | placeholder => [(.android, version 57), (.chrome, version 57), (.edge, version 79),
      (.firefox, version 51), (.iosSafari, release 10 3), (.opera, version 44), (.safari, release 10 1),
      (.samsung, version 7)]
  | marker => [(.android, version 86), (.chrome, version 86), (.edge, version 86),
      (.firefox, version 68), (.opera, version 72), (.samsung, version 14)]
  | dialog => [(.android, version 37), (.chrome, version 37), (.edge, version 79),
      (.firefox, version 98), (.iosSafari, release 15 4), (.opera, version 24), (.safari, release 15 4),
      (.samsung, version 4)]
  | cue => [(.android, version 37), (.chrome, version 26), (.edge, version 79), (.firefox, version 55),
      (.iosSafari, version 7), (.opera, version 15), (.safari, version 7), (.samsung, release 1 5)]
  | cueFunction => [(.android, version 37), (.chrome, version 26), (.edge, version 79),
      (.iosSafari, version 7), (.opera, version 15), (.safari, version 7), (.samsung, release 1 5)]
  | anyLink => [(.android, version 65), (.chrome, version 65), (.edge, version 79),
      (.firefox, version 50), (.iosSafari, version 9), (.opera, version 52), (.safari, version 9),
      (.samsung, version 9)]
  | focusVisible => [(.android, version 86), (.chrome, version 86), (.edge, version 86),
      (.firefox, version 85), (.iosSafari, release 15 4), (.opera, version 72), (.safari, release 15 4),
      (.samsung, version 14)]
  | focusWithin => [(.android, version 60), (.chrome, version 60), (.edge, version 79),
      (.firefox, version 52), (.iosSafari, release 10 3), (.opera, version 47), (.safari, release 10 1),
      (.samsung, version 8)]
  | defaultPseudo => [(.android, version 51), (.chrome, version 51), (.edge, version 79),
      (.firefox, version 4), (.iosSafari, release 10 3), (.opera, version 38), (.safari, release 10 1),
      (.samsung, version 5)]
  | dirSelector => [(.android, version 120), (.chrome, version 120), (.edge, version 120),
      (.firefox, version 49), (.iosSafari, release 16 4), (.opera, version 106), (.safari, release 16 4),
      (.samsung, version 25)]
  | hasSelector => [(.android, version 105), (.chrome, version 105), (.edge, version 105),
      (.firefox, version 121), (.iosSafari, release 15 4), (.opera, version 91), (.safari, release 15 4),
      (.samsung, version 20)]
  | nthChildOf => [(.android, version 111), (.chrome, version 111), (.edge, version 111),
      (.firefox, version 113), (.iosSafari, version 9), (.opera, version 98), (.safari, version 9),
      (.samsung, version 22)]
  | shadowDom => [(.android, version 53), (.chrome, version 53), (.edge, version 79),
      (.firefox, version 63), (.iosSafari, version 10), (.opera, version 40), (.safari, version 10),
      (.samsung, version 6)]
  | partPseudo => [(.android, version 73), (.chrome, version 73), (.edge, version 79),
      (.firefox, version 72), (.iosSafari, release 13 4), (.opera, version 60), (.safari, release 13 1),
      (.samsung, version 11)]
  | readOnlyWrite => [(.android, version 36), (.chrome, version 36), (.edge, version 13),
      (.firefox, version 78), (.iosSafari, version 9), (.opera, version 23), (.safari, version 9),
      (.samsung, version 4)]
  | placeholderShown => [(.android, version 47), (.chrome, version 47), (.edge, version 79),
      (.firefox, version 51), (.iosSafari, version 9), (.opera, version 34), (.safari, version 9),
      (.samsung, version 5)]
  | optionalPseudo => [(.android, release 4 4), (.chrome, version 15), (.edge, version 12),
      (.firefox, version 4), (.ie, version 10), (.iosSafari, version 5), (.opera, version 10),
      (.safari, version 5), (.samsung, version 4)]
  | indeterminate => [(.android, version 39), (.chrome, version 39), (.edge, version 79),
      (.firefox, version 51), (.iosSafari, version 12), (.opera, version 26), (.safari, release 10 1),
      (.samsung, version 4)]
  | fullscreen => [(.android, version 71), (.chrome, version 71), (.edge, version 79),
      (.firefox, version 64), (.opera, version 58), (.safari, release 16 4), (.samsung, version 10)]
  | formValidation => [(.android, release 4 4), (.chrome, version 10), (.edge, version 12),
      (.firefox, version 4), (.ie, version 10), (.iosSafari, release 10 3), (.opera, version 10),
      (.safari, release 10 1), (.samsung, version 4)]
  | inOutOfRange => [(.android, version 53), (.chrome, version 53), (.edge, version 79),
      (.firefox, version 50), (.iosSafari, release 10 3), (.opera, version 40), (.safari, release 10 1),
      (.samsung, version 6)]
  | autofill => [(.android, version 110), (.chrome, version 110), (.edge, version 110),
      (.firefox, version 86), (.iosSafari, version 15), (.opera, version 96), (.safari, version 15),
      (.samsung, version 21)]
  | logicalMargin | logicalPadding => [(.android, version 69), (.chrome, version 69), (.edge, version 79),
      (.firefox, version 41), (.iosSafari, release 12 2), (.opera, version 56), (.safari, release 12 1),
      (.samsung, version 10)]
  | logicalMarginShorthand | logicalPaddingShorthand => [(.android, version 87), (.chrome, version 87),
      (.edge, version 87), (.firefox, version 66), (.iosSafari, release 14 5), (.opera, version 73),
      (.safari, release 14 1), (.samsung, version 14)]
  | logicalSize => [(.android, version 57), (.chrome, version 57), (.edge, version 79),
      (.firefox, version 41), (.iosSafari, release 12 2), (.opera, version 44), (.safari, release 12 1),
      (.samsung, version 5)]
  | overflowShorthand => [(.android, version 68), (.chrome, version 68), (.edge, version 79), (.firefox, version 61),
      (.iosSafari, release 13 4), (.opera, version 55), (.safari, release 13 1), (.samsung, version 10)]
  | minContentSize => [(.android, version 46), (.chrome, version 46), (.edge, version 79), (.firefox, version 66),
      (.iosSafari, version 11), (.opera, version 33), (.safari, version 11), (.samsung, version 5)]
  | fitContentSize => [(.android, version 46), (.chrome, version 46), (.edge, version 79), (.firefox, version 94),
      (.iosSafari, version 11), (.opera, version 33), (.safari, version 11), (.samsung, version 5)]
  | fitContentFunction => [(.firefox, version 91)]
  | stretchSize => [(.android, version 138), (.chrome, version 138), (.edge, version 138), (.opera, version 122)]
  | placeContent => [(.android, version 59), (.chrome, version 59), (.edge, version 79),
      (.firefox, version 45), (.iosSafari, version 9), (.opera, version 46), (.safari, version 9),
      (.samsung, version 7)]
  | placeItems | placeSelf => [(.android, version 59), (.chrome, version 59), (.edge, version 79),
      (.firefox, version 45), (.iosSafari, version 11), (.opera, version 46), (.safari, version 11),
      (.samsung, version 7)]
  | spacedColor => [(.android, version 65), (.chrome, version 65), (.edge, version 79),
      (.firefox, version 52), (.iosSafari, release 12 2), (.opera, version 52), (.safari, release 12 1),
      (.samsung, version 9)]
  | resolutionX => [(.android, version 68), (.chrome, version 68), (.edge, version 79),
      (.firefox, version 62), (.iosSafari, version 16), (.opera, version 55), (.safari, version 16),
      (.samsung, version 10)]
  | minFunction => [(.android, version 79), (.chrome, version 79), (.edge, version 79),
      (.firefox, version 75), (.iosSafari, release 11 3), (.opera, version 66), (.safari, release 11 1),
      (.samsung, version 12)]
  | clampFunction => [(.android, version 79), (.chrome, version 79), (.edge, version 79),
      (.firefox, version 75), (.iosSafari, release 13 4), (.opera, version 66), (.safari, release 13 1),
      (.samsung, version 12)]
  | roundFunction => [(.android, version 125), (.chrome, version 125), (.edge, version 125),
      (.firefox, version 118), (.iosSafari, release 15 4), (.opera, version 111), (.safari, release 15 4),
      (.samsung, version 27)]
  | absFunction => [(.android, version 138), (.chrome, version 138), (.edge, version 138),
      (.firefox, version 118), (.iosSafari, release 15 4), (.safari, release 15 4)]
  | trigonometry => [(.android, version 111), (.chrome, version 111), (.edge, version 111),
      (.firefox, version 108), (.iosSafari, release 15 4), (.opera, version 97), (.safari, release 15 4),
      (.samsung, version 22)]
  | calcFunction => [(.android, version 37), (.chrome, version 26), (.edge, version 12),
      (.firefox, version 16), (.ie, version 9), (.iosSafari, version 7), (.opera, version 15),
      (.safari, version 7), (.samsung, release 1 5)]
  | vmaxUnit => [(.android, release 4 4), (.chrome, version 26), (.edge, version 16), (.firefox, version 19),
      (.iosSafari, version 7), (.opera, version 15), (.safari, version 7), (.samsung, release 1 5)]
  | quarterUnit => [(.android, version 63), (.chrome, version 63), (.edge, version 79),
      (.firefox, version 49), (.iosSafari, release 13 4), (.opera, version 50), (.safari, release 13 1),
      (.samsung, version 8)]
  | lineHeightUnit => [(.android, version 109), (.chrome, version 109), (.edge, version 109),
      (.firefox, version 120), (.iosSafari, release 16 4), (.opera, version 95), (.safari, release 16 4),
      (.samsung, version 21)]
  | rootLineHeightUnit => [(.android, version 111), (.chrome, version 111), (.edge, version 111),
      (.firefox, version 120), (.iosSafari, release 16 4), (.opera, version 97), (.safari, release 16 4),
      (.samsung, version 22)]
  | ideographUnit => [(.android, version 106), (.chrome, version 106), (.edge, version 106),
      (.firefox, version 97), (.iosSafari, release 15 4), (.opera, version 92), (.safari, release 15 4),
      (.samsung, version 20)]
  | rootIdeographUnit => [(.android, version 111), (.chrome, version 111), (.edge, version 111),
      (.iosSafari, release 17 2), (.opera, version 97), (.safari, release 17 2), (.samsung, version 22)]
  | capHeightUnit => [(.android, version 118), (.chrome, version 118), (.edge, version 118),
      (.firefox, version 97), (.iosSafari, release 17 2), (.opera, version 104), (.safari, release 17 2),
      (.samsung, version 25)]
  | rootCapHeightUnit => [(.android, version 118), (.chrome, version 118), (.edge, version 118),
      (.iosSafari, release 17 2), (.opera, version 104), (.safari, release 17 2), (.samsung, version 25)]
  | viewportUnits => [(.android, version 108), (.chrome, version 108), (.edge, version 108),
      (.firefox, version 101), (.iosSafari, release 15 4), (.opera, version 94), (.safari, release 15 4),
      (.samsung, version 21)]
  | containerUnits => [(.android, version 105), (.chrome, version 105), (.edge, version 105),
      (.firefox, version 110), (.iosSafari, version 16), (.opera, version 91), (.safari, version 16),
      (.samsung, version 20)]

/-- Every browser that matters has the feature. -/
def supported (f : Feature) (b : Browsers) : Bool :=
  Browser.all.all fun x => match b.get? x with
    | none => true
    | some v => match f.since.lookup x with
      | some first => first ≤ v
      | none => false

end Feature

/-- Names that some browsers know only under a vendor's mark. -/
inductive Marked where
  | userSelect
  | appearance
  | placeholder
  | selection
  | backdrop
  | fileSelectorButton
  | anyLink
  | fullscreen
  | readOnly
  | placeholderShown
  | autofill
  | anyPseudo
  | sticky
  | flex
  | displayFlex
  | transform
  | transform3d
  | transition
  | animation
  | boxSizing
  | hyphens
  | tabSize
  | clipPath
  | filter
  | backdropFilter
  | boxDecorationBreak
  | textAlignLast
  | textOverflow
  | borderRadius
  | boxShadow
  | backgroundClip
  | minContent
  | fitContent
  | stretch
  | resolution
deriving DecidableEq, Repr

/-- The versions of a browser, from the first to the last if there is one, that need a vendor's mark. -/
structure MarkRange where
  browser : Browser
  vendor : Vendor
  first : Version
  last : Option Version

namespace Marked

/-- Versions that need a mark, up to a last one. -/
def span (b : Browser) (v : Vendor) (first last : Version) : MarkRange := ⟨b, v, first, some last⟩

/-- Versions that need a mark, with no end. -/
def ever (b : Browser) (v : Vendor) (first : Version) : MarkRange := ⟨b, v, first, none⟩

/-- The versions that need a mark. -/
def ranges : Marked → List MarkRange
  | userSelect => [span .android .webkit (release 2 1) (release 4 4), span .chrome .webkit (version 4) (version 53),
      ever .iosSafari .webkit (release 3 2), span .opera .webkit (version 15) (version 40),
      ever .safari .webkit (release 3 1), span .samsung .webkit (version 4) (version 5),
      span .firefox .moz (version 2) (version 68), span .edge .ms (version 12) (version 18),
      ever .ie .ms (version 10)]
  | appearance => [span .android .webkit (release 2 1) (release 4 4), span .chrome .webkit (version 4) (version 83),
      span .edge .webkit (version 79) (version 83), span .iosSafari .webkit (release 3 2) (release 15 3),
      span .opera .webkit (version 15) (version 69), span .safari .webkit (release 3 1) (release 15 3),
      span .samsung .webkit (version 4) (version 12), span .firefox .moz (version 2) (version 79),
      span .edge .ms (version 12) (version 18), ever .ie .ms (version 8)]
  | placeholder => [span .android .webkit (release 2 1) (release 4 4), span .chrome .webkit (version 4) (version 56),
      span .iosSafari .webkit (release 4 3) (release 10 2), span .opera .webkit (version 15) (version 43),
      span .safari .webkit (version 5) (version 10), span .samsung .webkit (version 4) (version 6),
      span .firefox .moz (version 4) (version 50), span .edge .ms (version 12) (version 18),
      ever .ie .ms (version 10)]
  | selection => [span .firefox .moz (version 2) (version 61)]
  | backdrop => [span .chrome .webkit (version 32) (version 36), span .edge .ms (version 12) (version 18),
      ever .ie .ms (version 11), span .opera .webkit (version 19) (version 23)]
  | fileSelectorButton => [span .chrome .webkit (version 4) (version 88), span .edge .webkit (version 79) (version 88),
      span .edge .ms (version 12) (version 18), ever .ie .ms (version 10),
      span .iosSafari .webkit (release 3 2) (version 14), span .opera .webkit (version 15) (version 74),
      span .safari .webkit (release 3 1) (version 14), span .samsung .webkit (version 4) (version 14),
      span .android .webkit (release 2 1) (release 4 4)]
  | anyLink => [span .android .webkit (release 4 4) (release 4 4), span .chrome .webkit (version 15) (version 64),
      span .iosSafari .webkit (version 7) (version 8), span .opera .webkit (version 15) (version 51),
      span .safari .webkit (release 6 1) (version 8), span .samsung .webkit (version 5) (version 8),
      span .firefox .moz (version 3) (version 49)]
  | fullscreen => [span .chrome .webkit (version 15) (version 70), span .edge .ms (version 12) (version 18),
      ever .ie .ms (version 11), span .firefox .moz (version 10) (version 63),
      span .opera .webkit (version 15) (version 57), span .safari .webkit (release 5 1) (release 16 3),
      span .samsung .webkit (version 4) (version 9)]
  | readOnly => [span .firefox .moz (version 3) (version 77)]
  | placeholderShown => [span .firefox .moz (version 4) (version 50), ever .ie .ms (version 10)]
  | autofill => [span .chrome .webkit (version 4) (version 109), span .edge .webkit (version 79) (version 109),
      span .iosSafari .webkit (version 6) (release 14 8), span .opera .webkit (version 15) (version 95),
      span .safari .webkit (version 6) (release 14 1), span .samsung .webkit (version 4) (version 20),
      span .android .webkit (release 2 1) (release 4 4)]
  | anyPseudo => [span .android .webkit (version 37) (version 87), span .chrome .webkit (version 18) (version 87),
      span .edge .webkit (version 79) (version 87), span .firefox .moz (version 4) (version 77),
      span .iosSafari .webkit (version 5) (release 13 255), span .opera .webkit (version 14) (version 73),
      span .safari .webkit (version 5) (release 13 255), span .samsung .webkit (version 1) (version 14)]
  | sticky => [span .iosSafari .webkit (version 6) (release 12 5), span .safari .webkit (release 6 1) (release 12 1)]
  | flex => [span .android .webkit (release 2 1) (release 4 3), span .chrome .webkit (version 4) (version 28),
      span .iosSafari .webkit (release 3 2) (release 8 4), span .opera .webkit (version 15) (version 16),
      span .safari .webkit (release 3 1) (version 8), span .firefox .moz (version 2) (version 21),
      span .ie .ms (version 10) (version 10)]
  | displayFlex => [span .android .webkit (release 2 1) (release 4 3), span .chrome .webkit (version 4) (version 28),
      span .iosSafari .webkit (release 3 2) (release 8 4), span .opera .webkit (version 15) (version 16),
      span .safari .webkit (release 3 1) (version 8), span .firefox .moz (version 2) (version 21),
      span .ie .ms (version 10) (version 10)]
  | transform => [span .android .webkit (release 2 1) (release 4 4), span .chrome .webkit (version 4) (version 35),
      span .iosSafari .webkit (release 3 2) (release 8 4), span .opera .o (release 10 5) (version 12),
      span .opera .webkit (version 15) (version 22), span .safari .webkit (release 3 1) (version 8),
      span .firefox .moz (release 3 5) (version 15), span .ie .ms (version 9) (version 9)]
  | transform3d => [span .android .webkit (version 3) (release 4 4), span .chrome .webkit (version 12) (version 35),
      span .iosSafari .webkit (release 3 2) (release 8 4), span .opera .webkit (version 15) (version 22),
      span .safari .webkit (version 4) (version 8), span .firefox .moz (version 10) (version 15)]
  | transition => [span .android .webkit (release 2 1) (release 4 3), span .chrome .webkit (version 4) (version 25),
      span .iosSafari .webkit (release 3 2) (release 6 1), span .opera .o (release 10 5) (version 12),
      span .safari .webkit (release 3 1) (version 6), span .firefox .moz (version 4) (version 15)]
  | animation => [span .android .webkit (release 2 1) (release 4 4), span .chrome .webkit (version 4) (version 42),
      span .iosSafari .webkit (release 3 2) (release 8 4), span .opera .o (version 12) (version 12),
      span .opera .webkit (version 15) (version 29), span .safari .webkit (version 4) (version 8),
      span .firefox .moz (version 5) (version 15)]
  | boxSizing => [span .android .webkit (release 2 1) (version 3), span .chrome .webkit (version 4) (version 9),
      span .iosSafari .webkit (release 3 2) (release 4 3), span .safari .webkit (release 3 1) (version 5),
      span .firefox .moz (version 2) (version 28)]
  | hyphens => [span .edge .ms (version 12) (version 18), ever .ie .ms (version 10),
      span .firefox .moz (version 6) (version 42), span .iosSafari .webkit (release 4 2) (release 16 255),
      span .safari .webkit (release 5 1) (release 16 255)]
  | tabSize => [span .firefox .moz (version 4) (version 90), span .opera .o (release 10 6) (release 12 1)]
  | clipPath => [span .android .webkit (release 4 4) (release 4 4), span .chrome .webkit (version 24) (version 54),
      span .iosSafari .webkit (version 7) (release 9 2), span .opera .webkit (version 15) (version 41),
      span .safari .webkit (version 7) (version 9), span .samsung .webkit (version 4) (version 5)]
  | filter => [span .android .webkit (release 4 4) (release 4 4), span .chrome .webkit (version 18) (version 52),
      span .iosSafari .webkit (version 6) (release 9 2), span .opera .webkit (version 15) (version 39),
      span .safari .webkit (version 6) (version 9), span .samsung .webkit (version 4) (version 5)]
  | backdropFilter => [span .edge .webkit (version 17) (version 18), span .iosSafari .webkit (version 9) (release 17 6),
      span .safari .webkit (version 9) (release 17 6)]
  | boxDecorationBreak => [span .chrome .webkit (version 22) (version 129), span .edge .webkit (version 79) (version 129),
      ever .iosSafari .webkit (version 7), span .opera .webkit (version 15) (version 115),
      ever .safari .webkit (release 6 1), span .samsung .webkit (version 4) (version 28),
      span .android .webkit (release 4 4) (version 129)]
  | textAlignLast => [span .firefox .moz (version 12) (version 48)]
  | textOverflow => [span .opera .o (version 9) (release 10 6)]
  | borderRadius => [span .android .webkit (release 2 1) (release 2 1), span .chrome .webkit (version 4) (version 4),
      span .iosSafari .webkit (release 3 2) (release 3 2), span .safari .webkit (release 3 1) (version 4),
      span .firefox .moz (version 2) (release 3 6)]
  | boxShadow => [span .android .webkit (release 2 1) (version 3), span .chrome .webkit (version 4) (version 9),
      span .iosSafari .webkit (release 3 2) (release 4 3), span .safari .webkit (release 3 1) (version 5),
      span .firefox .moz (release 3 5) (release 3 6)]
  | backgroundClip => [span .android .webkit (release 2 1) (version 119), span .chrome .webkit (version 4) (version 119),
      span .edge .ms (version 12) (version 14), span .edge .webkit (version 79) (version 119),
      span .iosSafari .webkit (release 3 2) (release 13 4), span .opera .webkit (version 15) (version 105),
      span .safari .webkit (version 4) (version 13), span .samsung .webkit (version 4) (version 24)]
  | minContent => [span .android .webkit (release 4 4) (release 4 4), span .chrome .webkit (version 22) (version 45),
      span .iosSafari .webkit (version 7) (release 10 3), span .opera .webkit (version 15) (version 32),
      span .safari .webkit (release 6 1) (release 10 1), span .samsung .webkit (version 4) (version 4),
      span .firefox .moz (version 3) (version 65)]
  | fitContent => [span .android .webkit (release 4 4) (release 4 4), span .chrome .webkit (version 22) (version 45),
      span .iosSafari .webkit (version 7) (release 10 3), span .opera .webkit (version 15) (version 32),
      span .safari .webkit (release 6 1) (release 10 1), span .samsung .webkit (version 4) (version 4),
      span .firefox .moz (version 3) (version 93)]
  | stretch => [ever .android .webkit (release 4 4), span .chrome .webkit (version 22) (version 137),
      span .edge .webkit (version 79) (version 137), ever .iosSafari .webkit (version 7),
      span .opera .webkit (version 15) (version 121), ever .safari .webkit (release 6 1),
      ever .samsung .webkit (version 5), ever .firefox .moz (version 3)]
  | resolution => [span .android .webkit (release 2 1) (release 4 3), span .chrome .webkit (version 4) (version 28),
      span .iosSafari .webkit (version 4) (release 15 8), span .safari .webkit (version 4) (release 15 6),
      span .firefox .moz (release 3 5) (version 15)]

/-- A browser falls into a range. -/
def MarkRange.hits (b : Browsers) (r : MarkRange) : Bool := match b.get? r.browser with
  | none => false
  | some v => r.first ≤ v && (match r.last with
    | some l => v ≤ l
    | none => true)

/-- The marks that the browsers need, the standard name always among them. -/
def vendors (m : Marked) (b : Browsers) : Vendors :=
  (m.ranges.filter (MarkRange.hits b)).foldl (fun s r => s.union (.only r.vendor)) .plain

end Marked

/-- What a stylesheet is written for: browsers, and whether vendors' marks are added for them. -/
structure Targets where
  browsers : Browsers
  marks : Bool
deriving DecidableEq, Repr

namespace Targets

/-- A feature may be used as it is. -/
def supports (t : Targets) (f : Feature) : Bool := f.supported t.browsers

/-- The marks that a name needs which was written with the given ones. -/
def vendors (t : Targets) (written : Vendors) (m : Marked) : Vendors :=
  if written.standard && t.marks then m.vendors t.browsers else written

/-- Some browser lays out boxes by the oldest draft of flexible boxes. -/
def oldFlexBoxes (t : Targets) : Bool :=
  [Marked.span .android .webkit (release 2 1) (release 4 3), Marked.span .chrome .webkit (version 4) (version 20),
    Marked.span .iosSafari .webkit (release 3 2) (release 6 1), Marked.span .safari .webkit (release 3 1) (version 6)].any
    (Marked.MarkRange.hits t.browsers)

end Targets
end StylePrune.Css
