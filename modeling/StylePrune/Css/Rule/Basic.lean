import StylePrune.Css.Declaration
import StylePrune.Css.FontFace
import StylePrune.Css.Media
import StylePrune.Css.Registration
import StylePrune.Css.Selector.Basic
import StylePrune.Css.Supports

/-!
The rules of a stylesheet.

A stylesheet is a list of rules. Three kinds of rules hold rules themselves: style rules, groups, which
say nothing once they are empty, and regions. All other rules are plain.
-/
namespace StylePrune.Css

/-- The name of a cascade layer, from the outermost layer inwards. -/
abbrev LayerName := List Text

/-- What a style rule says besides the rules inside it. -/
structure StyleHead where
  selectors : List Selector
  /-- The vendors that the rule is written for once each, or none if it is written once for all. -/
  vendors : Vendors
  body : Declarations

/-- What a group of rules depends on or belongs to. -/
inductive GroupHead where
  | media (queries : List Media.Query)
  | supports (condition : Supports.Condition)
  | container (name : Option Text) (condition : Option Media.Condition)
  | layer (name : Option LayerName)

/-- Where the rules of a region apply. -/
inductive RegionHead where
  /-- Inside some elements, and outside others. -/
  | scope (root limit : Option (List Selector))
  /-- When an element is first shown. -/
  | startingStyle
  /-- In one family of browsers. -/
  | mozDocument
  /-- Where selectors match that say themselves where the enclosing rule comes in. -/
  | nest (head : StyleHead)

/-- A moment of an animation. -/
inductive Moment where
  | start
  | finish
  | percent (r : Rat)
deriving DecidableEq

/-- What holds at some moments of an animation. -/
structure Frame where
  moments : List Moment
  body : Declarations

/-- The pages that a page rule is about. -/
structure PageSelector where
  name : Option Text
  classes : List Text
deriving DecidableEq

/-- A rule without rules inside it. -/
inductive PlainRule where
  /-- Declarations behind a nested rule, or in a group inside a style rule. -/
  | declarations (body : Declarations)
  /-- The order of layers. -/
  | layers (names : List LayerName)
  | keyframes (vendors : Vendors) (name : Text) (quoted : Bool) (frames : List Frame)
  | fontFace (body : List FontFace.Descriptor)
  | registration (r : Registration)
  | page (selectors : List PageSelector) (body : Declarations)
  | counterStyle (name : Text) (body : Declarations)
  | viewTransition (body : List Declaration)
  | fontFeatureValues (families : List Term)
  | importSheet (url : Text) (layer : Option (Option LayerName)) (supports : Option Supports.Condition)
      (media : List Media.Query)
  | namespaceUrl (mark : Option Text) (url : Text)
  /-- A rule without a meaning, as it was written. -/
  | unknown (name start : Text) (block : Option Text)

/-- A rule. -/
inductive Rule where
  | style (head : StyleHead) (rules : List Rule)
  | group (head : GroupHead) (rules : List Rule)
  | region (head : RegionHead) (rules : List Rule)
  | plain (rule : PlainRule)

/-- A stylesheet: comments that have to be kept, and rules. -/
structure Stylesheet where
  notices : List Text
  rules : List Rule

end StylePrune.Css
