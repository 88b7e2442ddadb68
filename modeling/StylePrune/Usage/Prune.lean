import StylePrune.Config.Safelist
import StylePrune.Css.Compile
import StylePrune.Usage.Tokens

/-!
Removing what a page does not use.

A selector is used if one of its identifiers occurs in the page or is on the safelist, or if it has no
identifier. A style rule keeps its used selectors and is removed when none is left. A group of rules is
removed when no rule in it is left; all other rules stay.
-/
namespace StylePrune

/-! ## The identifiers of a selector -/

namespace Css

mutual
/-- The identifiers of a simple selector. A tag counts as it is written and in lower case. -/
def Simple.identifiers : Simple → List Text
  | .tag n => [n, Text.lowerAscii n]
  | .id n => [n]
  | .className n => [n]
  | .not l => Selector.listIdentifiers l
  | .is l => Selector.listIdentifiers l
  | .whereAny l => Selector.listIdentifiers l
  | .has l => Selector.listIdentifiers l
  | _ => []

/-- The identifiers of a compound. -/
def Simple.allIdentifiers : List Simple → List Text
  | [] => []
  | p :: r => p.identifiers ++ Simple.allIdentifiers r

/-- The identifiers of a selector: its tags, ids and classes, also inside `:not()`, `:is()`, `:where()`
and `:has()`. -/
def Selector.identifiers : Selector → List Text
  | .compound ps => Simple.allIdentifiers ps
  | .combined l _ ps => l.identifiers ++ Simple.allIdentifiers ps

/-- The identifiers of a list of selectors. -/
def Selector.listIdentifiers : List Selector → List Text
  | [] => []
  | s :: r => s.identifiers ++ Selector.listIdentifiers r
end

end Css

/-! ## Used selectors -/

/-- What counts as used: the tokens of a page and a safelist. -/
structure Usage where
  mentioned : List Text
  safelist : Config.Safelist

namespace Usage

/-- The usage of a page under a safelist. -/
def ofMarkup (markup : Text) (safelist : Config.Safelist) : Usage := ⟨tokenList markup, safelist⟩

/-- An identifier is used. -/
def has (u : Usage) (ident : Text) : Bool := u.mentioned.contains ident || u.safelist.contains ident

/-- A selector is used. -/
def uses (u : Usage) (s : Css.Selector) : Bool := s.identifiers.isEmpty || s.identifiers.any u.has

end Usage

/-! ## Pruning -/

namespace Css

mutual
/-- A rule without what is not used, or nothing if nothing of it is left. -/
def Rule.prune? (u : Usage) : Rule → Option Rule
  | .style head rules =>
    match head.selectors.filter u.uses with
    | [] => none
    | s :: r => some (.style { head with selectors := s :: r } (Rule.prune u rules))
  | .group head rules =>
    match Rule.prune u rules with
    | [] => none
    | r :: rs => some (.group head (r :: rs))
  | .region head rules => some (.region head rules)
  | .plain r => some (.plain r)

/-- Rules without what is not used. -/
def Rule.prune (u : Usage) : List Rule → List Rule
  | [] => []
  | r :: rs =>
    match Rule.prune? u r with
    | some kept => kept :: Rule.prune u rs
    | none => Rule.prune u rs
end

mutual
/-- How many selectors pruning takes away from a rule. What is inside a style rule that goes is not
counted. -/
def Rule.removed (u : Usage) : Rule → Nat
  | .style head rules =>
    match head.selectors.filter u.uses with
    | [] => head.selectors.length
    | s :: r => head.selectors.length - (s :: r).length + Rule.removedFrom u rules
  | .group _ rules => Rule.removedFrom u rules
  | .region _ _ => 0
  | .plain _ => 0

/-- How many selectors pruning takes away from rules. -/
def Rule.removedFrom (u : Usage) : List Rule → Nat
  | [] => 0
  | r :: rs => Rule.removed u r + Rule.removedFrom u rs
end

namespace Stylesheet

/-- Reads a stylesheet, removes what is not used, and writes it for browsers. -/
def prune (t : Targets) (recovers : Bool) (u : Usage) (css : Text) : Except Text Text :=
  match parse recovers css with
  | .ok s => .ok (print ⟨false, some t⟩ { s with rules := Rule.prune u s.rules })
  | .error f => .error (parseMessage f)

end Stylesheet
end Css
end StylePrune
