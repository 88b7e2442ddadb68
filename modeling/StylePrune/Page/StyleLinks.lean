import StylePrune.Markup.Links
import StylePrune.Page.Href

/-!
Stylesheet links of a page.

The order of the links is kept, since of two rules with the same weight the later one wins. A link whose
address is not absolute is left out.
-/
namespace StylePrune.Page

/-- A stylesheet that a page links. -/
structure StyleLink where
  url : Text
  /-- The condition under which it applies. -/
  media : Option Text
deriving DecidableEq, Repr

/-- The value of an attribute. -/
def attribute? (name : Text) (l : Markup.Link) : Option Text :=
  (l.attributes.find? fun a => a.1 == name).map Prod.snd

/-- A link is to a stylesheet. Letter case counts only outside of HTML. -/
def isStyleLink (l : Markup.Link) : Bool :=
  match attribute? "rel".toList l with
  | none => false
  | some v =>
    if l.vocabulary == .html then v.map Char.toLower == "stylesheet".toList
    else v == "stylesheet".toList

/-- A condition without surrounding blanks, if anything is left of it. -/
def condition? (media : Text) : Option Text :=
  let m := Text.trim media
  if m.isEmpty then none else some m

/-- The stylesheet that a link names. -/
def StyleLink.ofLink? (l : Markup.Link) : Option StyleLink :=
  if isStyleLink l then
    ((attribute? "href".toList l).bind absoluteHref?).map fun url =>
      ⟨url, (attribute? "media".toList l).bind condition?⟩
  else none

/-- The stylesheets that a page links, in order. -/
def styleLinks (markup : Text) : List StyleLink := (Markup.pageLinks markup).filterMap StyleLink.ofLink?

/-- The stylesheets that a part of a page links, in order. -/
def partStyleLinks (markup : Text) : List StyleLink :=
  (Markup.partLinks markup).filterMap StyleLink.ofLink?

end StylePrune.Page
