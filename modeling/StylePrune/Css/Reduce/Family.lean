import StylePrune.Css.Declaration

/-!
Families of properties.

The declarations of a family are held until the end of their block, where they are settled: written in
the order of the family, joined into shorthands and under the marks that browsers need. A declaration
that may not take the place of an earlier one makes its family settle before.
-/
namespace StylePrune.Css

/-- A family of properties, in the order in which families are written. -/
inductive Family where
  | writing
  | background
  | border
  | outline
  | flex
  | grid
  | align
  | size
  | margin
  | padding
  | font
  | text
  | list
  | transition
  | animation
  | display
  | position
  | inset
  | overflow
  | transform
  | shadow
  | mask
  | container
  | scheme
deriving DecidableEq, Repr

namespace Family

/-- The members of the families in the order in which they are written. -/
def members : List (Family × List String) :=
  [(.writing, ["direction", "unicode-bidi"]),
   (.background, ["background", "background-color", "background-image", "background-position-x",
      "background-position-y", "background-position", "background-size", "background-repeat",
      "background-attachment", "background-origin", "background-clip"]),
   (.border, ["border", "border-top", "border-right", "border-bottom", "border-left", "border-block",
      "border-inline", "border-color", "border-style", "border-width", "border-top-color",
      "border-bottom-color", "border-left-color", "border-right-color", "border-top-style",
      "border-bottom-style", "border-left-style", "border-right-style", "border-top-width",
      "border-bottom-width", "border-left-width", "border-right-width", "border-image",
      "border-radius", "border-top-left-radius", "border-top-right-radius",
      "border-bottom-right-radius", "border-bottom-left-radius"]),
   (.outline, ["outline", "outline-width", "outline-style", "outline-color"]),
   (.flex, ["box-orient", "box-direction", "box-ordinal-group", "box-flex", "box-lines",
      "flex-positive", "flex-negative", "flex-preferred-size", "flex-order", "flex-flow",
      "flex-direction", "flex-wrap", "flex", "flex-grow", "flex-shrink", "flex-basis", "order"]),
   (.grid, ["grid-template-areas", "grid-template-rows", "grid-template-columns", "grid-template",
      "grid-auto-rows", "grid-auto-columns", "grid-auto-flow", "grid", "grid-area", "grid-row",
      "grid-column", "grid-row-start", "grid-row-end", "grid-column-start", "grid-column-end"]),
   (.align, ["box-align", "box-pack", "flex-pack", "flex-align", "flex-item-align", "flex-line-pack",
      "place-content", "align-content", "justify-content", "place-self", "align-self",
      "justify-self", "place-items", "align-items", "justify-items", "gap", "row-gap", "column-gap"]),
   (.size, ["width", "height", "min-width", "min-height", "max-width", "max-height", "block-size",
      "inline-size", "min-block-size", "min-inline-size", "max-block-size", "max-inline-size"]),
   (.margin, ["margin", "margin-top", "margin-bottom", "margin-left", "margin-right", "margin-block",
      "margin-block-start", "margin-block-end", "margin-inline", "margin-inline-start",
      "margin-inline-end"]),
   (.padding, ["padding", "padding-top", "padding-bottom", "padding-left", "padding-right",
      "padding-block", "padding-block-start", "padding-block-end", "padding-inline",
      "padding-inline-start", "padding-inline-end"]),
   (.font, ["font", "font-family", "font-size", "font-style", "font-variant-caps", "font-weight",
      "font-stretch", "line-height"]),
   (.text, ["text-decoration", "text-decoration-line", "text-decoration-thickness",
      "text-decoration-style", "text-decoration-color", "text-emphasis", "text-emphasis-style",
      "text-emphasis-color", "text-emphasis-position"]),
   (.list, ["list-style", "list-style-type", "list-style-image", "list-style-position"]),
   (.transition, ["transition", "transition-property", "transition-duration", "transition-delay",
      "transition-timing-function"]),
   (.animation, ["animation", "animation-name", "animation-duration", "animation-timing-function",
      "animation-iteration-count", "animation-direction", "animation-play-state", "animation-delay",
      "animation-fill-mode"]),
   (.display, ["display"]),
   (.position, ["position"]),
   (.inset, ["inset", "top", "bottom", "left", "right", "inset-block", "inset-block-start",
      "inset-block-end", "inset-inline", "inset-inline-start", "inset-inline-end"]),
   (.overflow, ["overflow", "overflow-x", "overflow-y"]),
   (.transform, ["transform", "translate", "rotate", "scale"]),
   (.shadow, ["box-shadow"]),
   (.mask, ["mask", "mask-image", "mask-position", "mask-size", "mask-repeat", "mask-clip",
      "mask-origin"]),
   (.container, ["container", "container-name", "container-type"]),
   (.scheme, ["color-scheme"])]

/-- All families in the order in which they are written. -/
def all : List Family := members.map (·.1)

/-- The family of a property. -/
def of? (base : Text) : Option Family := (members.find? fun m => m.2.any (·.toList = base)).map (·.1)

/-- The members of a family in their order. -/
def names (f : Family) : List String := (members.find? fun m => m.1 = f).elim [] (·.2)

/-- The property is one of the given ones. -/
def isOne (d : Declaration) (names : List String) : Bool := names.any (·.toList = d.name.base)

/-- The declaration of a property. -/
def held? (ds : List Declaration) (name : String) : Option Declaration :=
  ds.find? fun d => d.name.base = name.toList

/-- A declaration of another property of the family with other terms. -/
def named (d : Declaration) (name : String) (ts : List Term) : Declaration :=
  { d with name := { d.name with base := name.toList }, content := .terms ts }

/-- The properties of a family, except its shorthands that are always taken apart. -/
def isShorthand (f : Family) (d : Declaration) : Bool := f.names.head?.any (·.toList = d.name.base)

/-! ## Holding declarations -/

/-- Older properties that a property stands for as well. -/
def supersedes : List (String × List String) :=
  [("flex-direction", ["box-orient", "box-direction"]), ("flex-grow", ["box-flex", "flex-positive"]),
   ("flex-shrink", ["flex-negative"]), ("flex-basis", ["flex-preferred-size"]),
   ("order", ["box-ordinal-group", "flex-order"]), ("align-content", ["flex-line-pack"]),
   ("justify-content", ["box-pack", "flex-pack"]), ("align-self", ["flex-item-align"]),
   ("align-items", ["box-align", "flex-align"])]

/-- The declarations without those that a new one stands for: older forms, and parts of a shorthand. -/
def clear (f : Family) (d : Declaration) (held : List Declaration) : List Declaration :=
  let old := (supersedes.find? fun s => s.1.toList = d.name.base).elim [] (·.2)
  let whole : Bool := match f with
    | .border | .outline | .font | .list | .transform => f.isShorthand d
    | _ => false
  held.filter fun e => !isOne e old && (!whole || e.name.base = d.name.base)

/-- A declaration stands in the way of a new one: it gives the same property another value under marks
that do not include the new one's. -/
def conflicts (d e : Declaration) : Bool :=
  d.name.base = e.name.base && !d.sameValue e && (d.vendors.inter e.vendors).isEmpty

/-- Puts a declaration into the place of one of the same property, or behind the others. -/
def put (d : Declaration) : List Declaration → List Declaration
  | [] => [d]
  | e :: r =>
    if d.name.base = e.name.base then { d with vendors := e.vendors.union d.vendors } :: r
    else e :: put d r

/-- A declaration under the marks that browsers need. -/
def marked (t : Targets) (d : Declaration) : Declaration :=
  { d with vendors := Property.vendors t d.vendors d.name.base }

/-- The terms of a declaration. -/
def terms (d : Declaration) : List Term := match d.content with
  | .terms ts => ts
  | _ => []

/-- The declarations of some properties, where every one of them is held. -/
def heldAll? (held : List Declaration) (names : List String) : Option (List Declaration) :=
  let found := names.filterMap (held? held)
  if found.length = names.length then some found else none

/-- The declaration gives one of the words. -/
def gives (d : Declaration) (words : List String) : Bool := match d.content with
  | .terms [t] => words.any t.isWord
  | _ => false

end Family

/-- What a family comes to when it is settled: declarations for the block itself, and others for where
text runs from left to right, or from right to left. -/
structure Settled where
  here : List Declaration
  ltr : List Declaration
  rtl : List Declaration

namespace Settled

/-- Declarations for the block itself. -/
def plain (ds : List Declaration) : Settled := ⟨ds, [], []⟩

/-- One after the other. -/
def append (a b : Settled) : Settled := ⟨a.here ++ b.here, a.ltr ++ b.ltr, a.rtl ++ b.rtl⟩

/-- All one after the other. -/
def concat (l : List Settled) : Settled := l.foldl append (plain [])

end Settled
end StylePrune.Css
