import StylePrune.Css.Browsers

/-!
Names of properties.

A name that has a meaning is kept in lower case without its vendor's mark; any other name is kept as it
was written. A custom property starts with two hyphens.
-/
namespace StylePrune.Css.Property

/-- Properties that have a meaning without a vendor's mark. -/
def plain : List String :=
  ["all", "background-color", "background-image", "background-position-x", "background-position-y",
   "background-position", "background-size", "background-repeat", "background-attachment",
   "background-clip", "background-origin", "background", "box-shadow", "opacity", "color", "display",
   "visibility", "width", "height", "min-width", "min-height", "max-width", "max-height", "block-size",
   "inline-size", "min-block-size", "min-inline-size", "max-block-size", "max-inline-size",
   "box-sizing", "aspect-ratio", "overflow", "overflow-x", "overflow-y", "text-overflow", "position",
   "top", "bottom", "left", "right", "inset-block-start", "inset-block-end", "inset-inline-start",
   "inset-inline-end", "inset-block", "inset-inline", "inset", "border-spacing", "border-top-color",
   "border-bottom-color", "border-left-color", "border-right-color", "border-top-style",
   "border-bottom-style", "border-left-style", "border-right-style", "border-top-width",
   "border-bottom-width", "border-left-width", "border-right-width", "border-radius",
   "border-top-left-radius", "border-top-right-radius", "border-bottom-left-radius",
   "border-bottom-right-radius", "border-image", "border-color", "border-style", "border-width",
   "border", "border-top", "border-bottom", "border-left", "border-right", "border-block",
   "border-inline", "outline", "outline-color", "outline-style", "outline-width", "flex-direction",
   "flex-wrap", "flex-flow", "flex-grow", "flex-shrink", "flex-basis", "flex", "order",
   "align-content", "justify-content", "place-content", "align-self", "justify-self", "place-self",
   "align-items", "justify-items", "place-items", "row-gap", "column-gap", "gap",
   "grid-template-columns", "grid-template-rows", "grid-auto-columns", "grid-auto-rows",
   "grid-auto-flow", "grid-template-areas", "grid-template", "grid", "grid-row-start", "grid-row-end",
   "grid-column-start", "grid-column-end", "grid-row", "grid-column", "grid-area", "margin-top",
   "margin-bottom", "margin-left", "margin-right", "margin-block-start", "margin-block-end",
   "margin-inline-start", "margin-inline-end", "margin-block", "margin-inline", "margin",
   "padding-top", "padding-bottom", "padding-left", "padding-right", "padding-block-start",
   "padding-block-end", "padding-inline-start", "padding-inline-end", "padding-block",
   "padding-inline", "padding", "scroll-margin", "scroll-padding", "font-weight", "font-size",
   "font-stretch", "font-family", "font-style", "font-variant-caps", "line-height", "font",
   "vertical-align", "font-palette", "transition-property", "transition-duration",
   "transition-delay", "transition-timing-function", "transition", "animation-name",
   "animation-duration", "animation-timing-function", "animation-iteration-count",
   "animation-direction", "animation-play-state", "animation-delay", "animation-fill-mode",
   "animation-composition", "animation", "transform", "transform-origin", "transform-style",
   "transform-box", "backface-visibility", "perspective", "perspective-origin", "translate", "rotate",
   "scale", "text-transform", "white-space", "tab-size", "word-break", "line-break", "hyphens",
   "overflow-wrap", "word-wrap", "text-align", "text-align-last", "text-justify", "word-spacing",
   "letter-spacing", "text-indent", "text-decoration-line", "text-decoration-style",
   "text-decoration-color", "text-decoration-thickness", "text-decoration", "text-decoration-skip-ink",
   "text-emphasis-style", "text-emphasis-color", "text-emphasis", "text-emphasis-position",
   "text-shadow", "direction", "unicode-bidi", "box-decoration-break", "resize", "cursor",
   "caret-color", "caret-shape", "caret", "user-select", "accent-color", "appearance",
   "list-style-type", "list-style-image", "list-style-position", "list-style", "marker-side", "fill",
   "fill-rule", "fill-opacity", "stroke", "stroke-opacity", "stroke-width", "stroke-linecap",
   "stroke-linejoin", "clip-path", "clip-rule", "mask-image", "mask-mode", "mask-repeat", "mask-position",
   "mask-clip", "mask-origin", "mask-size", "mask-composite", "mask-type", "mask", "filter",
   "backdrop-filter", "z-index", "container-type", "container-name", "container",
   "view-transition-name", "color-scheme"]

/-- Properties that have a meaning under a vendor's mark. -/
def marked : List (Vendor × List String) :=
  [(.webkit, ["background-clip", "box-shadow", "box-sizing", "border-radius", "border-top-left-radius",
      "border-top-right-radius", "border-bottom-left-radius", "border-bottom-right-radius",
      "border-image", "flex-direction", "flex-wrap", "flex-flow", "flex-grow", "flex-shrink",
      "flex-basis", "flex", "order", "align-content", "justify-content", "align-self", "align-items",
      "box-orient", "box-direction", "box-ordinal-group", "box-align", "box-flex", "box-flex-group",
      "box-pack", "box-lines", "transition-property", "transition-duration", "transition-delay",
      "transition-timing-function", "transition", "animation-name", "animation-duration",
      "animation-timing-function", "animation-iteration-count", "animation-direction",
      "animation-play-state", "animation-delay", "animation-fill-mode", "animation", "transform",
      "transform-origin", "transform-style", "backface-visibility", "perspective",
      "perspective-origin", "hyphens", "text-decoration-line", "text-decoration-style",
      "text-decoration-color", "text-decoration", "text-decoration-skip-ink", "text-emphasis-style",
      "text-emphasis-color", "text-emphasis", "text-emphasis-position", "text-size-adjust",
      "box-decoration-break", "user-select", "appearance", "clip-path", "mask-image", "mask-repeat",
      "mask-position", "mask-clip", "mask-origin", "mask-size", "mask", "filter", "backdrop-filter"]),
   (.moz, ["background-clip", "box-shadow", "box-sizing", "border-radius", "border-image",
      "box-orient", "box-direction", "box-ordinal-group", "box-align", "box-flex", "box-pack",
      "transition-property", "transition-duration", "transition-delay", "transition-timing-function",
      "transition", "animation-name", "animation-duration", "animation-timing-function",
      "animation-iteration-count", "animation-direction", "animation-play-state", "animation-delay",
      "animation-fill-mode", "animation", "transform", "transform-origin", "transform-style",
      "backface-visibility", "perspective", "perspective-origin", "tab-size", "hyphens",
      "text-align-last", "text-decoration-line", "text-decoration-style", "text-decoration-color",
      "text-decoration", "text-size-adjust", "user-select", "appearance"]),
   (.ms, ["flex-direction", "flex-wrap", "flex-flow", "flex", "flex-pack", "flex-order", "flex-align",
      "flex-item-align", "flex-line-pack", "flex-positive", "flex-negative", "flex-preferred-size",
      "transition-property", "transition-duration", "transition-delay", "transition-timing-function",
      "transition", "transform", "transform-origin", "hyphens", "text-size-adjust", "user-select",
      "appearance"]),
   (.o, ["text-overflow", "border-image", "animation-name", "animation-duration",
      "animation-timing-function", "animation-iteration-count", "animation-direction",
      "animation-play-state", "animation-delay", "animation-fill-mode", "animation", "transform",
      "transform-origin", "tab-size"])]

/-- What is known of a name. -/
inductive Standing where
  /-- The property has a meaning. -/
  | known
  /-- The name starts with two hyphens. -/
  | custom
  | unknown
deriving DecidableEq, Repr

/-- The name of a property. -/
structure Name where
  vendor : Vendor
  base : Text
  standing : Standing
deriving DecidableEq, Repr

/-- A name from how it was written. -/
def Name.ofText (written : Text) : Name :=
  match Text.dropPrefix? "--".toList written with
  | some _ => ⟨.standard, written, .custom⟩
  | none =>
    let (v, base) := Vendor.split (Text.lowerAscii written)
    let known : Bool := match v with
      | .standard => plain.any (·.toList = base)
      | v => (marked.lookup v).any fun names => names.any (·.toList = base)
    if known then ⟨v, base, .known⟩ else ⟨.standard, written, .unknown⟩

/-- The name that browsers may know under a mark. -/
def mark? (base : Text) : Option Marked :=
  let table : List (Marked × List String) :=
    [(.userSelect, ["user-select"]), (.appearance, ["appearance"]),
     (.flex, ["flex-direction", "flex-wrap", "flex-flow", "flex-grow", "flex-shrink", "flex-basis",
       "flex", "order", "align-content", "justify-content", "align-self", "align-items"]),
     (.transform, ["transform", "transform-origin"]),
     (.transform3d, ["transform-style", "backface-visibility", "perspective", "perspective-origin"]),
     (.transition, ["transition-property", "transition-duration", "transition-delay",
       "transition-timing-function", "transition"]),
     (.animation, ["animation-name", "animation-duration", "animation-timing-function",
       "animation-iteration-count", "animation-direction", "animation-play-state", "animation-delay",
       "animation-fill-mode", "animation"]),
     (.boxSizing, ["box-sizing"]), (.hyphens, ["hyphens"]), (.tabSize, ["tab-size"]),
     (.clipPath, ["clip-path"]), (.filter, ["filter"]), (.backdropFilter, ["backdrop-filter"]),
     (.boxDecorationBreak, ["box-decoration-break"]), (.textAlignLast, ["text-align-last"]),
     (.textOverflow, ["text-overflow"]),
     (.borderRadius, ["border-radius", "border-top-left-radius", "border-top-right-radius",
       "border-bottom-left-radius", "border-bottom-right-radius"]),
     (.boxShadow, ["box-shadow"]), (.backgroundClip, ["background-clip"])]
  (table.find? fun e => e.2.any (·.toList = base)).map (·.1)

/-- The marks that a property needs which was written with the given ones. -/
def vendors (t : Targets) (written : Vendors) (base : Text) : Vendors :=
  match mark? base with
  | some m => t.vendors written m
  | none => written

end StylePrune.Css.Property
