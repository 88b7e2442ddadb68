import StylePrune.Css.Measure
import StylePrune.Css.Property.Transform

/-!
The grammars of properties whose values are terms.

`grammar? base` reads the value of a property into terms. Shorthands for four sides always give four
terms, `flex` gives three, and the pairs `gap`, `overflow` and `flex-flow` give two; `valueText` writes
them in their shortest form.
-/
namespace StylePrune.Css.Property

/-- One term. -/
def one (p : Reader Term) : Reader (List Term) := do return [← p]

/-- One of some words. -/
def words (ws : List String) : Reader (List Term) := one (Measure.oneOf ws)

/-- Terms for the top, right, bottom and left side. -/
def sides (p : Reader Term) : Reader (List Term) := do
  let top ← p
  match ← Reader.attempt p with
  | none => return [top, top, top, top]
  | some right => match ← Reader.attempt p with
    | none => return [top, right, top, right]
    | some bottom => match ← Reader.attempt p with
      | none => return [top, right, bottom, right]
      | some left => return [top, right, bottom, left]

/-- Two terms; one stands for both. -/
def pair (p : Reader Term) : Reader (List Term) := do
  let a ← p
  return [a, (← Reader.attempt p).getD a]

/-- A width or height. -/
def extent (word : String) : Reader (List Term) := one <| Reader.orTry
  (Measure.oneOf [word, "min-content", "max-content", "fit-content", "stretch", "contain",
    "-webkit-min-content", "-webkit-max-content", "-webkit-fit-content", "-webkit-fill-available",
    "-moz-min-content", "-moz-max-content", "-moz-fit-content", "-moz-available"])
  (Reader.orTry
    (do
      let c ← Reader.call "fit-content"
      return .call "fit-content".toList [← Reader.inside c Measure.lengthPercent])
    Measure.lengthPercent)

/-- The parts of `flex`. -/
structure FlexParts where
  grow : Option Term
  shrink : Option Term
  basis : Option Term

/-- The parts of `flex` in any order. -/
def flexParts : Nat → FlexParts → Reader FlexParts
  | 0, s => pure s
  | fuel + 1, s => do
    if s.grow.isNone then
      if let some g ← Reader.attempt Measure.numberTerm then
        let k ← Reader.attempt Measure.numberTerm
        return ← flexParts fuel { s with grow := some g, shrink := k }
    if s.basis.isNone then
      if let some b ← Reader.attempt (Measure.orAuto Measure.lengthPercent) then
        return ← flexParts fuel { s with basis := some b }
    return s

/-- The three terms of `flex`: growth, shrinkage and basis. -/
def flex : Reader (List Term) := do
  if ← Reader.takes (Reader.word "none") then
    return [.number 0, .number 0, .word "auto".toList]
  let s ← flexParts 4 ⟨none, none, none⟩
  return [s.grow.getD (.number 1), s.shrink.getD (.number 1), s.basis.getD (.percent 0)]

/-- The words for the direction of a flexible box. -/
def flexDirections : List String := ["row", "row-reverse", "column", "column-reverse"]

/-- The words for the lines of a flexible box. -/
def flexWraps : List String := ["nowrap", "wrap", "wrap-reverse"]

/-- Direction and lines in any order. -/
def flexFlow : Reader (List Term) := do
  let direction ← Reader.attempt (Measure.oneOf flexDirections)
  let wrap ← Reader.attempt (Measure.oneOf flexWraps)
  let direction ← match direction with
    | some d => pure (some d)
    | none => Reader.attempt (Measure.oneOf flexDirections)
  if direction.isNone && wrap.isNone then Reader.fail .invalidValue
  return [direction.getD (.word "row".toList), wrap.getD (.word "nowrap".toList)]

/-- The words for `display`. -/
def displays : List String :=
  ["none", "contents", "block", "inline", "inline-block", "flow-root", "flex", "inline-flex", "grid",
   "inline-grid", "table", "inline-table", "list-item", "run-in", "table-row-group",
   "table-header-group", "table-footer-group", "table-row", "table-cell", "table-column-group",
   "table-column", "table-caption", "ruby", "ruby-base", "ruby-text", "ruby-base-container",
   "ruby-text-container", "-webkit-box", "-webkit-inline-box", "-moz-box", "-moz-inline-box",
   "-webkit-flex", "-webkit-inline-flex", "-ms-flexbox", "-ms-inline-flexbox"]

/-- Two words for `display` and the one word for both. -/
def displayPairs : List (String × String × String) :=
  [("block", "flow", "block"), ("block", "flow-root", "flow-root"), ("block", "flex", "flex"),
   ("block", "grid", "grid"), ("block", "table", "table"), ("inline", "flow", "inline"),
   ("inline", "flow-root", "inline-block"), ("inline", "flex", "inline-flex"),
   ("inline", "grid", "inline-grid"), ("inline", "table", "inline-table")]

/-- A value of `display`. -/
def display : Reader (List Term) := Reader.orTry
  (do
    let a ← Reader.ident
    let b ← Reader.ident
    let low (t : Text) := Text.lowerAscii t
    match displayPairs.find? fun e =>
      (e.1.toList = low a && e.2.1.toList = low b) || (e.1.toList = low b && e.2.1.toList = low a) with
    | some e => return [.word e.2.2.toList]
    | none => Reader.fail .invalidValue)
  (words displays)

/-- The styles of a border. -/
def lineStyles : List String :=
  ["none", "hidden", "inset", "groove", "outset", "ridge", "dotted", "dashed", "solid", "double"]

/-- A width of a border. -/
def lineWidth : Reader Term := Reader.orTry Measure.length (Measure.oneOf ["thin", "medium", "thick"])

/-- The parts of a border. -/
structure Line where
  width : Option Term
  style : Option Term
  color : Option Term

/-- The parts of a border in any order. -/
def lineParts (styles : List String) : Nat → Line → Reader Line
  | 0, s => pure s
  | fuel + 1, s => do
    if s.width.isNone then
      if let some w ← Reader.attempt lineWidth then return ← lineParts styles fuel { s with width := some w }
    if s.style.isNone then
      if let some w ← Reader.attempt (Measure.oneOf styles) then
        return ← lineParts styles fuel { s with style := some w }
    if s.color.isNone then
      if let some c ← Reader.attempt Measure.color then
        return ← lineParts styles fuel { s with color := some c }
    return s

/-- A border, what is usual left out. -/
def line (styles : List String) : Reader (List Term) := do
  let s ← lineParts styles 4 ⟨none, none, none⟩
  if s.width.isNone && s.style.isNone && s.color.isNone then Reader.fail .invalidValue
  let terms := (s.width.filter fun w => !w.isWord "medium").toList
    ++ (s.style.filter fun w => !w.isWord "none").toList
    ++ (s.color.filter fun c => match c with
      | .color .current => false
      | _ => true).toList
  return if terms.isEmpty then [.word "none".toList] else terms

/-- A word about a baseline. -/
def baseline : Reader (List Term) := do
  match ← Measure.oneOf ["baseline", "first", "last"] with
  | .word w =>
    if w = "baseline".toList then return [.word w]
    Reader.word "baseline"
    return (if w = "last".toList then [.word w] else []) ++ [.word "baseline".toList]
  | _ => Reader.fail .invalidValue

/-- A position, perhaps with what happens to a box that is too large for it. -/
def positioned (ws : List String) : Reader (List Term) := do
  let overflow ← Reader.attempt (Measure.oneOf ["safe", "unsafe"])
  return overflow.toList ++ [← Measure.oneOf ws]

/-- A word of its own, a baseline or a position. -/
def alignment (free : List String) (positions : List String) : Reader (List Term) :=
  Reader.orTry (words free) (Reader.orTry baseline (positioned positions))

/-- The words that spread out what stands in a box. -/
def spreads : List String := ["space-between", "space-around", "space-evenly", "stretch"]

/-- The words for a position in a box. -/
def positions : List String := ["center", "start", "end", "flex-start", "flex-end"]

/-- The words for a position of a box by itself. -/
def ownPositions : List String := ["center", "start", "end", "self-start", "self-end", "flex-start", "flex-end"]

/-- How a native control looks. -/
def appearance : Reader Term := Reader.expect fun
  | .ident n =>
    let l := Text.lowerAscii n
    let known := ["none", "auto", "textfield", "menulist-button", "button", "checkbox", "listbox", "menulist",
      "meter", "progress-bar", "push-button", "radio", "searchfield", "slider-horizontal", "square-button",
      "textarea"]
    some (.word (if known.any (·.toList = l) then l else Written.ident n))
  | _ => none

/-- A name of a family of typefaces. -/
def family : Reader Term := Reader.orTry (do return .family (← Reader.string)) do
  let ws ← do
    let w ← Reader.ident
    let r ← Reader.many Reader.ident
    pure (w :: r)
  let generic := ["serif", "sans-serif", "cursive", "fantasy", "monospace", "system-ui", "emoji",
    "math", "fangsong", "ui-serif", "ui-sans-serif", "ui-monospace", "ui-rounded"]
  match ws with
  | [w] =>
    let l := Text.lowerAscii w
    if generic.any (·.toList = l) then return .word l
    else if isWide w then Reader.fail .invalidValue
    else return .family w
  | _ => return .family (Text.join [' '] ws)

/-- Families of typefaces. -/
def families : Reader (List Term) := do
  return (← Reader.separated family).intersperse .comma

/-- A word that is not of every property. -/
def anyWord : Reader Term := Reader.expect fun
  | .ident n =>
    let l := Text.lowerAscii n
    if isWide n then none else some (.word l)
  | _ => none

/-- What a group of properties reads. -/
def table : List (List String × Reader (List Term)) :=
  [(["all"], words ["initial", "inherit", "unset", "revert", "revert-layer"]),
   (["color", "background-color", "border-top-color", "border-bottom-color", "border-left-color",
     "border-right-color", "text-decoration-color", "fill", "stroke", "text-emphasis-color"],
    one Measure.color),
   (["caret-color", "accent-color"], one (Measure.orAuto Measure.color)),
   (["outline-color"], one (Measure.orAuto Measure.color)),
   (["border-color"], sides Measure.color),
   (["border-style"], sides (Measure.oneOf lineStyles)),
   (["border-width"], sides lineWidth),
   (["border-top-style", "border-bottom-style", "border-left-style", "border-right-style"],
    words lineStyles),
   (["border-top-width", "border-bottom-width", "border-left-width", "border-right-width",
     "outline-width"], one lineWidth),
   (["border", "border-top", "border-bottom", "border-left", "border-right", "border-block",
     "border-inline"], line lineStyles),
   (["outline"], line ("auto" :: lineStyles)),
   (["margin-top", "margin-bottom", "margin-left", "margin-right", "padding-top", "padding-bottom",
     "padding-left", "padding-right", "top", "bottom", "left", "right", "margin-block-start",
     "margin-block-end", "margin-inline-start", "margin-inline-end", "padding-block-start",
     "padding-block-end", "padding-inline-start", "padding-inline-end", "inset-block-start",
     "inset-block-end", "inset-inline-start", "inset-inline-end"],
    one (Measure.orAuto Measure.lengthPercent)),
   (["margin", "padding", "inset"], sides (Measure.orAuto Measure.lengthPercent)),
   (["margin-block", "margin-inline", "padding-block", "padding-inline", "inset-block",
     "inset-inline"], pair (Measure.orAuto Measure.lengthPercent)),
   (["width", "height", "min-width", "min-height", "block-size", "inline-size", "min-block-size",
     "min-inline-size"], extent "auto"),
   (["max-width", "max-height", "max-block-size", "max-inline-size"], extent "none"),
   (["opacity"], one Measure.fraction),
   (["order"], one Measure.integerTerm),
   (["z-index"], one (Measure.orAuto Measure.integerTerm)),
   (["flex"], flex),
   (["flex-grow", "flex-shrink", "box-flex", "flex-positive", "flex-negative"], one Measure.numberTerm),
   (["box-ordinal-group", "box-flex-group", "flex-order"], one Measure.integerTerm),
   (["flex-basis", "flex-preferred-size"], one (Measure.orAuto Measure.lengthPercent)),
   (["flex-direction"], words flexDirections),
   (["flex-wrap"], words flexWraps),
   (["flex-flow"], flexFlow),
   (["box-orient", "box-direction", "box-lines", "box-align", "box-pack", "flex-pack", "flex-align",
     "flex-item-align", "flex-line-pack"], one anyWord),
   (["display"], display),
   (["visibility"], words ["visible", "hidden", "collapse"]),
   (["position"], words ["static", "relative", "absolute", "fixed", "sticky", "-webkit-sticky"]),
   (["overflow-x", "overflow-y"], words ["visible", "hidden", "clip", "scroll", "auto"]),
   (["overflow"], pair (Measure.oneOf ["visible", "hidden", "clip", "scroll", "auto"])),
   (["box-sizing"], words ["content-box", "border-box"]),
   (["user-select"], words ["auto", "text", "none", "contain", "all"]),
   (["appearance"], one appearance),
   (["align-content"], alignment ("normal" :: spreads) positions),
   (["justify-content"], Reader.orTry (words ("normal" :: spreads))
      (positioned ("left" :: "right" :: positions))),
   (["align-self"], alignment ["auto", "normal", "stretch"] ownPositions),
   (["justify-self"], alignment ["auto", "normal", "stretch"] ("left" :: "right" :: ownPositions)),
   (["align-items"], alignment ["normal", "stretch"] ownPositions),
   (["justify-items"], alignment ["normal", "stretch"] ("left" :: "right" :: ownPositions)),
   (["row-gap", "column-gap"], one (Reader.orTry (Measure.oneOf ["normal"]) Measure.lengthPercent)),
   (["gap"], pair (Reader.orTry (Measure.oneOf ["normal"]) Measure.lengthPercent)),
   (["font-weight"], one (Reader.orTry Measure.numberTerm
      (Measure.oneOf ["normal", "bold", "bolder", "lighter"]))),
   (["font-size"], one (Reader.orTry Measure.lengthPercent (Measure.oneOf
      ["xx-small", "x-small", "small", "medium", "large", "x-large", "xx-large", "xxx-large",
       "smaller", "larger"]))),
   (["font-style"], words ["normal", "italic", "oblique"]),
   (["font-family"], families),
   (["line-height"], one (Reader.orTry (Measure.oneOf ["normal"])
      (Reader.orTry Measure.numberTerm Measure.lengthPercent))),
   (["letter-spacing", "word-spacing"], one (Reader.orTry (Measure.oneOf ["normal"]) Measure.length)),
   (["text-align"], words ["left", "right", "center", "justify", "start", "end", "match-parent",
      "justify-all"]),
   (["text-align-last"], words ["auto", "left", "right", "center", "justify", "start", "end",
      "match-parent"]),
   (["text-transform", "white-space", "word-break", "line-break", "overflow-wrap", "word-wrap",
     "text-overflow", "hyphens", "backface-visibility", "transform-style", "transform-box",
     "text-justify", "resize", "box-decoration-break"], one anyWord),
   (["direction"], words ["ltr", "rtl"]),
   (["unicode-bidi"], words ["normal", "embed", "isolate", "bidi-override", "isolate-override", "plaintext"]),
   (["tab-size"], one (Reader.orTry Measure.numberTerm Measure.length)),
   (["transform"], Transform.read)]

/-- The reader of a property's value, for a property whose values are read into terms. -/
def grammar? (base : Text) : Option (Reader (List Term)) :=
  (table.find? fun e => e.1.any (·.toList = base)).map (·.2)

/-! ## Writing -/

/-- Terms without those that follow from the ones before them. -/
def shortSides : List Term → List Term
  | [t, r, b, l] =>
    if r != l then [t, r, b, l]
    else if t != b then [t, r, b]
    else if t != r then [t, r]
    else [t]
  | [a, b] => if a == b then [a] else [a, b]
  | ts => ts

/-- A zero without a sign of what it measures, or as a percentage, or anything else. -/
inductive Basis where
  | length
  | percent
  | other
deriving DecidableEq

/-- What kind of basis a term is. -/
def Basis.of : Term → Basis
  | .quantity (.length r _) => if r = 0 then length else other
  | .quantity (.percent r) => if r = 0 then percent else other
  | _ => other

/-- The terms of `flex` that have to be written. -/
def shortFlex : List Term → List Term
  | [g, s, b] =>
    if g == .number 0 && s == .number 0 && b.isWord "auto" then [.word "none".toList]
    else
      let kind := Basis.of b
      let grows := g != .number 1
      let shrinks := s != .number 1
      (if grows || shrinks || kind ≠ .other then g :: (if shrinks || kind = .length then [s] else []) else [])
        ++ (if kind ≠ .percent then [b] else [])
  | ts => ts

/-- The terms of `flex-flow` that have to be written. -/
def shortFlow : List Term → List Term
  | [d, w] =>
    if w.isWord "nowrap" then [d] else if d.isWord "row" then [w] else [d, w]
  | ts => ts

/-- The terms of a property that have to be written. -/
def shorten (l : Layout) (base : Text) (ts : List Term) : List Term :=
  let is (names : List String) : Bool := names.any (·.toList = base)
  if is ["margin", "padding", "inset", "border-color", "border-style", "border-width", "margin-block",
      "margin-inline", "padding-block", "padding-inline", "inset-block", "inset-inline", "gap",
      "overflow"] then shortSides ts
  else if is ["flex"] then shortFlex ts
  else if is ["flex-flow"] then shortFlow ts
  else if is ["font-weight"] && l.compact then
    match ts with
    | [t] => if t.isWord "bold" then [.number 700] else if t.isWord "normal" then [.number 400] else [t]
    | _ => ts
  else ts

/-- The text of a value that follows its grammar. -/
def valueText (l : Layout) (base : Text) (ts : List Term) : Text :=
  if base = "transform".toList then Transform.text l ts else Term.listText l (shorten l base ts)

end StylePrune.Css.Property
