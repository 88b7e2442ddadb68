import StylePrune.Css.Reduce.Family

/-!
The sides and the sizes of a box.

A box has four physical sides, and sides at the start and at the end along the block and along the line.
Where some browser does not know the latter, those along the block become the top and the bottom, and
those along the line the left and the right, in an order that depends on how text runs.
-/
namespace StylePrune.Css.Family

/-! ## Sides -/

/-- The properties of the sides of a box. -/
structure SideNames where
  whole : String
  top : String
  bottom : String
  left : String
  right : String
  block : String
  blockStart : String
  blockEnd : String
  inline : String
  inlineStart : String
  inlineEnd : String
  /-- Browsers that know the sides along the block and the line. -/
  logical : Feature
  /-- Browsers that know their shorthands. -/
  shorthand : Feature
  /-- The whole belongs with the sides along the block and the line. -/
  isLogical : Bool

/-- The sides of margins. -/
def marginNames : SideNames :=
  ⟨"margin", "margin-top", "margin-bottom", "margin-left", "margin-right", "margin-block",
    "margin-block-start", "margin-block-end", "margin-inline", "margin-inline-start", "margin-inline-end",
    .logicalMargin, .logicalMarginShorthand, false⟩

/-- The sides of paddings. -/
def paddingNames : SideNames :=
  ⟨"padding", "padding-top", "padding-bottom", "padding-left", "padding-right", "padding-block",
    "padding-block-start", "padding-block-end", "padding-inline", "padding-inline-start",
    "padding-inline-end", .logicalPadding, .logicalPaddingShorthand, false⟩

/-- The sides of positioned boxes. -/
def insetNames : SideNames :=
  ⟨"inset", "top", "bottom", "left", "right", "inset-block", "inset-block-start", "inset-block-end",
    "inset-inline", "inset-inline-start", "inset-inline-end", .logicalInset, .logicalInset, true⟩

/-- The sides of a family that has some. -/
def sideNames? : Family → Option SideNames
  | margin => some marginNames
  | padding => some paddingNames
  | inset => some insetNames
  | _ => none

namespace SideNames

/-- The physical sides in the order of their shorthand. -/
def physical (n : SideNames) : List String := [n.top, n.right, n.bottom, n.left]

/-- The sides along the block and the line. -/
def along (n : SideNames) : List String := [n.blockStart, n.blockEnd, n.inlineStart, n.inlineEnd]

/-- The sides that a property stands for. -/
def parts (n : SideNames) (base : Text) : List String :=
  if base = n.whole.toList then n.physical
  else if base = n.block.toList then [n.blockStart, n.blockEnd]
  else if base = n.inline.toList then [n.inlineStart, n.inlineEnd]
  else [String.ofList base]

end SideNames

/-- A declaration of another property with the same value. -/
def renamed (d : Declaration) (name : String) : Declaration :=
  { d with name := { d.name with base := name.toList } }

/-- Two sides along one axis as they are written. -/
def settlePair (t : Targets) (n : SideNames) (shorthand : String) (a b : Option Declaration) : List Declaration :=
  match a, b with
  | some d, some e =>
    if d.content.isRead && e.content.isRead && t.supports n.shorthand then
      [named d shorthand (terms d ++ terms e)]
    else [d, e]
  | a, b => a.toList ++ b.toList

/-- A side along the line for both directions of text. -/
def directed (d : Option Declaration) (ltr rtl : String) : Settled :=
  ⟨[], d.toList.map (renamed · ltr), d.toList.map (renamed · rtl)⟩

/-- The sides of a box as they are written. -/
def settleSides (t : Targets) (n : SideNames) (held : List Declaration) : Settled :=
  let get := held? held
  let known := t.supports n.logical
  let physical : List Declaration :=
    match (if !n.isLogical || known then heldAll? held n.physical else none) with
    | some (p :: ps) => [named p n.whole ((p :: ps).flatMap terms)]
    | _ => [n.top, n.bottom, n.left, n.right].filterMap get
  let block : List Declaration :=
    if known then settlePair t n n.block (get n.blockStart) (get n.blockEnd)
    else (get n.blockStart).toList.map (renamed · n.top) ++ (get n.blockEnd).toList.map (renamed · n.bottom)
  let start := get n.inlineStart
  let finish := get n.inlineEnd
  let line : Settled :=
    if known then .plain (settlePair t n n.inline start finish)
    else
      let apart := (directed start n.left n.right).append (directed finish n.right n.left)
      match start, finish with
      | some d, some e =>
        if d.content.isRead && d.sameValue e then .plain [renamed d n.left, renamed e n.right] else apart
      | _, _ => apart
  (Settled.plain (physical ++ block)).append line

/-! ## Sizes -/

/-- The sizes of a box, each with the physical one that stands in for it, in the order in which they are
written. -/
def sizeNames : List (String × String) :=
  [("width", "width"), ("min-width", "min-width"), ("max-width", "max-width"), ("height", "height"),
   ("min-height", "min-height"), ("max-height", "max-height"), ("block-size", "height"),
   ("min-block-size", "min-height"), ("max-block-size", "max-height"), ("inline-size", "width"),
   ("min-inline-size", "min-width"), ("max-inline-size", "max-width")]

/-- The size is one along the block or the line. -/
def isLogicalSize (d : Declaration) : Bool :=
  sizeNames.any fun n => n.1 ≠ n.2 && n.1.toList = d.name.base

/-- A size under its physical name where some browser does not know its own. -/
def knownSize (t : Targets) (d : Declaration) : Declaration :=
  if t.supports .logicalSize then d
  else match sizeNames.find? fun n => n.1.toList = d.name.base with
    | some n => renamed d n.2
    | none => d

/-- The words for sizes that depend on the contents, with what browsers know of them and their spellings
under a mark. -/
def contentSizes : List (String × Marked × Feature × List (Vendor × String)) :=
  [("min-content", .minContent, .minContentSize,
      [(.webkit, "-webkit-min-content"), (.moz, "-moz-min-content")]),
   ("max-content", .minContent, .minContentSize,
      [(.webkit, "-webkit-max-content"), (.moz, "-moz-max-content")]),
   ("fit-content", .fitContent, .fitContentSize,
      [(.webkit, "-webkit-fit-content"), (.moz, "-moz-fit-content")]),
   ("stretch", .stretch, .stretchSize,
      [(.webkit, "-webkit-fill-available"), (.moz, "-moz-available")])]

/-- Every browser knows a size. -/
def isKnownSize (t : Targets) (d : Declaration) : Bool :=
  match d.content with
  | .terms [.word w] =>
    if w = "contain".toList then false
    else match contentSizes.find? fun e => e.1.toList = w || e.2.2.2.any fun m => m.2.toList = w with
      | some e => t.supports e.2.2.1 && !e.2.2.2.any (fun m => e.1 = "stretch" && m.2.toList = w)
      | none => true
  | .terms [.call _ args] => t.supports .fitContentFunction && Term.allKnown t args
  | c => c.isKnown t

/-- A size, behind its spellings under marks that browsers need. -/
def markedSize (t : Targets) (d : Declaration) : List Declaration :=
  match contentSizes.find? fun e => gives d [e.1] with
  | some e =>
    let vs := t.vendors .plain e.2.1
    (e.2.2.2.filterMap fun m => if vs.has m.1 then some (named d (String.ofList d.name.base) [.word m.2.toList]) else none)
      ++ [d]
  | none => [d]

/-- The sizes of a box as they are written, given what has been written before. Marks are added where a
property is written first. -/
def settleSizes (t : Targets) (before held : List Declaration) : List Declaration :=
  let add (acc : List Declaration) (n : String × String) : List Declaration :=
    match held? held n.1 with
    | none => acc
    | some d =>
      let d := knownSize t d
      acc ++ if (before ++ acc).any fun e => e.name.base = d.name.base then [d] else markedSize t d
  sizeNames.foldl add []

end StylePrune.Css.Family
