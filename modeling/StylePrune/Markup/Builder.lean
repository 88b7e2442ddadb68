import StylePrune.Markup.ElementSets
import StylePrune.Markup.Token

/-!
The state in which the tags of a page are read.

A `Builder` holds the elements that are open and the formatting that will be opened again, and the
links that were met. This module holds the operations on it; `Markup/Rules` says which tag does what.
-/
namespace StylePrune.Markup

/-- Which part of a page is being read. -/
inductive Mode where
  | initial
  | beforeHtml
  | beforeHead
  | inHead
  | afterHead
  | inBody
  | rawText
  | inTable
  | inCaption
  | inColumnGroup
  | inTableBody
  | inRow
  | inCell
  | inSelect
  | inSelectInTable
  | inTemplate
  | afterBody
  | inFrameset
  | afterFrameset
  | afterAfterBody
  | afterAfterFrameset
deriving DecidableEq, Repr

/-- Formatting that will be opened again, and marks that it does not cross. -/
inductive Formatting where
  | mark
  | element (number : Nat) (tag : Tag)
deriving DecidableEq, Repr

/-- A link of a page. -/
structure Link where
  vocabulary : Vocabulary
  attributes : List (Text × Text)
deriving DecidableEq, Repr

/-- The state in which tags are read. -/
structure Builder where
  mode : Mode
  /-- The mode to go back to after text that is no markup. -/
  resumed : Mode
  /-- Open elements, the innermost first. -/
  stack : List Element
  /-- Formatting, the latest first. -/
  formatting : List Formatting
  headSeen : Bool
  /-- The form that is open, by the number of its element. -/
  form : Option Nat
  framesetOk : Bool
  templateModes : List Mode
  /-- A part of a page is read, as it stands in a body. -/
  isFragment : Bool
  /-- Number of the next element. -/
  fresh : Nat
  /-- The element whose content is no markup, right after its opening tag. -/
  raw : Option Text
  /-- Links in the order of their tags. -/
  links : List Link

namespace Builder

/-- The state before a page. -/
def page : Builder :=
  { mode := .initial, resumed := .initial, stack := [], formatting := [], headSeen := false, form := none,
    framesetOk := true, templateModes := [], isFragment := false, fresh := 0, raw := none, links := [] }

/-- The state before a part of a page. -/
def part : Builder :=
  { page with
    mode := .inBody, stack := [⟨0, .html, "html".toList⟩], isFragment := true, fresh := 1 }

/-! ## Open elements -/

/-- The innermost open element satisfies a test. -/
def currentIs (p : Element → Bool) (b : Builder) : Bool := (b.stack.head?.map p).getD false

/-- The innermost open element has a name. -/
def currentNamed (name : Text) (b : Builder) : Bool := b.currentIs (Element.isNamed name)

/-- Closes the innermost element. -/
def pop (b : Builder) : Builder := { b with stack := b.stack.drop 1 }

/-- Opens an element. -/
def push (v : Vocabulary) (name : Text) (b : Builder) : Builder :=
  { b with stack := ⟨b.fresh, v, name⟩ :: b.stack, fresh := b.fresh + 1 }

/-- Notes a link. -/
def note (v : Vocabulary) (t : Tag) (b : Builder) : Builder :=
  if t.name == "link".toList then { b with links := b.links ++ [⟨v, t.attributes⟩] } else b

/-- Opens the element of a tag. -/
def insert (t : Tag) (b : Builder) : Builder := (b.note .html t).push .html t.name

/-- Adds an element without content. -/
def insertVoid (t : Tag) (b : Builder) : Builder := b.note .html t

/-- Opens an element for which there was no tag. -/
def imply (name : String) (b : Builder) : Builder := b.push .html name.toList

/-- Goes to a mode. -/
def goTo (m : Mode) (b : Builder) : Builder := { b with mode := m }

/-- No frame set may replace the body from here on. -/
def noFrameset (b : Builder) : Builder := { b with framesetOk := false }

/-- Closes elements up to the first that satisfies a test, and that one. -/
def popThrough (p : Element → Bool) (b : Builder) : Builder :=
  { b with stack := (b.stack.dropWhile fun e => !p e).drop 1 }

/-- Closes elements up to the first that satisfies a test. -/
def popTo (p : Element → Bool) (b : Builder) : Builder :=
  { b with stack := b.stack.dropWhile fun e => !p e }

/-- Closes elements up to one of this name, and that one. -/
def popNamed (name : Text) (b : Builder) : Builder := b.popThrough (Element.isNamed name)

/-- Closes elements whose closing tag may be left out. -/
def popImplied (set : List Text) (b : Builder) : Builder :=
  { b with stack := b.stack.dropWhile (Element.isIn set) }

/-- Closes elements whose closing tag may be left out, but for one name. -/
def popImpliedBut (name : Text) (b : Builder) : Builder :=
  b.popImplied (impliedNames.filter (· != name))

/-- An element that satisfies a test is open before one that bounds the scope. -/
def inScope (bound p : Element → Bool) (b : Builder) : Bool :=
  match b.stack.find? fun e => p e || bound e with
  | some e => p e
  | none => false

/-- An element of this name is open before one that bounds the scope. -/
def namedInScope (bound : Element → Bool) (name : Text) (b : Builder) : Bool :=
  b.inScope bound (Element.isNamed name)

/-- A template is open. -/
def inTemplateElement (b : Builder) : Bool := b.stack.any (Element.isNamed "template".toList)

/-- The body is open, as the element right inside the root. -/
def bodyOpen (b : Builder) : Bool :=
  match b.stack.reverse with
  | _ :: e :: _ => e.isNamed "body".toList
  | _ => false

/-- Takes an element out of the open ones. -/
def removeElement (number : Nat) (b : Builder) : Builder :=
  { b with stack := b.stack.filter fun e => e.number != number }

/-- Closes a paragraph if one is open. -/
def closeParagraph (b : Builder) : Builder :=
  if b.namedInScope isButtonScope "p".toList then (b.popImpliedBut "p".toList).popNamed "p".toList else b

/-! ## Formatting -/

/-- Sets a mark that formatting does not cross. -/
def markFormatting (b : Builder) : Builder := { b with formatting := .mark :: b.formatting }

/-- Forgets formatting back to the last mark, and the mark. -/
def clearFormatting (b : Builder) : Builder :=
  { b with formatting := (b.formatting.dropWhile (· != .mark)).drop 1 }

/-- The element of a formatting has a number. -/
def hasNumber (number : Nat) : Formatting → Bool
  | .mark => false
  | .element n _ => n == number

/-- Forgets one formatting. -/
def removeFormatting (number : Nat) (b : Builder) : Builder :=
  { b with formatting := b.formatting.filter fun f => !hasNumber number f }

/-- Formatting since the last mark, the latest first. -/
def recentFormatting (b : Builder) : List (Nat × Tag) :=
  (b.formatting.takeWhile (· != .mark)).filterMap fun
    | .mark => none
    | .element n t => some (n, t)

/-- Formatting that has to be opened again: the latest, up to one that is open or a mark. -/
def cutFormatting (b : Builder) : List Formatting :=
  b.formatting.takeWhile fun
    | .mark => false
    | .element n _ => !b.stack.any fun e => e.number == n

/-- Opens formatting again, the earliest last in the list. -/
def reopen : List Formatting → Builder → Builder
  | [], b => b
  | .mark :: r, b => reopen r b
  | .element _ t :: r, b =>
    let b' := reopen r b
    { b'.push .html t.name with formatting := .element b'.fresh t :: b'.formatting }

/-- Opens all formatting again that was cut. -/
def reopenFormatting (b : Builder) : Builder :=
  let cut := b.cutFormatting
  reopen cut { b with formatting := b.formatting.drop cut.length }

/-- Two tags have the same name and the same attributes in any order. -/
def sameTag (s t : Tag) : Bool :=
  s.name == t.name && s.attributes.all t.attributes.contains && t.attributes.all s.attributes.contains

/-- Opens an element that formats. Of four equal ones the earliest is forgotten. -/
def insertFormatting (t : Tag) (b : Builder) : Builder :=
  let equal := b.recentFormatting.filter fun f => sameTag f.2 t
  let b' := match equal.getLast? with
    | some f => if 3 ≤ equal.length then b.removeFormatting f.1 else b
    | none => b
  { b'.insert t with formatting := .element b'.fresh t :: b'.formatting }

/-! ## Mending the nesting of formatting -/

/-- The elements between a formatting and the block that cuts it, the innermost first, as they are after
mending: of the first three those that format are opened anew, the others are dropped. The number is
that of the first one opened anew. -/
def mendBetween : Nat → List Element → Builder → List Element × Option Nat × Builder
  | _, [], b => ([], none, b)
  | count, e :: r, b =>
    let entry := b.formatting.find? (hasNumber e.number)
    match entry with
    | some (.element _ t) =>
      if 3 < count then mendBetween (count + 1) r (b.removeFormatting e.number)
      else
        let renewed : Element := ⟨b.fresh, .html, t.name⟩
        let b' := { b with
          fresh := b.fresh + 1,
          formatting := b.formatting.map fun f =>
            if hasNumber e.number f then .element renewed.number t else f }
        let (es, _, b'') := mendBetween (count + 1) r b'
        (renewed :: es, some renewed.number, b'')
    | _ => mendBetween (count + 1) r b

/-- Puts a formatting right after another one, so that it is the later of the two. -/
def insertAfter (number : Nat) (f : Formatting) : List Formatting → List Formatting
  | [] => []
  | g :: r => if hasNumber number g then f :: g :: r else g :: insertAfter number f r

/-- The outcome of one round of mending. -/
inductive Mended where
  | again (b : Builder)
  | done (b : Builder)
  /-- There is nothing to mend. -/
  | plain (b : Builder)

/-- One round of mending for a closing tag. -/
def mendOnce (name : Text) (b : Builder) : Mended :=
  match b.recentFormatting.find? fun f => f.2.name == name with
  | none => .plain b
  | some (number, tag) =>
    if !b.stack.any fun e => e.number == number then .done (b.removeFormatting number)
    else if !b.inScope isScope (fun e => e.number == number) then .done b
    else
      let inner := b.stack.takeWhile fun e => e.number != number
      let outer := (b.stack.dropWhile fun e => e.number != number).drop 1
      let between := (inner.reverse.takeWhile fun e => !e.isIn specialNames).reverse
      match (inner.take (inner.length - between.length)).getLast? with
      | none => .done { b.removeFormatting number with stack := outer }
      | some block =>
        let below := inner.take (inner.length - between.length - 1)
        let (kept, first, b') := mendBetween 1 between b
        let renewed : Element := ⟨b'.fresh, .html, tag.name⟩
        let entry : Formatting := .element renewed.number tag
        let formatting := match first with
          | some n => (insertAfter n entry b'.formatting).filter fun f => !hasNumber number f
          | none => b'.formatting.map fun f => if hasNumber number f then entry else f
        .again { b' with
          fresh := b'.fresh + 1, formatting := formatting,
          stack := below ++ renewed :: block :: kept ++ outer }

/-- Closes an element that does not format: up to the first of its name, if no special element stands
before it. -/
def closeOrdinary (name : Text) (b : Builder) : Builder :=
  match b.stack.find? fun e => e.isNamed name || e.isIn specialNames with
  | some e =>
    if e.isNamed name then
      { b with stack := ((b.stack.dropWhile fun f => f.number != e.number)).drop 1 }
    else b
  | none => b

/-- Rounds of mending, at most so many. -/
def mendRounds (name : Text) : Nat → Builder → Builder
  | 0, b => b
  | n + 1, b =>
    match mendOnce name b with
    | .again b' => mendRounds name n b'
    | .done b' => b'
    | .plain b' => closeOrdinary name b'

/-- Closes an element that formats, and mends the nesting around it. -/
def closeFormatting (name : Text) (b : Builder) : Builder :=
  match b.stack with
  | e :: _ =>
    if e.isNamed name && !b.formatting.any (hasNumber e.number) then b.pop else mendRounds name 8 b
  | [] => b

/-! ## Modes -/

/-- The mode that the open elements call for. -/
def modeOf (b : Builder) : List Element → Mode
  | [] => .inBody
  | e :: r =>
    let last := r.isEmpty
    let name := if last && b.isFragment then "body".toList else e.name
    if e.vocabulary != .html then modeOf b r
    else if name == "select".toList then
      match r.find? (Element.isIn (names "template table")) with
      | some a => if a.name == "table".toList then .inSelectInTable else .inSelect
      | none => .inSelect
    else if (names "td th").contains name && !last then .inCell
    else if name == "tr".toList then .inRow
    else if (names "tbody thead tfoot").contains name then .inTableBody
    else if name == "caption".toList then .inCaption
    else if name == "colgroup".toList then .inColumnGroup
    else if name == "table".toList then .inTable
    else if name == "template".toList then (b.templateModes.head?).getD .inBody
    else if name == "head".toList && !last then .inHead
    else if name == "body".toList then .inBody
    else if name == "frameset".toList then .inFrameset
    else if name == "html".toList then if b.headSeen then .afterHead else .beforeHead
    else modeOf b r

/-- Goes to the mode that the open elements call for. -/
def resetMode (b : Builder) : Builder := b.goTo (b.modeOf b.stack)

/-- Opens an element whose content is no markup. -/
def insertRaw (t : Tag) (b : Builder) : Builder :=
  { b.insert t with resumed := b.mode, mode := .rawText, raw := some t.name }

/-- Closes a cell. -/
def closeCell (b : Builder) : Builder :=
  ((b.popImplied impliedNames).popThrough (Element.isIn (names "td th"))).clearFormatting

end Builder
end StylePrune.Markup
