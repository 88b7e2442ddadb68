import StylePrune.Markup.Builder

/-!
What each token does to the state of a page.

Each mode has one function from a token and a state to a state. A function may hand the token on: to the
rules of another mode, or back to the whole, after it changed the mode. `Builder.take` ties them; a
token is handed on a bounded number of times, for each time an element is closed or the mode comes
nearer to the body.
-/
namespace StylePrune.Markup

/-- How a rule hands a token on. -/
structure Onward where
  /-- To the rules of a mode, while the mode stays. -/
  rules : Mode → Token → Builder → Builder
  /-- To the whole, in the mode of the state. -/
  again : Token → Builder → Builder

namespace Rules

/-- Adds the root, for which there was no tag. -/
def root (b : Builder) : Builder := b.imply "html"

/-- Before anything but white space and document types. -/
def initial (on : Onward) : Token → Builder → Builder
  | .text .blank, b => b
  | t, b => on.again t (b.goTo .beforeHtml)

/-- Closing tags that the start of a page makes room for. -/
def outerNames : List Text := names "head body html br"

/-- Before the root. -/
def beforeHtml (on : Onward) : Token → Builder → Builder
  | .text .blank, b => b
  | .opening t, b =>
    if t.name == "html".toList then (root b).goTo .beforeHead
    else on.again (.opening t) ((root b).goTo .beforeHead)
  | .closing t, b =>
    if outerNames.contains t.name then on.again (.closing t) ((root b).goTo .beforeHead) else b
  | t, b => on.again t ((root b).goTo .beforeHead)

/-- Opens the head, for which there was no tag. -/
def impliedHead (b : Builder) : Builder := { (b.imply "head").goTo .inHead with headSeen := true }

/-- Before the head. -/
def beforeHead (on : Onward) : Token → Builder → Builder
  | .text .blank, b => b
  | .opening t, b =>
    if t.name == "html".toList then on.rules .inBody (.opening t) b
    else if t.name == "head".toList then { (b.insert t).goTo .inHead with headSeen := true }
    else on.again (.opening t) (impliedHead b)
  | .closing t, b =>
    if outerNames.contains t.name then on.again (.closing t) (impliedHead b) else b
  | t, b => on.again t (impliedHead b)

/-- Opens a template. -/
def openTemplate (t : Tag) (b : Builder) : Builder :=
  let b' := ((b.insert t).markFormatting.noFrameset).goTo .inTemplate
  { b' with templateModes := .inTemplate :: b'.templateModes }

/-- Closes a template if one is open. -/
def closeTemplate (b : Builder) : Builder :=
  if b.inTemplateElement then
    let b' := ((b.popImplied thoroughNames).popNamed "template".toList).clearFormatting
    { b' with templateModes := b'.templateModes.drop 1 }.resetMode
  else b

/-- In the head. -/
def inHead (on : Onward) : Token → Builder → Builder
  | .text .blank, b => b
  | .opening t, b =>
    if t.name == "html".toList then on.rules .inBody (.opening t) b
    else if headVoidNames.contains t.name then b.insertVoid t
    else if (names "title noframes style noscript script").contains t.name then b.insertRaw t
    else if t.name == "template".toList then openTemplate t b
    else if t.name == "head".toList then b
    else on.again (.opening t) (b.pop.goTo .afterHead)
  | .closing t, b =>
    if t.name == "head".toList then b.pop.goTo .afterHead
    else if (names "body html br").contains t.name then on.again (.closing t) (b.pop.goTo .afterHead)
    else if t.name == "template".toList then closeTemplate b
    else b
  | t, b => on.again t (b.pop.goTo .afterHead)

/-- Opens the body, for which there was no tag. -/
def impliedBody (b : Builder) : Builder := (b.imply "body").goTo .inBody

/-- After the head. -/
def afterHead (on : Onward) : Token → Builder → Builder
  | .text .blank, b => b
  | .opening t, b =>
    if t.name == "html".toList then on.rules .inBody (.opening t) b
    else if t.name == "body".toList then ((b.insert t).noFrameset).goTo .inBody
    else if t.name == "frameset".toList then (b.insert t).goTo .inFrameset
    else if headNames.contains t.name then
      let head := b.fresh
      (on.rules .inHead (.opening t) (b.imply "head")).removeElement head
    else if t.name == "head".toList then b
    else on.again (.opening t) (impliedBody b)
  | .closing t, b =>
    if t.name == "template".toList then on.rules .inHead (.closing t) b
    else if (names "body html br").contains t.name then on.again (.closing t) (impliedBody b)
    else b
  | t, b => on.again t (impliedBody b)

/-- The text is followed by the closing tag of its element. -/
def rawText : Token → Builder → Builder
  | .closing _, b => b.pop.goTo b.resumed
  | _, b => b

/-! ## The body -/

/-- The list item or description that an item closes. -/
def openItem? (name : Text) : List Element → Option Text
  | [] => none
  | e :: r =>
    let closable := if name == "li".toList then e.isNamed "li".toList else e.isIn (names "dd dt")
    if closable then some e.name else if e.isIn itemStopNames then none else openItem? name r

/-- An input that is not shown. -/
def isHiddenInput (t : Tag) : Bool :=
  t.name == "input".toList &&
    t.attributes.any fun a => a.1 == "type".toList && a.2.map Char.toLower == "hidden".toList

/-- Mends the nesting around a link that is open when another one starts. -/
def closeAnchor (b : Builder) : Builder :=
  let isOpen (f : Nat × Tag) : Bool := f.2.name == "a".toList
  match b.recentFormatting.find? isOpen with
  | some f => ((b.closeFormatting "a".toList).removeFormatting f.1).removeElement f.1
  | none => b

/-- The mode in which the options of a selection are read. -/
def selectMode (b : Builder) : Mode :=
  if b.mode == .inTable || b.mode == .inCaption || b.mode == .inTableBody || b.mode == .inRow ||
    b.mode == .inCell then .inSelectInTable else .inSelect

/-- An opening tag in the body. -/
def openInBody (on : Onward) (t : Tag) (b : Builder) : Builder :=
  let is (s : String) : Bool := t.name == s.toList
  if is "html" then b
  else if headNames.contains t.name then on.rules .inHead (.opening t) b
  else if is "body" then
    if b.bodyOpen && !b.inTemplateElement then b.noFrameset else b
  else if is "frameset" then
    if b.framesetOk && b.bodyOpen then
      ({ b with stack := b.stack.drop (b.stack.length - 1) }.insert t).goTo .inFrameset
    else b
  else if blockNames.contains t.name then b.closeParagraph.insert t
  else if headingNames.contains t.name then
    let b' := b.closeParagraph
    (if b'.currentIs (Element.isIn headingNames) then b'.pop else b').insert t
  else if is "pre" || is "listing" then (b.closeParagraph.insert t).noFrameset
  else if is "form" then
    if b.form.isSome && !b.inTemplateElement then b
    else
      let b' := b.closeParagraph
      if b'.inTemplateElement then b'.insert t else { b'.insert t with form := some b'.fresh }
  else if is "li" || is "dd" || is "dt" then
    let b' := b.noFrameset
    let b'' := match openItem? t.name b'.stack with
      | some n => (b'.popImpliedBut n).popNamed n
      | none => b'
    b''.closeParagraph.insert t
  else if is "plaintext" then { b.closeParagraph.insert t with raw := some [] }
  else if is "button" then
    let b' := if b.namedInScope isScope "button".toList then
        (b.popImplied impliedNames).popNamed "button".toList
      else b
    (b'.reopenFormatting.insert t).noFrameset
  else if is "a" then (closeAnchor b).reopenFormatting.insertFormatting t
  else if formattingNames.contains t.name then b.reopenFormatting.insertFormatting t
  else if is "nobr" then
    let b' := b.reopenFormatting
    (if b'.namedInScope isScope "nobr".toList then
        (b'.closeFormatting "nobr".toList).reopenFormatting
      else b').insertFormatting t
  else if containerNames.contains t.name then
    ((b.reopenFormatting.insert t).markFormatting).noFrameset
  else if is "table" then ((b.closeParagraph.insert t).noFrameset).goTo .inTable
  else if inlineVoidNames.contains t.name then
    let b' := b.reopenFormatting.insertVoid t
    if isHiddenInput t then b' else b'.noFrameset
  else if is "image" then on.rules .inBody (.opening { t with name := "img".toList }) b
  else if is "param" || is "source" || is "track" then b.insertVoid t
  else if is "hr" then (b.closeParagraph.insertVoid t).noFrameset
  else if is "textarea" || is "iframe" then b.noFrameset.insertRaw t
  else if is "xmp" then (b.closeParagraph.reopenFormatting.noFrameset).insertRaw t
  else if is "noembed" || is "noscript" then b.insertRaw t
  else if is "select" then
    let b' := (b.reopenFormatting.insert t).noFrameset
    b'.goTo (selectMode b)
  else if is "optgroup" || is "option" then
    (if b.currentNamed "option".toList then b.pop else b).reopenFormatting.insert t
  else if is "rb" || is "rtc" then
    (if b.namedInScope isScope "ruby".toList then b.popImplied impliedNames else b).insert t
  else if is "rp" || is "rt" then
    (if b.namedInScope isScope "ruby".toList then b.popImpliedBut "rtc".toList else b).insert t
  else if is "math" || is "svg" then
    let b' := b.reopenFormatting
    if t.selfClosing then b' else b'.push (if is "math" then .math else .svg) t.name
  else if tablePartNames.contains t.name then b
  else b.reopenFormatting.insert t

/-- Closes a form. -/
def closeForm (b : Builder) : Builder :=
  if b.inTemplateElement then
    if b.namedInScope isScope "form".toList then
      (b.popImplied impliedNames).popNamed "form".toList
    else b
  else
    match b.form with
    | none => b
    | some n =>
      let b' := { b with form := none }
      if b'.inScope isScope (fun e => e.number == n) then
        (b'.popImplied impliedNames).removeElement n
      else b'

/-- A closing tag in the body. -/
def closeInBody (on : Onward) (t : Tag) (b : Builder) : Builder :=
  let is (s : String) : Bool := t.name == s.toList
  if is "template" then on.rules .inHead (.closing t) b
  else if is "body" then
    if b.namedInScope isScope "body".toList then b.goTo .afterBody else b
  else if is "html" then
    if b.namedInScope isScope "body".toList then on.again (.closing t) (b.goTo .afterBody) else b
  else if blockEndNames.contains t.name then
    if b.namedInScope isScope t.name then (b.popImplied impliedNames).popNamed t.name else b
  else if is "form" then closeForm b
  else if is "p" then
    let b' := if b.namedInScope isButtonScope "p".toList then b else b.imply "p"
    (b'.popImpliedBut "p".toList).popNamed "p".toList
  else if is "li" then
    if b.namedInScope isItemScope t.name then (b.popImpliedBut t.name).popNamed t.name else b
  else if is "dd" || is "dt" then
    if b.namedInScope isScope t.name then (b.popImpliedBut t.name).popNamed t.name else b
  else if headingNames.contains t.name then
    if b.inScope isScope (Element.isIn headingNames) then
      (b.popImplied impliedNames).popThrough (Element.isIn headingNames)
    else b
  else if formattingEndNames.contains t.name then b.closeFormatting t.name
  else if containerNames.contains t.name then
    if b.namedInScope isScope t.name then
      ((b.popImplied impliedNames).popNamed t.name).clearFormatting
    else b
  else if is "br" then (b.reopenFormatting.insertVoid { t with attributes := [] }).noFrameset
  else b.closeOrdinary t.name

/-- In the body. -/
def inBody (on : Onward) : Token → Builder → Builder
  | .text .zero, b => b
  | .text .blank, b => b.reopenFormatting
  | .text .other, b => b.reopenFormatting.noFrameset
  | .opening t, b => openInBody on t b
  | .closing t, b => closeInBody on t b

/-! ## Tables -/

/-- Closes elements up to the table, its section or its row. -/
def toContext (set : List Text) (b : Builder) : Builder := b.popTo (Element.isIn set)

/-- In a table. -/
def inTable (on : Onward) : Token → Builder → Builder
  | .text k, b =>
    if k == .blank && b.currentIs (Element.isIn tableOuterNames) then b
    else on.rules .inBody (.text k) b
  | .opening t, b =>
    let is (s : String) : Bool := t.name == s.toList
    let context := toContext tableScopeNames b
    if is "caption" then (context.markFormatting.insert t).goTo .inCaption
    else if is "colgroup" then (context.insert t).goTo .inColumnGroup
    else if is "col" then on.again (.opening t) ((context.imply "colgroup").goTo .inColumnGroup)
    else if (names "tbody tfoot thead").contains t.name then (context.insert t).goTo .inTableBody
    else if (names "td th tr").contains t.name then
      on.again (.opening t) ((context.imply "tbody").goTo .inTableBody)
    else if is "table" then
      if b.namedInScope isTableScope "table".toList then
        on.again (.opening t) (b.popNamed "table".toList).resetMode
      else b
    else if (names "style script template").contains t.name then on.rules .inHead (.opening t) b
    else if is "input" && isHiddenInput t then b.insertVoid t
    else if is "form" then
      if b.inTemplateElement || b.form.isSome then b
      else { b.insertVoid t with form := some b.fresh, fresh := b.fresh + 1 }
    else on.rules .inBody (.opening t) b
  | .closing t, b =>
    if t.name == "table".toList then
      if b.namedInScope isTableScope "table".toList then (b.popNamed "table".toList).resetMode else b
    else if (names "body caption col colgroup html tbody td tfoot th thead tr").contains t.name then b
    else if t.name == "template".toList then on.rules .inHead (.closing t) b
    else on.rules .inBody (.closing t) b

/-- Closes a caption. -/
def closeCaption (b : Builder) : Builder :=
  (((b.popImplied impliedNames).popNamed "caption".toList).clearFormatting).goTo .inTable

/-- Parts of a table, whose tags close a caption or cell. -/
def partNames : List Text := names "caption col colgroup tbody td tfoot th thead tr"

/-- In a caption. -/
def inCaption (on : Onward) : Token → Builder → Builder
  | .opening t, b =>
    if partNames.contains t.name then
      if b.namedInScope isTableScope "caption".toList then on.again (.opening t) (closeCaption b) else b
    else on.rules .inBody (.opening t) b
  | .closing t, b =>
    if t.name == "caption".toList then
      if b.namedInScope isTableScope "caption".toList then closeCaption b else b
    else if t.name == "table".toList then
      if b.namedInScope isTableScope "caption".toList then on.again (.closing t) (closeCaption b) else b
    else if (names "body col colgroup html tbody td tfoot th thead tr").contains t.name then b
    else on.rules .inBody (.closing t) b
  | t, b => on.rules .inBody t b

/-- In a group of columns. -/
def inColumnGroup (on : Onward) : Token → Builder → Builder
  | .text .blank, b => b
  | tok, b =>
    let other : Builder :=
      if b.currentNamed "colgroup".toList then on.again tok (b.pop.goTo .inTable) else b
    match tok with
    | .opening t =>
      if t.name == "html".toList then on.rules .inBody tok b
      else if t.name == "col".toList then b.insertVoid t
      else if t.name == "template".toList then on.rules .inHead tok b
      else other
    | .closing t =>
      if t.name == "colgroup".toList then
        if b.currentNamed "colgroup".toList then b.pop.goTo .inTable else b
      else if t.name == "col".toList then b
      else if t.name == "template".toList then on.rules .inHead tok b
      else other
    | _ => other

/-- In a section of a table. -/
def inTableBody (on : Onward) : Token → Builder → Builder
  | .opening t, b =>
    let context := toContext bodyContextNames b
    if t.name == "tr".toList then (context.insert t).goTo .inRow
    else if (names "td th").contains t.name then
      on.again (.opening t) ((context.imply "tr").goTo .inRow)
    else if (names "caption col colgroup tbody tfoot thead").contains t.name then
      if b.inScope isTableScope (Element.isIn (names "table tbody tfoot")) then
        on.again (.opening t) (context.pop.goTo .inTable)
      else b
    else on.rules .inTable (.opening t) b
  | .closing t, b =>
    let context := toContext bodyContextNames b
    if (names "tbody tfoot thead").contains t.name then
      if b.namedInScope isTableScope t.name then context.pop.goTo .inTable else b
    else if t.name == "table".toList then
      if b.inScope isTableScope (Element.isIn (names "table tbody tfoot")) then
        on.again (.closing t) (context.pop.goTo .inTable)
      else b
    else if (names "body caption col colgroup html td th tr").contains t.name then b
    else on.rules .inTable (.closing t) b
  | t, b => on.rules .inTable t b

/-- Closes a row. -/
def closeRow (b : Builder) : Builder := ((toContext rowContextNames b).pop).goTo .inTableBody

/-- In a row. -/
def inRow (on : Onward) : Token → Builder → Builder
  | .opening t, b =>
    if (names "td th").contains t.name then
      (((toContext rowContextNames b).insert t).goTo .inCell).markFormatting
    else if (names "caption col colgroup tbody tfoot thead tr").contains t.name then
      if b.namedInScope isTableScope "tr".toList then on.again (.opening t) (closeRow b) else b
    else on.rules .inTable (.opening t) b
  | .closing t, b =>
    if t.name == "tr".toList then
      if b.namedInScope isTableScope "tr".toList then closeRow b else b
    else if t.name == "table".toList then
      if b.namedInScope isTableScope "tr".toList then on.again (.closing t) (closeRow b) else b
    else if (names "tbody tfoot thead").contains t.name then
      if b.namedInScope isTableScope t.name && b.namedInScope isTableScope "tr".toList then
        on.again (.closing t) (closeRow b)
      else b
    else if (names "body caption col colgroup html td th").contains t.name then b
    else on.rules .inTable (.closing t) b
  | t, b => on.rules .inTable t b

/-- In a cell. -/
def inCell (on : Onward) : Token → Builder → Builder
  | .opening t, b =>
    if partNames.contains t.name then
      if b.inScope isTableScope (Element.isIn (names "td th")) then
        on.again (.opening t) (b.closeCell.goTo .inRow)
      else b
    else on.rules .inBody (.opening t) b
  | .closing t, b =>
    if (names "td th").contains t.name then
      if b.namedInScope isTableScope t.name then
        (((b.popImplied impliedNames).popNamed t.name).clearFormatting).goTo .inRow
      else b
    else if (names "body caption col colgroup html").contains t.name then b
    else if (names "table tbody tfoot thead tr").contains t.name then
      if b.namedInScope isTableScope t.name then on.again (.closing t) (b.closeCell.goTo .inRow) else b
    else on.rules .inBody (.closing t) b
  | t, b => on.rules .inBody t b

/-! ## Selections -/

/-- Closes an option that is open. -/
def closeOption (b : Builder) : Builder := if b.currentNamed "option".toList then b.pop else b

/-- Closes a group of options that is open. -/
def closeGroup (b : Builder) : Builder := if b.currentNamed "optgroup".toList then b.pop else b

/-- Closes a selection. -/
def closeSelect (b : Builder) : Builder := (b.popNamed "select".toList).resetMode

/-- In a selection. -/
def inSelect (on : Onward) : Token → Builder → Builder
  | .text _, b => b
  | .opening t, b =>
    let is (s : String) : Bool := t.name == s.toList
    if is "html" then on.rules .inBody (.opening t) b
    else if is "option" then (closeOption b).insert t
    else if is "optgroup" then (closeGroup (closeOption b)).insert t
    else if is "hr" then (closeGroup (closeOption b)).insertVoid t
    else if is "select" then
      if b.namedInScope isSelectScope "select".toList then closeSelect b else b
    else if is "input" || is "keygen" || is "textarea" then
      if b.namedInScope isSelectScope "select".toList then on.again (.opening t) (closeSelect b) else b
    else if is "script" || is "template" then on.rules .inHead (.opening t) b
    else b
  | .closing t, b =>
    let is (s : String) : Bool := t.name == s.toList
    if is "optgroup" then
      let inGroup : Bool := match b.stack with
        | _ :: e :: _ => e.isNamed "optgroup".toList
        | _ => false
      closeGroup (if inGroup then closeOption b else b)
    else if is "option" then closeOption b
    else if is "select" then
      if b.namedInScope isSelectScope "select".toList then closeSelect b else b
    else if is "template" then on.rules .inHead (.closing t) b
    else b

/-- Tables and their parts, whose tags close a selection inside a table. -/
def tableNames : List Text := names "caption table tbody tfoot thead tr td th"

/-- In a selection inside a table. -/
def inSelectInTable (on : Onward) : Token → Builder → Builder
  | .opening t, b =>
    if tableNames.contains t.name then on.again (.opening t) (closeSelect b)
    else on.rules .inSelect (.opening t) b
  | .closing t, b =>
    if tableNames.contains t.name then
      if b.namedInScope isTableScope t.name then on.again (.closing t) (closeSelect b) else b
    else on.rules .inSelect (.closing t) b
  | t, b => on.rules .inSelect t b

/-! ## Templates, frame sets, and after the body -/

/-- Goes to another mode inside a template. -/
def templateMode (m : Mode) (b : Builder) : Builder :=
  { b.goTo m with templateModes := m :: b.templateModes.drop 1 }

/-- In a template. -/
def inTemplate (on : Onward) : Token → Builder → Builder
  | .opening t, b =>
    let go (m : Mode) : Builder := on.again (.opening t) (templateMode m b)
    if headNames.contains t.name then on.rules .inHead (.opening t) b
    else if (names "caption colgroup tbody tfoot thead").contains t.name then go .inTable
    else if t.name == "col".toList then go .inColumnGroup
    else if t.name == "tr".toList then go .inTableBody
    else if (names "td th").contains t.name then go .inRow
    else go .inBody
  | .closing t, b => if t.name == "template".toList then on.rules .inHead (.closing t) b else b
  | t, b => on.rules .inBody t b

/-- After the body. -/
def afterBody (on : Onward) : Token → Builder → Builder
  | .text .blank, b => on.rules .inBody (.text .blank) b
  | tok, b =>
    match tok with
    | .opening t =>
      if t.name == "html".toList then on.rules .inBody tok b else on.again tok (b.goTo .inBody)
    | .closing t =>
      if t.name == "html".toList then if b.isFragment then b else b.goTo .afterAfterBody
      else on.again tok (b.goTo .inBody)
    | _ => on.again tok (b.goTo .inBody)

/-- In a frame set. -/
def inFrameset (on : Onward) : Token → Builder → Builder
  | .text _, b => b
  | .opening t, b =>
    if t.name == "html".toList then on.rules .inBody (.opening t) b
    else if t.name == "frameset".toList then b.insert t
    else if t.name == "frame".toList then b.insertVoid t
    else if t.name == "noframes".toList then on.rules .inHead (.opening t) b
    else b
  | .closing t, b =>
    if t.name == "frameset".toList && b.stack.length != 1 then
      let b' := b.pop
      if !b'.isFragment && !b'.currentNamed "frameset".toList then b'.goTo .afterFrameset else b'
    else b

/-- After a frame set. -/
def afterFrameset (on : Onward) : Token → Builder → Builder
  | .text _, b => b
  | .opening t, b =>
    if t.name == "html".toList then on.rules .inBody (.opening t) b
    else if t.name == "noframes".toList then on.rules .inHead (.opening t) b
    else b
  | .closing t, b => if t.name == "html".toList then b.goTo .afterAfterFrameset else b

/-- After the root of a page with a body. -/
def afterAfterBody (on : Onward) : Token → Builder → Builder
  | .text .blank, b => on.rules .inBody (.text .blank) b
  | tok, b =>
    match tok with
    | .opening t =>
      if t.name == "html".toList then on.rules .inBody tok b else on.again tok (b.goTo .inBody)
    | _ => on.again tok (b.goTo .inBody)

/-- After the root of a page with a frame set. -/
def afterAfterFrameset (on : Onward) : Token → Builder → Builder
  | .text .blank, b => on.rules .inBody (.text .blank) b
  | .opening t, b =>
    if t.name == "html".toList then on.rules .inBody (.opening t) b
    else if t.name == "noframes".toList then on.rules .inHead (.opening t) b
    else b
  | _, b => b

/-! ## Other vocabularies -/

/-- The vocabulary of the innermost element asks for its own rules. -/
def isForeign (tok : Token) (b : Builder) : Bool :=
  match b.stack with
  | [] => false
  | e :: _ =>
    if e.vocabulary == .html then false
    else
      let staysIn : Bool := match tok with
        | .text _ => e.holdsMathText || e.holdsHtml
        | .opening t =>
          (e.holdsMathText && t.name != "mglyph".toList && t.name != "malignmark".toList) ||
          e.holdsHtml ||
          (e.vocabulary == .math && e.name == "annotation-xml".toList && t.name == "svg".toList)
        | .closing _ => false
      !staysIn

/-- A name as drawings write it. -/
def svgName (n : Text) : Text :=
  if n == "foreignobject".toList then "foreignObject".toList else n

/-- Closes elements of other vocabularies down to where HTML may stand. -/
def toHtml (b : Builder) : Builder :=
  b.popTo fun e => e.vocabulary == .html || e.holdsMathText || e.holdsHtml

/-- A tag that ends markup of another vocabulary. -/
def breaksOut (t : Tag) : Bool :=
  breakoutNames.contains t.name ||
    (t.name == "font".toList && t.attributes.any fun a => (names "color face size").contains a.1)

/-- The open elements after a closing tag of another vocabulary, or none if an HTML element comes first;
`first` for the innermost. -/
def closeForeign (name : Text) : Bool → List Element → Option (List Element)
  | _, [] => none
  | first, e :: r =>
    if !first && e.vocabulary == .html then none
    else if e.name.map Char.toLower == name then some r
    else closeForeign name false r

/-- In markup of another vocabulary. -/
def foreign (on : Onward) : Token → Builder → Builder
  | .text .other, b => b.noFrameset
  | .text _, b => b
  | .opening t, b =>
    if breaksOut t then
      let b' := toHtml b
      on.rules b'.mode (.opening t) b'
    else
      match b.stack with
      | [] => b
      | e :: _ =>
        let name := if e.vocabulary == .svg then svgName t.name else t.name
        let b' := b.note e.vocabulary t
        if t.selfClosing then b' else b'.push e.vocabulary name
  | .closing t, b =>
    if t.name == "br".toList || t.name == "p".toList then
      let b' := toHtml b
      on.rules b'.mode (.closing t) b'
    else if b.stack.length ≤ 1 then b
    else
      match closeForeign t.name true b.stack.dropLast with
      | some r => { b with stack := r ++ b.stack.drop (b.stack.length - 1) }
      | none =>
        if (b.stack.dropLast.drop 1).any fun e => e.vocabulary == .html then
          on.rules b.mode (.closing t) b
        else b

/-- The rules of a mode. -/
def ofMode (on : Onward) : Mode → Token → Builder → Builder
  | .initial => initial on
  | .beforeHtml => beforeHtml on
  | .beforeHead => beforeHead on
  | .inHead => inHead on
  | .afterHead => afterHead on
  | .inBody => inBody on
  | .rawText => rawText
  | .inTable => inTable on
  | .inCaption => inCaption on
  | .inColumnGroup => inColumnGroup on
  | .inTableBody => inTableBody on
  | .inRow => inRow on
  | .inCell => inCell on
  | .inSelect => inSelect on
  | .inSelectInTable => inSelectInTable on
  | .inTemplate => inTemplate on
  | .afterBody => afterBody on
  | .inFrameset => inFrameset on
  | .afterFrameset => afterFrameset on
  | .afterAfterBody => afterAfterBody on
  | .afterAfterFrameset => afterAfterFrameset on

end Rules

namespace Builder

/-- Takes a token by the rules of a mode, or of the state when none is given; it is handed on at most
`fuel` times. -/
def takeBy : Nat → Option Mode → Token → Builder → Builder
  | 0, _, _, b => b
  | fuel + 1, m, tok, b =>
    let on : Onward := ⟨fun m => takeBy fuel (some m), takeBy fuel none⟩
    match m with
    | some m => Rules.ofMode on m tok b
    | none => if Rules.isForeign tok b then Rules.foreign on tok b else Rules.ofMode on b.mode tok b

/-- How often a token may be handed on. -/
def handOns : Nat := 40

/-- Takes a token. -/
def take (tok : Token) (b : Builder) : Builder := b.takeBy handOns none tok

end Builder
end StylePrune.Markup
