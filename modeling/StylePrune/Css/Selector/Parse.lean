import StylePrune.Css.Selector.Basic
import StylePrune.Css.Selector.Position

/-!
Reading selectors.

`Selector.readList` reads a list of selectors; in a nested rule `Selector.readRelative` does, where a
selector may start with a combinator and one without `&` stands below the enclosing rule. The lists
inside `:is()`, `:where()` and their relatives leave out members that are not well formed.
-/
namespace StylePrune.Css.Selector

/-- What has been seen of a selector, and what may still come. -/
structure Sight where
  /-- An `&` has been seen. -/
  nesting : Bool
  /-- A pseudo-element, a part or a slot has been seen. -/
  element : Bool
  /-- A part or a slot has been seen. -/
  shadow : Bool
  /-- Pseudo-elements may not stand here. -/
  noElements : Bool
  /-- Combinators may not stand here. -/
  noCombinators : Bool
deriving DecidableEq, Repr

/-- Nothing has been seen and everything may come. -/
def Sight.clear : Sight := ⟨false, false, false, false, false⟩

/-- The sight inside the argument of a pseudo-class. -/
def Sight.inner (s : Sight) : Sight := { s with noElements := true }

/-- A reader of selectors keeps what it has seen. -/
abbrev Scan := StateT Sight Reader

/-- Stops with a selector fault where reading goes on. -/
def fault {α : Type} (f : SelectorFault) : Scan α := Reader.fail (.selector f)

/-- Stops with a selector fault at a place. -/
def faultAt {α : Type} (f : SelectorFault) (place : Place) : Scan α := Reader.failAt (.selector f) place

/-- The first component, left in the stream, comments skipped. -/
def peek? : Reader (Option Component) := do
  Reader.skipComments
  return (← get).items.head?

/-- Takes the first component away. -/
def drop : Reader Unit := modify fun s => { s with items := s.items.tail }

/-! ## Names -/

/-- The name behind the bar of a namespace, or nothing for `*`. -/
def afterBar (inAttribute : Bool) : Reader (Option Text) := do
  let place ← Reader.here
  let c ← Reader.nextTight
  match c.token with
  | .ident n => return some n
  | .delim '*' =>
    if inAttribute then Reader.failAt (.selector (.attributeNameExpected c.token)) place else return none
  | t =>
    if inAttribute then Reader.failAt (.selector (.attributeNameExpected t)) place
    else Reader.failAt (.selector (.namespaceNameExpected t)) place

/-- A bar follows. -/
def barFollows : Reader Bool := do
  match ← peek? with
  | some c => if c.token = .delim '|' then drop; return true else return false
  | none => return false

/-- A name with an optional namespace, if one stands here; `none` for the name means `*`. -/
def qualified? (inAttribute : Bool) : Reader (Option (Option Namespace × Option Text)) := do
  match ← peek? with
  | none => return none
  | some c => match c.token with
    | .ident n =>
      drop
      if ← barFollows then return some (some (.named n), ← afterBar inAttribute)
      else return some (none, some n)
    | .delim '*' =>
      drop
      if ← barFollows then return some (some .any, ← afterBar inAttribute)
      else if inAttribute then
        let place ← Reader.here
        let t ← Reader.nextTight
        Reader.failAt (.selector (.barExpected t.token)) place
      else return some (none, none)
    | .delim '|' => drop; return some (some .none, ← afterBar inAttribute)
    | _ => return none

/-- A tag with its namespace. -/
def tag : Scan (List Simple) := do
  match ← qualified? false with
  | none => return []
  | some (ns, name) =>
    if (← get).element then fault .invalidState
    return ns.toList.map Simple.inNamespace ++ [match name with
      | some n => .tag n
      | none => .universal]

/-- The flag at the end of an attribute selector. -/
def caseRule : Reader CaseRule := do
  if ← Reader.atEnd then return .usual
  Reader.expect fun
    | .ident w =>
      if Text.eqIgnoringAsciiCase w ['i'] then some .ignored
      else if Text.eqIgnoringAsciiCase w ['s'] then some .kept
      else none
    | _ => none

/-- The inside of an attribute selector. -/
def attributeInside : Reader Simple := do
  Reader.skipSpace
  match ← qualified? true with
  | none | some (_, none) =>
    let place ← Reader.here
    match (← get).items with
    | c :: _ => Reader.failAt (.selector (.qualifiedNameExpected c.token)) place
    | [] => Reader.fail .endOfInput
  | some (ns, some name) =>
    let ns := if ns = some .none then none else ns
    if ← Reader.atEnd then return .attr ns name none
    let place ← Reader.here
    let c ← Reader.next
    let operator ← match c.token with
      | .delim '=' => pure '='
      | .comparison o => pure o
      | t => Reader.failAt (.selector (.attributeOperatorExpected t)) place
    let place ← Reader.here
    let c ← Reader.next
    let value ← match c.token with
      | .ident v | .string v => pure v
      | t => Reader.failAt (.selector (.badAttributeValue t)) place
    return .attr ns name (some ⟨operator, value, ← caseRule⟩)

/-! ## Pseudo-classes and pseudo-elements -/

/-- Pseudo-elements that may be written with one colon. -/
def oneColon (name : Text) : Bool :=
  ["before", "after", "first-line", "first-letter"].any (·.toList = Text.lowerAscii name)

/-- Pseudo-classes about the state of an element that have a meaning. -/
def knownStates : List String :=
  ["hover", "active", "focus", "focus-visible", "focus-within", "current", "past", "future", "playing",
   "paused", "seeking", "stalled", "buffering", "muted", "volume-locked", "popover-open", "defined",
   "link", "local-link", "target", "target-within", "visited", "enabled", "disabled", "default",
   "checked", "indeterminate", "blank", "valid", "invalid", "in-range", "out-of-range", "required",
   "optional", "user-valid", "user-invalid", "active-view-transition", "fullscreen", "any-link",
   "read-only", "read-write", "placeholder-shown", "autofill"]

/-- Pseudo-classes under a vendor's mark, with the vendor and the standard name. -/
def markedStates : List (String × Vendor × String) :=
  [("-webkit-full-screen", .webkit, "fullscreen"), ("-moz-full-screen", .moz, "fullscreen"),
   ("-ms-fullscreen", .ms, "fullscreen"), ("-webkit-any-link", .webkit, "any-link"),
   ("-moz-any-link", .moz, "any-link"), ("-moz-read-only", .moz, "read-only"),
   ("-moz-read-write", .moz, "read-write"), ("-moz-placeholder-shown", .moz, "placeholder-shown"),
   ("-ms-placeholder-shown", .ms, "placeholder-shown"), ("-webkit-autofill", .webkit, "autofill"),
   ("-o-autofill", .o, "autofill")]

/-- The pseudo-class of a name. -/
def stateOf (name : Text) : PseudoClass :=
  let l := Text.lowerAscii name
  if knownStates.any (·.toList = l) then .named .plain l
  else match markedStates.find? fun e => e.1.toList = l with
    | some e => .named (.only e.2.1) e.2.2.toList
    | none => .custom name

/-- A pseudo-class that follows the user's actions, which may stand behind a pseudo-element. -/
def isUserAction : PseudoClass → Bool
  | .named _ n =>
    ["hover", "active", "focus", "focus-visible", "focus-within"].any (·.toList = n)
  | _ => false

/-- Pseudo-elements that have a meaning. -/
def knownElements : List String :=
  ["before", "after", "first-line", "first-letter", "cue", "cue-region", "selection", "placeholder",
   "marker", "backdrop", "file-selector-button", "grammar-error", "spelling-error", "target-text",
   "search-text", "view-transition", "-webkit-scrollbar", "-webkit-scrollbar-button",
   "-webkit-scrollbar-track", "-webkit-scrollbar-track-piece", "-webkit-scrollbar-thumb",
   "-webkit-scrollbar-corner", "-webkit-resizer", "picker-icon", "checkmark", "details-content"]

/-- Pseudo-elements under a vendor's mark, with the vendor and the standard name. -/
def markedElements : List (String × Vendor × String) :=
  [("-moz-selection", .moz, "selection"), ("-webkit-input-placeholder", .webkit, "placeholder"),
   ("-moz-placeholder", .moz, "placeholder"), ("-ms-input-placeholder", .ms, "placeholder"),
   ("-webkit-backdrop", .webkit, "backdrop"),
   ("-webkit-file-upload-button", .webkit, "file-selector-button"),
   ("-ms-browse", .ms, "file-selector-button")]

/-- The pseudo-element of a name. -/
def elementOf (name : Text) : PseudoElement :=
  let l := Text.lowerAscii name
  if knownElements.any (·.toList = l) then .named .plain l
  else match markedElements.find? fun e => e.1.toList = l with
    | some e => .named (.only e.2.1) e.2.2.toList
    | none => .custom name

/-- The pseudo-classes about the place of an element in the tree. -/
def structural? (name : Text) : Option Simple :=
  let l := Text.lowerAscii name
  let table : List (String × Simple) :=
    [("first-child", .nth .child 0 1), ("last-child", .nth .lastChild 0 1),
     ("only-child", .nth .onlyChild 0 1), ("first-of-type", .nth .ofType 0 1),
     ("last-of-type", .nth .lastOfType 0 1), ("only-of-type", .nth .onlyOfType 0 1), ("root", .root),
     ("empty", .empty), ("scope", .scope), ("host", .host [])]
  (table.find? fun e => e.1.toList = l).map (·.2)

/-- How a functional pseudo-class of position counts. -/
def counting? (name : Text) : Option Counting :=
  let l := Text.lowerAscii name
  let table : List (String × Counting) :=
    [("nth-child", .child), ("nth-last-child", .lastChild), ("nth-of-type", .ofType),
     ("nth-last-of-type", .lastOfType), ("nth-col", .col), ("nth-last-col", .lastCol)]
  (table.find? fun e => e.1.toList = l).map (·.2)

/-- The languages of `:lang()`. -/
def languages : Reader (List Text) := Reader.separated (Reader.expect fun
  | .ident n | .string n => some n
  | _ => none)

/-- The direction of `:dir()`. -/
def flow : Reader Flow := Reader.expect fun
  | .ident n =>
    let l := Text.lowerAscii n
    if l = "ltr".toList then some .leftToRight else if l = "rtl".toList then some .rightToLeft else none
  | _ => none

/-- All pieces that are left. -/
def pieces : Reader (List Piece) := do
  match Piece.ofComponents (← get).items with
  | .ok ps => modify ({ · with items := [] }); return ps
  | .error e => throw e

/-- The parts between commas. -/
def commaStreams (finish : Place) : List Component → List Component → List Stream
  | acc, [] => [⟨acc.reverse, finish⟩]
  | acc, c :: r =>
    if c.token = .comma then ⟨acc.reverse, c.place⟩ :: commaStreams finish [] r
    else commaStreams finish (c :: acc) r

/-- An `&`, if one stands here. -/
def ampersand : Scan Bool := do
  match ← peek? with
  | none => return false
  | some c =>
    if c.token = .delim '&' then
      drop
      modify ({ · with nesting := true })
      return true
    else return false

/-! ## Selectors -/

/-- What the members of a list of selectors have to do with the enclosing rule. -/
inductive Bond where
  | free
  /-- A member without `&` stands below the enclosing rule. -/
  | below
  /-- Each member holds an `&`. -/
  | required
deriving DecidableEq, Repr

/-- How a list of selectors is read. -/
structure Rules where
  /-- Members that are not well formed are left out. -/
  forgiving : Bool
  /-- Members may start with a combinator. -/
  relative : Bool
  bond : Bond
deriving DecidableEq, Repr

/-- The combinator that stands next, white space around it removed; none at the end of the compound. -/
def combinator? : Reader (Option Combinator) := do
  let s ← get
  let rest := s.skipSpace
  let spaced := (s.items.takeWhile (·.token.isSpace)).any fun c => match c.token with
    | .blank _ => true
    | _ => false
  match rest.items with
  | [] => return none
  | c :: r =>
    let found (k : Combinator) : Reader (Option Combinator) := do
      set { rest with items := r }
      return some k
    match c.token with
    | .delim '>' => found .child
    | .delim '+' => found .nextSibling
    | .delim '~' => found .laterSibling
    | _ => if spaced then set rest; return some .descendant else return none

mutual
/-- A list of selectors, with whether one of them holds an `&`. -/
def readParts : Nat → Rules → Sight → Reader (List Selector × Bool)
  | 0, _, _ => Reader.fail .nestedTooDeep
  | fuel + 1, rules, sight => do
    let s ← get
    let mut found : List Selector := []
    let mut nesting := false
    for part in commaStreams s.finish [] s.items do
      let one : Scan Selector := if rules.relative then readLeading fuel rules else readOne fuel rules
      match Reader.whole (one.run sight) part with
      | .ok (sel, seen) =>
        found := found ++ [sel]
        nesting := nesting || seen.nesting
      | .error e => if !rules.forgiving then throw e
    set ({ s with items := [] } : Stream)
    return (found, nesting)

/-- A selector that may start with a combinator. -/
def readLeading : Nat → Rules → Scan Selector
  | 0, _ => Reader.fail .nestedTooDeep
  | fuel + 1, rules => do
    if ← Reader.atEnd then Reader.skipSpace; Reader.fail .endOfInput
    let s : Stream ← getThe Stream
    let lead := match s.skipSpace.items with
      | c :: _ => match c.token with
        | .delim '>' => some Combinator.child
        | .delim '+' => some .nextSibling
        | .delim '~' => some .laterSibling
        | _ => none
      | [] => none
    match lead with
    | none => readOne fuel rules
    | some k =>
      let _ ← Reader.next
      let sel ← readOne fuel { rules with bond := .free }
      return sel.under [if rules.bond = .below then .nesting else .scope] k

/-- A selector. -/
def readOne : Nat → Rules → Scan Selector
  | 0, _ => Reader.fail .nestedTooDeep
  | fuel + 1, rules => do
    let first ← readCompound fuel
    if first.isEmpty then fault .empty
    let sel ← readRest fuel (.compound first)
    if (← get).nesting then return sel
    match rules.bond with
    | .free => return sel
    | .below => return sel.under [.nesting] .descendant
    | .required => fault .ampersandMissing

/-- The compounds behind the first one. -/
def readRest : Nat → Selector → Scan Selector
  | 0, left => pure left
  | fuel + 1, left => do
    if (← get).element then return left
    match ← combinator? with
    | none => return left
    | some k =>
      if (← get).noCombinators then fault .invalidState
      let parts ← readCompound fuel
      if parts.isEmpty then fault .danglingCombinator
      readRest fuel (.combined left k parts)

/-- A compound, empty if none stands here. -/
def readCompound : Nat → Scan (List Simple)
  | 0 => Reader.fail .nestedTooDeep
  | fuel + 1 => do
    Reader.skipSpace
    let amp ← ampersand
    let name ← tag
    return (if amp then [.nesting] else []) ++ name ++ (← readSimples fuel)

/-- The simple selectors of a compound behind its tag. -/
def readSimples : Nat → Scan (List Simple)
  | 0 => Reader.fail .nestedTooDeep
  | fuel + 1 => do
    match ← readSimple fuel with
    | none => return []
    | some p => return p :: (← readSimples fuel)

/-- A simple selector, if one stands here. -/
def readSimple : Nat → Scan (Option Simple)
  | 0 => Reader.fail .nestedTooDeep
  | fuel + 1 => do
    let place ← Reader.here
    match ← peek? with
    | none => return none
    | some c =>
      let guardElement : Scan Unit := do
        if (← get).element then faultAt (.afterPseudoElement c.token) place
      match c.token with
      | .idHash n => drop; guardElement; return some (.id n)
      | .delim '.' =>
        drop
        guardElement
        let place ← Reader.here
        let d ← Reader.nextTight
        match d.token with
        | .ident n => return some (.className n)
        | t => faultAt (.classNeedsIdent t) place
      | .opening .square => drop; guardElement; return some (← Reader.inside c attributeInside)
      | .delim '&' => drop; modify ({ · with nesting := true }); return some .nesting
      | .colon => drop; return some (← readPseudo fuel)
      | _ => return none

/-- A pseudo-class or pseudo-element behind its first colon. -/
def readPseudo : Nat → Scan Simple
  | 0 => Reader.fail .nestedTooDeep
  | fuel + 1 => do
    let c ← Reader.nextTight
    let double := c.token = .colon
    let c ← if double then Reader.nextTight else pure c
    match c.token with
    | .ident name =>
      if double || oneColon name then
        if (← get).noElements then fault .invalidState
        if (← get).element && !(← get).shadow then fault .invalidState
        let e := elementOf name
        match e with
        | .named _ _ => modify ({ · with element := true, shadow := false })
        | _ => pure ()
        return .pseudoElement e
      else
        let sight ← get
        if !sight.element then
          if let some p := structural? name then return p
        let p := stateOf name
        if sight.element && !isUserAction p then fault .pseudoClassAfterPseudoElement
        return .pseudoClass p
    | .function name =>
      if double || oneColon name then readElementCall fuel name c
      else readClassCall fuel name c
    | t => fault (.pseudoNameExpected t)

/-- A pseudo-element with arguments. -/
def readElementCall : Nat → Text → Component → Scan Simple
  | 0, _, _ => Reader.fail .nestedTooDeep
  | fuel + 1, name, c => do
    let sight ← get
    if sight.noElements then fault .invalidState
    if sight.element then fault .invalidState
    if Text.eqIgnoringAsciiCase name "part".toList then
      let names ← Reader.inside c (do return (← Reader.ident) :: (← Reader.many Reader.ident))
      modify ({ · with element := true, shadow := true })
      return .part names
    else if Text.eqIgnoringAsciiCase name "slotted".toList then
      let inner := { sight with noElements := true, noCombinators := true }
      let (s, _) ← Reader.inside c ((readOne fuel ⟨false, false, .free⟩).run inner)
      modify ({ · with element := true, shadow := true })
      return .slotted s
    else return .pseudoElement (.customCall name (← Reader.inside c pieces))

/-- A pseudo-class with arguments. -/
def readClassCall : Nat → Text → Component → Scan Simple
  | 0, _, _ => Reader.fail .nestedTooDeep
  | fuel + 1, name, c => do
    let sight ← get
    let l := Text.lowerAscii name
    let list (rules : Rules) : Scan (List Selector) := do
      let (ls, nesting) ← Reader.inside c (readParts fuel rules { sight.inner with nesting := false })
      if nesting then modify ({ · with nesting := true })
      return ls
    let forgiving : Rules := ⟨true, false, .free⟩
    match counting? name with
    | some k =>
      if sight.element then fault .invalidState
      Reader.inside c do
        let (a, b) ← Position.read
        let among := k = .child || k = .lastChild
        if among then
          if ← Reader.takes (Reader.word "of") then
            let (ls, _) ← readParts fuel forgiving sight.inner
            return .nthOf k a b ls
        return .nth k a b
    | none =>
      if l = "is".toList then return .is (← list forgiving)
      else if l = "where".toList then return .whereAny (← list forgiving)
      else if l = "not".toList then return .not (← list { forgiving with forgiving := false })
      else if l = "has".toList then return .has (← list ⟨true, true, .free⟩)
      else if l = "-webkit-any".toList then return .any .webkit (← list forgiving)
      else if l = "-moz-any".toList then return .any .moz (← list forgiving)
      else if sight.element then fault .invalidState
      else if l = "host".toList then
        let inner := { sight with noElements := true, noCombinators := true }
        let (s, _) ← Reader.inside c ((readOne fuel ⟨false, false, .free⟩).run inner)
        return .host [s]
      else if l = "lang".toList then return .pseudoClass (.lang (← Reader.inside c languages))
      else if l = "dir".toList then return .pseudoClass (.dir (← Reader.inside c flow))
      else return .pseudoClass (.customCall name (← Reader.inside c pieces))
end

/-- Enough fuel for what is left to read. -/
def fuel : Reader Nat := do return 12 * (← get).size + 24

/-- A list of selectors. -/
def readList : Reader (List Selector) := do
  return (← readParts (← fuel) ⟨false, false, .free⟩ .clear).1

/-- A list of selectors in a nested rule. -/
def readRelative : Reader (List Selector) := do
  return (← readParts (← fuel) ⟨false, true, .below⟩ .clear).1

/-- A list of selectors that each hold an `&`. -/
def readAround : Reader (List Selector) := do
  return (← readParts (← fuel) ⟨false, false, .required⟩ .clear).1

/-- A list of selectors that may start with a combinator. -/
def readScope : Reader (List Selector) := do
  return (← readParts (← fuel) ⟨false, true, .free⟩ .clear).1

end StylePrune.Css.Selector
