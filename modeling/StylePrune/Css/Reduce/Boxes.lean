import StylePrune.Css.Reduce.Family

/-!
Flexible boxes and what stands in them.

Browsers know three drafts of flexible boxes: that of 2009, whose properties start with `box-`, that of
2012, which the mark `-ms-` stands for, and the last one. A property of the last draft is written after
its forms in the older ones.
-/
namespace StylePrune.Css.Family

/-- The marks of the oldest draft of flexible boxes that browsers need. -/
def oldMarks (t : Targets) (needed : Vendors) : Vendors :=
  { Vendors.empty with webkit := t.oldFlexBoxes, moz := needed.moz }

/-- A declaration of an older property under the given marks, if there are any. -/
def older (d : Declaration) (name : String) (vs : Vendors) (ts : List Term) : List Declaration :=
  if vs.isEmpty then [] else [{ named d name ts with vendors := vs }]

/-- The word of a declaration in older drafts. -/
def olderWord (d : Declaration) (table : List (String × String)) : Option (List Term) :=
  match d.content with
  | .terms [.word w] => (table.find? fun e => e.1.toList = w).map fun e => [.word e.2.toList]
  | _ => none

/-- A property of flexible boxes under its marks, with its forms in the draft of 2009, which the oldest
browsers need, and of 2012, which the mark `-ms-` needs; whether the property itself is written under
that mark as well. -/
def flexible (t : Targets) (d : Declaration) (draft2009 draft2012 : Option (String × List Term))
    (keepsMs : Bool) : List Declaration :=
  if d.vendors.isEmpty then []
  else
    let m := marked t d
    let first := if m.vendors.standard then
        draft2009.elim [] fun f => older d f.1 (oldMarks t m.vendors) f.2
      else []
    let second := if m.vendors.ms then draft2012.elim [] fun f => older d f.1 (.only .ms) f.2 else []
    let rest := { m.vendors with moz := false, ms := m.vendors.ms && keepsMs }
    first ++ second ++ (if rest.isEmpty then [] else [{ m with vendors := rest }])

/-- Joins the parts of a shorthand under the marks that they share; what is left of the parts. -/
def join (t : Targets) (name : String) (parts : List Declaration) : List Declaration × List Declaration :=
  match parts with
  | [] => ([], [])
  | p :: ps =>
    let shared := ps.foldl (fun v q => v.inter q.vendors) p.vendors
    if shared.isEmpty then ([], parts)
    else
      let m := marked t { named p name (parts.flatMap terms) with vendors := shared }
      let left := parts.map fun q => { q with vendors := q.vendors.without shared }
      ([{ m with vendors := { m.vendors with moz := false } }], left)

/-- The direction of flexible boxes in the draft of 2009: the axis and whether it is reversed. -/
def oldDirection (d : Declaration) : Option (String × String) :=
  if gives d ["row"] then some ("horizontal", "normal")
  else if gives d ["row-reverse"] then some ("horizontal", "reverse")
  else if gives d ["column"] then some ("vertical", "normal")
  else if gives d ["column-reverse"] then some ("vertical", "reverse")
  else none

/-! ## Boxes -/

/-- The shorthands of flexible boxes with their parts. -/
def flexShorthands : List (String × List String) :=
  [("flex", ["flex-grow", "flex-shrink", "flex-basis"]), ("flex-flow", ["flex-direction", "flex-wrap"]),
   ("gap", ["row-gap", "column-gap"]), ("overflow", ["overflow-x", "overflow-y"])]

/-- A declaration as declarations of its parts. -/
def flexParts (d : Declaration) : List Declaration :=
  match flexShorthands.find? (fun s => s.1.toList = d.name.base), d.content with
  | some (_, names), .terms ts =>
    if names.length = ts.length then List.zipWith (fun n t => named d n [t]) names ts else [d]
  | _, _ => [d]

/-- Joins some properties into a shorthand, where every one of them is held; what is left of them. -/
def joinHeld (t : Targets) (held : List Declaration) (name : String) (names : List String) :
    List Declaration × List Declaration :=
  match heldAll? held names with
  | some ps => join t name ps
  | none => ([], names.filterMap (held? held))

/-- Flexible boxes. -/
def settleFlex (t : Targets) (held : List Declaration) : List Declaration :=
  let old := ["box-orient", "box-direction", "box-ordinal-group", "box-flex", "box-lines",
    "flex-positive", "flex-negative", "flex-preferred-size", "flex-order"].filterMap (held? held)
  let wanted (base : String) : Vendors := oldMarks t (Property.vendors t .plain base.toList)
  let direction := match held? held "flex-direction" with
    | some d => match oldDirection d with
      | some (axis, order) =>
        older d "box-orient" (wanted "flex-direction") [.word axis.toList]
          ++ older d "box-direction" (wanted "flex-direction") [.word order.toList]
      | none => []
    | none => []
  let (flow, flowParts) := joinHeld t held "flex-flow" ["flex-direction", "flex-wrap"]
  let flowRest := flowParts.flatMap fun d =>
    flexible t d (if isOne d ["flex-wrap"] then
      (olderWord d [("nowrap", "single"), ("wrap", "multiple")]).map fun ts => ("box-lines", ts) else none) none true
  let growth := match held? held "flex-grow" with
    | some d => older d "box-flex" (wanted "flex-grow") (terms d)
    | none => []
  let (whole, wholeParts) := joinHeld t held "flex" ["flex-grow", "flex-shrink", "flex-basis"]
  let names := [("flex-grow", "flex-positive"), ("flex-shrink", "flex-negative"),
    ("flex-basis", "flex-preferred-size")]
  let wholeRest := wholeParts.flatMap fun d =>
    flexible t d none ((names.find? fun n => n.1.toList = d.name.base).map fun n => (n.2, terms d)) false
  let order := match held? held "order" with
    | some d => flexible t d (some ("box-ordinal-group", terms d)) (some ("flex-order", terms d)) false
    | none => []
  old ++ direction ++ flow ++ flowRest ++ growth ++ whole ++ wholeRest ++ order

/-- The older forms of an alignment in the drafts of 2009 and 2012: the property and its words. -/
def oldAlignment (base : Text) :
    Option (String × List (String × String)) × Option (String × List (String × String)) :=
  let ends := [("flex-start", "start"), ("start", "start"), ("flex-end", "end"), ("end", "end"),
    ("center", "center")]
  let spread := ends ++ [("space-between", "justify")]
  let wide := spread ++ [("space-around", "distribute")]
  let items := ends ++ [("baseline", "baseline"), ("stretch", "stretch")]
  match String.ofList base with
  | "align-content" => (none, some ("flex-line-pack", wide ++ [("stretch", "stretch")]))
  | "justify-content" => (some ("box-pack", spread), some ("flex-pack", wide))
  | "align-items" => (some ("box-align", items), some ("flex-align", items))
  | "align-self" => (none, some ("flex-item-align", items ++ [("auto", "auto")]))
  | _ => (none, none)

/-- An alignment under its marks and in its older forms. -/
def settleAlignment (t : Targets) (d : Declaration) : List Declaration :=
  let (a, b) := oldAlignment d.name.base
  let form (f : Option (String × List (String × String))) : Option (String × List Term) :=
    f.bind fun f => (olderWord d f.2).map fun ts => (f.1, ts)
  if a.isNone && b.isNone then [marked t d] else flexible t d (form a) (form b) false

/-- What stands in boxes, and the gaps between them. -/
def settleAlign (t : Targets) (held : List Declaration) : List Declaration :=
  let gap : List Declaration := match held? held "row-gap", held? held "column-gap" with
    | some r, some c => [named r "gap" (terms r ++ terms c)]
    | some d, none | none, some d => [d]
    | none, none => []
  (Family.align.names.flatMap fun n =>
    if n = "row-gap" || n = "column-gap" then [] else (held? held n).toList.flatMap (settleAlignment t)) ++ gap

/-- What happens to contents that are too large. -/
def settleOverflow (t : Targets) (held : List Declaration) : List Declaration :=
  match held? held "overflow-x", held? held "overflow-y" with
  | some x, some y =>
    if x.sameValue y || t.supports .overflowShorthand then [named x "overflow" (terms x ++ terms y)] else [x, y]
  | x, y => x.toList ++ y.toList

/-! ## Display and position -/

/-- The words for flexible boxes, in a block or in a line, the standard one first. -/
def flexWords : List (List String) :=
  [["flex", "-webkit-flex", "-ms-flexbox", "-webkit-box", "-moz-box"],
   ["inline-flex", "-webkit-inline-flex", "-ms-inline-flexbox", "-webkit-inline-box", "-moz-inline-box"]]

/-- Holds a value of `display`. Values for older browsers stand before the standard one. -/
def addDisplay (held : List Declaration) (d : Declaration) : List Declaration :=
  match held.getLast? with
  | none => [d]
  | some e =>
    let related := flexWords.any fun ws => gives d ws && gives e ws
    if related && !d.sameValue e then
      if gives d ["flex", "inline-flex"] then [d]
      else if gives e ["flex", "inline-flex"] then held.dropLast ++ [d]
      else held ++ [d]
    else held.dropLast ++ [d]

/-- `display` with the words for older browsers before the standard one. -/
def settleDisplay (t : Targets) (held : List Declaration) : List Declaration :=
  match held.getLast? with
  | none => []
  | some d =>
    match flexWords.find? fun ws => gives d (ws.take 1) with
    | none => held
    | some ws =>
      let vs := t.vendors .plain .displayFlex
      let word (use : Bool) (i : Nat) : List Declaration :=
        if use then (ws[i]?).toList.map fun w => named d "display" [.word w.toList] else []
      held.dropLast ++ word (vs.webkit && t.oldFlexBoxes) 3 ++ word vs.moz 4 ++ word vs.webkit 1
        ++ word vs.ms 2 ++ [d]

/-- The two spellings of a position that sticks. -/
def stickyWords : List String := ["sticky", "-webkit-sticky"]

/-- Holds a value of `position`. The two spellings of `sticky` stand together. -/
def addPosition (held : List Declaration) (d : Declaration) : List Declaration :=
  if gives d stickyWords then held.filter (fun e => gives e stickyWords) ++ [d] else [d]

/-- `position`. The word `sticky` is written under the marks that browsers need. -/
def settlePosition (t : Targets) (held : List Declaration) : List Declaration :=
  let stuck := held.filter fun d => gives d stickyWords
  match stuck with
  | [] => held
  | d :: _ =>
    let written := { Vendors.empty with
      webkit := held.any fun d => gives d ["-webkit-sticky"]
      standard := held.any fun d => gives d ["sticky"] }
    let vs := t.vendors written .sticky
    let word (use : Bool) (w : String) : List Declaration :=
      if use then [named d "position" [.word w.toList]] else []
    word vs.webkit "-webkit-sticky" ++ word vs.standard "sticky"

end StylePrune.Css.Family
