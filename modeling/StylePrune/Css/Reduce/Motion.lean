import StylePrune.Css.Reduce.Family

/-!
Transitions and animations of a block.

The shorthands are taken apart into their longhands, and written again where all longhands are held. The
properties that a transition is about are written under the marks that browsers need, and those whose
sides depend on the direction of text are replaced by physical ones.
-/
namespace StylePrune.Css.Family

open Timing

/-- A declaration of another property of transitions or animations. -/
def timed (d : Declaration) (name : String) (v : Timing.Value) : Declaration :=
  { d with name := { d.name with base := name.toList }, content := .timing v }

/-- The longhands of transitions in the order in which they are written. -/
def transitionNames : List String :=
  ["transition-property", "transition-duration", "transition-delay", "transition-timing-function"]

/-- The longhands of animations in the order in which they are written. -/
def animationNames : List String :=
  ["animation-name", "animation-duration", "animation-timing-function", "animation-iteration-count",
   "animation-direction", "animation-play-state", "animation-delay", "animation-fill-mode"]

/-- A declaration as declarations of its longhands. -/
def motionParts (d : Declaration) : List Declaration :=
  match d.content with
  | .timing (.transitions ts) =>
    [timed d "transition-property" (.targets (Target.merge (ts.map (·.target)))),
     timed d "transition-duration" (.times (ts.map (·.duration))),
     timed d "transition-delay" (.times (ts.map (·.delay))),
     timed d "transition-timing-function" (.courses (ts.map (·.course)))]
  | .timing (.targets ps) => [timed d "transition-property" (.targets (Target.merge ps))]
  | .timing (.animations as) =>
    [timed d "animation-name" (.names (as.map (·.name))),
     timed d "animation-duration" (.times (as.map (·.duration))),
     timed d "animation-timing-function" (.courses (as.map (·.course))),
     timed d "animation-iteration-count" (.counts (as.map (·.count))),
     timed d "animation-direction" (.directions (as.map (·.direction))),
     timed d "animation-play-state" (.states (as.map (·.state))),
     timed d "animation-delay" (.times (as.map (·.delay))),
     timed d "animation-fill-mode" (.fills (as.map (·.fill)))]
  | _ => [d]

/-- What is left of a declaration without the marks of another set. -/
def lessVendors (vs : Vendors) (d : Declaration) : List Declaration :=
  let rest := d.vendors.without vs
  if rest.isEmpty then [] else [{ d with vendors := rest }]

/-! ## Transitions -/

/-- What a property along the block or the line stands for. -/
inductive Physical where
  | block (known : Feature) (names : List String)
  | line (known : Feature) (ltr rtl : List String)
deriving Repr

/-- The properties along the block and the line. -/
def alongNames : List (String × Physical) :=
  let sides (name : String) (f : Feature) (side : String → String) : List (String × Physical) :=
    [(name ++ "-block-start", .block f [side "top"]), (name ++ "-block-end", .block f [side "bottom"]),
     (name ++ "-inline-start", .line f [side "left"] [side "right"]),
     (name ++ "-inline-end", .line f [side "right"] [side "left"]),
     (name ++ "-block", .block f [side "top", side "bottom"]),
     (name ++ "-inline", .line f [side "left", side "right"] [side "left", side "right"])]
  let size (f : String → String) : List (String × Physical) :=
    [(f "block-size", .block .logicalSize [f "height"]), (f "inline-size", .line .logicalSize [f "width"] [f "width"])]
  size id ++ size ("min-" ++ ·) ++ size ("max-" ++ ·)
    ++ sides "margin" .logicalMargin ("margin-" ++ ·)
    ++ sides "padding" .logicalPadding ("padding-" ++ ·)
    ++ sides "inset" .logicalInset id
    ++ [("inset", .block .logicalInset ["top", "bottom", "left", "right"])]

/-- The physical properties that a target has to be replaced by, for each direction of text. -/
def physical? (t : Targets) (p : Target) : Option (Bool × List Target × List Target) :=
  let targets (names : List String) : List Target := names.map fun n => ⟨n.toList, .known, .plain⟩
  match alongNames.find? fun e => e.1.toList = p.base with
  | some (_, .block f names) => if t.supports f then none else some (false, targets names, targets names)
  | some (_, .line f ltr rtl) => if t.supports f then none else some (true, targets ltr, targets rtl)
  | none => none

/-- Targets as browsers need them: for text that runs from left to right, and for text that runs from
right to left where that is different. -/
def expand (t : Targets) (ps : List Target) : List Target × Option (List Target) :=
  let parts := ps.map fun p => match physical? t p with
    | some r => r
    | none =>
      let q := { p with vendors := Property.vendors t p.vendors p.base }
      (false, [q], [q])
  (parts.flatMap (·.2.1), if parts.any (·.1) then some (parts.flatMap (·.2.2)) else none)

/-- The element at a position, where the list starts again behind its end. -/
def cycled {α : Type} (l : List α) (i : Nat) (usual : α) : α := (l[i % l.length]?).getD usual

/-- A transition for each target, with the other parts repeated as often as needed. -/
def transitionsOf (ps : List Target) (durations delays : List Quantity) (courses : List Course) :
    List Transition :=
  (ps.zipIdx).flatMap fun (p, i) => p.split.map fun q =>
    ⟨q, cycled durations i noTime, cycled delays i noTime, cycled courses i .ease⟩

/-- A declaration, once for each direction of text where there are two forms of it. -/
def forDirections (make : List Target → Declaration) (ltr : List Target) : Option (List Target) → Settled
  | none => .plain [make ltr]
  | some rtl => ⟨[], [make ltr], [make rtl]⟩

/-- The transitions of a block as they are written. -/
def settleTransition (t : Targets) (held : List Declaration) : Settled :=
  let target : Option (Declaration × List Target × Option (List Target)) :=
    (held? held "transition-property").bind fun d => match d.content with
      | .timing (.targets ps) => some (d, expand t ps)
      | _ => none
  let whole : Option (Vendors × Settled) := do
    let (p, ltr, rtl) ← target
    let d ← held? held "transition-duration"
    let e ← held? held "transition-delay"
    let c ← held? held "transition-timing-function"
    let shared := p.vendors.inter (d.vendors.inter (e.vendors.inter c.vendors))
    if shared.isEmpty then none
    else match d.content, e.content, c.content with
      | .timing (.times ds), .timing (.times es), .timing (.courses cs) =>
        let make (ps : List Target) : Declaration :=
          { timed p "transition" (.transitions (transitionsOf ps ds es cs)) with vendors := shared }
        some (shared, forDirections make ltr rtl)
      | _, _, _ => none
  let shared := whole.elim .empty (·.1)
  let properties : Settled := match target with
    | some (p, ltr, rtl) =>
      .concat ((lessVendors shared p).map fun p =>
        forDirections (fun ps => timed p "transition-property" (.targets ps)) ltr rtl)
    | none => .plain []
  let rest := (transitionNames.drop 1).flatMap fun n => (held? held n).toList.flatMap (lessVendors shared)
  (whole.elim (.plain []) (·.2)).append (properties.append (.plain rest))

/-! ## Animations -/

/-- Animations from the values of their longhands, if those are of one length. -/
def animationsOf? : List Timing.Value → Option (List Animation)
  | [.names ns, .times ds, .courses cs, .counts ks, .directions ws, .states ss, .times es, .fills fs] =>
    let n := ns.length
    if [ds.length, cs.length, ks.length, ws.length, ss.length, es.length, fs.length].all (· = n) then
      (List.range n).mapM fun i => do
        some ⟨← ns[i]?, ← ds[i]?, ← cs[i]?, ← ks[i]?, ← ws[i]?, ← ss[i]?, ← es[i]?, ← fs[i]?⟩
    else none
  | _ => none

/-- The animations of a block as they are written. -/
def settleAnimation (t : Targets) (held : List Declaration) : List Declaration :=
  let whole : Option (Vendors × Declaration) := do
    let all ← heldAll? held animationNames
    let first ← all.head?
    let shared := all.foldl (fun v d => v.inter d.vendors) first.vendors
    let as ← animationsOf? (all.filterMap fun d => match d.content with
      | .timing v => some v
      | _ => none)
    if shared.isEmpty then none
    else some (shared, { timed first "animation" (.animations as) with vendors := shared })
  let shared := whole.elim .empty (·.1)
  let rest := animationNames.flatMap fun n => (held? held n).toList.flatMap (lessVendors shared)
  (whole.toList.map (·.2) ++ rest).map (marked t)

/-- Names of animations in a value that is kept as it was written: a string loses its quotes. -/
def unquoted (ps : List Piece) : List Piece := ps.map fun
  | .token (.string s) => .token (if AnimationName.isReserved s then .string s else .ident s)
  | p => p

/-- A value of a property of motion that is kept as it was written, under the marks that browsers need. -/
def motionAsWritten (t : Targets) (d : Declaration) : Declaration :=
  let content := match d.content with
    | .pieces ps => if d.name.base = "animation".toList then .pieces (unquoted ps) else .pieces ps
    | c => c
  marked t { d with content }

end StylePrune.Css.Family
