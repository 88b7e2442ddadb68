import StylePrune.Css.Reduce.Boxes
import StylePrune.Css.Reduce.Layers
import StylePrune.Css.Reduce.Motion
import StylePrune.Css.Reduce.Sides

/-!
Reducing the declarations of a block.

`Declarations.reduce` writes each property once where a later declaration takes the place of an earlier
one, joins properties into shorthands and adds the vendors' marks that browsers need. Declarations of a
family move to the end of the block; all others stay where they are. Declarations whose property depends
on the direction of text come out apart from the block, once for each direction.
-/
namespace StylePrune.Css

/-- How a declaration that belongs to no family meets an earlier one of the same property. -/
inductive Habit where
  /-- It takes the earlier one's place. -/
  | replaces
  /-- It takes the earlier one's place if the values or the marks agree. -/
  | joins
  /-- It stands beside the earlier one. -/
  | stays
deriving DecidableEq

/-- The habit of a declaration. -/
def Habit.of (d : Declaration) : Habit :=
  let is (names : List String) : Bool := names.any (·.toList = d.name.base)
  match d.name.standing with
  | .custom => replaces
  | .unknown => stays
  | .known =>
    if is ["color", "text-shadow", "filter", "backdrop-filter", "fill", "stroke", "caret-color", "caret"] then
      replaces
    else if d.content.isRead && is ["transform-origin", "transform-style", "backface-visibility", "perspective",
        "perspective-origin", "box-sizing", "tab-size", "hyphens", "text-align-last",
        "text-decoration-skip-ink", "text-overflow", "user-select", "appearance", "clip-path",
        "box-decoration-break", "text-size-adjust"] then joins
    else stays

/-- A block that is being reduced: what has been written for it and for each direction of text, what
families hold, and the families whose last declaration was about the block or the line. -/
structure Reduction where
  written : Settled
  held : List (Family × List Declaration)
  along : List Family

namespace Reduction

/-- Nothing yet. -/
def empty : Reduction := ⟨.plain [], [], []⟩

/-- What a family holds. -/
def of (s : Reduction) (f : Family) : List Declaration := (s.held.lookup f).getD []

/-- Gives a family other declarations to hold. -/
def hold (s : Reduction) (f : Family) (ds : List Declaration) : Reduction :=
  { s with held := (f, ds) :: s.held.filter fun h => h.1 ≠ f }

/-- Writes a declaration. -/
def write (s : Reduction) (d : Declaration) : Reduction := { s with written := s.written.append (.plain [d]) }

/-- The declarations of a family as they are written. -/
def settled (t : Targets) (s : Reduction) (f : Family) : Settled :=
  let held := s.of f
  match f with
  | .background => .plain (Family.settleLayers t held)
  | .flex => .plain (Family.settleFlex t held)
  | .align => .plain (Family.settleAlign t held)
  | .size => .plain (Family.settleSizes t s.written.here held)
  | .margin => Family.settleSides t Family.marginNames held
  | .padding => Family.settleSides t Family.paddingNames held
  | .inset => Family.settleSides t Family.insetNames held
  | .transition => Family.settleTransition t held
  | .animation => .plain (Family.settleAnimation t held)
  | .display => .plain (Family.settleDisplay t held)
  | .position => .plain (Family.settlePosition t held)
  | .overflow => .plain (Family.settleOverflow t held)
  | f => .plain (f.names.filterMap fun n => (Family.held? held n).map (Family.marked t))

/-- Writes what a family holds. -/
def settle (t : Targets) (s : Reduction) (f : Family) : Reduction :=
  { s with written := s.written.append (s.settled t f) }.hold f []

/-- Writes what a family holds, if that is needed. -/
def settleIf (t : Targets) (s : Reduction) (f : Family) (needed : Bool) : Reduction :=
  if needed then s.settle t f else s

/-- Remembers whether the last declaration of a family was about the block or the line. -/
def turn (s : Reduction) (f : Family) (along : Bool) : Reduction :=
  { s with along := if along then f :: s.along else s.along.filter (· ≠ f) }

/-- A family holds a declaration of the property, and some browser does not know the new value. -/
def wouldHide (t : Targets) (s : Reduction) (f : Family) (d : Declaration) : Bool :=
  (s.of f).any (fun e => e.name.base = d.name.base) && !d.content.isKnown t

/-- Takes a declaration of the sides of a box. What is held is written first where sides along the block
or the line meet physical ones, and where some browser does not know the new value. -/
def takeSide (t : Targets) (s : Reduction) (f : Family) (n : Family.SideNames) (d : Declaration) : Reduction :=
  let isAlong := n.along.any (·.toList = d.name.base)
  let wasAlong := s.along.contains f
  if d.content.isRead then
    let names := n.parts d.name.base
    let parts := if names.length = 1 then [d] else
      List.zipWith (fun n t => Family.named d n [t]) names (Family.terms d)
    let whole := d.name.base = n.whole.toList
    let along := if whole then n.isLogical else isAlong || parts.length = 2
    let s := s.settleIf t f (wasAlong != along || parts.any (s.wouldHide t f))
    let kept := if whole then (s.of f).filter fun e => !n.along.any (·.toList = e.name.base) else s.of f
    let s := s.hold f (parts.foldl (fun h p => Family.put p h) kept)
    if whole then s else s.turn f along
  else if isAlong then
    let s := s.settleIf t f (!wasAlong || (s.of f).any fun e => e.name.base = d.name.base)
    (s.hold f (Family.put d (s.of f))).turn f true
  else (s.settle t f).write d

/-- Takes a size of a box. -/
def takeSize (t : Targets) (s : Reduction) (d : Declaration) : Reduction :=
  let along := Family.isLogicalSize d
  if d.content.isRead then
    let hides := (s.of .size).any (fun e => e.name.base = d.name.base) && !Family.isKnownSize t d
    let s := s.settleIf t .size (s.along.contains .size != along || hides)
    (s.hold .size (Family.put d (s.of .size))).turn .size along
  else (s.settle t .size).write (Family.knownSize t d)

/-- Takes a declaration of transitions. Marks are added at once, so that they count as held. -/
def takeTransition (t : Targets) (s : Reduction) (d : Declaration) : Reduction :=
  let parts := Family.motionParts d
  let s := s.settleIf t .transition (parts.any fun p => (s.of .transition).any (Family.conflicts p))
  s.hold .transition <| parts.foldl (fun h p =>
    (Family.put p h).map fun e => if e.name.base = p.name.base then Family.marked t e else e) (s.of .transition)

/-- Takes a declaration of a background. -/
def takeLayers (t : Targets) (s : Reduction) (d : Declaration) : Reduction :=
  let parts := Family.layerParts d
  let s := s.settleIf t .background (parts.any fun p => (s.of .background).any (Family.clipConflicts p))
  s.hold .background (parts.foldl (fun h p => Family.put p h) (s.of .background))

/-- Takes a declaration of any other family. -/
def takeUsual (t : Targets) (s : Reduction) (f : Family) (d : Declaration) : Reduction :=
  let parts := if f = .animation then Family.motionParts d else Family.flexParts d
  let kept (s : Reduction) : List Declaration := parts.foldl (fun h p => Family.clear f p h) (s.of f)
  let s := s.settleIf t f (parts.any fun p => (kept s).any (Family.conflicts p))
  s.hold f (parts.foldl (fun h p => Family.put p h) (kept s))

/-- Takes a declaration whose value is kept as it was written. -/
def takeUnread (t : Targets) (s : Reduction) (f : Family) (d : Declaration) : Reduction :=
  match f with
  | .position | .writing => s.write d
  | .transition | .animation => (s.settle t f).write (Family.motionAsWritten t d)
  | .transform => (s.settle t f).write (if f.isShorthand d then Family.marked t d else d)
  | f => (s.settle t f).write d

/-- Takes a declaration of a family. -/
def take (t : Targets) (s : Reduction) (f : Family) (d : Declaration) : Reduction :=
  match f.sideNames? with
  | some n => s.takeSide t f n d
  | none =>
    if f = .size then s.takeSize t d
    else if !d.content.isRead then s.takeUnread t f d
    else match f with
      | .background => s.takeLayers t d
      | .transition => s.takeTransition t d
      | .display => s.hold .display (Family.addDisplay (s.of .display) d)
      | .position => s.hold .position (Family.addPosition (s.of .position) d)
      | f => s.takeUsual t f d

/-- Changes the last declaration for which a function gives another one. -/
def changeLast (change : Declaration → Option Declaration) (ds : List Declaration) :
    Option (List Declaration) :=
  let rec go : List Declaration → Option (List Declaration)
    | [] => none
    | d :: r => match change d with
      | some e => some (e :: r)
      | none => (go r).map (d :: ·)
  (go ds.reverse).map List.reverse

/-- Takes the place of an earlier declaration of the property. -/
def replaced (d : Declaration) (e : Declaration) : Option Declaration :=
  if d.name.base = e.name.base && d.name.standing = e.name.standing then some d else none

/-- Takes the place of an earlier declaration of the property and joins the marks of both. Where neither
the values nor the marks agree it does not. -/
def joined (t : Targets) (d : Declaration) (e : Declaration) : Option Declaration :=
  if e.content.isRead && d.name.base = e.name.base
      && (d.sameValue e || !(d.vendors.inter e.vendors).isEmpty) then
    some (Family.marked t { d with vendors := e.vendors.union d.vendors })
  else none

/-- The last declaration of a property whose value was read. -/
def lastOf (d : Declaration) (ds : List Declaration) : Option Declaration :=
  (ds.filter fun e => d.name.base = e.name.base && e.content.isRead).getLast?

/-- Changes what has been written for the block, or writes a declaration where nothing could be changed. -/
def changeOr (s : Reduction) (changed : Option (List Declaration)) (d : Declaration) : Reduction :=
  match changed with
  | some ds => { s with written := { s.written with here := ds } }
  | none => s.write d

/-- Takes the declaration that sets every property: of what was before it only custom properties stay, and
the properties of writing. -/
def takeAll (s : Reduction) (d : Declaration) : Reduction :=
  let custom := s.written.here.filter fun e => e.name.standing = .custom
  ⟨{ s.written with here := custom ++ [d] }, [(.writing, s.of .writing)], []⟩

/-- Takes a declaration. -/
def add (t : Targets) (s : Reduction) (d : Declaration) : Reduction :=
  if d.name.standing = .known && d.name.base = "all".toList && d.content.isRead then s.takeAll d
  else match (if d.name.standing = .known then Family.of? d.name.base else none) with
  | some f => s.take t f d
  | none =>
    let here := s.written.here
    let new := Family.marked t d
    match Habit.of d with
    | .replaces => s.changeOr (changeLast (replaced new) here) new
    | .joins =>
      let joins := (lastOf d here).any fun e => (joined t d e).isSome
      s.changeOr (if joins then changeLast (joined t d) here else none) new
    | .stays => s.write d

end Reduction

namespace Declaration

/-- The reduced form of declarations of one importance. -/
def reduce (t : Targets) (ds : List Declaration) : Settled :=
  (Family.all.foldl (Reduction.settle t) (ds.foldl (Reduction.add t) .empty)).written

end Declaration

/-- Declarations that apply to one direction of text only. -/
structure Directed where
  ltr : List Declaration
  rtl : List Declaration

namespace Directed

/-- No declarations. -/
def empty : Directed := ⟨[], []⟩

/-- The declarations of both, one after the other. -/
def append (a b : Directed) : Directed := ⟨a.ltr ++ b.ltr, a.rtl ++ b.rtl⟩

end Directed

namespace Declarations

/-- The reduced form of a block, and what it comes to for each direction of text. -/
def reduce (t : Targets) (d : Declarations) : Declarations × Directed :=
  let a := Declaration.reduce t d.usual
  let b := Declaration.reduce t d.important
  (⟨a.here, b.here⟩, ⟨a.ltr ++ b.ltr, a.rtl ++ b.rtl⟩)

end Declarations
end StylePrune.Css
