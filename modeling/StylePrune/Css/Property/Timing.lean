import StylePrune.Css.Measure
import StylePrune.Css.Property.Name

/-!
Transitions and animations.

A shorthand is a list of transitions or of animations; what is the same as when nothing is said is not
written, except where the name of an animation could be taken for it.
-/
namespace StylePrune.Css.Timing

open Decimal

/-! ## The course of time -/

/-- On which side of its step each step of a course falls. -/
inductive StepSide where
  | start
  | finish
  | neither
  | both
deriving DecidableEq, Repr

/-- The course of a change in time. -/
inductive Course where
  | named (word : Text)
  | cubic (x₁ y₁ x₂ y₂ : Rat)
  | steps (count : Int) (side : StepSide)
deriving DecidableEq, Repr

namespace Course

/-- The usual course. -/
def ease : Course := named "ease".toList

/-- The words for courses. -/
def words : List String :=
  ["linear", "ease", "ease-in", "ease-out", "ease-in-out", "step-start", "step-end"]

/-- A hundredth of an integer. -/
def cent (n : Int) : Rat := Single.round ((n : Rat) / 100)

/-- Curves that have a name. -/
def curves : List (Course × String) :=
  [(cubic (cent 25) (cent 10) (cent 25) 1, "ease"), (cubic (cent 42) 0 1 1, "ease-in"),
   (cubic 0 0 (cent 58) 1, "ease-out"), (cubic (cent 42) 0 (cent 58) 1, "ease-in-out")]

/-- The course of a word. -/
def ofWord? (w : Text) : Option Course :=
  let l := Text.lowerAscii w
  if l = "step-start".toList then some (steps 1 .start)
  else if l = "step-end".toList then some (steps 1 .finish)
  else if words.any (·.toList = l) then some (named l)
  else none

/-- The side of a step. -/
def stepSide : Reader StepSide := Reader.expect fun
  | .ident n =>
    let table : List (String × StepSide) :=
      [("start", .start), ("jump-start", .start), ("end", .finish), ("jump-end", .finish),
       ("jump-none", .neither), ("jump-both", .both)]
    (table.find? fun e => e.1.toList = Text.lowerAscii n).map (·.2)
  | _ => none

/-- A course in time. -/
def read : Reader Course := Reader.orTry
  (Reader.expect fun
    | .ident n => ofWord? n
    | _ => none)
  (Reader.orTry
    (do
      let c ← Reader.call "cubic-bezier"
      Reader.inside c do
        let x₁ ← Calculation.number
        Reader.comma
        let y₁ ← Calculation.number
        Reader.comma
        let x₂ ← Calculation.number
        Reader.comma
        return cubic x₁ y₁ x₂ (← Calculation.number))
    (do
      let c ← Reader.call "steps"
      Reader.inside c do
        let n ← Calculation.integer
        let side ← Reader.attempt do Reader.comma; stepSide
        return steps n (side.getD .finish)))

/-- It is the usual course. -/
def isEase (c : Course) : Bool := c == ease || c == cubic (cent 25) (cent 10) (cent 25) 1

/-- The text of a course. -/
def text (l : Layout) (c : Course) : Text :=
  match curves.lookup c with
  | some w => w.toList
  | none => match c with
    | named w => w
    | cubic x₁ y₁ x₂ y₂ =>
      "cubic-bezier(".toList ++ Text.join (l.after ',') ([x₁, y₁, x₂, y₂].map Numeral.text) ++ [')']
    | steps 1 .start => "step-start".toList
    | steps 1 .finish => "step-end".toList
    | steps n side =>
      "steps(".toList ++ Numeral.ofInt n ++ l.after ',' ++ (match side with
        | .start => "start"
        | .finish => "end"
        | .neither => "jump-none"
        | .both => "jump-both").toList ++ [')']

end Course

/-- No time at all. -/
def noTime : Quantity := .time 0 ['s']

/-! ## Transitions -/

/-- The property that a transition is about, under the marks of some vendors. -/
structure Target where
  base : Text
  standing : Property.Standing
  vendors : Vendors
deriving DecidableEq, Repr

namespace Target

/-- Every property. -/
def all : Target := ⟨"all".toList, .known, .plain⟩

/-- A property by its name. -/
def ofText (w : Text) : Target :=
  let n := Property.Name.ofText w
  ⟨n.base, n.standing, .only n.vendor⟩

/-- The name of a property. -/
def read : Reader Target := do return ofText (← Reader.ident)

/-- The property under one mark. -/
def under (p : Target) (v : Vendor) : Target := { p with vendors := .only v }

/-- The property under each of its marks by itself. -/
def split (p : Target) : List Target := p.vendors.toList.map p.under

/-- The names of the property under its marks. -/
def texts (p : Target) : List Text := p.vendors.toList.map fun v => v.mark ++ Written.ident p.base

/-- Two targets name the same property. -/
def alike (p q : Target) : Bool := p.base == q.base && p.standing == q.standing

/-- Properties each named once, where the marks of later ones are added to the first. -/
def merge (ps : List Target) : List Target :=
  ps.foldl (fun found p =>
    if found.any p.alike then
      found.map fun q => if p.alike q then { q with vendors := q.vendors.union p.vendors } else q
    else found ++ [p]) []

end Target

/-- A transition. -/
structure Transition where
  target : Target
  duration : Quantity
  delay : Quantity
  course : Course
deriving DecidableEq, Repr

namespace Transition

/-- What has been said of a transition. -/
structure Said where
  target : Option Target
  duration : Option Quantity
  delay : Option Quantity
  course : Option Course

/-- One more thing said of a transition. -/
def more (s : Said) : Reader Said := do
  if s.duration.isNone then
    if let some t ← Reader.attempt Calculation.time then return { s with duration := some t }
  if s.course.isNone then
    if let some c ← Reader.attempt Course.read then return { s with course := some c }
  if s.delay.isNone then
    if let some t ← Reader.attempt Calculation.time then return { s with delay := some t }
  if s.target.isNone then
    if let some p ← Reader.attempt Target.read then return { s with target := some p }
  Reader.fail .invalidValue

/-- All that is said of a transition; there are at most four things to say. -/
def said : Nat → Said → Reader Said
  | 0, s => pure s
  | fuel + 1, s => do
    match ← Reader.attempt (more s) with
    | some t => said fuel t
    | none => return s

/-- A transition. -/
def read : Reader Transition := do
  let s ← said 4 ⟨none, none, none, none⟩
  return ⟨s.target.getD .all, s.duration.getD noTime, s.delay.getD noTime, s.course.getD .ease⟩

/-- The text of a transition. -/
def text (l : Layout) (t : Transition) : Text :=
  Text.join (l.after ',') t.target.texts
    ++ (if t.duration.isZero && t.delay.isZero then [] else ' ' :: t.duration.text)
    ++ (if t.course.isEase then [] else ' ' :: t.course.text l)
    ++ (if t.delay.isZero then [] else ' ' :: t.delay.text)

end Transition

/-! ## Animations -/

/-- The name of an animation, which may have been written as a string. -/
inductive AnimationName where
  | none
  | ident (name : Text)
  | string (name : Text)
deriving DecidableEq, Repr

namespace AnimationName

/-- A name. -/
def read : Reader AnimationName := Reader.expect fun
  | .ident n =>
    let l := Text.lowerAscii n
    if l = "none".toList then some none
    else if isWide n then Option.none
    else some (ident n)
  | .string s => some (string s)
  | _ => Option.none

/-- A string that may not lose its quotes. -/
def isReserved (s : Text) : Bool := isWide s || Text.eqIgnoringAsciiCase s "none".toList

/-- The text of a name. -/
def text : AnimationName → Text
  | none => "none".toList
  | ident n => Written.ident n
  | string s => if isReserved s then Written.string s else Written.ident s

end AnimationName

/-- How often an animation runs. -/
inductive Count where
  | infinite
  | times (r : Rat)
deriving DecidableEq, Repr

namespace Count

/-- How often an animation runs. -/
def read : Reader Count := Reader.orTry (do return times (← Calculation.number))
  (do Reader.word "infinite"; return infinite)

/-- How often an animation runs. -/
def text : Count → Text
  | infinite => "infinite".toList
  | times r => Numeral.text r

end Count

/-- An animation. -/
structure Animation where
  name : AnimationName
  duration : Quantity
  course : Course
  count : Count
  direction : Text
  state : Text
  delay : Quantity
  fill : Text
deriving DecidableEq, Repr

namespace Animation

/-- The words for a direction. -/
def directions : List String := ["normal", "reverse", "alternate", "alternate-reverse"]

/-- The words for what holds before and after. -/
def fills : List String := ["none", "forwards", "backwards", "both"]

/-- The words for whether it runs. -/
def states : List String := ["running", "paused"]

/-- One of some words, in lower case. -/
def oneOf (ws : List String) : Reader Text := Reader.expect fun
  | .ident n => if ws.any (·.toList = Text.lowerAscii n) then some (Text.lowerAscii n) else none
  | _ => none

/-- What has been said of an animation. -/
structure Said where
  name : Option AnimationName
  duration : Option Quantity
  course : Option Course
  count : Option Count
  direction : Option Text
  state : Option Text
  delay : Option Quantity
  fill : Option Text
  timeline : Bool

/-- One more thing said of an animation. -/
def more (s : Said) : Reader Said := do
  if s.duration.isNone then
    if let some t ← Reader.attempt Calculation.time then return { s with duration := some t }
  if s.course.isNone then
    if let some c ← Reader.attempt Course.read then return { s with course := some c }
  if s.delay.isNone then
    if let some t ← Reader.attempt Calculation.time then return { s with delay := some t }
  if s.count.isNone then
    if let some c ← Reader.attempt Count.read then return { s with count := some c }
  if s.direction.isNone then
    if let some w ← Reader.attempt (oneOf directions) then return { s with direction := some w }
  if s.fill.isNone then
    if let some w ← Reader.attempt (oneOf fills) then return { s with fill := some w }
  if s.state.isNone then
    if let some w ← Reader.attempt (oneOf states) then return { s with state := some w }
  if s.name.isNone then
    if let some n ← Reader.attempt AnimationName.read then return { s with name := some n }
  if !s.timeline then
    if ← Reader.takes (Reader.word "auto") then return { s with timeline := true }
  Reader.fail .invalidValue

/-- All that is said of an animation; there are at most nine things to say. -/
def said : Nat → Said → Reader Said
  | 0, s => pure s
  | fuel + 1, s => do
    match ← Reader.attempt (more s) with
    | some t => said fuel t
    | none => return s

/-- An animation. -/
def read : Reader Animation := do
  let s ← said 9 ⟨none, none, none, none, none, none, none, none, false⟩
  return {
    name := s.name.getD .none
    duration := s.duration.getD noTime
    course := s.course.getD .ease
    count := s.count.getD (.times 1)
    direction := s.direction.getD "normal".toList
    state := s.state.getD "running".toList
    delay := s.delay.getD noTime
    fill := s.fill.getD "none".toList }

/-- One of some words, in any letter case. -/
def among (ws : List String) (n : Text) : Bool := ws.any (·.toList = Text.lowerAscii n)

/-- What stands before the name of an animation. What is as usual is left out unless the name could be
taken for it. -/
def partTexts (l : Layout) (a : Animation) (n : Text) : List Text :=
  let one (kept : Bool) (t : Text) : List Text := if kept then [t] else []
  one (!a.duration.isZero || !a.delay.isZero) a.duration.text
    ++ one (!a.course.isEase || among Course.words n) (a.course.text l)
    ++ one (!a.delay.isZero) a.delay.text
    ++ one (a.count ≠ .times 1 || n = "infinite".toList) a.count.text
    ++ one (a.direction ≠ "normal".toList || among directions n) a.direction
    ++ one (a.fill ≠ "none".toList || among (fills.filter (· ≠ "none")) n) a.fill
    ++ one (a.state ≠ "running".toList || among states n) a.state

/-- The text of an animation. -/
def text (l : Layout) (a : Animation) : Text :=
  match a.name with
  | .none => "none".toList
  | .ident n | .string n => Text.join [' '] (partTexts l a n ++ [a.name.text])

end Animation

/-! ## Values -/

/-- A value of a property of transitions or animations. -/
inductive Value where
  | transitions (ts : List Transition)
  | targets (ps : List Target)
  | animations (as : List Animation)
  | names (ns : List AnimationName)
  | times (ts : List Quantity)
  | courses (cs : List Course)
  | counts (cs : List Count)
  | directions (ws : List Text)
  | fills (ws : List Text)
  | states (ws : List Text)
deriving DecidableEq, Repr

/-- The properties with their readers. -/
def table : List (String × Reader Value) :=
  [("transition", do return .transitions (← Reader.separated Transition.read)),
   ("transition-property", do return .targets (← Reader.separated Target.read)),
   ("transition-duration", do return .times (← Reader.separated Calculation.time)),
   ("transition-delay", do return .times (← Reader.separated Calculation.time)),
   ("transition-timing-function", do return .courses (← Reader.separated Course.read)),
   ("animation", do return .animations (← Reader.separated Animation.read)),
   ("animation-name", do return .names (← Reader.separated AnimationName.read)),
   ("animation-duration", do return .times (← Reader.separated Calculation.time)),
   ("animation-delay", do return .times (← Reader.separated Calculation.time)),
   ("animation-timing-function", do return .courses (← Reader.separated Course.read)),
   ("animation-iteration-count", do return .counts (← Reader.separated Count.read)),
   ("animation-direction", do return .directions (← Reader.separated (Animation.oneOf Animation.directions))),
   ("animation-fill-mode", do return .fills (← Reader.separated (Animation.oneOf Animation.fills))),
   ("animation-play-state", do return .states (← Reader.separated (Animation.oneOf Animation.states)))]

/-- The reader of a property of transitions or animations. -/
def grammar? (base : Text) : Option (Reader Value) := (table.find? fun e => e.1.toList = base).map (·.2)

/-- The texts of the parts of a value. -/
def Value.texts (l : Layout) : Value → List Text
  | transitions ts => ts.map (·.text l)
  | targets ps => ps.flatMap (·.texts)
  | animations as => as.map (·.text l)
  | names ns => ns.map (·.text)
  | times ts => ts.map (·.text)
  | courses cs => cs.map (·.text l)
  | counts cs => cs.map (·.text)
  | directions ws | fills ws | states ws => ws

/-- The text of a value. -/
def Value.text (l : Layout) (v : Value) : Text := Text.join (l.after ',') (v.texts l)

end StylePrune.Css.Timing
