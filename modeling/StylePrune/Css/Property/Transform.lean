import StylePrune.Css.Measure

/-!
Transformations.

A transformation is a list of functions, each a term with all of its arguments. `Transform.text` writes
each function in its shortest form.
-/
namespace StylePrune.Css.Transform

/-- One argument. -/
def single (p : Reader Term) : Reader (List Term) := do return [← p]

/-- One or two arguments; where there is one, the second follows from it. -/
def pair (p : Reader Term) (second : Term → Term) : Reader (List Term) := do
  let a ← p
  if ← Reader.takes Reader.comma then return [a, ← p] else return [a, second a]

/-- Arguments of some kinds, with commas between them. -/
def all : List (Reader Term) → Reader (List Term)
  | [] => return []
  | [p] => return [← p]
  | p :: r => do
    let a ← p
    Reader.comma
    return a :: (← all r)

/-- An angle as an argument. -/
def angle : Reader Term := do return .quantity (← Calculation.angleOrZero)

/-- No angle. -/
def noAngle : Term := .quantity (.angle 0 "deg".toList)

/-- The functions with their arguments. -/
def functions : List (String × Reader (List Term)) :=
  let number := Measure.numberTerm
  let length := Measure.lengthPercent
  let factor := Measure.fraction
  [("matrix", all (List.replicate 6 number)), ("matrix3d", all (List.replicate 16 number)),
   ("translate", pair length fun _ => .zero), ("translateX", single length), ("translateY", single length),
   ("translateZ", single Measure.length), ("translate3d", all [length, length, Measure.length]),
   ("scale", pair factor id), ("scaleX", single factor), ("scaleY", single factor), ("scaleZ", single factor),
   ("scale3d", all [factor, factor, factor]), ("rotate", single angle), ("rotateX", single angle),
   ("rotateY", single angle), ("rotateZ", single angle), ("rotate3d", all [number, number, number, angle]),
   ("skew", pair angle fun _ => noAngle), ("skewX", single angle), ("skewY", single angle),
   ("perspective", single Measure.length)]

/-- One function. -/
def function : Reader Term := do
  let place ← Reader.here
  let c ← Reader.next
  match c.token with
  | .function f =>
    match functions.find? fun e => Text.eqIgnoringAsciiCase e.1.toList f with
    | some (name, p) => return .call name.toList (← Reader.inside c p)
    | none => Reader.failAt (.unexpected c.token) place
  | t => Reader.failAt (.unexpected t) place

/-- A list of functions, or none. -/
def read : Reader (List Term) := do
  if ← Reader.takes (Reader.word "none") then return []
  let a ← function
  return a :: (← Reader.many function)

/-! ## Writing -/

/-- An angle with its unit, even where it is zero. -/
def withUnit : Term → Term
  | .quantity q => .word q.fullText
  | t => t

/-- The arguments of a function that have to be written. -/
def kept (name : String) (args : List Term) : List Term :=
  match name, args with
  | "translate", [x, y] => if y.isZero then [x] else [x, y]
  | "scale", [x, y] => if x == y then [x] else [x, y]
  | "skew", [x, y] => if y.isZero then [withUnit x] else [withUnit x, y]
  | _, _ => args

/-- A shorter function that moves the same way. -/
def shortMove? (name : String) (args : List Term) : Option (String × List Term) :=
  match name, args with
  | "translate", [x, y] => if x.isZero && !y.isZero then some ("translateY", [y]) else none
  | "translateX", [x] => some ("translate", [x])
  | "translate3d", [x, y, z] =>
    match x.isZero, y.isZero, z.isZero with
    | false, true, true => some ("translate", [x])
    | true, false, true => some ("translateY", [y])
    | true, true, false => some ("translateZ", [z])
    | _, _, true => some ("translate", [x, y])
    | _, _, _ => none
  | _, _ => none

/-- A shorter function that changes the size the same way. -/
def shortScale? (name : String) (args : List Term) : Option (String × List Term) :=
  let is (t : Term) : Bool := t == .number 1
  match name, args with
  | "scale", [x, y] =>
    if is x && !is y then some ("scaleY", [y]) else if !is x && is y then some ("scaleX", [x]) else none
  | "scale3d", [x, y, z] =>
    if is z && x == y then some ("scale", [x])
    else match is x, is y, is z with
      | false, true, true => some ("scaleX", [x])
      | true, false, true => some ("scaleY", [y])
      | true, true, false => some ("scaleZ", [z])
      | _, _, true => some ("scale", [x, y])
      | _, _, _ => none
  | _, _ => none

/-- A shorter function that turns or slants the same way. -/
def shortTurn? (name : String) (args : List Term) : Option (String × List Term) :=
  match name, args with
  | "rotateZ", [a] => some ("rotate", [a])
  | "rotate3d", [.number 1, .number 0, .number 0, a] => some ("rotateX", [a])
  | "rotate3d", [.number 0, .number 1, .number 0, a] => some ("rotateY", [a])
  | "rotate3d", [.number 0, .number 0, .number 1, a] => some ("rotate", [a])
  | "skew", [x, y] => if x.isZero && !y.isZero then some ("skewY", [y]) else none
  | "skewX", [a] => some ("skew", [a])
  | _, _ => none

/-- A function in its shortest form, or with the arguments that have to be written. -/
def short (name : String) (args : List Term) : String × List Term :=
  ((shortMove? name args).or ((shortScale? name args).or (shortTurn? name args))).getD (name, kept name args)

/-- The text of a function. -/
def functionText (l : Layout) : Term → Text
  | .call name args =>
    let name := String.ofList name
    let (name, args) := if l.compact then short name args else (name, kept name args)
    name.toList ++ '(' :: Term.argumentText l args ++ [')']
  | t => t.text l

/-- The text of a list of functions. -/
def text (l : Layout) (ts : List Term) : Text :=
  if ts.isEmpty then "none".toList else Text.join l.gap (ts.map (functionText l))

end StylePrune.Css.Transform
