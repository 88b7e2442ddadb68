import StylePrune.Css.Rule.Basic
import StylePrune.Css.Selector.Parse

/-!
The beginning of an at-rule, before its block or its semicolon.
-/
namespace StylePrune.Css

/-- What the beginning of an at-rule says. The bodies of plain rules are still empty. -/
inductive Opening where
  | group (head : GroupHead)
  | region (head : RegionHead)
  | layers (names : List LayerName)
  | plain (rule : PlainRule)
  /-- The name of a custom property that the block registers. -/
  | property (name : Text)
  /-- The name of an encoding, which has no effect. -/
  | charset

/-- How far a stylesheet has come. Some at-rules may only stand near its beginning. -/
inductive Stage where
  | beginning
  | layers
  | imports
  | namespaces
  | body
deriving DecidableEq

namespace Stage

/-- The position in the order of stages. -/
def rank : Stage → Nat
  | beginning => 0
  | layers => 1
  | imports => 2
  | namespaces => 3
  | body => 4

/-- One stage comes behind another. -/
def isAfter (a b : Stage) : Bool := b.rank < a.rank

end Stage

namespace Opening

/-- The rule may stand inside a style rule. -/
def isNestable : Opening → Bool
  | group _ | region _ | layers _ | plain (.unknown _ _ _) => true
  | _ => false

/-- The name of a layer. -/
def layerName : Reader LayerName := do
  let first ← Reader.ident
  let inner : Reader Text := do
    let place ← Reader.here
    let dot ← Reader.nextTight
    if dot.token ≠ .delim '.' then Reader.failAt (.unexpected dot.token) place
    match ← Reader.nextTight with
    | .leaf (.ident n) _ _ => return n
    | c => Reader.failAt (.unexpected c.token) place
  return first :: (← Reader.many inner)

/-- Names of layers, possibly none. -/
def layerNames : Reader (List LayerName) := fun s =>
  match Reader.separated layerName s with
  | .error ⟨.endOfInput, _⟩ => .ok ([], { s with items := [] })
  | r => r

/-- The name of an animation, and whether it has to be quoted. -/
def animationName : Reader (Text × Bool) := do
  let c ← Reader.next
  let reserved (n : Text) : Bool := isWide n || Text.eqIgnoringAsciiCase n "none".toList
  match c.token with
  | .ident n => if reserved n then Reader.fail (.unexpected c.token) else return (n, false)
  | .string n => return (n, reserved n)
  | t => Reader.fail (.unexpected t)

/-- A name that may be any word but those of every property. -/
def freeName (taken : List String) : Reader Text := do
  let n ← Reader.ident
  if isWide n || taken.any (·.toList = Text.lowerAscii n) then Reader.fail (.unexpected (.ident n))
  else return n

/-- The selector of a page. -/
def pageSelector : Reader PageSelector := do
  let name ← Reader.attempt Reader.ident
  let pageClass : Reader Text := do
    let place ← Reader.here
    let c ← Reader.nextTight
    if c.token ≠ .colon then Reader.failAt (.unexpected c.token) place
    match ← Reader.nextTight with
    | .leaf (.ident n) _ _ =>
      let l := Text.lowerAscii n
      if ["left", "right", "first", "last", "blank"].any (·.toList = l) then return l
      else Reader.failAt (.unexpected (.ident n)) place
    | c => Reader.failAt (.unexpected c.token) place
  let classes ← Reader.many pageClass
  if name.isNone && classes.isEmpty then Reader.fail .invalidValue
  return ⟨name, classes⟩

/-- The path of another stylesheet, with what it depends on. -/
def importSheet (recovers : Bool) : Reader Opening := do
  let url ← Reader.urlOrString
  let layer ← do
    if ← Reader.takes (Reader.word "layer") then pure (some none)
    else match ← Reader.attempt (Reader.call "layer") with
      | some c => do pure (some (some (← Reader.inside c layerName)))
      | none => pure none
  let supports ← do
    match ← Reader.attempt (Reader.call "supports") with
    | some c => do pure (some (← Reader.inside c Supports.readInCall))
    | none => pure none
  return .plain (.importSheet url layer supports (← Media.list recovers))

/-- The elements inside and outside of which the rules of a region apply. -/
def scope : Reader Opening := do
  let root ← do
    match ← Reader.attempt Reader.parentheses with
    | some c => do pure (some (← Reader.inside c Selector.readScope))
    | none => pure none
  let limit ← do
    if ← Reader.takes (Reader.word "to") then
      let c ← Reader.parentheses
      pure (some (← Reader.inside c Selector.readScope))
    else pure none
  return .region (.scope root limit)

/-- A container's name, a condition on it, or both. -/
def container (recovers : Bool) : Reader Opening := do
  let name ← Reader.attempt (freeName ["none", "and", "not", "or"])
  if name.isSome && (← Reader.atEnd) then return .group (.container name none)
  else return .group (.container name (some (← Media.wholeCondition recovers true)))

/-- The only address that the rules of `@-moz-document` may belong to: all of them. -/
def anyAddress : Reader Opening := do
  let c ← Reader.call "url-prefix"
  Reader.inside c do
    if ← Reader.atEnd then return
    let s ← Reader.string
    if !s.isEmpty then Reader.fail .invalidValue
  return .region .mozDocument

/-- A rule without a meaning. -/
def unknown (name : Text) : Reader Opening := do
  Reader.skipSpace
  let s ← get
  match Component.anyBroken? s.items with
  | some (t, place) => Reader.failAt (.unexpected t) place
  | none =>
    set { s with items := [] }
    return .plain (.unknown name (Written.components s.items) none)

/-- The beginning of an at-rule at the top of a stylesheet that has come to some stage. -/
def readTop (recovers : Bool) (stage : Stage) (low : Text) : Option (Reader Opening) :=
  match String.ofList low with
  | "import" => some do
    if stage.isAfter .imports then Reader.fail .lateImport
    importSheet recovers
  | "namespace" => some do
    if stage.isAfter .namespaces then Reader.fail .lateNamespace
    let mark ← Reader.attempt Reader.ident
    return .plain (.namespaceUrl mark (← Reader.urlOrString))
  | "charset" => some do
    let _ ← Reader.string
    return .charset
  | _ => none

/-- The beginning of an at-rule that may stand anywhere, or in a style rule only. -/
def readAnywhere (recovers inStyle : Bool) (name low : Text) : Reader Opening :=
  match String.ofList low with
  | "nest" =>
    if inStyle then do return .region (.nest ⟨← Selector.readAround, .empty, .empty⟩) else unknown name
  | "property" => do return .property (← Piece.customName)
  | "media" => do return .group (.media (← Media.list recovers))
  | "supports" => do return .group (.supports (← Supports.read))
  | "container" => container recovers
  | "layer" => do return .layers (← layerNames)
  | "scope" => scope
  | "starting-style" => return .region .startingStyle
  | "-moz-document" => anyAddress
  | "font-face" => return .plain (.fontFace [])
  | "counter-style" => do return .plain (.counterStyle (← freeName ["none"]) .empty)
  | "view-transition" => return .plain (.viewTransition [])
  | "font-feature-values" => do
    return .plain (.fontFeatureValues (← Reader.separated Property.family))
  | "page" => do
    return .plain (.page ((← Reader.attempt (Reader.separated pageSelector)).getD []) .empty)
  | _ =>
    let (vendor, base) := Vendor.split low
    if base = "keyframes".toList then do
      let (n, quoted) ← animationName
      return .plain (.keyframes (.only vendor) n quoted [])
    else unknown name

/-- The beginning of an at-rule: at the top of a stylesheet at some stage, or in a block. -/
def read (recovers inStyle : Bool) (stage : Option Stage) (name : Text) : Reader Opening := do
  let low := Text.lowerAscii name
  let o ← match stage.bind fun s => readTop recovers s low with
    | some r => r
    | none => readAnywhere recovers inStyle name low
  if inStyle && !o.isNestable then Reader.fail (.unknownAtRule name)
  return o

end Opening
end StylePrune.Css
