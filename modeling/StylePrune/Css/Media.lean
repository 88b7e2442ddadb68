import StylePrune.Css.Measure
import StylePrune.Css.Piece

/-!
Media queries, and the conditions that they share with container queries.

A feature is tested for being there, for a value, or for a range. `Media.listText` writes a list of
queries; where a browser does not know ranges, `min-` and `max-` stand for them. A condition without a
meaning is kept as it was written if faults are to be recovered from.
-/
namespace StylePrune.Css.Media

/-- A comparison. -/
inductive Comparison where
  | equal
  | greater
  | atLeast
  | less
  | atMost
deriving DecidableEq, Repr

/-- The comparison with its sides exchanged. -/
def Comparison.opposite : Comparison → Comparison
  | .equal => .equal
  | .greater => .less
  | .atLeast => .atMost
  | .less => .greater
  | .atMost => .atLeast

/-- The comparison that holds where this one does not. -/
def Comparison.negated : Comparison → Comparison
  | .equal => .equal
  | .greater => .atMost
  | .atLeast => .less
  | .less => .atLeast
  | .atMost => .greater

/-- A test of one feature. -/
inductive Test where
  | present (name : Text)
  | value (name : Text) (value : List Term)
  | range (name : Text) (comparison : Comparison) (value : List Term)
  | between (name : Text) (low : List Term) (first : Comparison) (second : Comparison) (high : List Term)
deriving Repr

/-- A condition on features. -/
inductive Condition where
  | test (t : Test)
  | not (c : Condition)
  | all (cs : List Condition)
  | any (cs : List Condition)
  /-- A condition without a meaning. -/
  | unknown (ps : List Piece)
deriving Repr

/-- A media query: `only` or `not`, a type where one is named, and a condition. -/
structure Query where
  qualifier : Option Text
  type : Option Text
  condition : Option Condition
deriving Repr

/-! ## Reading -/

/-- What the values of a feature are. -/
inductive Kind where
  | length
  | ratio
  | integer
  | number
  | resolution
  | boolean
  | word
  | unknown
deriving DecidableEq, Repr

/-- The kinds of the features that have a meaning. -/
def kinds : List (String × Kind) :=
  [("width", .length), ("height", .length), ("device-width", .length), ("device-height", .length),
   ("inline-size", .length), ("block-size", .length), ("aspect-ratio", .ratio),
   ("device-aspect-ratio", .ratio), ("color", .integer), ("color-index", .integer),
   ("monochrome", .integer), ("horizontal-viewport-segments", .integer),
   ("vertical-viewport-segments", .integer), ("resolution", .resolution), ("grid", .boolean),
   ("-webkit-device-pixel-ratio", .number), ("-moz-device-pixel-ratio", .number),
   ("orientation", .word), ("hover", .word), ("any-hover", .word), ("pointer", .word),
   ("any-pointer", .word), ("prefers-color-scheme", .word), ("prefers-reduced-motion", .word),
   ("prefers-reduced-transparency", .word), ("prefers-reduced-data", .word),
   ("prefers-contrast", .word), ("display-mode", .word), ("scripting", .word), ("update", .word),
   ("overflow-block", .word), ("overflow-inline", .word), ("color-gamut", .word),
   ("dynamic-range", .word), ("video-color-gamut", .word), ("video-dynamic-range", .word),
   ("inverted-colors", .word), ("environment-blending", .word), ("forced-colors", .word),
   ("nav-controls", .word), ("scan", .word), ("shape", .word)]

/-- The kind of a feature's values. -/
def kindOf (name : Text) : Kind :=
  ((kinds.find? fun e => e.1.toList = name).map (·.2)).getD .unknown

/-- The name of a feature, the comparison that `min-` or `max-` in it stands for. -/
def featureName : Reader (Text × Option Comparison) := do
  let written ← Reader.ident
  let (mark, rest) := match Text.dropPrefix? "-webkit-".toList (Text.lowerAscii written) with
    | some r => ("-webkit-".toList, r)
    | none => ([], Text.lowerAscii written)
  let (rest, comparison) := match Text.dropPrefix? "min-".toList rest, Text.dropPrefix? "max-".toList rest with
    | some r, _ => (r, some Comparison.atLeast)
    | none, some r => (r, some .atMost)
    | none, none => (rest, none)
  let name := mark ++ rest
  if kindOf name = .unknown then return (written, none) else return (name, comparison)

/-- A comparison, or nothing for a colon where one may stand. -/
def comparison (colon : Bool) : Reader (Option Comparison) := do
  let place ← Reader.here
  let c ← Reader.next
  match c.token with
  | .colon => if colon then return none else Reader.failAt (.unexpected c.token) place
  | .delim '=' => return some .equal
  | .delim '>' => if ← Reader.takes (Reader.delim '=') then return some .atLeast else return some .greater
  | .delim '<' => if ← Reader.takes (Reader.delim '=') then return some .atMost else return some .less
  | t => Reader.failAt (.unexpected t) place

/-- A ratio; where it must be one, a slash is needed. A second number that is one is left out. -/
def ratio (must : Bool) : Reader (List Term) := do
  let a ← Calculation.number
  let slash ← if must then (do Reader.delim '/'; return true) else Reader.takes (Reader.delim '/')
  let b ← if slash then Calculation.number else pure 1
  return if b = 1 then [.number a] else [.number a, .slash, .number b]

/-- A resolution. -/
def resolution : Reader Term := Reader.expect fun
  | .dimension n u =>
    let l := Text.lowerAscii u
    if isResolutionUnit l then some (.resolution n.value l) else none
  | _ => none

/-- A value of a feature that has a meaning. -/
def knownValue : Kind → Reader (List Term)
  | .length => do return [← Measure.length]
  | .ratio => ratio false
  | .integer => do return [← Measure.integerTerm]
  | .number => do return [← Measure.numberTerm]
  | .resolution => do return [← resolution]
  | .boolean => do
    let n ← Calculation.integer
    if n = 0 || n = 1 then return [.integer n] else Reader.fail .invalidValue
  | .word => do return [.word (Written.ident (← Reader.ident))]
  | .unknown => Reader.fail .invalidValue

/-- A value of a feature, with whether it is of the kind that the feature wants. -/
def featureValue (k : Kind) : Reader (List Term × Bool) :=
  Reader.orTry (do return (← knownValue k, true)) (do
    let fits (other : Kind) : Bool := k = .unknown || k = other
    Reader.orTry (do return (← ratio true, fits .ratio)) <|
    Reader.orTry (do return ([← Measure.numberTerm], fits .number)) <|
    Reader.orTry (do return ([← Measure.length], fits .length)) <|
    Reader.orTry (do return ([← resolution], fits .resolution)) <|
    (do return ([.word (Written.ident (← Reader.ident))], fits .word)))

/-- Values of the kind can be ordered. -/
def Kind.ordered : Kind → Bool
  | .boolean | .word => false
  | _ => true

/-- A test that starts with the name of its feature. -/
def nameFirst : Reader Test := do
  let (name, implied) ← featureName
  match ← Reader.attempt (comparison true) with
  | none => return .present name
  | some written =>
    if written.isSome && implied.isSome then Reader.fail .invalidMediaQuery
    let k := kindOf name
    let (v, fits) ← featureValue k
    if !fits then Reader.fail .invalidMediaQuery
    match written.or implied with
    | some c => if k.ordered then return .range name c v else Reader.fail .invalidMediaQuery
    | none => return .value name v

/-- The name of the feature that stands somewhere ahead. -/
def nameAhead : Nat → Reader Text
  | 0 => Reader.fail .invalidMediaQuery
  | fuel + 1 => do
    match ← Reader.attempt featureName with
    | some (name, none) => return name
    | some (_, some _) => Reader.fail .invalidMediaQuery
    | none =>
      if ← Reader.atEnd then Reader.fail .invalidMediaQuery
      let _ ← Reader.next
      nameAhead fuel

/-- Both comparisons point the same way. -/
def sameWay : Comparison → Comparison → Bool
  | .greater, .greater | .greater, .atLeast | .atLeast, .greater | .atLeast, .atLeast => true
  | .less, .less | .less, .atMost | .atMost, .less | .atMost, .atMost => true
  | _, _ => false

/-- A test that starts with a value. -/
def valueFirst : Reader Test := do
  let start ← get
  let name ← nameAhead (start.items.length + 1)
  set start
  let k := kindOf name
  let (v, fits) ← featureValue k
  let first ← comparison false
  let _ ← featureName
  if !k.ordered || !fits then Reader.fail .invalidMediaQuery
  let c := first.getD .equal
  match ← Reader.attempt (comparison false) with
  | some second =>
    let d := second.getD .equal
    if !sameWay c d then Reader.fail .invalidMediaQuery
    let (w, fits) ← featureValue k
    if !fits then Reader.fail .invalidMediaQuery
    return .between name v c d w
  | none => return .range name c.opposite v

/-- A test of a feature inside its brackets. -/
def test : Reader Test := fun s =>
  match nameFirst s with
  | .ok r => .ok r
  | .error e => if e.cause = .invalidMediaQuery then .error e else valueFirst s

mutual
/-- A condition; whether `or` may join its parts. -/
def condition : Nat → Bool → Reader Condition
  | 0, _ => Reader.fail .nestedTooDeep
  | fuel + 1, ors => do
    let place ← Reader.here
    let c ← Reader.next
    match c.token with
    | .opening .round =>
      let first ← Reader.inside c (bracketed fuel)
      if ← Reader.takes (Reader.word "and") then
        return .all (first :: (← joined fuel "and"))
      else if ← Reader.takes (Reader.word "or") then
        if ors then return .any (first :: (← joined fuel "or"))
        else Reader.failAt (.unexpected (.ident "or".toList)) place
      else return first
    | .ident w =>
      if Text.eqIgnoringAsciiCase w "not".toList then
        let c ← Reader.parentheses
        return .not (← Reader.inside c (bracketed fuel))
      else Reader.failAt (.unexpected c.token) place
    | t => Reader.failAt (.unexpected t) place

/-- The parts of a condition behind the first word that joins them. -/
def joined : Nat → String → Reader (List Condition)
  | 0, _ => Reader.fail .nestedTooDeep
  | fuel + 1, w => do
    let c ← Reader.parentheses
    let part ← Reader.inside c (bracketed fuel)
    if ← Reader.takes (Reader.word w) then return part :: (← joined fuel w)
    else return [part]

/-- The inside of brackets: a condition or a test. -/
def bracketed : Nat → Reader Condition
  | 0 => Reader.fail .nestedTooDeep
  | fuel + 1 => Reader.orTry (do
      let c ← condition fuel true
      Reader.expectEnd
      return c)
    (do return .test (← test))
end

/-- Everything that is left, as a condition without a meaning. -/
def asWritten : Reader Condition := do
  let s ← get
  match Piece.ofComponents s.items with
  | .ok ps => set ({ s with items := [] } : Stream); return .unknown ps
  | .error e => throw e

/-- A condition of any form, which is kept as it was written if it has a fault that is to be recovered
from. -/
def wholeCondition (recovers ors : Bool) : Reader Condition := do
  let p := condition (4 * (← get).size + 8) ors
  if recovers then Reader.orTry p asWritten else p

/-- The type of a medium. -/
def mediaType : Reader Text := do
  let n ← Reader.ident
  let l := Text.lowerAscii n
  return if ["all", "print", "screen"].any (·.toList = l) then l else n

/-- A media query. -/
def query (recovers : Bool) : Reader Query := do
  let named ← Reader.attempt do
    let q ← Reader.attempt (Reader.expect fun
      | .ident n =>
        let l := Text.lowerAscii n
        if l = "only".toList || l = "not".toList then some l else none
      | _ => none)
    return (q, ← mediaType)
  match named with
  | none => return ⟨none, none, some (← wholeCondition recovers true)⟩
  | some (q, t) =>
    let t := if t = "all".toList then none else some t
    if ← Reader.takes (Reader.word "and") then return ⟨q, t, some (← wholeCondition recovers false)⟩
    else return ⟨q, t, none⟩

/-- The parts of a list, the last of which may be empty. -/
def parts (recovers : Bool) : Nat → Reader (List Query)
  | 0 => return []
  | fuel + 1 => do
    let (part, rest) := (← get).cut (· = .comma)
    let finish : Reader Unit := set ({ rest with items := rest.items.tail } : Stream)
    match Reader.whole (query recovers) part with
    | .ok q =>
      finish
      if rest.items.isEmpty then return [q] else return q :: (← parts recovers fuel)
    | .error e =>
      if e.cause = .endOfInput then
        set rest
        return []
      else throw e

/-- A list of media queries, which may be empty. -/
def list (recovers : Bool) : Reader (List Query) := do
  if ← Reader.atEnd then return [] else parts recovers ((← get).items.length + 1)

/-! ## Writing -/

/-- A comparison with the spaces around it. -/
def comparisonText (l : Layout) : Comparison → Text
  | .equal => l.around '='
  | .greater => l.around '>'
  | .less => l.around '<'
  | .atLeast => l.gap ++ ['>', '='] ++ l.gap
  | .atMost => l.gap ++ ['<', '='] ++ l.gap

/-- A feature's name with `min-` or `max-`, which stands behind a vendor's mark. -/
def limitedName (limit : String) (name : Text) : Text :=
  match Text.dropPrefix? "-webkit-".toList name with
  | some r => "-webkit-".toList ++ limit.toList ++ r
  | none => limit.toList ++ name

/-- A range written with `min-` or `max-`; as part of a longer test, a negation gets brackets. -/
def limitText (l : Layout) (part : Bool) (name : Text) (c : Comparison) (v : List Term) : Text :=
  let test (name : Text) : Text := '(' :: name ++ l.after ':' ++ Term.listText l v ++ [')']
  let negated (name : Text) : Text :=
    if part then '(' :: "not ".toList ++ test name ++ [')'] else "not ".toList ++ test name
  match c with
  | .equal => test name
  | .atLeast => test (limitedName "min-" name)
  | .atMost => test (limitedName "max-" name)
  | .greater => negated (limitedName "max-" name)
  | .less => negated (limitedName "min-" name)

/-- A test. -/
def testText (l : Layout) : Test → Text
  | .present n => '(' :: n ++ [')']
  | .value n v => '(' :: n ++ l.after ':' ++ Term.listText l v ++ [')']
  | .range n c v =>
    if l.supports .mediaRange then '(' :: n ++ comparisonText l c ++ Term.listText l v ++ [')']
    else limitText l false n c v
  | .between n low c d high =>
    if l.supports .mediaInterval then
      '(' :: Term.listText l low ++ comparisonText l c ++ n ++ comparisonText l d ++ Term.listText l high ++ [')']
    else limitText l true n c.opposite low ++ " and ".toList ++ limitText l true n d high

/-- A test is written as a negation or a conjunction, which needs brackets inside a condition. -/
def testNeedsBrackets (l : Layout) (inAll : Bool) : Test → Bool
  | .between _ _ _ _ _ => !l.supports .mediaInterval && !inAll
  | .range _ c _ => !l.supports .mediaRange && (c = .greater || c = .less)
  | _ => false

/-- A condition needs brackets where it stands: inside an `and`, inside an `or`, or in neither. -/
def needsBrackets (l : Layout) (inAll inAny : Bool) : Condition → Bool
  | .not _ => true
  | .all _ => !inAll
  | .any _ => !inAny
  | .test t => testNeedsBrackets l inAll t
  | .unknown _ => false

/-- Brackets where they are needed. -/
def bracket (needed : Bool) (t : Text) : Text := if needed then '(' :: t ++ [')'] else t

mutual
/-- A condition. -/
def conditionText (l : Layout) : Condition → Text
  | .test t => testText l t
  | .not (.not c) => conditionText l c
  | .not (.test (.range n c v)) => testText l (.range n c.negated v)
  | .not c => "not ".toList ++ bracket (needsBrackets l false false c) (conditionText l c)
  | .all cs => Text.join " and ".toList (conditionTexts l true false cs)
  | .any cs => Text.join " or ".toList (conditionTexts l false true cs)
  | .unknown ps => Piece.text l ps

/-- The parts of a condition. -/
def conditionTexts (l : Layout) (inAll inAny : Bool) : List Condition → List Text
  | [] => []
  | c :: r => bracket (needsBrackets l inAll inAny c) (conditionText l c) :: conditionTexts l inAll inAny r
end

/-- A query. `all` is left out before a condition. -/
def queryText (l : Layout) (q : Query) : Text :=
  let head := (q.qualifier.elim [] fun w => w ++ [' '])
    ++ (match q.type with
      | some t => t
      | none => if q.qualifier.isSome || q.condition.isNone then "all".toList else [])
  match q.condition with
  | none => head
  | some c =>
    if q.type.isSome || q.qualifier.isSome then
      head ++ " and ".toList ++ bracket (needsBrackets l true false c) (conditionText l c)
    else head ++ conditionText l c

/-- A list of queries; an empty one never holds. -/
def listText (l : Layout) (qs : List Query) : Text :=
  if qs.isEmpty then "not all".toList else Text.join (l.after ',') (qs.map (queryText l))

/-- Two lists of queries are the same: they are written the same. -/
def same (a b : List Query) : Bool := listText .short a == listText .short b

/-- The list holds in every medium. -/
def alwaysHolds (qs : List Query) : Bool :=
  qs.all fun q => q.qualifier.isNone && q.type.isNone && q.condition.isNone

/-- The list holds in no medium. -/
def neverHolds (qs : List Query) : Bool :=
  !qs.isEmpty && qs.all fun q => q.qualifier = some "not".toList && q.type.isNone && q.condition.isNone

/-! ## Browsers -/

mutual
/-- A condition holds a range of resolutions. -/
def boundsResolution : Condition → Bool
  | .test (.range n _ _) => n = "resolution".toList
  | .test _ | .unknown _ => false
  | .not c => boundsResolution c
  | .all cs | .any cs => anyBoundsResolution cs

/-- One of some conditions holds a range of resolutions. -/
def anyBoundsResolution : List Condition → Bool
  | [] => false
  | c :: r => boundsResolution c || anyBoundsResolution r
end

mutual
/-- A condition with a vendor's ratio of pixels in place of resolutions. -/
def withRatio (v : Vendor) : Condition → Condition
  | .test (.range n c [.resolution r u]) =>
    if n = "resolution".toList then
      .test (.range (v.mark ++ "device-pixel-ratio".toList) c [.number (dotsPerPixel r u)])
    else .test (.range n c [.resolution r u])
  | .not c => .not (withRatio v c)
  | .all cs => .all (withRatios v cs)
  | .any cs => .any (withRatios v cs)
  | c => c

/-- Conditions with a vendor's ratio of pixels in place of resolutions. -/
def withRatios (v : Vendor) : List Condition → List Condition
  | [] => []
  | c :: r => withRatio v c :: withRatios v r
end

/-- Puts queries into a list, each unless the list holds it already, and counts the places they were
meant for. -/
def spread (i : Nat) (qs : List Query) : List Query → List Query × Nat
  | [] => (qs, i)
  | q :: r => spread (i + 1) (if qs.any fun p => same [p] [q] then qs else qs.insertIdx i q) r

/-- The queries from a place on, with vendors' forms before those about resolutions. -/
def forTargetsFrom (t : Targets) : Nat → Nat → List Query → List Query
  | 0, _, qs => qs
  | fuel + 1, i, qs =>
    match qs[i]? with
    | none => qs
    | some q =>
      let marked : List Query := match q.condition with
        | some c =>
          if boundsResolution c then
            ((t.vendors .plain .resolution).without .plain).toList.map fun v =>
              { q with condition := some (withRatio v c) }
          else []
        | none => []
      let (qs, j) := spread i qs marked
      forTargetsFrom t fuel (j + 1) qs

/-- The queries with the vendors' forms that browsers need. -/
def forTargets (t : Targets) (qs : List Query) : List Query := forTargetsFrom t (qs.length * 3) 0 qs

end StylePrune.Css.Media
