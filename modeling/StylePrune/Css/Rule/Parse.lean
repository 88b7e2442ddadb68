import StylePrune.Css.Rule.Opening

/-!
Reading the rules of a stylesheet.

`Stylesheet.parse` reads a whole stylesheet. A rule or declaration with a fault is left out if faults
are to be recovered from, and stops the reading otherwise. In a style rule such a fault also takes the
declarations before it.
-/
namespace StylePrune.Css

/-- A block that holds declarations only. -/
def Declarations.parse (recovers : Bool) (s : Stream) : Except Fault Declarations :=
  (Body.items Declaration.afterName s).foldlM (fun acc item => match item with
    | .ok (d, important) => .ok (acc.push d important)
    | .error f => if recovers then .ok acc else .error f) .empty

namespace Frame

/-- A moment of an animation. -/
def moment : Reader Moment := Reader.expect fun
  | .percentage n => some (.percent n.value)
  | .ident n =>
    let l := Text.lowerAscii n
    if l = "from".toList then some .start else if l = "to".toList then some .finish else none
  | _ => none

/-- The frames of an animation; what is wrong is left out. -/
def parseItems (recovers : Bool) : Nat → Stream → List Frame
  | 0, _ => []
  | fuel + 1, s =>
    match s.items with
    | [] => []
    | c :: _ =>
      if isFiller c.token then parseItems recovers fuel s.tail
      else match c.token with
        | .atKeyword _ => parseItems recovers fuel s.tail.afterItem
        | _ =>
          let (moments, rest) := s.before (· == .opening .curly) (Reader.separated moment)
          match moments, rest.items with
          | .ok ms, .block _ _ _ parts finish _ :: _ =>
            match Declarations.parse recovers ⟨parts, finish⟩ with
            | .ok body => ⟨ms, body⟩ :: parseItems recovers fuel rest.tail
            | .error _ => parseItems recovers fuel rest.tail
          | _, _ => parseItems recovers fuel rest.tail

/-- The frames of an animation. -/
def parse (recovers : Bool) (s : Stream) : List Frame := parseItems recovers (s.items.length + 1) s

end Frame

namespace Rule

/-- What the reading of rules depends on. -/
structure Surroundings where
  /-- What has a fault is left out. -/
  recovers : Bool
  /-- A style rule is around. -/
  inStyle : Bool
  /-- Declarations may stand beside rules. -/
  declares : Bool

/-- What has been read from a block: rules, the last one first, and the declarations before them. -/
structure Items where
  rules : List Rule
  body : Declarations

/-- Nothing. -/
def Items.empty : Items := ⟨[], .empty⟩

/-- Adds a declaration: to those at the beginning, or to those behind the last rule. -/
def Items.declare (i : Items) (d : Declaration) (important : Bool) : Items :=
  match i.rules with
  | [] => { i with body := i.body.push d important }
  | .plain (.declarations b) :: r => { i with rules := .plain (.declarations (b.push d important)) :: r }
  | rs => { i with rules := .plain (.declarations (Declarations.empty.push d important)) :: rs }

/-- The rules of a group. Declarations at its beginning become a rule. -/
def Items.grouped (i : Items) : List Rule :=
  let rules := i.rules.reverse
  if i.body.isEmpty then rules else .plain (.declarations i.body) :: rules

/-- An at-rule that ends with a semicolon. -/
def withoutBlock (inStyle : Bool) : Opening → Option (List Rule)
  | .layers names => if inStyle || names.isEmpty then none else some [.plain (.layers names)]
  | .plain (.importSheet u l s m) => some [.plain (.importSheet u l s m)]
  | .plain (.namespaceUrl m u) => some [.plain (.namespaceUrl m u)]
  | .plain (.unknown n p b) => some [.plain (.unknown n p b)]
  | .charset => some []
  | _ => none

/-- The stage behind an at-rule at the top of a stylesheet. -/
def stageAfter (hasBlock : Bool) (o : Opening) (s : Stage) : Stage :=
  if hasBlock then .body
  else match o with
    | .plain (.importSheet _ _ _ _) => .imports
    | .plain (.namespaceUrl _ _) => .namespaces
    | .layers _ => if s.isAfter .layers then .body else .layers
    | .plain (.unknown _ _ _) => .body
    | _ => s

mutual
/-- The items of a block. -/
def parseItems : Nat → Surroundings → Items → Stream → Except Fault Items
  | 0, _, acc, _ => .ok acc
  | fuel + 1, around, acc, s =>
    match s.items with
    | [] => .ok acc
    | c :: _ =>
      if isFiller c.token then parseItems fuel around acc s.tail
      else
        let go (step : Step (List Rule)) : Except Fault Items :=
          match step with
          | (.ok rules, rest) => parseItems fuel around { acc with rules := rules.reverse ++ acc.rules } rest
          | (.error f, rest) =>
            if around.recovers then
              parseItems fuel around (if around.declares then { acc with body := .empty } else acc) rest
            else .error f
        match c.token with
        | .atKeyword name =>
          let (step, _) := atRule fuel around none name s.tail
          go step
        | .ident name =>
          if around.declares then
            let (r, rest) := s.tail.before (· == .semicolon) (Declaration.afterName name)
            match r with
            | .ok (d, important) => parseItems fuel around (acc.declare d important) rest.tail
            | .error f =>
              match qualified fuel around true s with
              | (.ok rules, rest) => go (.ok rules, rest)
              | (.error _, rest) => go (.error f, rest)
          else go (qualified fuel around false s)
        | _ => go (qualified fuel around around.declares s)

/-- A rule that starts with selectors. Where declarations may stand beside it, a semicolon ends it. -/
def qualified : Nat → Surroundings → Bool → Stream → Step (List Rule)
  | 0, _, _, s => (.error ⟨.nestedTooDeep, s.place⟩, s.tail)
  | fuel + 1, around, semicolons, s =>
    let selectors := if around.inStyle then Selector.readRelative else Selector.readList
    let (list, rest) :=
      s.before (fun t => t == .opening .curly || (semicolons && t == .semicolon)) selectors
    match rest.items with
    | .block _ _ _ parts finish _ :: _ =>
      let rule : Except Fault (List Rule) := do
        let items ← parseItems fuel { around with inStyle := true, declares := true } .empty
          ⟨parts, finish⟩
        return [.style ⟨← list, .empty, items.body⟩ items.rules.reverse]
      (match list with
        | .ok _ => rule
        | .error f => .error f, rest.tail)
    | c :: _ => (.error ⟨.unexpected c.token, rest.place⟩, rest.tail)
    | [] => (.error ⟨.endOfInput, rest.place⟩, rest)

/-- An at-rule behind its name, and the stage behind it. -/
def atRule : Nat → Surroundings → Option Stage → Text → Stream → Step (List Rule) × Option Stage
  | 0, _, stage, _, s => ((.error ⟨.nestedTooDeep, s.place⟩, s.tail), stage)
  | fuel + 1, around, stage, name, s =>
    let (start, rest) := s.before (fun t => t == .opening .curly || t == .semicolon)
      (Opening.read around.recovers around.inStyle stage name)
    match start with
    | .error f => ((.error f, rest.tail), stage)
    | .ok o =>
      match rest.items with
      | .block _ _ _ parts finish _ :: _ =>
        ((withBlock fuel around o ⟨parts, finish⟩, rest.tail), stage.map (stageAfter true o))
      | _ => match withoutBlock around.inStyle o with
        | some rules => ((.ok rules, rest.tail), stage.map (stageAfter false o))
        | none => ((.error ⟨.unexpected .semicolon, rest.tail.place⟩, rest.tail), stage)

/-- An at-rule with its block. -/
def withBlock : Nat → Surroundings → Opening → Stream → Except Fault (List Rule)
  | 0, _, _, s => .error ⟨.nestedTooDeep, s.place⟩
  | fuel + 1, around, o, s => do
    let inner : Surroundings := { around with declares := around.declares || around.inStyle }
    let grouped := do return (← parseItems fuel inner .empty s).grouped
    match o with
    | .group head => return [.group head (← grouped)]
    | .region (.nest head) =>
      let items ← parseItems fuel inner .empty s
      return [.region (.nest { head with body := items.body }) items.rules.reverse]
    | .region head => return [.region head (← grouped)]
    | .layers [] => return [.group (.layer none) (← grouped)]
    | .layers [n] => return [.group (.layer (some n)) (← grouped)]
    | .layers _ => .error ⟨.invalidBody, s.place⟩
    | .plain (.keyframes v n q _) => return [.plain (.keyframes v n q (Frame.parse around.recovers s))]
    | .plain (.fontFace _) => return [.plain (.fontFace (Body.sound FontFace.descriptor s))]
    | .plain (.viewTransition _) =>
      return [.plain (.viewTransition (((Body.sound Declaration.afterName s).filter (!·.2)).map (·.1)))]
    | .property name => return [.plain (.registration (← Registration.read name s))]
    | .plain (.fontFeatureValues fs) => return [.plain (.fontFeatureValues fs)]
    | .plain (.page sels _) => return [.plain (.page sels (← Declarations.parse around.recovers s))]
    | .plain (.counterStyle n _) =>
      return [.plain (.counterStyle n (← Declarations.parse around.recovers s))]
    | .plain (.unknown n p _) =>
      match Component.anyBroken? s.items with
      | some (t, place) => .error ⟨.unexpected t, place⟩
      | none => return [.plain (.unknown n p (some (Written.components s.items)))]
    | _ => .error ⟨.unexpected (.opening .curly), s.place⟩
end

end Rule

namespace Stylesheet

/-- White space, a comment, or a mark that hides a stylesheet in markup. -/
def isSeparator : Token → Bool
  | .blank _ | .comment _ | .markupOpen | .markupClose => true
  | _ => false

/-- The rules at the top of a stylesheet, given what comes first and how far the stylesheet has come. -/
def parseRules (recovers : Bool) : Nat → Bool → Stage → Stream → Except Fault (List Rule)
  | 0, _, _, _ => .ok []
  | fuel + 1, first, stage, s =>
    match s.items with
    | [] => .ok []
    | c :: _ =>
      if isSeparator c.token then parseRules recovers fuel first stage s.tail
      else
        let around : Rule.Surroundings := ⟨recovers, false, false⟩
        let depth := 2 * Component.sizes s.items + 4
        let go (stage : Stage) : Step (List Rule) → Except Fault (List Rule)
          | (.ok rules, rest) => do return rules ++ (← parseRules recovers fuel false stage rest)
          | (.error f, rest) => if recovers then parseRules recovers fuel false stage rest else .error f
        match c.token with
        | .atKeyword name =>
          if first && Text.eqIgnoringAsciiCase name "charset".toList then
            parseRules recovers fuel false stage s.tail.afterItem
          else
            let (step, after) := Rule.atRule depth around (some stage) name s.tail
            go (after.getD stage) step
        | _ => go .body (Rule.qualified depth around false s)

/-- The comments at the beginning that start with an exclamation mark. -/
def noticesOf : List Component → List Text
  | .leaf (.blank _) _ _ :: r => noticesOf r
  | .leaf (.comment ('!' :: t)) _ _ :: r => ('!' :: t) :: noticesOf r
  | _ => []

/-- Reads a stylesheet. -/
def parse (recovers : Bool) (css : Text) : Except Fault Stylesheet := do
  let s := Stream.ofText css
  return ⟨noticesOf s.items, ← parseRules recovers (s.items.length + 1) true .beginning s⟩

end Stylesheet
end StylePrune.Css
