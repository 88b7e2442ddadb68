import StylePrune.Css.Reduce.Declarations
import StylePrune.Css.Rule.Basic
import StylePrune.Css.Selector.Support

/-!
Reducing the rules of a stylesheet.

`Stylesheet.reduce` leaves out rules without an effect, joins neighbours that say the same, removes a rule
that a later one overrides in full, gathers the blocks of a layer, and splits or rewrites selectors that
some browser does not know. What a block comes to for one direction of text only follows in rules of its
own behind the next style rule.
-/
namespace StylePrune.Css

/-! ## Single rules -/

/-- A selector of a style rule may go into `:is()`: no pseudo-element stands in it. -/
def wrapsIntoIs (t : Targets) (list : List Selector) : Bool :=
  t.supports .isSelector && !list.any (·.hasPseudoElement) && match list with
    | [] => true
    | s :: r => r.all fun x => Specificity.ofSelector x == Specificity.ofSelector s

/-- Selectors that every browser knows, and those that need a rule of their own so that the others are
not lost with them. -/
def separate (t : Targets) (list : List Selector) : List Selector × List Selector :=
  if list.length > 1 && !Selector.allKnown t list then
    if wrapsIntoIs t list then ([.compound [.is list]], [])
    else list.partition fun s => Selector.allKnown t [s]
  else (list, [])

/-- A style rule with its selectors rewritten for browsers. -/
def StyleHead.adapt (t : Targets) (h : StyleHead) : StyleHead :=
  let (selectors, vendors) := Selector.adapt t h.selectors
  { h with selectors, vendors }

namespace Frame

/-- Equality of frames. -/
def same (f g : Frame) : Bool := f.moments == g.moments && f.body.same g.body

/-- Equality of lists of frames. -/
def sameAll : List Frame → List Frame → Bool
  | [], [] => true
  | f :: r, g :: s => f.same g && sameAll r s
  | _, _ => false

/-- A frame with its declarations reduced. -/
def reduce (t : Targets) (f : Frame) : Frame × Directed :=
  let (body, directed) := f.body.reduce t
  ({ f with body }, directed)

end Frame

namespace GroupHead

/-- Two neighbouring groups say the same, so that one can hold the rules of both. -/
def same : GroupHead → GroupHead → Bool
  | media a, media b => Media.same a b
  | supports a, supports b => Supports.same a b
  | container n a, container m b => n == m && match a, b with
    | none, none => true
    | some a, some b => Media.conditionText .short a == Media.conditionText .short b
    | _, _ => false
  | _, _ => false

/-- The head with the marks that browsers need. -/
def forTargets (t : Targets) : GroupHead → GroupHead
  | media qs => media (Media.forTargets t qs)
  | supports c => supports (Supports.forTargets t c)
  | h => h

/-- The rules of the group never apply. -/
def neverHolds : GroupHead → Bool
  | media qs => Media.neverHolds qs
  | _ => false

end GroupHead

/-! ## Neighbours -/

/-- What becomes of a style rule that is taken into the one before it: the rule for both, which of its own
selectors are still its own, and what its declarations come to for each direction of text. -/
structure Merger where
  head : StyleHead
  selectors : List Selector
  directed : Directed

/-- A style rule taken into the one before it, where one rule can say what both say. -/
def StyleHead.mergeInto (t : Targets) (new last : StyleHead) : Option Merger :=
  let known := Selector.allKnown t new.selectors && Selector.allKnown t last.selectors
  let vendors := if new.vendors.standard then new.vendors else last.vendors.union new.vendors
  if known && Simple.sameLists new.selectors last.selectors then
    let (body, directed) := (last.body.append new.body).reduce t
    some ⟨{ last with body }, new.selectors, directed⟩
  else if new.body.same last.body then
    if !new.vendors.isEmpty && !last.vendors.isEmpty && Selector.equivalent new.selectors last.selectors then
      some ⟨{ last with vendors }, new.selectors, .empty⟩
    else if known then
      some ⟨{ last with selectors := last.selectors ++ new.selectors, vendors }, [], .empty⟩
    else none
  else none

/-- What makes a rule override another one in full: its selectors and the names of its properties. -/
structure RuleKey where
  selectors : List Selector
  properties : List (Property.Name × Vendors)

namespace RuleKey

/-- The key of a style rule. -/
def of (h : StyleHead) : RuleKey :=
  ⟨h.selectors, (h.body.usual ++ h.body.important).map fun d => (d.name, d.vendors)⟩

/-- Equality of keys. -/
def same (a b : RuleKey) : Bool :=
  a.properties == b.properties && Simple.sameLists a.selectors b.selectors

end RuleKey

/-- Rules that have been reduced, where a rule that was removed leaves its slot empty; where the animations,
layers, registered properties and style rules among them stand; and what the declarations since the last
style rule come to for each direction of text. -/
structure Gathering where
  slots : Array (Option Rule)
  animations : List (Text × Nat)
  layers : List (LayerName × Nat)
  registered : List (Text × Nat)
  keys : List (RuleKey × Nat)
  hasLayers : Bool
  pending : Directed

namespace Gathering

/-- No rule, with declarations for each direction that come from before. -/
def starting (pending : Directed) : Gathering := ⟨#[], [], [], [], [], false, pending⟩

/-- Adds a rule. -/
def push (g : Gathering) (r : Rule) : Gathering := { g with slots := g.slots.push (some r) }

/-- The rule in a slot. -/
def rule? (g : Gathering) (i : Nat) : Option Rule := (g.slots[i]?).join

/-- Replaces or removes the rule in a slot. -/
def set (g : Gathering) (i : Nat) (r : Option Rule) : Gathering :=
  { g with slots := g.slots.setIfInBounds i r }

/-- The last rule. -/
def last? (g : Gathering) : Option Rule := g.rule? (g.slots.size - 1)

/-- Replaces the last rule. -/
def setLast (g : Gathering) (r : Rule) : Gathering := g.set (g.slots.size - 1) (some r)

/-- The rules in order. -/
def rules (g : Gathering) : List Rule := g.slots.toList.filterMap id

/-- Adds declarations for each direction of text. -/
def await (g : Gathering) (d : Directed) : Gathering := { g with pending := g.pending.append d }

/-- Takes the last rule into the one before it as often as that is possible. -/
def cascade (t : Targets) : Nat → Gathering → Gathering
  | 0, g => g
  | fuel + 1, g =>
    match g.last?, g.rule? (g.slots.size - 2) with
    | some (.style new []), some (.style last []) =>
      if g.slots.size < 2 then g
      else match new.mergeInto t last with
        | some m => cascade t fuel ((setLast { g with slots := g.slots.pop } (.style m.head [])).await m.directed)
        | none => g
    | _, _ => g

/-- Takes a style rule into the last rule, and gives the selectors that are still its own. -/
def merge? (t : Targets) (g : Gathering) (new : StyleHead) : Option (Gathering × List Selector) :=
  match g.last? with
  | some (.style last []) =>
    (new.mergeInto t last).map fun m =>
      (cascade t g.slots.size ((g.setLast (.style m.head [])).await m.directed), m.selectors)
  | _ => none

/-- Adds a style rule without rules inside it, and removes an earlier one that it overrides in full. -/
def pushLeaf (g : Gathering) (h : StyleHead) : Gathering :=
  let key := RuleKey.of h
  let same (e : RuleKey × Nat) : Bool := e.1.same key && match g.rule? e.2 with
    | some (.style old _) => (RuleKey.of old).same key
        && old.body.usual.length == h.body.usual.length
    | _ => false
  let g' := g.push (.style h [])
  match g.keys.find? same with
  | some e => { g'.set e.2 none with keys := (key, g.slots.size) :: g.keys.filter fun k => k.2 ≠ e.2 }
  | none => { g' with keys := (key, g.slots.size) :: g.keys }

/-- The rules for each direction of text under selectors. -/
def directedRules (selectors : List Selector) (d : Directed) : List Rule :=
  let one (flow : Flow) (ds : List Declaration) : List Rule :=
    if ds.isEmpty then []
    else [.style ⟨selectors.map (Selector.extend (.pseudoClass (.dir flow))), .empty, ⟨ds, []⟩⟩ []]
  one .leftToRight d.ltr ++ one .rightToLeft d.rtl

/-- Adds a style rule whose declarations and inner rules are reduced; what reducing does to rules for one
direction of text is given. -/
def addStyle (t : Targets) (sub : List Rule → List Rule) (g : Gathering) (h : StyleHead) (rules : List Rule) :
    Gathering :=
  let (main, others) := separate t h.selectors
  let head := StyleHead.adapt t { h with selectors := main }
  let merged := if rules.isEmpty then g.merge? t head else none
  let (g, own) := merged.getD (g, head.selectors)
  let directed (list : List Selector) : List Rule := sub (directedRules list g.pending)
  let logical := directedRules own g.pending
  let splits := !rules.isEmpty && !main.isEmpty && !(others.isEmpty && logical.isEmpty)
  let kept := if splits then [] else rules
  let copy (g : Gathering) (s : Selector) : Gathering :=
    let c := StyleHead.adapt t { h with selectors := [s] }
    let g := if c.body.isEmpty && rules.isEmpty then g else g.push (.style c rules)
    (directed c.selectors).foldl push g
  let g :=
    if merged.isSome || main.isEmpty || (head.body.isEmpty && kept.isEmpty) then g
    else if kept.isEmpty then g.pushLeaf head
    else g.push (.style head kept)
  let g := others.foldl copy ((sub logical).foldl push g)
  let g := if splits then g.push (.style { head with body := .empty } rules) else g
  { g with pending := .empty }

/-- Rules for one direction of text, reduced. Nothing in them depends on the direction any more. -/
def reduceDirected (t : Targets) (rules : List Rule) : List Rule :=
  (rules.foldl (fun g r => match r with
    | .style h inner => g.addStyle t id { h with body := (h.body.reduce t).1 } inner
    | r => g.push r) (starting .empty)).rules

/-- What reducing does to the rules inside a rule, with the declarations for each direction of text that
come from before and those that are left behind. -/
abbrev Inner := Directed → List Rule → List Rule × Directed

/-- Rules inside a rule that shares its directed declarations with what is around, reduced. -/
def within (g : Gathering) (inner : Inner) (rules : List Rule) : Gathering × List Rule :=
  let (reduced, pending) := inner g.pending rules
  ({ g with pending }, reduced)

/-- Adds a group. A group that says the same as the last rule gives its rules to it. -/
def addGroup (t : Targets) (inner : Inner) (g : Gathering) (head : GroupHead) (rules : List Rule) : Gathering :=
  let fresh (_ : Unit) : Gathering :=
    let (g, reduced) := g.within inner rules
    let head := head.forTargets t
    if reduced.isEmpty || head.neverHolds then g else g.push (.group head reduced)
  match g.last? with
  | some (.group last before) =>
    if last.same head then
      let (g, reduced) := g.within inner (before ++ rules)
      g.setLast (.group (last.forTargets t) reduced)
    else fresh ()
  | _ => fresh ()

/-- Adds the block of a layer. Blocks of a layer are gathered where the layer was first named. -/
def addLayer (g : Gathering) (name : Option LayerName) (rules : List Rule) : Gathering :=
  let fresh (layers : List (LayerName × Nat)) : Gathering :=
    { g.push (.group (.layer name) rules) with layers, hasLayers := true }
  match name with
  | none => fresh g.layers
  | some n =>
    match g.layers.lookup n with
    | some i => match g.rule? i with
      | some (.group h before) => g.set i (some (.group h (before ++ rules)))
      | _ => fresh ((n, g.slots.size) :: g.layers)
    | none => fresh ((n, g.slots.size) :: g.layers)

/-- Names a layer, so that later blocks are gathered here. -/
def nameLayer (g : Gathering) (n : LayerName) : Gathering :=
  match g.layers.lookup n with
  | some _ => g
  | none => g.addLayer (some n) []

/-- Adds an animation, joined to an earlier one of the same name where that is possible. -/
def addAnimation (t : Targets) (g : Gathering) (vendors : Vendors) (name : Text) (quoted : Bool)
    (frames : List Frame) : Gathering :=
  let reduced := frames.map (Frame.reduce t)
  let frames := reduced.map (·.1)
  let g := reduced.foldl (fun g f => g.await f.2) g
  let needed (v : Vendors) : Vendors := t.vendors v .animation
  let fresh : Gathering :=
    { g.push (.plain (.keyframes (needed vendors) name quoted frames)) with
      animations := (name, g.slots.size) :: g.animations.filter fun a => a.1 ≠ name }
  match g.animations.lookup name with
  | none => fresh
  | some i => match g.rule? i with
    | some (.plain (.keyframes old _ _ before)) =>
      if old = vendors then g.set i (some (.plain (.keyframes vendors name quoted frames)))
      else if Frame.sameAll before frames then
        g.set i (some (.plain (.keyframes (needed (old.union vendors)) name quoted before)))
      else fresh
    | _ => fresh

/-- Adds a registered property; a later registration takes the place of an earlier one. -/
def addRegistration (g : Gathering) (r : Registration) : Gathering :=
  match g.registered.lookup r.name with
  | some i => g.set i (some (.plain (.registration r)))
  | none => { g.push (.plain (.registration r)) with registered := (r.name, g.slots.size) :: g.registered }

/-- Adds a rule, given what reducing does to the rules inside. -/
def add (t : Targets) (inner : Inner) (g : Gathering) : Rule → Gathering
  | .style h rules =>
    let (body, directed) := h.body.reduce t
    (g.await directed).addStyle t (reduceDirected t) { h with body } (inner .empty rules).1
  | .group (.layer name) rules => g.addLayer name rules
  | .group h rules => g.addGroup t inner h rules
  | .region .startingStyle rules =>
    let (g, reduced) := g.within inner rules
    if reduced.isEmpty then g else g.push (.region .startingStyle reduced)
  | .region (.nest h) rules =>
    let (body, directed) := h.body.reduce t
    (g.await directed).push (.region (.nest { h with body }) (inner .empty rules).1)
  | .region h rules =>
    let (g, reduced) := g.within inner rules
    g.push (.region h reduced)
  | .plain (.layers names) => names.foldl nameLayer g
  | .plain (.keyframes vs n q fs) => g.addAnimation t vs n q fs
  | .plain (.registration r) => g.addRegistration r
  | .plain (.declarations body) =>
    let (body, directed) := body.reduce t
    let g := g.await directed
    if body.isEmpty then g else g.push (.plain (.declarations body))
  | .plain (.importSheet u l s m) => { g.push (.plain (.importSheet u l s m)) with layers := [] }
  | .plain r => g.push (.plain r)

end Gathering

/-! ## Layers -/

/-- Layers whose order has been settled: those named so far; rules, the last one first; the names of a
statement that can still take more; imported sheets behind that statement, the last one first; and what is
left for each direction of text. -/
structure LayerOrder where
  named : List LayerName
  rules : List Rule
  running : List LayerName
  behind : List Rule
  pending : Directed

namespace LayerOrder

/-- Ends the statement that could take more names. -/
def close (o : LayerOrder) : LayerOrder :=
  if o.running.isEmpty then o
  else { o with running := [], behind := [], rules := o.behind ++ .plain (.layers o.running) :: o.rules }

/-- Adds a rule behind everything. -/
def push (o : LayerOrder) (r : Rule) : LayerOrder :=
  let o := o.close
  { o with rules := r :: o.rules }

/-- Adds a rule. The block of a layer that holds no rule names the layer in a statement, once. -/
def add (inner : Gathering.Inner) (o : LayerOrder) : Rule → LayerOrder
  | .group (.layer name) rules =>
    let (reduced, pending) := inner o.pending rules
    let o := { o with pending }
    if reduced.isEmpty then
      match name with
      | none => o
      | some n =>
        if o.named.contains n then o
        else { o with named := n :: o.named, running := o.running ++ [n] }
    else o.push (.group (.layer name) reduced)
  | .plain (.importSheet u none c m) =>
    if o.running.isEmpty then o.push (.plain (.importSheet u none c m))
    else { o with behind := .plain (.importSheet u none c m) :: o.behind }
  | .plain (.importSheet u (some l) c m) =>
    let o := o.push (.plain (.importSheet u (some l) c m))
    { o with named := l.toList ++ o.named }
  | r => o.push r

/-- Rules with their layers reduced, and with statements in place of blocks without rules. -/
def settle (inner : Gathering.Inner) (g : Gathering) : List Rule × Directed :=
  let o := (g.rules.foldl (add inner) ⟨[], [], [], [], g.pending⟩).close
  (o.rules.reverse, o.pending)

end LayerOrder

namespace Rule

mutual
/-- How deep rules stand inside a rule. -/
def height : Rule → Nat
  | style _ rules | group _ rules | region _ rules => heights rules + 1
  | plain _ => 0

/-- How deep rules stand inside the rules of a list. -/
def heights : List Rule → Nat
  | [] => 0
  | r :: rs => max (height r) (heights rs)
end

/-- The reduced form of rules, given what reducing does to the rules inside them. -/
def reduceWith (t : Targets) (inner : Gathering.Inner) : Gathering.Inner := fun pending rules =>
  let g := rules.foldl (Gathering.add t inner) (.starting pending)
  if g.hasLayers then LayerOrder.settle inner g else (g.rules, g.pending)

/-- The reduced form of rules that stand at most so deep. -/
def reduceTo (t : Targets) : Nat → Gathering.Inner
  | 0 => reduceWith t fun pending rules => (rules, pending)
  | depth + 1 => reduceWith t (reduceTo t depth)

/-- The reduced form of rules. -/
def reduce (t : Targets) (rules : List Rule) : List Rule := (reduceTo t (heights rules) .empty rules).1

end Rule

namespace Stylesheet

/-- The reduced form of a stylesheet. -/
def reduce (t : Targets) (s : Stylesheet) : Stylesheet := { s with rules := Rule.reduce t s.rules }

end Stylesheet
end StylePrune.Css
