import StylePrune.Css.Rule.Basic
import StylePrune.Css.Selector.Print

/-!
Writing the rules of a stylesheet.

`Stylesheet.print` writes a stylesheet. Where browsers do not know nested rules, a nested rule is written
behind its parent, with the parent's selectors in place of `&`.
-/
namespace StylePrune.Css

/-- How rules are written: the layout, how deep they stand, the vendor of the rule that is written, and
the selectors of the rules around, the innermost first. -/
structure Page where
  layout : Layout
  depth : Nat
  vendor : Option Vendor
  parents : List (List Selector)

namespace Page

/-- A new line with its indentation. -/
def line (p : Page) : Text :=
  if p.layout.compact then [] else '\n' :: List.replicate (2 * p.depth) ' '

/-- An empty line. -/
def blank (p : Page) : Text := if p.layout.compact then [] else ['\n']

/-- One level deeper. -/
def inner (p : Page) : Page := { p with depth := p.depth + 1 }

/-- Nested rules are written behind their parents. -/
def unfolds (p : Page) : Bool := !p.layout.supports .nesting

/-- The text in braces behind what starts a rule. -/
def block (p : Page) (content : Page → Text) : Text :=
  p.layout.gap ++ '{' :: content p.inner ++ p.line ++ ['}']

/-- Lines of declarations. The last semicolon is left out where spare characters are. -/
def declarations (p : Page) (more : Bool) : List Text → Text
  | [] => []
  | [t] => p.line ++ t ++ (if p.layout.compact && !more then [] else [';'])
  | t :: r => p.line ++ t ++ ';' :: declarations p more r

/-- Declarations in braces. -/
def declarationBlock (p : Page) (ts : List Text) : Text := p.block fun p => p.declarations false ts

end Page

namespace Selector

/-- A list of selectors under the selectors of the rules around it. -/
def underParents (layout : Layout) (vendor : Option Vendor) (relative : Bool) :
    List (List Selector) → List Selector → Text
  | [], list => listText ⟨layout, vendor, !layout.supports .nesting, fun _ =>
      if layout.supports .nesting then ['&'] else ":scope".toList⟩ relative list
  | parent :: outer, list =>
    let all := underParents layout vendor false outer parent
    let isPlain : Bool := match parent with
      | [s] => !s.startsWithTag && s.isSingle
      | _ => false
    listText ⟨layout, vendor, !layout.supports .nesting, fun leading =>
      if parent.length = 1 && (leading || isPlain) then all
      else ":is(".toList ++ all ++ [')']⟩ relative list

end Selector

namespace Page

/-- Selectors as they are written on the page. -/
def selectors (p : Page) (list : List Selector) : Text :=
  Selector.underParents p.layout p.vendor false p.parents list

end Page

/-- The name of a layer. -/
def LayerName.text (n : LayerName) : Text := Text.join ['.'] (n.map Written.ident)

namespace Moment

/-- A moment in its shorter spelling, or as it was written. -/
def text (l : Layout) : Moment → Text
  | start => if l.compact then ['0', '%'] else "from".toList
  | finish => "to".toList
  | percent r => if l.compact && r = 1 then "to".toList else Written.percentage r

end Moment

namespace PageSelector

/-- The selector of a page. -/
def text (s : PageSelector) : Text :=
  s.name.elim [] Written.ident ++ (s.classes.map fun c => ':' :: c).flatten

end PageSelector

namespace GroupHead

/-- The beginning of a group of rules. Conditions on containers are never rewritten for browsers. -/
def text (l : Layout) : GroupHead → Text
  | media qs => "@media ".toList ++ Media.listText l qs
  | supports c => "@supports ".toList ++ Supports.text l c
  | container name c =>
    let parts := name.toList.map Written.ident
      ++ c.toList.map fun c => Media.conditionText { l with targets := none } c
    "@container ".toList ++ Text.join [' '] parts
  | layer name => "@layer".toList ++ name.elim [] fun n => ' ' :: LayerName.text n

end GroupHead

namespace RegionHead

/-- The beginning of a region. The elements it ends at are selected from those it starts at. -/
def text (p : Page) : RegionHead → Text
  | scope root limit =>
    let brackets (p : Page) (list : List Selector) : Text :=
      '(' :: Selector.underParents p.layout p.vendor true p.parents list ++ [')']
    let start := root.elim [] fun r => p.layout.gap ++ brackets p r
    let finish := limit.elim [] fun list =>
      let p := match root with
        | some r => { p with parents := r :: p.parents }
        | none => p
      ' ' :: "to ".toList ++ brackets p list
    "@scope".toList ++ start ++ finish
  | startingStyle => "@starting-style".toList
  | mozDocument => "@-moz-document url-prefix()".toList
  | nest head => p.selectors head.selectors

end RegionHead

namespace PlainRule

/-- An animation under one vendor's mark. -/
def keyframesText (p : Page) (name : Text) (frames : List Frame) (v : Vendor) : Text :=
  let frame (p : Page) (f : Frame) : Text :=
    Text.join (p.layout.after ',') (f.moments.map (·.text p.layout))
      ++ p.declarationBlock (f.body.texts p.layout)
  '@' :: v.mark ++ "keyframes ".toList ++ name ++ p.block fun p =>
    Text.join p.blank (frames.map fun f => p.line ++ frame p f)

/-- The path of another stylesheet with what it depends on. -/
def importText (l : Layout) (url : Text) (layer : Option (Option LayerName))
    (supports : Option Supports.Condition) (media : List Media.Query) : Text :=
  let condition (c : Supports.Condition) : Text :=
    let t := Supports.text l c
    match c with
    | .declaration _ _ _ => t
    | _ => '(' :: t ++ [')']
  "@import ".toList ++ Written.string url
    ++ (layer.elim [] fun n => " layer".toList ++ n.elim [] fun n => '(' :: LayerName.text n ++ [')'])
    ++ (supports.elim [] fun c => " supports".toList ++ condition c)
    ++ (if media.isEmpty then [] else ' ' :: Media.listText l media) ++ [';']

/-- What needs a rule around it where nested rules are not known gets one with the selectors of the
enclosing rule. -/
def wrapped (p : Page) (alone : Text) (inRule : Page → Text) : Text :=
  match p.parents with
  | parent :: outer =>
    if p.unfolds then
      let p := { p with parents := outer }
      p.selectors parent ++ p.block inRule
    else alone
  | [] => alone

/-- Declarations without a rule of their own; alone, the first one stands on the line that has begun. -/
def bareDeclarations (p : Page) (body : Declarations) : Text :=
  let texts := body.texts p.layout
  wrapped p (Text.join (';' :: p.line) texts ++ (if p.layout.compact then [] else [';']))
    fun p => p.declarations false texts

/-- A rule without a meaning, as it was written. -/
def unknownText (p : Page) (name start : Text) (block : Option Text) : Text :=
  let written (p : Page) : Text :=
    '@' :: name ++ (if start.isEmpty then [] else ' ' :: start) ++ (match block with
      | some b => p.block fun p => p.line ++ b
      | none => [';'])
  wrapped p (written p) fun p => p.line ++ written p

/-- A custom property that is registered. -/
def registrationText (p : Page) (r : Registration) : Text :=
  let entry (p : Page) (name : String) (value : Text) : Text :=
    p.line ++ name.toList ++ p.layout.after ':' ++ value
  "@property ".toList ++ Written.ident r.name ++ p.block fun p =>
    entry p "syntax" (r.values.text p.layout) ++ ';' ::
      entry p "inherits" (if r.inherits then "true".toList else "false".toList) ++ (match r.initial with
        | none => []
        | some v => ';' :: entry p "initial-value" (match v with
            | .inl ts => Term.listText p.layout ts
            | .inr ps => Piece.text p.layout ps) ++ (if p.layout.compact then [] else [';']))

/-- A rule without rules inside it. -/
def text (p : Page) : PlainRule → Text
  | declarations body => bareDeclarations p body
  | layers names =>
    "@layer ".toList ++ Text.join (p.layout.after ',') (names.map LayerName.text) ++ [';']
  | keyframes vs name quoted frames =>
    let name := if quoted then Written.string name else Written.ident name
    Text.join (p.blank ++ p.line) (vs.toList.map (keyframesText p name frames))
  | fontFace body => "@font-face".toList ++ p.declarationBlock (body.map (·.text p.layout))
  | registration r => registrationText p r
  | page sels body =>
    let space : Text := match sels with
      | s :: _ => if !p.layout.compact || s.name.isSome then [' '] else []
      | [] => []
    "@page".toList ++ space ++ Text.join (p.layout.after ',') (sels.map (·.text))
      ++ p.declarationBlock (body.texts p.layout)
  | counterStyle name body =>
    "@counter-style ".toList ++ Written.ident name ++ p.declarationBlock (body.texts p.layout)
  | viewTransition body =>
    "@view-transition".toList ++ p.declarationBlock (body.flatMap (·.texts p.layout false))
  | fontFeatureValues families =>
    "@font-feature-values ".toList ++ Text.join (p.layout.after ',') (families.map (·.text p.layout))
      ++ p.layout.gap ++ ['{', '}']
  | importSheet url layer supports media => importText p.layout url layer supports media
  | namespaceUrl mark url =>
    "@namespace ".toList ++ (mark.elim [] fun m => Written.ident m ++ [' ']) ++ Written.string url ++ [';']
  | unknown name start block => unknownText p name start block

/-- A rule that ends with a semicolon and stands close to others of its kind. -/
def isStatement : PlainRule → Bool
  | layers _ | importSheet _ _ _ _ | namespaceUrl _ _ => true
  | _ => false

end PlainRule

namespace Rule

/-- A rule that ends with a semicolon and stands close to others of its kind. -/
def isStatement : Rule → Bool
  | plain r => r.isStatement
  | _ => false

/-- Declarations that stand alone without a semicolon behind the last one. -/
def isOpen (p : Page) : Rule → Bool
  | plain (.declarations _) => p.layout.compact && !(p.unfolds && !p.parents.isEmpty)
  | _ => false

mutual
/-- A rule. -/
def text (p : Page) : Rule → Text
  | style head rules =>
    let vendors := head.vendors.toList
    if vendors.isEmpty then styleText p head rules
    else
      Text.join (p.blank ++ p.line) (vendors.map fun v => styleText { p with vendor := some v } head rules)
  | group (.media qs) rules =>
    if p.layout.compact && Media.alwaysHolds qs then listText p true false rules
    else (GroupHead.media qs).text p.layout ++ p.block fun p => p.line ++ listText p true false rules
  | group head rules => head.text p.layout ++ p.block fun p => p.line ++ listText p true false rules
  | region (.nest head) rules =>
    (if p.parents.isEmpty || !p.unfolds then "@nest ".toList else []) ++ styleText p head rules
  | region head rules =>
    head.text p ++ p.block fun q =>
      q.line ++ listText (match head with
        | .scope _ _ => { q with parents := [] }
        | _ => q) true false rules
  | plain r => r.text p

/-- A style rule for one vendor or for all. -/
def styleText (p : Page) (head : StyleHead) (rules : List Rule) : Text :=
  let texts := head.body.texts p.layout
  let isLeaf := rules.isEmpty
  if isLeaf || !p.unfolds then
    p.selectors head.selectors ++ p.block fun p =>
      p.declarations (!isLeaf) texts
        ++ (if isLeaf then [] else (if texts.isEmpty then [] else p.blank) ++ p.line ++ listText p true false rules)
  else
    (if texts.isEmpty then [] else p.selectors head.selectors ++ p.declarationBlock texts ++ p.blank ++ p.line)
      ++ listText { p with parents := head.selectors :: p.parents } true false rules

/-- Rules one below the other, with an empty line between them unless both are statements; whether the
rule is the first, and whether a statement stands before it. -/
def listText (p : Page) (first statement : Bool) : List Rule → Text
  | [] => []
  | r :: rs =>
    (if first then [] else (if statement && r.isStatement then [] else p.blank) ++ p.line)
      ++ text p r ++ (if !rs.isEmpty && r.isOpen p then [';'] else []) ++ listText p false r.isStatement rs
end

end Rule

namespace Stylesheet

/-- The text of a stylesheet. -/
def print (l : Layout) (s : Stylesheet) : Text :=
  let p : Page := ⟨l, 0, none, []⟩
  (s.notices.map fun n => '/' :: '*' :: n ++ ['*', '/', '\n']).flatten ++ Rule.listText p true false s.rules
    ++ p.line

end Stylesheet
end StylePrune.Css
