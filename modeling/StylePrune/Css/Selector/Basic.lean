import StylePrune.Css.Piece

/-!
Selectors.

A selector is a compound of simple selectors, or a selector joined to such a compound by a combinator.
Where a pseudo-element stands in a compound, what follows it belongs to the pseudo-element.
-/
namespace StylePrune.Css

/-- How two compounds of a selector are related. -/
inductive Combinator where
  | descendant
  | child
  | nextSibling
  | laterSibling
deriving DecidableEq, Repr

/-- The namespace of a name. -/
inductive Namespace where
  | any
  | none
  | named (name : Text)
deriving DecidableEq, Repr

/-- How letter case counts when an attribute is compared. -/
inductive CaseRule where
  | usual
  | ignored
  | kept
deriving DecidableEq, Repr

/-- The comparison of an attribute: `=` or the first character of `~=`, `|=`, `^=`, `$=` and `*=`. -/
structure AttributeTest where
  operator : Char
  value : Text
  caseRule : CaseRule
deriving DecidableEq, Repr

/-- Which children a position counts. -/
inductive Counting where
  | child
  | lastChild
  | onlyChild
  | ofType
  | lastOfType
  | onlyOfType
  | col
  | lastCol
deriving DecidableEq, Repr

/-- A direction of text. -/
inductive Flow where
  | leftToRight
  | rightToLeft
deriving DecidableEq, Repr

/-- A pseudo-class that says something about the state of an element. -/
inductive PseudoClass where
  /-- A known one, with the vendors it is marked for. -/
  | named (vendors : Vendors) (name : Text)
  | lang (languages : List Text)
  | dir (flow : Flow)
  | custom (name : Text)
  | customCall (name : Text) (args : List Piece)
deriving Repr

/-- A pseudo-element. -/
inductive PseudoElement where
  /-- A known one, with the vendors it is marked for. -/
  | named (vendors : Vendors) (name : Text)
  | custom (name : Text)
  | customCall (name : Text) (args : List Piece)
deriving Repr

mutual
/-- A simple selector. -/
inductive Simple where
  | tag (name : Text)
  | universal
  | inNamespace (ns : Namespace)
  | id (name : Text)
  | className (name : Text)
  | attr (ns : Option Namespace) (name : Text) (test : Option AttributeTest)
  /-- The selector of the enclosing rule. -/
  | nesting
  | scope
  | root
  | empty
  /-- A position `a * n + b`. -/
  | nth (counting : Counting) (a b : Int)
  | nthOf (counting : Counting) (a b : Int) (among : List Selector)
  | not (list : List Selector)
  | is (list : List Selector)
  | whereAny (list : List Selector)
  | any (vendor : Vendor) (list : List Selector)
  | has (list : List Selector)
  | host (inner : List Selector)
  | slotted (inner : Selector)
  | part (names : List Text)
  | pseudoClass (p : PseudoClass)
  | pseudoElement (p : PseudoElement)

/-- A selector. -/
inductive Selector where
  | compound (parts : List Simple)
  | combined (left : Selector) (combinator : Combinator) (parts : List Simple)
end

namespace Selector

/-- The compounds from left to right. -/
def compounds : Selector → List (List Simple)
  | compound ps => [ps]
  | combined l _ ps => compounds l ++ [ps]

/-- All simple selectors from left to right, those inside arguments left out. -/
def simples (s : Selector) : List Simple := s.compounds.flatten

/-- The first compound. -/
def first : Selector → List Simple
  | compound ps => ps
  | combined l _ _ => first l

/-- There is more than one compound. -/
def isCombined : Selector → Bool
  | compound _ => false
  | combined _ _ _ => true

/-- A pseudo-element stands in the selector. -/
def hasPseudoElement (s : Selector) : Bool := s.simples.any fun
  | .pseudoElement _ => true
  | _ => false

/-- A simple selector that says which tag an element has. -/
def isTag : Simple → Bool
  | .tag _ | .universal => true
  | _ => false

/-- The first compound starts with a tag, a namespace before it not counting. -/
def startsWithTag (s : Selector) : Bool :=
  match s.first with
  | .inNamespace _ :: p :: _ => isTag p
  | p :: _ => isTag p
  | [] => false

/-- One compound and no pseudo-element or part of a shadow tree. -/
def isSingle (s : Selector) : Bool := !s.isCombined && s.simples.all fun
  | .pseudoElement _ | .part _ | .slotted _ => false
  | _ => true

/-- A simple selector that starts a part of its compound for which pseudo-elements, parts and slots stand. -/
def startsPart : Simple → Bool
  | .pseudoElement (.named _ _) | .part _ | .slotted _ => true
  | _ => false

/-- A compound cut before each pseudo-element, part and slot with a meaning, the last piece first. -/
def partsOf (ps : List Simple) : List (List Simple) :=
  ps.foldl (fun acc p => match acc with
    | last :: r => if startsPart p then [p] :: acc else (last ++ [p]) :: r
    | [] => [[p]]) [[]]

/-- The simple selectors in the order in which they are matched: from the last compound to the first. -/
def matchOrder (s : Selector) : List Simple := (s.compounds.reverse.flatMap partsOf).flatten

/-- Adds a simple selector at the end of the last compound, but before the pseudo-element there. -/
def extend (p : Simple) : Selector → Selector
  | compound ps => compound (inserted ps)
  | combined l c ps => combined l c (inserted ps)
where
  /-- The simple selector put into a compound. -/
  inserted (ps : List Simple) : List Simple :=
    match partsOf ps with
    | [] => [p]
    | last :: before =>
      let isElement : Simple → Bool
        | .pseudoElement _ => true
        | _ => false
      before.reverse.flatten ++ last.takeWhile (!isElement ·) ++ p :: last.dropWhile (!isElement ·)

/-- Puts a selector in front of another one. -/
def under (outer : List Simple) (c : Combinator) : Selector → Selector
  | compound ps => combined (compound outer) c ps
  | combined l d ps => combined (under outer c l) d ps

end Selector

/-- A list of selectors can stand in the place of its `:is()`: it has one member, which is a single
compound without a tag. -/
def unwraps : List Selector → Bool
  | [s] => !s.startsWithTag && s.isSingle
  | _ => false

/-! ## Specificity -/

/-- How specific a selector is: ids, classes and tags. -/
structure Specificity where
  ids : Nat
  classes : Nat
  tags : Nat
deriving DecidableEq, Repr

namespace Specificity

/-- No weight. -/
def zero : Specificity := ⟨0, 0, 0⟩

/-- The sum of two weights. -/
def add (a b : Specificity) : Specificity := ⟨a.ids + b.ids, a.classes + b.classes, a.tags + b.tags⟩

/-- One weight is less than another. -/
def lt (a b : Specificity) : Bool :=
  a.ids < b.ids || (a.ids == b.ids && (a.classes < b.classes || (a.classes == b.classes && a.tags < b.tags)))

/-- The greater of two weights. -/
def max (a b : Specificity) : Specificity := if a.lt b then b else a

mutual
/-- The weight of a simple selector. -/
def ofSimple : Simple → Specificity
  | .tag _ | .pseudoElement _ | .part _ => ⟨0, 0, 1⟩
  | .id _ => ⟨1, 0, 0⟩
  | .className _ | .attr _ _ _ | .root | .empty | .scope | .nth _ _ _ | .pseudoClass _ => ⟨0, 1, 0⟩
  | .universal | .inNamespace _ | .nesting | .whereAny _ => zero
  | .nthOf _ _ _ l => add ⟨0, 1, 0⟩ (ofList l)
  | .not l | .is l | .any _ l | .has l => ofList l
  | .host l => add ⟨0, 1, 0⟩ (ofList l)
  | .slotted s => add ⟨0, 0, 1⟩ (ofSelector s)

/-- The weight of simple selectors together. -/
def ofSimples : List Simple → Specificity
  | [] => zero
  | p :: r => add (ofSimple p) (ofSimples r)

/-- The weight of a selector. -/
def ofSelector : Selector → Specificity
  | .compound ps => ofSimples ps
  | .combined l _ ps => add (ofSelector l) (ofSimples ps)

/-- The greatest weight in a list. -/
def ofList : List Selector → Specificity
  | [] => zero
  | s :: r => max (ofSelector s) (ofList r)
end

end Specificity
/-! ## Equality -/

/-- Equality of pseudo-classes. -/
def PseudoClass.same : PseudoClass → PseudoClass → Bool
  | .named v n, .named w m => v == w && n == m
  | .lang l, .lang m => l == m
  | .dir d, .dir e => d == e
  | .custom n, .custom m => n == m
  | .customCall n a, .customCall m b => n == m && Piece.sameAll a b
  | _, _ => false

/-- Equality of pseudo-elements. -/
def PseudoElement.same : PseudoElement → PseudoElement → Bool
  | .named v n, .named w m => v == w && n == m
  | .custom n, .custom m => n == m
  | .customCall n a, .customCall m b => n == m && Piece.sameAll a b
  | _, _ => false

mutual
/-- Equality of simple selectors. -/
def Simple.same : Simple → Simple → Bool
  | .tag n, .tag m | .id n, .id m | .className n, .className m => n == m
  | .universal, .universal | .nesting, .nesting | .scope, .scope | .root, .root | .empty, .empty => true
  | .inNamespace n, .inNamespace m => n == m
  | .attr s n t, .attr r m u => s == r && n == m && t == u
  | .nth k a b, .nth l c d => k == l && a == c && b == d
  | .nthOf k a b l, .nthOf k' c d m => k == k' && a == c && b == d && Simple.sameLists l m
  | .not l, .not m | .is l, .is m | .whereAny l, .whereAny m | .has l, .has m | .host l, .host m =>
    Simple.sameLists l m
  | .any v l, .any w m => v == w && Simple.sameLists l m
  | .slotted s, .slotted r => Selector.same s r
  | .part n, .part m => n == m
  | .pseudoClass p, .pseudoClass q => p.same q
  | .pseudoElement p, .pseudoElement q => p.same q
  | _, _ => false

/-- Equality of compounds. -/
def Simple.sameAll : List Simple → List Simple → Bool
  | [], [] => true
  | a :: r, b :: s => Simple.same a b && Simple.sameAll r s
  | _, _ => false

/-- Equality of selectors. -/
def Selector.same : Selector → Selector → Bool
  | .compound a, .compound b => Simple.sameAll a b
  | .combined l c a, .combined m d b => Selector.same l m && c == d && Simple.sameAll a b
  | _, _ => false

/-- Equality of lists of selectors. -/
def Simple.sameLists : List Selector → List Selector → Bool
  | [], [] => true
  | a :: r, b :: s => Selector.same a b && Simple.sameLists r s
  | _, _ => false
end

end StylePrune.Css
