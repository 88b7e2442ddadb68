import StylePrune.Css.Selector.Basic

/-!
Which browsers know a selector.

`Selector.allKnown` says that every browser knows a list of selectors as it stands. `Selector.adapt`
rewrites a list for browsers that do not, and gives the vendors that its rule has to be written for.
-/
namespace StylePrune.Css.Selector

/-- A combinator as old as the second level of selectors, or one of the third. -/
def combinatorFeature? : Combinator → Option Feature
  | .descendant => none
  | .child | .nextSibling => some .selectors2
  | .laterSibling => some .selectors3

/-- The feature behind an attribute selector. -/
def attributeFeature (test : Option AttributeTest) : Feature :=
  match test with
  | none => .selectors2
  | some t =>
    if t.caseRule ≠ .usual then .caseInsensitive
    else if t.operator == '=' || t.operator == '~' || t.operator == '|' then .selectors2
    else .selectors3

/-- The feature behind a pseudo-class about the state of an element, if browsers know it at all. -/
def stateFeature? : PseudoClass → Option Feature
  | .lang _ => some .selectors2
  | .dir _ => some .dirSelector
  | .named vendors name =>
    let table : List (List String × Feature) :=
      [(["link", "visited", "active", "hover", "focus"], .selectors2),
       (["checked", "disabled", "enabled", "target"], .selectors3), (["any-link"], .anyLink),
       (["indeterminate"], .indeterminate), (["fullscreen"], .fullscreen),
       (["focus-visible"], .focusVisible), (["focus-within"], .focusWithin),
       (["default"], .defaultPseudo), (["optional"], .optionalPseudo),
       (["placeholder-shown"], .placeholderShown), (["read-only", "read-write"], .readOnlyWrite),
       (["valid", "invalid", "required"], .formValidation), (["in-range", "out-of-range"], .inOutOfRange),
       (["autofill"], .autofill)]
    if vendors = .plain then (table.find? fun e => e.1.any (·.toList = name)).map (·.2) else none
  | _ => none

/-- The feature behind a pseudo-element, if browsers know it at all. -/
def elementFeature? : PseudoElement → Option Feature
  | .named vendors name =>
    let table : List (List String × Feature) :=
      [(["before", "after"], .generatedContent), (["first-line"], .firstLine),
       (["first-letter"], .firstLetter), (["selection"], .selection), (["placeholder"], .placeholder),
       (["marker"], .marker), (["backdrop"], .dialog), (["cue"], .cue)]
    if vendors = .plain then (table.find? fun e => e.1.any (·.toList = name)).map (·.2) else none
  | .customCall name _ => if Text.lowerAscii name = "cue".toList then some .cueFunction else none
  | _ => none

mutual
/-- Every browser knows the simple selector. -/
def simpleKnown (t : Targets) : Simple → Bool
  | .tag _ | .id _ | .className _ => true
  | .inNamespace _ => t.supports .namespaces
  | .universal => t.supports .selectors2
  | .attr _ _ test => t.supports (attributeFeature test)
  | .empty | .root => t.supports .selectors3
  | .not l => t.supports .selectors3 && allKnown t l
  | .nth .child a b => if a = 0 ∧ b = 1 then t.supports .selectors2 else t.supports .selectors3
  | .nth .col _ _ | .nth .lastCol _ _ => false
  | .nth _ _ _ => t.supports .selectors3
  | .nthOf _ _ _ l => t.supports .nthChildOf && allKnown t l
  | .is l => (unwraps l && allKnown t l) || t.supports .isSelector
  | .whereAny _ | .nesting => t.supports .isSelector
  | .any _ _ => false
  | .has l => t.supports .hasSelector && allKnown t l
  | .scope | .host _ | .slotted _ => t.supports .shadowDom
  | .part _ => t.supports .partPseudo
  | .pseudoClass p => (stateFeature? p).any t.supports
  | .pseudoElement p => (elementFeature? p).any t.supports

/-- Every browser knows the simple selectors. -/
def simplesKnown (t : Targets) : List Simple → Bool
  | [] => true
  | p :: r => simpleKnown t p && simplesKnown t r

/-- Every browser knows the selector. -/
def known (t : Targets) : Selector → Bool
  | .compound ps => simplesKnown t ps
  | .combined l c ps => known t l && (combinatorFeature? c).all t.supports && simplesKnown t ps

/-- Every browser knows the selectors. -/
def allKnown (t : Targets) : List Selector → Bool
  | [] => true
  | s :: r => known t s && allKnown t r
end

/-! ## Vendors -/

/-- How browsers may know a pseudo-class under a mark. -/
def stateMark? (name : Text) : Option Marked :=
  let table : List (String × Marked) :=
    [("fullscreen", .fullscreen), ("any-link", .anyLink), ("read-only", .readOnly),
     ("read-write", .readOnly), ("placeholder-shown", .placeholderShown), ("autofill", .autofill)]
  (table.find? fun e => e.1.toList = name).map (·.2)

/-- How browsers may know a pseudo-element under a mark. -/
def elementMark? (name : Text) : Option Marked :=
  let table : List (String × Marked) :=
    [("selection", .selection), ("placeholder", .placeholder), ("backdrop", .backdrop),
     ("file-selector-button", .fileSelectorButton)]
  (table.find? fun e => e.1.toList = name).map (·.2)

/-- The vendors that a simple selector is marked for. The standard also stands for what may have to be
rewritten. -/
def simpleVendors : Simple → Vendors
  | .is _ | .whereAny _ | .has _ | .not _ | .pseudoClass (.lang _) | .pseudoClass (.dir _) => .plain
  | .any v _ => .only v
  | .pseudoClass (.named vs n) => if (stateMark? n).isSome then vs else .empty
  | .pseudoElement (.named vs n) => if (elementMark? n).isSome then vs else .empty
  | _ => .empty

/-- The vendors of simple selectors, or none where one is marked for others than those before it. -/
def gather : Vendors → List Vendors → Vendors
  | s, [] => s
  | s, vs :: r =>
    let marked := s.without .plain
    if vs.isEmpty then gather s r
    else if marked.isEmpty || marked == vs then gather (s.union vs) r else .empty

/-- The vendors that a list of selectors is marked for. -/
def writtenVendors (l : List Selector) : Vendors :=
  gather .empty ((l.flatMap matchOrder).map simpleVendors)

/-! ## Rewriting -/

/-- The languages that are written from right to left. -/
def rightToLeftLanguages : List String :=
  ["ae", "ar", "arc", "bcc", "bqi", "ckb", "dv", "fa", "glk", "he", "ku", "mzn", "nqo", "pnb", "ps", "sd",
   "ug", "ur", "yi"]

/-- The vendors that `:is()` has to be written for. -/
def isVendors (t : Targets) : Vendors :=
  if t.supports .isSelector then .plain else t.vendors .plain .anyPseudo

/-- An `:is()` whose members have been rewritten, and the vendors it needs. -/
def isOf (t : Targets) (members : List Selector) : Simple × Vendors :=
  (.is members, if !unwraps members && members.all (·.isSingle) then isVendors t else .plain)

/-- A `:not()` whose members have been rewritten, and the vendors it needs. -/
def notOf (t : Targets) (members : List Selector) : Simple × Vendors :=
  if members.length > 1 && !t.supports .notSelectorList then
    (.not [.compound [.is members]], isVendors t)
  else (.not members, .empty)

/-- One `:lang()` for each language. -/
def langs (languages : List Text) : List Selector :=
  languages.map fun l => .compound [.pseudoClass (.lang [l])]

/-- A `:lang()`, which takes one language only in some browsers. -/
def langOf (t : Targets) (languages : List Text) : Simple × Vendors :=
  if languages.length > 1 && !t.supports .langSelectorList then isOf t (langs languages)
  else (.pseudoClass (.lang languages), .empty)

/-- A `:dir()`, which the languages of a direction stand for in some browsers. -/
def dirOf (t : Targets) (f : Flow) : Simple × Vendors :=
  let languages := rightToLeftLanguages.map String.toList
  if t.supports .dirSelector then (.pseudoClass (.dir f), .empty)
  else match f, t.supports .langSelectorList with
    | .leftToRight, true => notOf t [.compound [.pseudoClass (.lang languages)]]
    | .rightToLeft, true => (.pseudoClass (.lang languages), .empty)
    | .leftToRight, false => notOf t (langs languages)
    | .rightToLeft, false => isOf t (langs languages)

/-- Adds vendors that a simple selector needs for what is inside it. -/
def alsoFor (v : Vendors) (p : Simple × Vendors) : Simple × Vendors := (p.1, v.union p.2)

mutual
/-- A simple selector rewritten for the browsers, and the vendors it needs. -/
def adaptSimple (t : Targets) : Simple → Simple × Vendors
  | .pseudoClass (.lang ls) => langOf t ls
  | .pseudoClass (.dir f) => dirOf t f
  | .pseudoClass (.named vs n) => match stateMark? n with
    | some m => (.pseudoClass (.named (t.vendors vs m) n), t.vendors vs m)
    | none => (.pseudoClass (.named vs n), .empty)
  | .pseudoElement (.named vs n) => match elementMark? n with
    | some m => (.pseudoElement (.named (t.vendors vs m) n), t.vendors vs m)
    | none => (.pseudoElement (.named vs n), .empty)
  | .is l => let (m, v) := adaptAll t l; alsoFor v (isOf t m)
  | .not l => let (m, v) := adaptAll t l; alsoFor v (notOf t m)
  | .whereAny l => let (m, v) := adaptAll t l; (.whereAny m, v)
  | .any w l => let (m, v) := adaptAll t l; (.any w m, v)
  | .has l => let (m, v) := adaptAll t l; (.has m, v)
  | p => (p, .empty)

/-- Simple selectors rewritten for the browsers, and the vendors they need. -/
def adaptSimples (t : Targets) : List Simple → List Simple × Vendors
  | [] => ([], .empty)
  | p :: r =>
    let (q, v) := adaptSimple t p
    let (s, w) := adaptSimples t r
    (q :: s, v.union w)

/-- A selector rewritten for the browsers, and the vendors it needs. -/
def adaptOne (t : Targets) : Selector → Selector × Vendors
  | .compound ps => let (qs, v) := adaptSimples t ps; (.compound qs, v)
  | .combined l c ps =>
    let (m, v) := adaptOne t l
    let (qs, w) := adaptSimples t ps
    (.combined m c qs, v.union w)

/-- A list of selectors rewritten for the browsers, and the vendors it needs. -/
def adaptAll (t : Targets) : List Selector → List Selector × Vendors
  | [] => ([], .empty)
  | s :: r =>
    let (m, v) := adaptOne t s
    let (ms, w) := adaptAll t r
    (m :: ms, v.union w)
end

/-- A list of selectors rewritten for the browsers, and the vendors that its rule is written for. -/
def adapt (t : Targets) (l : List Selector) : List Selector × Vendors :=
  let v := writtenVendors l
  if v.standard then adaptAll t l else (l, v)

/-! ## Equality up to marks -/

mutual
/-- A simple selector without the vendors it is marked for. -/
def unmarked : Simple → Simple
  | .pseudoClass (.named _ n) => .pseudoClass (.named .plain n)
  | .pseudoElement (.named _ n) => .pseudoElement (.named .plain n)
  | .any _ l | .is l => .is (unmarkedAll l)
  | p => p

/-- Simple selectors without the vendors they are marked for. -/
def unmarkedSimples : List Simple → List Simple
  | [] => []
  | p :: r => unmarked p :: unmarkedSimples r

/-- A selector without vendors' marks. -/
def withoutMarks : Selector → Selector
  | .compound ps => .compound (unmarkedSimples ps)
  | .combined l c ps => .combined (withoutMarks l) c (unmarkedSimples ps)

/-- Selectors without vendors' marks. -/
def unmarkedAll : List Selector → List Selector
  | [] => []
  | s :: r => withoutMarks s :: unmarkedAll r
end

/-- Two lists of selectors differ only in vendors' marks. -/
def equivalent (a b : List Selector) : Bool := Simple.sameLists (unmarkedAll a) (unmarkedAll b)

end StylePrune.Css.Selector
