import StylePrune.Css.Selector.Basic

/-!
Writing selectors.

`Selector.listText` writes a list of selectors. An `&` is written as the selectors of the enclosing
rules where the browsers do not know nested rules, and a vendor that a whole rule is written for shows
in the names that are marked for vendors.
-/
namespace StylePrune.Css.Selector

/-- What the text of a selector depends on besides the selector. -/
structure Setting where
  layout : Layout
  /-- The vendor that the rule is written for, where it is written once for each of several. -/
  vendor : Option Vendor
  /-- An `&` is replaced by the selectors of the enclosing rule. -/
  replaces : Bool
  /-- The text of `&`, at the start of a compound or elsewhere. -/
  nesting : Bool → Text

/-- A combinator with the spaces around it. -/
def combinatorText (l : Layout) : Combinator → Text
  | .descendant => [' ']
  | .child => l.around '>'
  | .nextSibling => l.around '+'
  | .laterSibling => l.around '~'

/-- The bar of a namespace with what stands before it. -/
def namespaceText : Namespace → Text
  | .any => ['*', '|']
  | .none => ['|']
  | .named n => Written.ident n ++ ['|']

/-- A position as it is written between brackets. -/
def positionText (a b : Int) : Text :=
  let int (n : Int) : Text := (toString n).toList
  let signed (n : Int) : Text := (if n < 0 then [] else ['+']) ++ int n
  if b = 0 then
    if a = 0 then ['0'] else if a = 1 then ['n'] else if a = -1 then ['-', 'n'] else int a ++ ['n']
  else if a = 2 ∧ b = 1 then "odd".toList
  else if a = 0 then int b
  else if a = 1 then 'n' :: signed b
  else if a = -1 then '-' :: 'n' :: signed b
  else int a ++ 'n' :: signed b

/-- The name of a position with its opening bracket. -/
def countingName : Counting → String
  | .child => ":nth-child("
  | .lastChild => ":nth-last-child("
  | .ofType => ":nth-of-type("
  | .lastOfType => ":nth-last-of-type("
  | .col => ":nth-col("
  | .lastCol => ":nth-last-col("
  | .onlyChild => ":only-child"
  | .onlyOfType => ":only-of-type"

/-- The name of a first or only position. -/
def edgeName : Counting → Option String
  | .child => some ":first-child"
  | .lastChild => some ":last-child"
  | .ofType => some ":first-of-type"
  | .lastOfType => some ":last-of-type"
  | .onlyChild => some ":only-child"
  | .onlyOfType => some ":only-of-type"
  | .col | .lastCol => none

/-- A position. -/
def nthText (k : Counting) (a b : Int) : Text :=
  let full := (countingName k).toList ++ positionText a b ++ [')']
  if a = 0 ∧ b = 1 then (edgeName k).elim full String.toList else full

/-- The operator of an attribute selector. -/
def operatorText (o : Char) : Text := if o == '=' then ['='] else [o, '=']

/-- An attribute selector. Its value is quoted, or bare where that is shorter on one line. -/
def attributeText (l : Layout) (ns : Option Namespace) (name : Text) (test : Option AttributeTest) : Text :=
  let value (v : Text) : Text :=
    let quoted := Written.string v
    let bare := Written.ident v
    if l.compact && !bare.isEmpty && Text.byteCount bare < Text.byteCount quoted then bare else quoted
  let rest := match test with
    | none => []
    | some t => operatorText t.operator ++ value t.value ++ (match t.caseRule with
      | .usual => []
      | .ignored => [' ', 'i']
      | .kept => [' ', 's'])
  '[' :: (ns.elim [] namespaceText) ++ Written.ident name ++ rest ++ [']']

/-- The vendor that a name is written for: that of the rule if the name is marked for it, or else the only
one that it is marked for. -/
def Setting.vendorOf (s : Setting) (own : Vendors) : Vendor :=
  match s.vendor with
  | some v => if own.has v then v else .standard
  | none => match own.toList with
    | [v] => v
    | _ => .standard

/-- A pseudo-class about the state of an element. -/
def stateText (s : Setting) : PseudoClass → Text
  | .named own name =>
    let marked := ["fullscreen", "any-link", "read-only", "read-write", "placeholder-shown", "autofill"]
    if marked.any (·.toList = name) then
      let v := s.vendorOf own
      let full := name = "fullscreen".toList && (v = .webkit || v = .moz)
      ':' :: v.mark ++ (if full then "full-screen".toList else name)
    else ':' :: name
  | .lang ls => ":lang(".toList ++ Text.join (s.layout.after ',') (ls.map Written.ident) ++ [')']
  | .dir .leftToRight => ":dir(ltr)".toList
  | .dir .rightToLeft => ":dir(rtl)".toList
  | .custom n => ':' :: n
  | .customCall n args => ':' :: n ++ '(' :: Piece.text s.layout args ++ [')']

/-- A pseudo-element. The four oldest are written with one colon. -/
def elementText (s : Setting) : PseudoElement → Text
  | .named own name =>
    if ["before", "after", "first-line", "first-letter"].any (·.toList = name) then ':' :: name
    else
      let v := s.vendorOf own
      if name = "placeholder".toList then
        ':' :: ':' :: v.mark ++ (if v = .webkit || v = .ms then "input-placeholder" else "placeholder").toList
      else if name = "file-selector-button".toList then
        ':' :: ':' :: v.mark ++ (match v with
          | .webkit => "file-upload-button".toList
          | .ms => "browse".toList
          | _ => name)
      else if name = "selection".toList ∨ name = "backdrop".toList then ':' :: ':' :: v.mark ++ name
      else ':' :: ':' :: name
  | .custom n => ':' :: ':' :: Written.ident n
  | .customCall n args => ':' :: ':' :: Written.ident n ++ '(' :: Piece.text s.layout args ++ [')']

/-- A simple selector with its text. -/
abbrev Spelled := Simple × Text

/-- Puts a leading `&` that will be replaced behind a tag, because a tag can only come first. -/
def tagFirst : List Spelled → List Spelled
  | amp :: (.inNamespace n, w) :: t :: r =>
    if isTag t.1 then (.inNamespace n, w) :: t :: amp :: r else amp :: (.inNamespace n, w) :: t :: r
  | amp :: t :: r => if isTag t.1 then t :: amp :: r else amp :: t :: r
  | ps => ps

/-- A `*` says something: no namespace stands before it and nothing else beside it but an `&`, or a
namespace does. -/
def starCounts (ps : List Simple) : Bool :=
  match ps with
  | [.universal] | [.nesting, .universal] => true
  | .inNamespace _ :: _ | .nesting :: .inNamespace _ :: _ => true
  | _ => false

/-- Joins the parts of a compound, which is the first of its selector or not. -/
def joinCompound (s : Setting) (first : Bool) (ps : List Spelled) : Text :=
  let simple := ps.map (·.1)
  let ps : List Spelled := if starCounts simple then ps else ps.filter fun p => match p.1 with
    | .universal => false
    | _ => true
  let ps : List Spelled := match ps with
    | (.nesting, w) :: r =>
      if first && s.replaces then
        match tagFirst ((.nesting, w) :: r) with
        | (.nesting, _) :: rest => (.nesting, s.nesting true) :: rest
        | rest => rest
      else ps
    | _ => ps
  (ps.map (·.2)).flatten

/-- Leaves out what a relative selector starts from. -/
def withoutScope : List Spelled → List Spelled
  | (.scope, _) :: r => r
  | ps => ps

mutual
/-- A list of selectors. -/
def listText (s : Setting) (relative : Bool) : List Selector → Text
  | [] => []
  | [sel] => text s relative sel
  | sel :: r => text s relative sel ++ s.layout.after ',' ++ listText s relative r

/-- A selector. In a relative one what it starts from is left out. -/
def text (s : Setting) (relative : Bool) : Selector → Text
  | .compound ps => joinCompound s true (if relative then withoutScope (spell s ps) else spell s ps)
  | .combined l c ps =>
    text s relative l ++ combinatorText s.layout c ++ joinCompound s false (spell s ps)

/-- Simple selectors with their texts. -/
def spell (s : Setting) : List Simple → List Spelled
  | [] => []
  | p :: r => (p, simpleText s p) :: spell s r

/-- A simple selector. -/
def simpleText (s : Setting) : Simple → Text
  | .tag n => Written.ident n
  | .universal => ['*']
  | .inNamespace n => namespaceText n
  | .id n => '#' :: Written.ident n
  | .className n => '.' :: Written.ident n
  | .attr ns n t => attributeText s.layout ns n t
  | .nesting => s.nesting false
  | .scope => ":scope".toList
  | .root => ":root".toList
  | .empty => ":empty".toList
  | .nth k a b => nthText k a b
  | .nthOf k a b l =>
    (countingName k).toList ++ positionText a b ++ " of ".toList ++ listText s false l ++ [')']
  | .not l => ":not(".toList ++ listText s false l ++ [')']
  | .is l =>
    if unwraps l then listText s false l
    else (match s.vendor with
      | some .webkit => ":-webkit-any(".toList
      | some .moz => ":-moz-any(".toList
      | _ => ":is(".toList) ++ listText s false l ++ [')']
  | .whereAny l => ":where(".toList ++ listText s false l ++ [')']
  | .any v l =>
    (match s.vendor.getD v with
      | .webkit => ":-webkit-any(".toList
      | .moz => ":-moz-any(".toList
      | _ => ":is(".toList) ++ listText s false l ++ [')']
  | .has l => ":has(".toList ++ listText s true l ++ [')']
  | .host l => ":host".toList ++ (if l.isEmpty then [] else '(' :: listText s false l ++ [')'])
  | .slotted sel => "::slotted(".toList ++ text s false sel ++ [')']
  | .part ns => "::part(".toList ++ Text.join [' '] (ns.map Written.ident) ++ [')']
  | .pseudoClass p => stateText s p
  | .pseudoElement p => elementText s p
end

end StylePrune.Css.Selector
