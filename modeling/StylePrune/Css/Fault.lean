import StylePrune.Css.Token

/-!
What can be wrong with a stylesheet.

A fault is a cause and a place. `Fault.message` gives the one line that is shown for it.
-/
namespace StylePrune.Css

/-- What is wrong with a selector. -/
inductive SelectorFault where
  | invalidState
  | badAttributeValue (found : Token)
  | classNeedsIdent (found : Token)
  | danglingCombinator
  | empty
  | barExpected (found : Token)
  | namespaceNameExpected (found : Token)
  | attributeNameExpected (found : Token)
  | qualifiedNameExpected (found : Token)
  | attributeOperatorExpected (found : Token)
  | pseudoNameExpected (found : Token)
  | unexpectedIdent (name : Text)
  | afterPseudoElement (found : Token)
  | pseudoClassAfterPseudoElement
  | ampersandMissing
deriving DecidableEq, Repr

/-- What is wrong with a stylesheet. -/
inductive Cause where
  | endOfInput
  | unexpected (found : Token)
  | invalidValue
  | invalidDeclaration
  | invalidMediaQuery
  | invalidBody
  | unknownAtRule (name : Text)
  | lateImport
  | lateNamespace
  | nestedTooDeep
  | selector (fault : SelectorFault)
deriving DecidableEq, Repr

/-- A cause with its place. -/
structure Fault where
  cause : Cause
  place : Place
deriving DecidableEq, Repr

/-- The words for what is wrong with a selector. -/
def SelectorFault.message : SelectorFault → Text
  | invalidState => "Invalid state".toList
  | badAttributeValue t => "Invalid value in attribute selector: ".toList ++ t.label
  | classNeedsIdent t => "Expected identifier in class selector, got ".toList ++ t.label
  | danglingCombinator => "Invalid dangling combinator in selector".toList
  | empty => "Invalid empty selector".toList
  | barExpected t => "Expected | in attribute, got ".toList ++ t.label
  | namespaceNameExpected t => "Unexpected token in namespace selector: ".toList ++ t.label
  | attributeNameExpected t => "Invalid qualified name in attribute selector: ".toList ++ t.label
  | qualifiedNameExpected t => "No qualified name in attribute selector: ".toList ++ t.label ++ ['.']
  | attributeOperatorExpected t => "Unexpected token in attribute selector: ".toList ++ t.label
  | pseudoNameExpected t => "Invalid token in pseudo element: ".toList ++ t.label
  | unexpectedIdent n => "Unexpected identifier: ".toList ++ n
  | afterPseudoElement t => "Unexpected selector after pseudo element: ".toList ++ t.label
  | pseudoClassAfterPseudoElement =>
    "Invalid pseudo class after pseudo element, only user action pseudo classes (e.g. :hover, :active) are allowed".toList
  | ampersandMissing => "A nesting selector (&) is required in each selector of a @nest rule".toList

/-- The words for a cause. -/
def Cause.message : Cause → Text
  | endOfInput => "Unexpected end of input".toList
  | unexpected t => "Unexpected token ".toList ++ t.label
  | invalidValue => "Invalid value".toList
  | invalidDeclaration => "Invalid declaration".toList
  | invalidMediaQuery => "Invalid media query".toList
  | invalidBody => "Invalid @ rule body".toList
  | unknownAtRule n => "Unknown at rule: @".toList ++ n
  | lateImport =>
    "@import rules must precede all rules aside from @charset and @layer statements".toList
  | lateNamespace =>
    "@namespaces rules must precede all rules aside from @charset, @import, and @layer statements".toList
  | nestedTooDeep => "Overflowed the maximum nesting depth".toList
  | selector f => f.message

/-- The line that is shown for a fault. -/
def Fault.message (f : Fault) : Text := f.cause.message ++ " at ".toList ++ f.place.text

end StylePrune.Css
