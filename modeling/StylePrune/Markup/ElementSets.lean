import StylePrune.Text.Basic

/-!
Elements and the sets of names that decide how they nest.
-/
namespace StylePrune.Markup

/-- Which vocabulary an element belongs to. -/
inductive Vocabulary where
  | html
  | math
  | svg
deriving DecidableEq, Repr

/-- An open element. The number tells elements of one name apart. -/
structure Element where
  number : Nat
  vocabulary : Vocabulary
  name : Text
deriving DecidableEq, Repr

/-- The words of a list of names. -/
def names (s : String) : List Text := Text.words s.toList

/-- The element is an HTML element with a name of the set. -/
def Element.isIn (set : List Text) (e : Element) : Bool :=
  e.vocabulary == .html && set.contains e.name

/-- The element is the HTML element of this name. -/
def Element.isNamed (name : Text) (e : Element) : Bool := e.vocabulary == .html && e.name == name

/-! ## Places where markup of another vocabulary goes back to HTML -/

/-- Names of mathematical elements that hold text. -/
def mathTextNames : List Text := names "mi mo mn ms mtext"

/-- Names of drawing elements that hold HTML. -/
def svgHtmlNames : List Text := names "foreignObject desc title"

/-- A mathematical element that holds text. -/
def Element.holdsMathText (e : Element) : Bool := e.vocabulary == .math && mathTextNames.contains e.name

/-- A drawing element that holds HTML. -/
def Element.holdsHtml (e : Element) : Bool := e.vocabulary == .svg && svgHtmlNames.contains e.name

/-! ## Sets -/

/-- Elements that scripts of formatting do not reach through. -/
def specialNames : List Text :=
  names "address applet area article aside base basefont bgsound blockquote body br button caption
    center col colgroup dd details dir div dl dt embed fieldset figcaption figure footer form frame
    frameset h1 h2 h3 h4 h5 h6 head header hgroup hr html iframe img input isindex li link listing main
    marquee menu meta nav noembed noframes noscript object ol p param plaintext pre script search
    section select source style summary table tbody td template textarea tfoot th thead title tr track
    ul wbr xmp"

/-- Special elements among which an open list item is not looked for any further. -/
def itemStopNames : List Text := specialNames.filter fun n => !(names "address div p").contains n

/-- Headings. -/
def headingNames : List Text := names "h1 h2 h3 h4 h5 h6"

/-- Elements whose closing tag may be left out. -/
def impliedNames : List Text := names "dd dt li option optgroup p rb rp rt rtc"

/-- Elements that the closing tag of a template closes. -/
def thoroughNames : List Text := impliedNames ++ names "caption colgroup tbody td tfoot th thead tr"

/-- Elements that bound a scope. -/
def scopeNames : List Text := names "applet caption html table td th marquee object template"

/-- An element that bounds a scope. -/
def isScope (e : Element) : Bool := e.isIn scopeNames || e.holdsMathText || e.holdsHtml

/-- An element that bounds the scope of a list item. -/
def isItemScope (e : Element) : Bool := isScope e || e.isIn (names "ol ul")

/-- An element that bounds the scope of a paragraph. -/
def isButtonScope (e : Element) : Bool := isScope e || e.isNamed "button".toList

/-- Elements that bound the scope of a table. -/
def tableScopeNames : List Text := names "html table template"

/-- An element that bounds the scope of a table. -/
def isTableScope (e : Element) : Bool := e.isIn tableScopeNames

/-- An element that bounds the scope of a selection: all but options and their groups. -/
def isSelectScope (e : Element) : Bool := !e.isIn (names "optgroup option")

/-- Elements that rows of a table stand in. -/
def bodyContextNames : List Text := names "tbody tfoot thead template html"

/-- Elements that cells of a table stand in. -/
def rowContextNames : List Text := names "tr template html"

/-- Elements of a table in which no text may stand. -/
def tableOuterNames : List Text := names "table tbody template tfoot thead tr"

/-- Elements that may stand in the head and whose content is no markup of their own. -/
def headNames : List Text :=
  names "base basefont bgsound link meta noframes script style template title"

/-- Elements of the head without content. -/
def headVoidNames : List Text := names "base basefont bgsound link meta"

/-- Elements that close an open paragraph. -/
def blockNames : List Text :=
  names "address article aside blockquote center details dialog dir div dl fieldset figcaption figure
    footer header hgroup main menu nav ol p search section summary ul"

/-- Elements that a closing tag closes with all that is open inside. -/
def blockEndNames : List Text :=
  names "address article aside blockquote button center details dialog dir div dl fieldset figcaption
    figure footer header hgroup listing main menu nav ol pre search section summary ul"

/-- Elements that format text and are opened again after they are cut. -/
def formattingNames : List Text := names "b big code em font i s small strike strong tt u"

/-- Elements whose closing tag mends the nesting of formatting. -/
def formattingEndNames : List Text := names "a nobr" ++ formattingNames

/-- Elements that keep formatting inside. -/
def containerNames : List Text := names "applet marquee object"

/-- Elements without content that stand among text. -/
def inlineVoidNames : List Text := names "area br embed img keygen wbr input"

/-- Parts of a table that a body of text ignores. -/
def tablePartNames : List Text :=
  names "caption col colgroup frame head tbody td tfoot th thead tr"

/-- HTML elements that end markup of another vocabulary. -/
def breakoutNames : List Text :=
  names "b big blockquote body br center code dd div dl dt em embed h1 h2 h3 h4 h5 h6 head hr i img li
    listing menu meta nobr ol p pre ruby s small span strong strike sub sup table tt u ul var"

end StylePrune.Markup
