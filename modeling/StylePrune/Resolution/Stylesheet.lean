import StylePrune.Config.Basic
import StylePrune.Fetch.Network
import StylePrune.Page.StyleLinks
import StylePrune.Sheet.Text
import StylePrune.Sheet.UrlTokens
import StylePrune.Url.Parse

/-!
The stylesheet that a link stands for.

A local file that is named for the last part of the link's address stands in for the download. Only what
was downloaded has its relative addresses made absolute; from there on both are treated alike.
-/
namespace StylePrune.Resolution

/-- Where the text of a stylesheet came from. -/
inductive Origin where
  | localOverride
  | remote
deriving DecidableEq, Repr

/-- The word for an origin. -/
def Origin.name : Origin → Text
  | localOverride => "local-override".toList
  | remote => "remote".toList

/-- A stylesheet whose text is ready to be joined with others. -/
structure Stylesheet where
  url : Text
  fileName : Text
  /-- The text, in a media block if the link has a condition. -/
  css : Text
  origin : Origin
  media : Option Text
deriving DecidableEq, Repr

/-- A text, in a media block if there is a condition. -/
def forMedium (media : Option Text) (css : Text) : Text :=
  match media with
  | some condition => Sheet.wrapInMedia css condition
  | none => css

/-- The stylesheet of a link from the text that was read for it; `source` says where it was read. -/
def Stylesheet.ofText (l : Page.StyleLink) (origin : Origin) (source css : Text) :
    Except Failure Stylesheet :=
  if Sheet.isPlausible css then
    .ok ⟨l.url, Url.fileName l.url, forMedium l.media (Sheet.stripCharset css), origin, l.media⟩
  else .error (.invalidCss source)

/-- What a run reads and whom it asks. -/
structure World where
  config : Config
  files : Files.Tree
  network : Fetch.Network

namespace World

/-- The local file that stands in for the stylesheet of an address. -/
def overrideOf? (w : World) (url : Text) : Option Override := w.config.overrideFor? (Url.fileName url)

/-- The stylesheet of a link for which a local file stands in. -/
def readOverride (w : World) (l : Page.StyleLink) (o : Override) : Except Failure Stylesheet :=
  match w.files.readText o.path with
  | .ok css => Stylesheet.ofText l .localOverride o.path css
  | .error _ => .error (.overrideMissing o.path)

/-- The reply to a request for a stylesheet. -/
def replyFor (w : World) (url : Text) : Fetch.Reply := w.network .stylesheet url

/-- The stylesheet of a link that is downloaded. -/
def download (w : World) (l : Page.StyleLink) : Except Failure Stylesheet :=
  match (w.replyFor l.url).within w.config.timeout with
  | .ok css => Stylesheet.ofText l .remote l.url (Sheet.absolutize (Url.joinTo l.url) css)
  | .error cause => .error (.fetchFailed l.url cause)

/-- The stylesheet that a link stands for. -/
def resolve (w : World) (l : Page.StyleLink) : Except Failure Stylesheet :=
  match w.overrideOf? l.url with
  | some o => w.readOverride l o
  | none => w.download l

/-- The addresses that are asked for to resolve a link. -/
def requests (w : World) (l : Page.StyleLink) : List Text :=
  if (w.overrideOf? l.url).isSome then [] else [l.url]

end World
end StylePrune.Resolution
