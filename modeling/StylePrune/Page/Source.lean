import StylePrune.Fetch.Network
import StylePrune.Files.Tree
import StylePrune.Url.Parse

/-!
Where a page comes from: an address, a file, or markup that is there already.
-/
namespace StylePrune.Page

/-- Where a page comes from. -/
inductive Source where
  | url (address : Text)
  | file (path : Text)
  | markup (text : Text)
deriving DecidableEq, Repr

namespace Source

/-- An address of the web, if the target is one without its surrounding blanks, and else a file. -/
def ofTarget (target : Text) : Source :=
  let t := Text.trim target
  if (Text.startsWith "http://".toList t || Text.startsWith "https://".toList t) && Url.isWeb t then .url t
  else .file t

/-- What a person is shown as the source. -/
def describe : Source → Text
  | url a => a
  | file p => p
  | markup _ => "<inline markup>".toList

/-- The requests that are made to load the page. -/
def requests : Source → List Fetch.Call
  | url a => [⟨.page, a⟩]
  | file _ => []
  | markup _ => []

/-- The markup of the page; a download may take so many seconds. -/
def load (seconds : Nat) (files : Files.Tree) (network : Fetch.Network) : Source → Except Failure Text
  | markup m => .ok m
  | file p => (files.readText p).mapError fun f => .pageFailed p f.text
  | url a => ((network .page a).within seconds).mapError (.pageFailed a)

end Source
end StylePrune.Page
