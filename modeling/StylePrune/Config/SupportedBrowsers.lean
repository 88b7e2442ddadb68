import StylePrune.Css.Browsers
import StylePrune.Json.Shape

/-!
The browsers that a configuration asks for.
-/
namespace StylePrune.Config

open Json (Shape Datum)

/-- The oldest major version of each browser that pages are served to, where a browser matters. -/
structure SupportedBrowsers where
  chrome : Option Nat
  firefox : Option Nat
  safari : Option Nat
  iosSafari : Option Nat
  edge : Option Nat
  ie : Option Nat
  android : Option Nat
  samsung : Option Nat
  opera : Option Nat
deriving DecidableEq, Repr

namespace SupportedBrowsers

/-- The browsers that are supported unless a configuration says otherwise. -/
def usual : SupportedBrowsers :=
  { chrome := some 61, firefox := some 60, safari := some 11, iosSafari := some 11, edge := some 16,
    ie := some 11, android := none, samsung := none, opera := none }

/-- The names of the browsers in a configuration, in order. -/
def names : List String :=
  ["chrome", "firefox", "safari", "ios_saf", "edge", "ie", "android", "samsung", "opera"]

/-- How supported browsers are written in a configuration. A browser that is left out has its usual
version. -/
def shape : Shape :=
  .record "BrowserTargets".toList
    (names.map fun n => (n.toList, true, .optional (.natural (Nat.pow 2 32) "u32".toList)))

/-- Supported browsers from a configuration. -/
def ofDatum (d : Datum) : SupportedBrowsers :=
  let pick (name : String) (otherwise : Option Nat) : Option Nat :=
    match d.field? name with
    | some v => v.natural?
    | none => otherwise
  { chrome := pick "chrome" usual.chrome, firefox := pick "firefox" usual.firefox,
    safari := pick "safari" usual.safari, iosSafari := pick "ios_saf" usual.iosSafari,
    edge := pick "edge" usual.edge, ie := pick "ie" usual.ie, android := pick "android" usual.android,
    samsung := pick "samsung" usual.samsung, opera := pick "opera" usual.opera }

/-- The version of each browser by its name in a configuration. -/
def versions (b : SupportedBrowsers) : List (String × Option Nat) :=
  [("chrome", b.chrome), ("firefox", b.firefox), ("safari", b.safari), ("ios_saf", b.iosSafari),
   ("edge", b.edge), ("ie", b.ie), ("android", b.android), ("samsung", b.samsung), ("opera", b.opera)]

/-- A major version as a 32-bit version number. Its high bits are lost. -/
def packed (major : Nat) : Css.Version := major * 65536 % Nat.pow 2 32

/-- The browsers that stylesheets are written for. -/
def browsers (b : SupportedBrowsers) : Css.Browsers :=
  { android := b.android.map packed, chrome := b.chrome.map packed, edge := b.edge.map packed,
    firefox := b.firefox.map packed, ie := b.ie.map packed, iosSafari := b.iosSafari.map packed,
    opera := b.opera.map packed, safari := b.safari.map packed, samsung := b.samsung.map packed }

/-- Stylesheets get every rewriting that the browsers need. -/
def full (b : SupportedBrowsers) : Css.Targets := ⟨b.browsers, true⟩

/-- Stylesheets get every rewriting that the browsers need but vendors' marks. -/
def unmarked (b : SupportedBrowsers) : Css.Targets := ⟨b.browsers, false⟩

end SupportedBrowsers
end StylePrune.Config
