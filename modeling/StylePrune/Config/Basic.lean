import StylePrune.Config.Safelist
import StylePrune.Config.SupportedBrowsers
import StylePrune.Failure
import StylePrune.Files.Tree

/-!
Configurations and how they are built.

A draft collects settings; `Draft.build` checks it and gives a configuration. A configuration file is a
list of settings too: `Config.ofFile` is `Draft.build` of the settings that stand in it.
-/
namespace StylePrune

/-- A local file that stands in for every stylesheet of a name. -/
structure Override where
  /-- Name of the stylesheet: the last part of its address. -/
  name : Text
  path : Text
deriving DecidableEq, Repr

/-- What a run is told. -/
structure Config where
  overrides : List Override
  safelist : Config.Safelist
  /-- How long a download may take, in seconds. -/
  timeout : Nat
  /-- How many downloads may be under way at once. -/
  concurrency : Nat
  maxStylesheetBytes : Nat
  maxPageBytes : Nat
  browsers : Config.SupportedBrowsers
  /-- Declarations that cannot be read are left out instead of ending the run. -/
  recovers : Bool
  /-- Directory that holds one directory for each run. -/
  outputDir : Text

namespace Config

/-- Why there is no configuration. -/
inductive Fault where
  | nameNotBare (name : Text)
  | nameTwice (name : Text)
  | noTime
  | noConcurrency
  | badSafelist (reason : Text)
  | malformed (reason : Text)
  | unreadableFile (path : Text) (cause : Files.Fault)
  | invalidFile (path : Text) (cause : Fault)

/-- What is said about a fault. -/
def Fault.message : Fault → Text
  | nameNotBare name => "Override name '".toList ++ name ++ "' must be a bare file name".toList
  | nameTwice name => "Duplicate override for '".toList ++ name ++ ['\'']
  | noTime => "fetch_timeout_secs must be at least 1".toList
  | noConcurrency => "max_concurrent_fetches must be at least 1".toList
  | badSafelist reason => "Invalid safelist: ".toList ++ reason
  | malformed reason => "Malformed configuration JSON: ".toList ++ reason
  | unreadableFile path cause => "Failed to read config file ".toList ++ path ++ ": ".toList ++ cause.text
  | invalidFile path cause => "Invalid config file ".toList ++ path ++ ": ".toList ++ cause.message

/-- A configuration fault as the failure of a run. -/
def Fault.failure (f : Fault) : Failure := .badConfig f.message

/-! ## What holds unless a configuration says otherwise -/

/-- Seconds that a download may take. -/
def usualTimeout : Nat := 30

/-- Downloads that may be under way at once. -/
def usualConcurrency : Nat := 6

/-- Bytes that a stylesheet may have. -/
def usualStylesheetBytes : Nat := 2 * 1024 * 1024

/-- Bytes that a page may have. -/
def usualPageBytes : Nat := 10 * 1024 * 1024

/-- Where runs write. -/
def usualOutputDir : Text := ".cache/css-purge".toList

/-- The configuration without any setting. -/
def usual : Config :=
  { overrides := [], safelist := .empty, timeout := usualTimeout, concurrency := usualConcurrency,
    maxStylesheetBytes := usualStylesheetBytes, maxPageBytes := usualPageBytes, browsers := .usual,
    recovers := true, outputDir := usualOutputDir }

/-- The file that stands in for the stylesheets of a name. -/
def overrideFor? (c : Config) (name : Text) : Option Override :=
  c.overrides.find? fun o => o.name == name

/-- The configuration with another output directory. -/
def withOutputDir (c : Config) (dir : Text) : Config := { c with outputDir := dir }

/-! ## Settings -/

/-- One thing that a configuration is told. -/
inductive Setting where
  | overrides (more : List Override)
  | tokens (more : List Text)
  | patterns (more : List Text)
  | timeout (seconds : Nat)
  | concurrency (n : Nat)
  | maxStylesheetBytes (n : Nat)
  | maxPageBytes (n : Nat)
  | browsers (b : SupportedBrowsers)
  | recovers (b : Bool)
  | outputDir (dir : Text)

/-- A configuration before it is checked. -/
structure Draft where
  overrides : List Override
  tokens : List Text
  patterns : List Text
  timeout : Nat
  concurrency : Nat
  maxStylesheetBytes : Nat
  maxPageBytes : Nat
  browsers : SupportedBrowsers
  recovers : Bool
  outputDir : Text

namespace Draft

/-- A draft without any setting. -/
def usual : Draft :=
  { overrides := [], tokens := [], patterns := [], timeout := usualTimeout,
    concurrency := usualConcurrency, maxStylesheetBytes := usualStylesheetBytes,
    maxPageBytes := usualPageBytes, browsers := .usual, recovers := true, outputDir := usualOutputDir }

/-- Adds a setting: lists grow, single values are replaced. -/
def set (d : Draft) : Setting → Draft
  | .overrides more => { d with overrides := d.overrides ++ more }
  | .tokens more => { d with tokens := d.tokens ++ more }
  | .patterns more => { d with patterns := d.patterns ++ more }
  | .timeout n => { d with timeout := n }
  | .concurrency n => { d with concurrency := n }
  | .maxStylesheetBytes n => { d with maxStylesheetBytes := n }
  | .maxPageBytes n => { d with maxPageBytes := n }
  | .browsers b => { d with browsers := b }
  | .recovers b => { d with recovers := b }
  | .outputDir dir => { d with outputDir := dir }

/-- The draft of settings in order. -/
def ofSettings (settings : List Setting) : Draft := settings.foldl set usual

/-- A name that a stylesheet may have: not empty, and one part of a path. -/
def isBareName (name : Text) : Bool := !name.isEmpty && !name.contains '/'

/-- What is wrong with the first override whose name is not bare or was there before. -/
def overrideFault? (seen : List Text) : List Override → Option Fault
  | [] => none
  | o :: r =>
    if !isBareName o.name then some (.nameNotBare o.name)
    else if seen.contains o.name then some (.nameTwice o.name)
    else overrideFault? (o.name :: seen) r

/-- The configuration of a draft, or what is wrong with it. -/
def build (d : Draft) : Except Fault Config :=
  match overrideFault? [] d.overrides with
  | some f => .error f
  | none =>
    if d.timeout = 0 then .error .noTime
    else if d.concurrency = 0 then .error .noConcurrency
    else
      match Safelist.ofLists d.tokens d.patterns with
      | .error m => .error (.badSafelist m)
      | .ok safelist =>
        .ok { overrides := d.overrides, safelist := safelist, timeout := d.timeout,
              concurrency := d.concurrency, maxStylesheetBytes := d.maxStylesheetBytes,
              maxPageBytes := d.maxPageBytes, browsers := d.browsers, recovers := d.recovers,
              outputDir := d.outputDir }

end Draft

/-- The configuration of settings in order. -/
def ofSettings (settings : List Setting) : Except Fault Config := (Draft.ofSettings settings).build

end Config
end StylePrune
