import StylePrune.Config.Basic

/-!
Configurations in JSON.

An object gives settings by name; every one may be left out. A relative path of an override counts from
the directory that holds the configuration.
-/
namespace StylePrune.Config

open Json (Shape Datum)

/-- How an override is written. -/
def overrideShape : Shape :=
  .record "OverrideRule".toList
    [("original".toList, false, .text "a string".toList), ("path".toList, false, .text "path string".toList)]

/-- How a safelist is written. -/
def safelistShape : Shape :=
  .record "SafelistFile".toList
    [("tokens".toList, true, .list (.text "a string".toList)),
     ("patterns".toList, true, .list (.text "a string".toList))]

/-- How a count is written. -/
def countShape : Shape := .optional (.natural (Nat.pow 2 64) "usize".toList)

/-- How a configuration is written. -/
def shape : Shape :=
  .record "ConfigFile".toList
    [("overrides".toList, true, .list overrideShape),
     ("safelist".toList, true, safelistShape),
     ("fetch_timeout_secs".toList, true, .optional (.natural (Nat.pow 2 64) "u64".toList)),
     ("max_concurrent_fetches".toList, true, countShape),
     ("max_stylesheet_bytes".toList, true, countShape),
     ("max_page_bytes".toList, true, countShape),
     ("targets".toList, true, .optional SupportedBrowsers.shape),
     ("error_recovery".toList, true, .optional .flag),
     ("output_dir".toList, true, .optional (.text "path string".toList))]

/-- An override, its path counted from a directory. -/
def overrideOf (baseDir : Text) (d : Datum) : Override :=
  ⟨((d.field? "original").bind Datum.text?).getD [],
   Path.join baseDir (((d.field? "path").bind Datum.text?).getD [])⟩

/-- The setting that a field makes, if it was given and is not null. -/
def given (d : Datum) (name : String) {α : Type} (view : Datum → Option α) (make : α → Setting) :
    List Setting :=
  match (d.field? name).bind view with
  | some a => [make a]
  | none => []

/-- Supported browsers, if they were given. -/
def browsers? : Datum → Option SupportedBrowsers
  | .missing => none
  | d => some (.ofDatum d)

/-- The settings of a configuration that was read. -/
def settingsOf (baseDir : Text) (d : Datum) : List Setting :=
  given d "overrides" (fun v => some (v.items.map (overrideOf baseDir))) .overrides ++
  given d "safelist" (fun v => (v.field? "tokens").map Datum.texts) .tokens ++
  given d "safelist" (fun v => (v.field? "patterns").map Datum.texts) .patterns ++
  given d "fetch_timeout_secs" Datum.natural? .timeout ++
  given d "max_concurrent_fetches" Datum.natural? .concurrency ++
  given d "max_stylesheet_bytes" Datum.natural? .maxStylesheetBytes ++
  given d "max_page_bytes" Datum.natural? .maxPageBytes ++
  given d "targets" browsers? .browsers ++
  given d "error_recovery" Datum.flag? .recovers ++
  given d "output_dir" Datum.text? .outputDir

/-- The configuration that a JSON text writes. -/
def ofJson (text baseDir : Text) : Except Fault Config :=
  match shape.parse text with
  | .error f => .error (.malformed f.message)
  | .ok d => ofSettings (settingsOf baseDir d)

/-- The configuration that a file holds. -/
def ofFile (files : Files.Tree) (path : Text) : Except Fault Config :=
  match files.readText path with
  | .error f => .error (.unreadableFile path f)
  | .ok text =>
    match ofJson text ((Path.parent? path).getD ['.']) with
    | .error f => .error (.invalidFile path f)
    | .ok c => .ok c

end StylePrune.Config
