import StylePrune.Config.Load
import StylePrune.Proofs.Config.Building
import StylePrune.Proofs.Json.Shapes

/-!
Configurations from files.

A configuration file gives some of the fields (`Config.File`). What comes of it is what comes of a setting for each
field that it gives, where the relative path of an override counts from a directory (`ofJson_eq`); and every file
that can be written in JSON is read back as it is (`read_json`). So all configurations, however they were come by
(`Config.Made`), have what building one has checked.
-/
namespace StylePrune.Config

open Json (Shape Datum Value Slot)

/-! ## What a file says -/

/-- The names that a file safelists, and the patterns. -/
structure SafelistFile where
  tokens : Option (List Text)
  patterns : Option (List Text)

/-- The fields that a configuration file gives. Paths are as they are written. -/
structure File where
  overrides : Option (List Override)
  safelist : Option SafelistFile
  timeout : Option Nat
  concurrency : Option Nat
  stylesheetBytes : Option Nat
  pageBytes : Option Nat
  browsers : Option SupportedBrowsers
  recovers : Option Bool
  outputDir : Option Text

def writtenOverride (d : Datum) : Override :=
  ⟨((d.field? "original").bind Datum.text?).getD [], ((d.field? "path").bind Datum.text?).getD []⟩

def SafelistFile.ofDatum (d : Datum) : SafelistFile :=
  ⟨(d.field? "tokens").map Datum.texts, (d.field? "patterns").map Datum.texts⟩

/-- The fields that were read. One that is null is not given. -/
def File.ofDatum (d : Datum) : File where
  overrides := (d.field? "overrides").map fun v => v.items.map writtenOverride
  safelist := (d.field? "safelist").map SafelistFile.ofDatum
  timeout := (d.field? "fetch_timeout_secs").bind Datum.natural?
  concurrency := (d.field? "max_concurrent_fetches").bind Datum.natural?
  stylesheetBytes := (d.field? "max_stylesheet_bytes").bind Datum.natural?
  pageBytes := (d.field? "max_page_bytes").bind Datum.natural?
  browsers := (d.field? "targets").bind browsers?
  recovers := (d.field? "error_recovery").bind Datum.flag?
  outputDir := (d.field? "output_dir").bind Datum.text?

def File.read (text : Text) : Except Json.Failure File := (shape.parse text).map File.ofDatum

/-- An override whose path, if it is relative, counts from a directory. -/
def overrideFrom (baseDir : Text) (o : Override) : Override :=
  if Path.isAbsolute o.path then o else { o with path := Path.join baseDir o.path }

def File.settings (baseDir : Text) (f : File) : List Setting :=
  f.overrides.toList.map (fun os => .overrides (os.map (overrideFrom baseDir))) ++
  (f.safelist.bind SafelistFile.tokens).toList.map .tokens ++
  (f.safelist.bind SafelistFile.patterns).toList.map .patterns ++
  f.timeout.toList.map .timeout ++
  f.concurrency.toList.map .concurrency ++
  f.stylesheetBytes.toList.map .maxStylesheetBytes ++
  f.pageBytes.toList.map .maxPageBytes ++
  f.browsers.toList.map .browsers ++
  f.recovers.toList.map .recovers ++
  f.outputDir.toList.map .outputDir

theorem overrideOf_eq (baseDir : Text) (d : Datum) :
    overrideOf baseDir d = overrideFrom baseDir (writtenOverride d) := by
  rw [overrideFrom]
  split
  · next habs =>
    change Override.mk _ (Path.join baseDir (writtenOverride d).path) = _
    rw [Path.join, if_pos habs]
    rfl
  · rfl

theorem given_eq (d : Datum) (name : String) {α : Type} (view : Datum → Option α) (make : α → Setting) :
    given d name view make = ((d.field? name).bind view).toList.map make := by
  rw [given]
  cases (d.field? name).bind view <;> rfl

theorem settingsOf_eq (baseDir : Text) (d : Datum) : settingsOf baseDir d = (File.ofDatum d).settings baseDir := by
  have hoverrides : (d.field? "overrides").bind (fun v => some (v.items.map (overrideOf baseDir))) =
      (File.ofDatum d).overrides.map fun os => os.map (overrideFrom baseDir) := by
    cases h : d.field? "overrides" with
    | none => simp [File.ofDatum, h]
    | some v => simp [File.ofDatum, h, overrideOf_eq]
  have htokens : (d.field? "safelist").bind (fun v => (v.field? "tokens").map Datum.texts) =
      (File.ofDatum d).safelist.bind SafelistFile.tokens := by
    cases h : d.field? "safelist" <;> simp [File.ofDatum, h, SafelistFile.ofDatum]
  have hpatterns : (d.field? "safelist").bind (fun v => (v.field? "patterns").map Datum.texts) =
      (File.ofDatum d).safelist.bind SafelistFile.patterns := by
    cases h : d.field? "safelist" <;> simp [File.ofDatum, h, SafelistFile.ofDatum]
  have hlist : ((File.ofDatum d).overrides.map fun os => os.map (overrideFrom baseDir)).toList.map Setting.overrides =
      (File.ofDatum d).overrides.toList.map fun os => Setting.overrides (os.map (overrideFrom baseDir)) := by
    cases (File.ofDatum d).overrides <;> rfl
  simp only [settingsOf, given_eq, hoverrides, htokens, hpatterns, hlist]
  rfl

/-- What is loaded is what the fields of the file build. -/
theorem ofJson_eq (text baseDir : Text) :
    ofJson text baseDir =
      match File.read text with
      | .error f => .error (.malformed f.message)
      | .ok f => ofSettings (f.settings baseDir) := by
  rw [ofJson, File.read]
  cases shape.parse text with
  | error f => rfl
  | ok d => exact congrArg ofSettings (settingsOf_eq baseDir d)

/-! ## Files in JSON -/

def numberContent (n : Option Nat) : Option (Value × Datum) := n.map fun n => (.number (.natural n), .natural n)

def textContent (s : Text) : Value × Datum := (.string s, .text s)

def textsContent (ss : List Text) : Value × Datum := (.array (ss.map .string), .list (ss.map .text))

def overrideSlots (o : Override) : List Slot :=
  [⟨"original".toList, .text "a string".toList, some (textContent o.name)⟩,
    ⟨"path".toList, .text "path string".toList, some (textContent o.path)⟩]

def SafelistFile.slots (s : SafelistFile) : List Slot :=
  [⟨"tokens".toList, .list (.text "a string".toList), s.tokens.map textsContent⟩,
    ⟨"patterns".toList, .list (.text "a string".toList), s.patterns.map textsContent⟩]

def versionShape : Shape := .optional (.natural (Nat.pow 2 32) "u32".toList)

/-- The fields of supported browsers, null for a browser that is not. -/
def browserSlots (b : SupportedBrowsers) : List Slot :=
  b.versions.map fun v => ⟨v.1.toList, versionShape, some ((numberContent v.2).getD (.null, .missing))⟩

def File.slots (f : File) : List Slot :=
  [⟨"overrides".toList, .list overrideShape, f.overrides.map fun os =>
      (.array (os.map fun o => Slot.value (overrideSlots o)), .list (os.map fun o => Slot.datum (overrideSlots o)))⟩,
    ⟨"safelist".toList, safelistShape, f.safelist.map fun s => (Slot.value s.slots, Slot.datum s.slots)⟩,
    ⟨"fetch_timeout_secs".toList, .optional (.natural (Nat.pow 2 64) "u64".toList), numberContent f.timeout⟩,
    ⟨"max_concurrent_fetches".toList, countShape, numberContent f.concurrency⟩,
    ⟨"max_stylesheet_bytes".toList, countShape, numberContent f.stylesheetBytes⟩,
    ⟨"max_page_bytes".toList, countShape, numberContent f.pageBytes⟩,
    ⟨"targets".toList, .optional SupportedBrowsers.shape, f.browsers.map fun b =>
      (Slot.value (browserSlots b), Slot.datum (browserSlots b))⟩,
    ⟨"error_recovery".toList, .optional .flag, f.recovers.map fun b => (.bool b, .flag b)⟩,
    ⟨"output_dir".toList, .optional (.text "path string".toList), f.outputDir.map textContent⟩]

def File.json (f : File) : Text := (Slot.value f.slots).pretty 0

/-- The numbers of a file are no larger than their fields hold. -/
structure File.Fits (f : File) : Prop where
  counts : ∀ c ∈ [f.timeout, f.concurrency, f.stylesheetBytes, f.pageBytes], ∀ n ∈ c, n < Nat.pow 2 64
  versions : ∀ b ∈ f.browsers, ∀ v ∈ b.versions, ∀ n ∈ v.2, n < Nat.pow 2 32

theorem writes_number {bound : Nat} {label : Text} (hbound : bound ≤ Nat.pow 2 64) {n : Option Nat}
    (hn : ∀ k ∈ n, k < bound) {c : Value × Datum} (hc : numberContent n = some c) :
    (Shape.optional (.natural bound label)).Writes c.1 c.2 := by
  obtain ⟨k, rfl, rfl⟩ := Option.map_eq_some_iff.1 hc
  exact .optional (.natural (hn k rfl) hbound)

theorem writes_texts (label : Text) (ss : List Text) :
    (Shape.list (.text label)).Writes (textsContent ss).1 (textsContent ss).2 :=
  .list_map fun _ _ => .text

theorem writes_override (o : Override) :
    overrideShape.Writes (Slot.value (overrideSlots o)) (Slot.datum (overrideSlots o)) := by
  refine Slot.writes ?_ ?_ (by simp [overrideSlots]) ?_
  · intro s hs c hc
    simp only [overrideSlots, List.mem_cons, List.not_mem_nil, or_false] at hs
    rcases hs with rfl | rfl
    · cases hc
      exact .text
    · cases hc
      exact .text
  · intro s hs
    simp only [overrideSlots, List.mem_cons, List.not_mem_nil, or_false] at hs
    rcases hs with rfl | rfl
    · exact ⟨false, rfl⟩
    · exact ⟨false, rfl⟩
  · intro f hf _
    simp only [List.mem_cons, List.not_mem_nil, or_false] at hf
    rcases hf with rfl | rfl
    · exact ⟨_, List.mem_cons_self, rfl, rfl⟩
    · exact ⟨_, List.mem_cons_of_mem _ List.mem_cons_self, rfl, rfl⟩

theorem writes_overrides (os : List Override) :
    (Shape.list overrideShape).Writes (.array (os.map fun o => Slot.value (overrideSlots o)))
      (.list (os.map fun o => Slot.datum (overrideSlots o))) :=
  .list_map fun o _ => writes_override o

theorem writes_safelist (s : SafelistFile) : safelistShape.Writes (Slot.value s.slots) (Slot.datum s.slots) := by
  refine Slot.writes ?_ ?_ (by simp [SafelistFile.slots]) (by simp)
  · intro t ht c hc
    simp only [SafelistFile.slots, List.mem_cons, List.not_mem_nil, or_false] at ht
    rcases ht with rfl | rfl
    · obtain ⟨ss, -, rfl⟩ := Option.map_eq_some_iff.1 hc
      exact writes_texts _ ss
    · obtain ⟨ss, -, rfl⟩ := Option.map_eq_some_iff.1 hc
      exact writes_texts _ ss
  · intro t ht
    simp only [SafelistFile.slots, List.mem_cons, List.not_mem_nil, or_false] at ht
    rcases ht with rfl | rfl
    · exact ⟨true, rfl⟩
    · exact ⟨true, rfl⟩

theorem nodup_browserSlots (b : SupportedBrowsers) : ((browserSlots b).map Slot.name).Nodup := by
  simp [browserSlots, SupportedBrowsers.versions]

theorem writes_browsers {b : SupportedBrowsers} (hb : ∀ v ∈ b.versions, ∀ n ∈ v.2, n < Nat.pow 2 32) :
    SupportedBrowsers.shape.Writes (Slot.value (browserSlots b)) (Slot.datum (browserSlots b)) := by
  refine Slot.writes ?_ ?_ (nodup_browserSlots b) ?_
  · intro s hs c hc
    obtain ⟨v, hv, rfl⟩ := List.mem_map.1 hs
    cases hn : v.2 with
    | none =>
      rw [hn] at hc
      cases hc
      exact .null
    | some n =>
      rw [hn] at hc
      cases hc
      exact writes_number (by decide) (n := some n) (fun k hk => hb v hv k (by rwa [hn])) rfl
  · intro s hs
    simp only [browserSlots, SupportedBrowsers.versions, List.map_cons, List.map_nil, List.mem_cons,
      List.not_mem_nil, or_false] at hs
    rcases hs with rfl | rfl | rfl | rfl | rfl | rfl | rfl | rfl | rfl <;> exact ⟨true, rfl⟩
  · intro f hf hfalse
    obtain ⟨n, -, rfl⟩ := List.mem_map.1 hf
    cases hfalse

theorem File.nodup_slots (f : File) : (f.slots.map Slot.name).Nodup := by
  change ["overrides".toList, "safelist".toList, "fetch_timeout_secs".toList, "max_concurrent_fetches".toList,
    "max_stylesheet_bytes".toList, "max_page_bytes".toList, "targets".toList, "error_recovery".toList,
    "output_dir".toList].Nodup
  decide

/-- What a file gives is written as its shape says. -/
theorem File.writes {f : File} (h : f.Fits) : shape.Writes (Slot.value f.slots) (Slot.datum f.slots) := by
  have hcount {n : Option Nat} (hn : n ∈ [f.timeout, f.concurrency, f.stylesheetBytes, f.pageBytes]) {label : Text}
      {c : Value × Datum} (hc : numberContent n = some c) :
      (Shape.optional (.natural (Nat.pow 2 64) label)).Writes c.1 c.2 :=
    writes_number (Nat.le_refl _) (h.counts n hn) hc
  refine Slot.writes ?_ ?_ f.nodup_slots (by simp)
  · intro s hs c hc
    simp only [File.slots, List.mem_cons, List.not_mem_nil, or_false] at hs
    rcases hs with rfl | rfl | rfl | rfl | rfl | rfl | rfl | rfl | rfl
    · obtain ⟨os, -, rfl⟩ := Option.map_eq_some_iff.1 hc
      exact writes_overrides os
    · obtain ⟨s, -, rfl⟩ := Option.map_eq_some_iff.1 hc
      exact writes_safelist s
    · exact hcount (by simp) hc
    · exact hcount (by simp) hc
    · exact hcount (by simp) hc
    · exact hcount (by simp) hc
    · obtain ⟨b, hb, rfl⟩ := Option.map_eq_some_iff.1 hc
      exact .optional (writes_browsers (h.versions b hb))
    · obtain ⟨b, -, rfl⟩ := Option.map_eq_some_iff.1 hc
      exact .optional .flag
    · obtain ⟨s, -, rfl⟩ := Option.map_eq_some_iff.1 hc
      exact .optional .text
  · intro s hs
    simp only [File.slots, List.mem_cons, List.not_mem_nil, or_false] at hs
    rcases hs with rfl | rfl | rfl | rfl | rfl | rfl | rfl | rfl | rfl <;> exact ⟨true, rfl⟩

/-! ## Reading a file back -/

theorem writtenOverride_datum (o : Override) : writtenOverride (Slot.datum (overrideSlots o)) = o := rfl

theorem texts_textsContent (ss : List Text) : (textsContent ss).2.texts = ss := by
  change (ss.map Datum.text).filterMap Datum.text? = ss
  rw [List.filterMap_map]
  exact List.filterMap_some

theorem SafelistFile.ofDatum_datum (s : SafelistFile) : ofDatum (Slot.datum s.slots) = s := by
  have htexts (ss : Option (List Text)) : ((ss.map textsContent).map Prod.snd).map Datum.texts = ss := by
    cases ss with
    | none => rfl
    | some ss => exact congrArg some (texts_textsContent ss)
  have hnodup : (s.slots.map Slot.name).Nodup := by simp [slots]
  rw [ofDatum, Slot.field?_datum hnodup (i := 0) rfl rfl, Slot.field?_datum hnodup (i := 1) rfl rfl]
  exact congrArg₂ SafelistFile.mk (htexts s.tokens) (htexts s.patterns)

theorem ofDatum_browserSlots (b : SupportedBrowsers) : SupportedBrowsers.ofDatum (Slot.datum (browserSlots b)) = b := by
  have hnodup := nodup_browserSlots b
  have hversion (n : Option Nat) : ((numberContent n).getD (.null, .missing)).2.natural? = n := by
    cases n <;> rfl
  rw [SupportedBrowsers.ofDatum]
  simp only [Slot.field?_datum hnodup (i := 0) rfl rfl, Slot.field?_datum hnodup (i := 1) rfl rfl,
    Slot.field?_datum hnodup (i := 2) rfl rfl, Slot.field?_datum hnodup (i := 3) rfl rfl,
    Slot.field?_datum hnodup (i := 4) rfl rfl, Slot.field?_datum hnodup (i := 5) rfl rfl,
    Slot.field?_datum hnodup (i := 6) rfl rfl, Slot.field?_datum hnodup (i := 7) rfl rfl,
    Slot.field?_datum hnodup (i := 8) rfl rfl, Option.map_some, hversion]

theorem File.ofDatum_datum (f : File) : File.ofDatum (Slot.datum f.slots) = f := by
  have hnodup := f.nodup_slots
  have hoverrides (os : List Override) : (os.map fun o => Slot.datum (overrideSlots o)).map writtenOverride = os := by
    rw [List.map_map]
    exact (List.map_congr_left fun o _ => writtenOverride_datum o).trans (List.map_id _)
  have hnumber (n : Option Nat) : ((numberContent n).map Prod.snd).bind Datum.natural? = n := by
    cases n <;> rfl
  rw [File.ofDatum]
  simp only [Slot.field?_datum hnodup (i := 0) rfl rfl, Slot.field?_datum hnodup (i := 1) rfl rfl,
    Slot.field?_datum hnodup (i := 2) rfl rfl, Slot.field?_datum hnodup (i := 3) rfl rfl,
    Slot.field?_datum hnodup (i := 4) rfl rfl, Slot.field?_datum hnodup (i := 5) rfl rfl,
    Slot.field?_datum hnodup (i := 6) rfl rfl, Slot.field?_datum hnodup (i := 7) rfl rfl,
    Slot.field?_datum hnodup (i := 8) rfl rfl, hnumber]
  obtain ⟨overrides, safelist, timeout, concurrency, stylesheetBytes, pageBytes, browsers, recovers, outputDir⟩ := f
  simp only [File.mk.injEq, true_and]
  refine ⟨?_, ?_, ?_, ?_, ?_⟩
  · cases overrides with
    | none => rfl
    | some os => exact congrArg some (hoverrides os)
  · cases safelist with
    | none => rfl
    | some s => exact congrArg some s.ofDatum_datum
  · cases browsers with
    | none => rfl
    | some b => exact congrArg some (ofDatum_browserSlots b)
  · cases recovers <;> rfl
  · cases outputDir <;> rfl

theorem File.read_json {f : File} (h : f.Fits) : File.read f.json = .ok f := by
  rw [File.read, File.json, (File.writes h).parse]
  exact congrArg Except.ok f.ofDatum_datum

/-! ## All configurations -/

/-- A configuration that can be come by: the usual one, one from settings, from JSON or from a file, or any of them
with another output directory. -/
inductive Made : Config → Prop where
  | usual : Made usual
  | settings {settings : List Setting} {c : Config} : ofSettings settings = .ok c → Made c
  | json {text baseDir : Text} {c : Config} : ofJson text baseDir = .ok c → Made c
  | file {files : Files.Tree} {path : Text} {c : Config} : ofFile files path = .ok c → Made c
  | withOutputDir {c : Config} (dir : Text) : Made c → Made (c.withOutputDir dir)

theorem sound_of_ofJson {text baseDir : Text} {c : Config} (h : ofJson text baseDir = .ok c) : Sound c := by
  rw [ofJson_eq] at h
  split at h
  · cases h
  · exact sound_of_ofSettings h

theorem sound_of_ofFile {files : Files.Tree} {path : Text} {c : Config} (h : ofFile files path = .ok c) :
    Sound c := by
  rw [ofFile] at h
  split at h
  · cases h
  · split at h
    · cases h
    · next hjson =>
      cases h
      exact sound_of_ofJson hjson

theorem Made.sound {c : Config} (h : Made c) : Sound c := by
  induction h with
  | usual =>
    have hbuilt : ofSettings [] = .ok Config.usual := rfl
    exact sound_of_ofSettings hbuilt
  | settings h => exact sound_of_ofSettings h
  | json h => exact sound_of_ofJson h
  | file h => exact sound_of_ofFile h
  | withOutputDir dir _ ih => exact ⟨ih.names, ih.distinct, ih.time, ih.concurrency, ih.patterns⟩

/-- **How configurations come about.** Settings make one exactly if the names of the overrides are bare and distinct,
neither the time nor the number of downloads is zero, and every pattern can be read. Settings that give each field
the same values make the same, or fail alike. Whatever way a configuration is come by, all this holds of it, and an
override is found for a name exactly if it is the one of that name. A JSON text makes what one setting for each field
makes that it gives, and the JSON of a file gives the fields of the file. -/
theorem made_configurations :
    (∀ settings, (∃ c, ofSettings settings = .ok c) ↔ (Values.of settings).Buildable) ∧
    (∀ s t, Values.of s = Values.of t → ofSettings s = ofSettings t) ∧
    (∀ c, Made c → Sound c ∧ ∀ name o, c.overrideFor? name = some o ↔
      o ∈ c.overrides ∧ o.name = name ∧ ∀ p ∈ c.overrides, p.name = name → p = o) ∧
    (∀ text baseDir, ofJson text baseDir =
      match File.read text with
      | .error f => .error (.malformed f.message)
      | .ok f => ofSettings (f.settings baseDir)) ∧
    ∀ (f : File) (baseDir : Text), f.Fits → ofJson f.json baseDir = ofSettings (f.settings baseDir) := by
  refine ⟨ofSettings_isOk_iff, fun s t => ofSettings_congr, fun c hc => ⟨hc.sound, fun name o => ?_⟩, ofJson_eq,
    fun f baseDir hf => ?_⟩
  · exact hc.sound.overrideFor?_eq_some
  · rw [ofJson_eq, File.read_json hf]

/-- A file with one override, a safelist and a time. -/
def fontsFile : File where
  overrides := some [⟨"fonts.css".toList, "local/fonts.css".toList⟩]
  safelist := some ⟨some [".open".toList], none⟩
  timeout := some 20
  concurrency := none
  stylesheetBytes := none
  pageBytes := none
  browsers := some .usual
  recovers := none
  outputDir := none

theorem fontsFile_fits : fontsFile.Fits := ⟨by decide, by decide⟩

/-- Settings of two fields in two orders fail alike, and the file makes a configuration, sound in any directory, whose
override stands below the directory of the file. -/
theorem made_configurations_fonts :
    ofSettings [.timeout 20, .tokens [".open".toList], .timeout 0] =
        ofSettings [.tokens [".open".toList], .timeout 20, .timeout 0] ∧
      ∃ c, ofJson fontsFile.json "/etc".toList = .ok c ∧ Sound (c.withOutputDir "out".toList) ∧
        (c.withOutputDir "out".toList).overrideFor? "fonts.css".toList =
          some ⟨"fonts.css".toList, "/etc/local/fonts.css".toList⟩ := by
  obtain ⟨-, hsame, hmade, -, hjson⟩ := made_configurations
  obtain ⟨c, hc⟩ : ∃ c, ofSettings (fontsFile.settings "/etc".toList) = .ok c := ⟨_, rfl⟩
  have hload := (hjson fontsFile "/etc".toList fontsFile_fits).trans hc
  obtain ⟨hsound, -⟩ := hmade _ (.withOutputDir "out".toList (.json hload))
  refine ⟨hsame _ _ rfl, c, hload, hsound, ?_⟩
  cases hc
  rfl

end StylePrune.Config
