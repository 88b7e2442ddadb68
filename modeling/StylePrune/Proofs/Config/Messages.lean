import StylePrune.Proofs.Config.Loading
import StylePrune.Proofs.Json.Messages

/-!
What is said about configurations that are refused.

A refusal names what the settings or the file name, or shows where JSON cannot be read; all this is on one line where
the names are. The one exception is a pattern of the safelist (`Fault.Blames`): what is said about a text that is no
pattern shows the text on a line of its own with marks below, so it is never on one line
(`Safelist.oneLine_refusal_iff`).
-/
namespace StylePrune.Config

open Text (OneLine oneLine_append)

/-! ## Patterns -/

def Safelist.refusal (p reason : Text) : Text := "Invalid safelist pattern '".toList ++ p ++ "': ".toList ++ reason

theorem Safelist.readPatterns_eq_error {ps : List Text} {m : Text} (h : readPatterns ps = .error m) :
    ∃ p ∈ ps, ∃ reason, readPattern p = .error reason ∧ m = refusal p reason := by
  induction ps with
  | nil => cases h
  | cons p ps ih =>
    rw [readPatterns] at h
    split at h
    · next reason hp =>
      cases h
      exact ⟨p, List.mem_cons_self, reason, hp, rfl⟩
    · split at h
      · next hps =>
        cases h
        obtain ⟨q, hq, hm⟩ := ih hps
        exact ⟨q, List.mem_cons_of_mem p hq, hm⟩
      · cases h

/-- The report of a fault in a pattern starts with a line of its own. -/
theorem not_oneLine_report (p : Text) (f : Pattern.Fault) : ¬ OneLine (f.report p) := by
  obtain ⟨rest, hrest⟩ : ∃ rest, f.report p = "regex parse error:\n".toList ++ rest := by
    unfold Pattern.Fault.report
    simp only [List.append_assoc]
    exact ⟨_, rfl⟩
  rw [hrest, oneLine_append]
  intro h
  exact absurd h.1 (by decide)

/-- A text that cannot be shown as a pattern on one line: it is no pattern, or it has a line end itself. -/
def Sprawling (p : Text) : Prop := (∃ f, Pattern.parse p = .error f) ∨ ¬ OneLine p

/-- The refusal of a pattern is on one line exactly if the pattern is on one line and only too large. -/
theorem Safelist.oneLine_refusal_iff {p reason : Text} (h : readPattern p = .error reason) :
    OneLine (refusal p reason) ↔ ¬ Sprawling p := by
  have hparts : OneLine (refusal p reason) ↔ OneLine p ∧ OneLine reason := by
    have hopen : OneLine "Invalid safelist pattern '".toList := by decide
    have hclose : OneLine "': ".toList := by decide
    change OneLine ("Invalid safelist pattern '".toList ++ p ++ "': ".toList ++ reason) ↔ _
    rw [oneLine_append, oneLine_append, oneLine_append, and_iff_right hopen, and_iff_left hclose]
  rw [hparts, Sprawling, not_or, not_not]
  rw [readPattern] at h
  split at h
  · next f hf =>
    -- no pattern: the report has the text on a line of its own, whatever the text is
    cases h
    refine iff_of_false (fun hline => not_oneLine_report p f hline.2) ?_
    rintro ⟨hno, -⟩
    exact hno ⟨f, hf⟩
  · next n hn =>
    split at h
    · -- a pattern that is too large: only the pattern itself could have a line end
      cases h
      have hreport : OneLine Pattern.sizeReport :=
        oneLine_append.2 ⟨oneLine_append.2 ⟨by decide, Text.oneLine_ofNat _⟩, by decide⟩
      have hpattern : ¬ ∃ f, Pattern.parse p = .error f := by
        rintro ⟨f, hf⟩
        rw [hn] at hf
        cases hf
      exact ⟨fun hline => ⟨hpattern, hline.1⟩, fun hline => ⟨hline.2, hreport⟩⟩
    · cases h

/-! ## Faults -/

/-- The fault is that a pattern was refused. -/
inductive Fault.Blames : Fault → Text → Prop where
  | safelist {p reason : Text} : Safelist.readPattern p = .error reason →
      Blames (.badSafelist (Safelist.refusal p reason)) p
  | file {f : Fault} {p path : Text} : Blames f p → Blames (.invalidFile path f) p

/-- What is said about a fault is on one line, unless the fault is about a pattern that cannot be shown so. -/
def Fault.Legible (f : Fault) : Prop := OneLine f.message ∨ ∃ p, f.Blames p ∧ Sprawling p

theorem Fault.oneLine_badSafelist_iff {m : Text} : OneLine (badSafelist m).message ↔ OneLine m :=
  oneLine_append.trans (and_iff_right (by decide))

theorem Fault.oneLine_invalidFile_iff {path : Text} {f : Fault} :
    OneLine (invalidFile path f).message ↔ OneLine path ∧ OneLine f.message := by
  have hopen : OneLine "Invalid config file ".toList := by decide
  have hcolon : OneLine ": ".toList := by decide
  change OneLine ("Invalid config file ".toList ++ path ++ ": ".toList ++ f.message) ↔ _
  rw [oneLine_append, oneLine_append, oneLine_append, and_iff_right hopen, and_iff_left hcolon]

theorem Fault.Blames.not_oneLine {f : Fault} {p : Text} (h : f.Blames p) (hp : Sprawling p) : ¬ OneLine f.message := by
  induction h with
  | safelist hread =>
    rw [oneLine_badSafelist_iff, Safelist.oneLine_refusal_iff hread]
    exact not_not_intro hp
  | file _ ih =>
    rw [oneLine_invalidFile_iff]
    exact fun hline => ih hp hline.2

theorem Fault.Legible.file {f : Fault} (h : f.Legible) {path : Text} (hpath : OneLine path) :
    (invalidFile path f).Legible := by
  rcases h with h | ⟨p, hf, hp⟩
  · exact .inl (oneLine_invalidFile_iff.2 ⟨hpath, h⟩)
  · exact .inr ⟨p, .file hf, hp⟩

/-! ## Settings -/

theorem Draft.overrideFault?_eq_some {seen : List Text} {os : List Override} {f : Fault}
    (h : overrideFault? seen os = some f) : ∃ o ∈ os, f = .nameNotBare o.name ∨ f = .nameTwice o.name := by
  induction os generalizing seen with
  | nil => cases h
  | cons o os ih =>
    rw [overrideFault?] at h
    split at h
    · cases h
      exact ⟨o, List.mem_cons_self, .inl rfl⟩
    split at h
    · cases h
      exact ⟨o, List.mem_cons_self, .inr rfl⟩
    · obtain ⟨q, hq, hf⟩ := ih h
      exact ⟨q, List.mem_cons_of_mem o hq, hf⟩

theorem Draft.legible_of_overrideFault? {seen : List Text} {os : List Override} {f : Fault}
    (hnames : ∀ o ∈ os, OneLine o.name) (h : overrideFault? seen os = some f) : f.Legible := by
  obtain ⟨o, ho, rfl | rfl⟩ := overrideFault?_eq_some h
  · exact .inl (oneLine_append.2 ⟨oneLine_append.2 ⟨by decide, hnames o ho⟩, by decide⟩)
  · exact .inl (oneLine_append.2 ⟨oneLine_append.2 ⟨by decide, hnames o ho⟩, by decide⟩)

theorem Safelist.legible_of_readPatterns {ps : List Text} {m : Text} (h : readPatterns ps = .error m) :
    (Fault.badSafelist m).Legible := by
  obtain ⟨p, -, reason, hp, rfl⟩ := readPatterns_eq_error h
  by_cases hsprawling : Sprawling p
  · exact .inr ⟨p, .safelist hp, hsprawling⟩
  · exact .inl (Fault.oneLine_badSafelist_iff.2 ((oneLine_refusal_iff hp).2 hsprawling))

theorem Draft.legible_of_build {d : Draft} {f : Fault} (hnames : ∀ o ∈ d.overrides, OneLine o.name)
    (h : d.build = .error f) : f.Legible := by
  rw [build] at h
  split at h
  · next hfault =>
    cases h
    exact legible_of_overrideFault? hnames hfault
  split at h
  · cases h
    exact .inl (by decide)
  split at h
  · cases h
    exact .inl (by decide)
  split at h
  · next hlists =>
    cases h
    rw [Safelist.ofLists] at hlists
    split at hlists
    · next hread =>
      cases hlists
      exact Safelist.legible_of_readPatterns hread
    · cases hlists
  · cases h

def LegibleNames (settings : List Setting) : Prop := ∀ os, Setting.overrides os ∈ settings → ∀ o ∈ os, OneLine o.name

theorem legible_of_ofSettings {settings : List Setting} {f : Fault} (hnames : LegibleNames settings)
    (h : ofSettings settings = .error f) : f.Legible := by
  rw [ofSettings, Draft.ofSettings_eq] at h
  refine Draft.legible_of_build (fun o ho => ?_) h
  obtain ⟨x, hx, hox⟩ := List.mem_flatMap.1 (show o ∈ (Values.of settings).overrides from ho)
  split at hox
  · exact hnames _ hx o hox
  · cases hox

/-! ## Files -/

theorem legible_shape : shape.Legible := by
  simp only [shape, overrideShape, safelistShape, countShape, SupportedBrowsers.shape, SupportedBrowsers.names,
    List.map_cons, List.map_nil, Json.Shape.Legible, Json.Shape.AllLegible]
  decide

def File.LegibleNames (f : File) : Prop := ∀ os ∈ f.overrides, ∀ o ∈ os, OneLine o.name

theorem File.LegibleNames.settings {f : File} (h : f.LegibleNames) (baseDir : Text) :
    Config.LegibleNames (f.settings baseDir) := by
  intro os hos o ho
  obtain ⟨written, hwritten, rfl⟩ : ∃ written, f.overrides = some written ∧
      written.map (overrideFrom baseDir) = os := by
    simpa [File.settings] using hos
  obtain ⟨p, hp, rfl⟩ := List.mem_map.1 ho
  rw [overrideFrom]
  split
  · exact h written hwritten p hp
  · exact h written hwritten p hp

theorem legible_of_ofJson {text baseDir : Text} {f : Fault}
    (hnames : ∀ file, File.read text = .ok file → file.LegibleNames) (h : ofJson text baseDir = .error f) :
    f.Legible := by
  rw [ofJson_eq] at h
  split at h
  · next g hread =>
    cases h
    have hparse : shape.parse text = .error g := by
      rw [File.read] at hread
      cases hp : shape.parse text with
      | error g' =>
        rw [hp] at hread
        cases hread
        rfl
      | ok d =>
        rw [hp] at hread
        cases hread
    exact .inl (oneLine_append.2 ⟨by decide, Json.Shape.oneLine_of_parse legible_shape hparse⟩)
  · next file hread => exact legible_of_ofSettings ((hnames file hread).settings baseDir) h

theorem legible_of_ofFile {files : Files.Tree} {path : Text} {f : Fault} (hpath : OneLine path)
    (hnames : ∀ text file, files.readText path = .ok text → File.read text = .ok file → file.LegibleNames)
    (h : ofFile files path = .error f) : f.Legible := by
  rw [ofFile] at h
  split at h
  · next cause _ =>
    cases h
    have hcause : OneLine cause.text := by cases cause <;> decide
    exact .inl (oneLine_append.2 ⟨oneLine_append.2 ⟨oneLine_append.2 ⟨by decide, hpath⟩, by decide⟩, hcause⟩)
  · next text htext =>
    split at h
    · next hjson =>
      cases h
      exact (legible_of_ofJson (fun file => hnames text file htext) hjson).file hpath
    · cases h

end StylePrune.Config
