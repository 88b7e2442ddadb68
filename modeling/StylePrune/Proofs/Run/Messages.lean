import StylePrune.Proofs.Config.Messages
import StylePrune.Proofs.Run.Ending

/-!
What a person is shown when there is no result.

A failure is shown with the address, path or name that it is about, with the name of a pass, or with what is wrong
with the configuration (`Raised` says where failures come from). Where names, paths and addresses are on one line, so
is what is shown, with one exception (`oneLine_userMessage_iff`): if a pattern of the safelist is refused, the report
of its fault is shown too, and that takes several lines unless the pattern is only too large.
-/
namespace StylePrune

open Text (OneLine oneLine_append)

namespace Resolution

/-! ## Stylesheets that cannot be used -/

theorem Session.run_start_of_zero {w : World} (h : w.config.concurrency = 0) (links : List Page.StyleLink) :
    ((Session.start links).run w).2 = none := by
  have hstep : (Session.start links).step w = .done ((Session.start links).letIn 0) := by
    rw [step, h]
    simp [letIn, unfinished, wait, start]
  unfold run
  split
  · next hgoing => rw [hstep] at hgoing; cases hgoing
  · next hfailed => rw [hstep] at hfailed; cases hfailed
  · rfl

/-- If resolving the links of a page fails, one of the links does so. -/
theorem World.resolveAll_eq_error {w : World} {links : List Page.StyleLink} {f : Failure}
    (h : (w.resolveAll links).2 = .error f) : ∃ l ∈ links, w.resolve l = .error f := by
  by_cases hroom : 1 ≤ w.config.concurrency
  · -- what all links come to is what they come to one after another
    have hseq := sequential_resolveAll hroom links
    rw [h] at hseq
    by_cases hfatal : ∃ l ∈ links, ∃ g, w.resolve l = .error g ∧ g.isFatal = true
    · obtain ⟨l, hl, g, hg, -, he⟩ := hseq.error hfatal
      cases he
      exact ⟨l, hl, hg⟩
    · have hno : ∀ l ∈ links, ∀ g, w.resolve l = .error g → g.isFatal = false := by
        intro l hl g hg
        exact Bool.eq_false_iff.2 fun hgf => hfatal ⟨l, hl, g, hg, hgf⟩
      cases hseq.ok hno
  · have hnone := Session.run_start_of_zero (w := w) (by omega) links
    rw [World.resolveAll] at h
    split at h
    · next s g hrun =>
      rw [hrun] at hnone
      cases hnone
    · cases h

theorem World.named_of_resolve_eq_error {w : World} {l : Page.StyleLink} {f : Failure} (h : w.resolve l = .error f) :
    (∃ cause, f = .fetchFailed l.url cause) ∨ f = .invalidCss l.url ∨
      ∃ o ∈ w.config.overrides, f = .overrideMissing o.path ∨ f = .invalidCss o.path := by
  have hsource {origin : Origin} {source css : Text} (h : Stylesheet.ofText l origin source css = .error f) :
      f = .invalidCss source := by
    rw [Stylesheet.ofText] at h
    split at h
    · cases h
    · cases h
      rfl
  rw [World.resolve] at h
  split at h
  · next o ho =>
    have hmem : o ∈ w.config.overrides := List.mem_of_find?_eq_some ho
    rw [World.readOverride] at h
    split at h
    · exact .inr (.inr ⟨o, hmem, .inr (hsource h)⟩)
    · cases h
      exact .inr (.inr ⟨o, hmem, .inl rfl⟩)
  · rw [World.download] at h
    split at h
    · exact .inr (.inl (hsource h))
    · cases h
      exact .inl ⟨_, rfl⟩

end Resolution

namespace Run

open Resolution (World)
open Config (LegibleNames Sprawling)

/-! ## What failures name -/

def LegiblePaths (c : Config) : Prop := ∀ o ∈ c.overrides, OneLine o.path

def LegibleLinks (markup : Text) : Prop := ∀ l ∈ Page.styleLinks markup, OneLine l.url

def LegibleSource : Page.Source → Prop
  | .url address => OneLine address
  | .file path => OneLine path
  | .markup _ => True

variable {w : World} {markup : Text} {isSplit : Bool} {f : Failure}

theorem oneLine_name_standard {c : Config} {p : Pass} (hp : p ∈ Pass.standard c) : OneLine p.name := by
  simp only [Pass.standard, List.mem_cons, List.not_mem_nil, or_false] at hp
  rcases hp with rfl | rfl | rfl | rfl | rfl
  · exact (by decide : OneLine "compatibility".toList)
  · exact (by decide : OneLine "lowering".toList)
  · exact (by decide : OneLine "prefix".toList)
  · exact (by decide : OneLine "purge".toList)
  · exact (by decide : OneLine "minify".toList)

theorem oneLine_of_resolve (hpaths : LegiblePaths w.config) {l : Page.StyleLink} (hl : OneLine l.url)
    (h : w.resolve l = .error f) : OneLine f.userMessage := by
  rcases World.named_of_resolve_eq_error h with ⟨cause, rfl⟩ | rfl | ⟨o, ho, rfl | rfl⟩
  · exact oneLine_append.2 ⟨by decide, hl⟩
  · exact oneLine_append.2 ⟨hl, by decide⟩
  · exact oneLine_append.2 ⟨oneLine_append.2 ⟨by decide, hpaths o ho⟩, by decide⟩
  · exact oneLine_append.2 ⟨hpaths o ho, by decide⟩

theorem oneLine_of_purgePage (hpaths : LegiblePaths w.config) (hlinks : LegibleLinks markup)
    (h : (purgePage w markup isSplit).2 = .error f) : OneLine f.userMessage := by
  change (w.resolveAll (Page.styleLinks markup)).2.bind (purgeOutcome w.config markup isSplit) = .error f at h
  cases houtcome : (w.resolveAll (Page.styleLinks markup)).2 with
  | error g =>
    rw [houtcome] at h
    cases h
    obtain ⟨l, hl, hfails⟩ := World.resolveAll_eq_error houtcome
    exact oneLine_of_resolve hpaths (hlinks l hl) hfails
  | ok o =>
    rw [houtcome] at h
    change purgeOutcome w.config markup isSplit o = .error f at h
    rw [purgeOutcome] at h
    split at h
    · cases h
      decide
    · cases hpasses : Pass.runAll (Pass.standard w.config) o.css markup with
      | ok css =>
        rw [hpasses] at h
        cases h
      | error g =>
        rw [hpasses] at h
        cases h
        obtain ⟨p, hp, cause, rfl⟩ := Pass.runAll_eq_error hpasses
        exact oneLine_append.2 ⟨oneLine_append.2 ⟨by decide, oneLine_name_standard hp⟩, by decide⟩

theorem oneLine_of_load {source : Page.Source} (hsource : LegibleSource source) (h : loaded w source = .error f) :
    OneLine f.userMessage := by
  have hpage {target cause : Text} (ht : OneLine target) : OneLine (Failure.pageFailed target cause).userMessage :=
    oneLine_append.2 ⟨by decide, ht⟩
  cases source with
  | markup m => cases h
  | file path =>
    obtain ⟨fault, -, rfl⟩ := mapError_eq_error h
    exact hpage hsource
  | url address =>
    obtain ⟨cause, -, rfl⟩ := mapError_eq_error h
    exact hpage hsource

/-- What a run fails with: the page could not be loaded or purged, or something could not be written. -/
theorem run_eq_error {source : Page.Source} {runId : Text} (h : (run w source isSplit runId).outcome = .error f) :
    loaded w source = .error f ∨ (∃ reason, f = .writeFailed reason) ∨
      ∃ markup t, loaded w source = .ok markup ∧ (purgePage { w with files := t } markup isSplit).2 = .error f := by
  have hwritten {r : Files.Tree × Option Text} {t : Files.Tree} {g : Failure} (hr : written r = (t, some g)) :
      ∃ reason, g = .writeFailed reason := by
    obtain ⟨reason, -, hreason⟩ := Option.map_eq_some_iff.1 (Prod.mk.inj hr).2
    exact ⟨reason, hreason.symm⟩
  unfold run at h
  dsimp only at h
  split at h
  · next hload =>
    cases h
    exact .inl hload
  next markup hload =>
  split at h
  · next hr =>
    cases h
    exact .inr (.inl (hwritten hr))
  split at h
  · next hr =>
    cases h
    exact .inr (.inl (hwritten hr))
  next t _ =>
  unfold purgeInto at h
  dsimp only at h
  split at h
  · next hpurge =>
    cases h
    exact .inr (.inr ⟨markup, t, hload, hpurge⟩)
  split at h
  · next hr =>
    cases h
    exact .inr (.inl (hwritten hr))
  · cases h

/-! ## Failures that are shown -/

/-- A failure that arises from names, paths and addresses on one line: from settings, from JSON, from a file, from a
page that is purged, or from a run. -/
inductive Raised : Failure → Prop where
  | settings {settings : List Config.Setting} {f : Config.Fault} : LegibleNames settings →
      Config.ofSettings settings = .error f → Raised f.failure
  | json {text baseDir : Text} {f : Config.Fault} :
      (∀ file, Config.File.read text = .ok file → file.LegibleNames) →
      Config.ofJson text baseDir = .error f → Raised f.failure
  | file {files : Files.Tree} {path : Text} {f : Config.Fault} : OneLine path →
      (∀ text file, files.readText path = .ok text → Config.File.read text = .ok file → file.LegibleNames) →
      Config.ofFile files path = .error f → Raised f.failure
  | page {w : World} {markup : Text} {isSplit : Bool} {f : Failure} : LegiblePaths w.config → LegibleLinks markup →
      (purgePage w markup isSplit).2 = .error f → Raised f
  | run {w : World} {source : Page.Source} {isSplit : Bool} {runId : Text} {f : Failure} : LegiblePaths w.config →
      LegibleSource source → (∀ markup, loaded w source = .ok markup → LegibleLinks markup) →
      (run w source isSplit runId).outcome = .error f → Raised f

theorem oneLine_failure_iff {f : Config.Fault} : OneLine f.failure.userMessage ↔ OneLine f.message :=
  oneLine_append.trans (and_iff_right (by decide))

/-- **What a person is shown is on one line, unless a pattern cannot be.** Where names, paths and addresses are on one
line, a failure is shown on one line exactly if it is not about a pattern of the safelist that is no pattern or has a
line end itself. -/
theorem oneLine_userMessage_iff (h : Raised f) :
    OneLine f.userMessage ↔ ¬ ∃ (g : Config.Fault) (p : Text), f = g.failure ∧ g.Blames p ∧ Sprawling p := by
  constructor
  · rintro hline ⟨g, p, rfl, hblames, hp⟩
    exact hblames.not_oneLine hp (oneLine_failure_iff.1 hline)
  · intro hno
    have hfault {g : Config.Fault} (hg : g.Legible) (hfg : f = g.failure) : OneLine f.userMessage := by
      rcases hg with hline | ⟨p, hblames, hp⟩
      · rw [hfg]
        exact oneLine_failure_iff.2 hline
      · exact absurd ⟨g, p, hfg, hblames, hp⟩ hno
    cases h with
    | settings hnames hfails => exact hfault (Config.legible_of_ofSettings hnames hfails) rfl
    | json hnames hfails => exact hfault (Config.legible_of_ofJson hnames hfails) rfl
    | file hpath hnames hfails => exact hfault (Config.legible_of_ofFile hpath hnames hfails) rfl
    | page hpaths hlinks hfails => exact oneLine_of_purgePage hpaths hlinks hfails
    | @run w _ _ _ _ hpaths hsource hlinks hfails =>
      rcases run_eq_error hfails with hload | ⟨reason, rfl⟩ | ⟨markup, t, hload, hpurge⟩
      · exact oneLine_of_load hsource hload
      · exact (by decide : OneLine "Could not write output files".toList)
      · exact oneLine_of_purgePage (w := { w with files := t }) hpaths (hlinks markup hload) hpurge

/-- A download may not take no time: the settings are refused, and on one line. -/
theorem oneLine_userMessage_iff_noTime :
    Raised Config.Fault.noTime.failure ∧ OneLine Config.Fault.noTime.failure.userMessage ∧
      ¬ ∃ (g : Config.Fault) (p : Text), Config.Fault.noTime.failure = g.failure ∧ g.Blames p ∧ Sprawling p := by
  have hrefused : Config.ofSettings [.timeout 0] = .error .noTime := rfl
  have hraised : Raised Config.Fault.noTime.failure := .settings (by intro os hos; simp at hos) hrefused
  have hline : OneLine Config.Fault.noTime.failure.userMessage := by decide
  exact ⟨hraised, hline, (oneLine_userMessage_iff hraised).1 hline⟩

/-- A file whose safelist has a pattern with an open group. -/
def openGroup : Text := "\x7b\"safelist\":\x7b\"patterns\":[\"(\"]\x7d\x7d".toList

def openGroupShown : Text :=
  "Invalid configuration: Invalid safelist: Invalid safelist pattern '(': regex parse error:\n    (\n    ^\n".toList ++
    "error: unclosed group".toList

/-- An open group is refused on four lines, though no name, path or address is in the file. -/
theorem not_oneLine_userMessage_openGroup :
    ∃ f : Config.Fault, Config.ofJson openGroup ".".toList = .error f ∧ Raised f.failure ∧
      f.failure.userMessage = openGroupShown ∧ ¬ OneLine f.failure.userMessage := by
  have hnames : ∀ file, Config.File.read openGroup = .ok file → file.LegibleNames := by
    intro file hfile os hos
    have hnone : (Config.File.read openGroup).toOption.bind Config.File.overrides = none := by rfl
    rw [hfile] at hnone
    cases hos.symm.trans hnone
  have hshown : (((Config.ofJson openGroup ".".toList).map fun _ => []).tryCatch
      fun f => .ok f.failure.userMessage).toOption = some openGroupShown := by decide +kernel
  cases hread : Config.ofJson openGroup ".".toList with
  | error f =>
    rw [hread] at hshown
    have htext : f.failure.userMessage = openGroupShown := Option.some.inj hshown
    have hlong : ¬ OneLine openGroupShown := by decide
    exact ⟨f, rfl, .json hnames hread, htext, htext ▸ hlong⟩
  | ok c =>
    rw [hread] at hshown
    have hempty : [] ≠ openGroupShown := by decide
    exact absurd (Option.some.inj hshown) hempty

end Run
end StylePrune
