import StylePrune.Proofs.Resolution.Session
import StylePrune.Run.Purge

/-!
What purging a page comes to.

What a page is purged to is decided by what each of its links comes to alone and by the passes over the joined
stylesheets (`Purging`): nothing to purge, a stylesheet that cannot be used, a pass that fails, or the purged
stylesheet with a report that accounts for every link (`Accounts`). `purgePage_purging` says that this is so
however many links are resolved at once and in whatever order they end, and that a purged stylesheet and its
report depend on neither.
-/
namespace StylePrune

/-! ## Passes -/

theorem mapError_eq_error {α β γ : Type} {g : α → β} {e : Except α γ} {f : β} (h : e.mapError g = .error f) :
    ∃ a, e = .error a ∧ f = g a := by
  cases e with
  | ok c => cases h
  | error a =>
    cases h
    exact ⟨a, rfl, rfl⟩

theorem Pass.run_eq_error {p : Pass} {css markup : Text} {f : Failure} (h : Pass.run markup css p = .error f) :
    ∃ cause, f = .transformFailed p.name cause := by
  obtain ⟨cause, -, rfl⟩ := mapError_eq_error h
  exact ⟨cause, rfl⟩

theorem Pass.runAll_cons (p : Pass) (ps : List Pass) (css markup : Text) :
    runAll (p :: ps) css markup = (Pass.run markup css p).bind fun css' => runAll ps css' markup := rfl

theorem Pass.runAll_eq_error {ps : List Pass} {css markup : Text} {f : Failure}
    (h : runAll ps css markup = .error f) : ∃ p ∈ ps, ∃ cause, f = .transformFailed p.name cause := by
  induction ps generalizing css with
  | nil => cases h
  | cons p ps ih =>
    rw [runAll_cons] at h
    cases hp : Pass.run markup css p with
    | error g =>
      rw [hp] at h
      cases h
      exact ⟨p, List.mem_cons_self, Pass.run_eq_error hp⟩
    | ok css' =>
      rw [hp] at h
      obtain ⟨q, hq, hf⟩ := ih h
      exact ⟨q, List.mem_cons_of_mem p hq, hf⟩

namespace Resolution

/-! ## What a link comes to -/

/-- The stylesheet was not downloaded, so it is left out. -/
def NotDownloaded (e : Except Failure Stylesheet) : Prop := ∃ url cause, e = .error (.fetchFailed url cause)

theorem Stylesheet.url_of_ofText {l : Page.StyleLink} {origin : Origin} {source css : Text} {s : Stylesheet}
    (h : Stylesheet.ofText l origin source css = .ok s) : s.url = l.url := by
  rw [Stylesheet.ofText] at h
  split at h
  · cases h
    rfl
  · cases h

theorem World.url_of_resolve {w : World} {l : Page.StyleLink} {s : Stylesheet} (h : w.resolve l = .ok s) :
    s.url = l.url := by
  rw [World.resolve] at h
  split at h
  · rw [World.readOverride] at h
    split at h
    · exact Stylesheet.url_of_ofText h
    · cases h
  · rw [World.download] at h
    split at h
    · exact Stylesheet.url_of_ofText h
    · cases h

theorem World.resolve_cases (w : World) (l : Page.StyleLink) :
    (∃ s, w.resolve l = .ok s ∧ s.url = l.url) ∨ (∃ cause, w.resolve l = .error (.fetchFailed l.url cause)) ∨
      ∃ f, Unusable f ∧ w.resolve l = .error f := by
  cases h : w.resolve l with
  | ok s => exact .inl ⟨s, rfl, World.url_of_resolve h⟩
  | error f =>
    rcases World.resolve_eq_error h with ⟨cause, rfl⟩ | hf
    · exact .inr (.inl ⟨cause, rfl⟩)
    · exact .inr (.inr ⟨f, hf, rfl⟩)

theorem World.toOption_eq_none_iff {w : World} {l : Page.StyleLink}
    (h : ∀ f, w.resolve l = .error f → f.isFatal = false) :
    (w.resolve l).toOption = none ↔ NotDownloaded (w.resolve l) := by
  rcases w.resolve_cases l with ⟨s, hs, -⟩ | ⟨cause, hc⟩ | ⟨f, hf, he⟩
  · rw [hs]
    constructor
    · intro h
      cases h
    · rintro ⟨url, cause, h⟩
      cases h
  · rw [hc]
    exact iff_of_true rfl ⟨l.url, cause, rfl⟩
  · have := h f he
    rw [hf.isFatal] at this
    cases this

end Resolution

namespace Run

open Resolution (World Stylesheet Outcome Sequential Unusable NotDownloaded skippedBy Pool)

def joinedCss (w : World) (links : List Page.StyleLink) : Text :=
  Text.join ['\n'] (links.filterMap fun l => (w.resolve l).toOption.map Stylesheet.css)

/-- The failure of one of the links ends the run. -/
def SomeFatal (w : World) (markup : Text) : Prop :=
  ∃ l ∈ Page.styleLinks markup, ∃ f, w.resolve l = .error f ∧ f.isFatal = true

def NoneDownloaded (w : World) (markup : Text) : Prop :=
  ∀ l ∈ Page.styleLinks markup, NotDownloaded (w.resolve l)

/-- What the passes make of the joined stylesheets of a page. -/
def passed (w : World) (markup : Text) : Except Failure Text :=
  Pass.runAll (Pass.standard w.config) (joinedCss w (Page.styleLinks markup)) markup

/-- A report accounts for every link: it is either used or left out, in the order of the links. -/
structure Accounts (w : World) (links : List Page.StyleLink) (css : Text) (r : Report) : Prop where
  used : r.used = links.filterMap fun l => (w.resolve l).toOption.map Used.ofStylesheet
  skipped : r.skipped = links.filterMap fun l => skippedBy (w.resolve l)
  used_urls : r.used.map Used.url = (links.filter fun l => (w.resolve l).isOk).map Page.StyleLink.url
  skipped_urls : r.skipped.map Resolution.Skipped.url =
    (links.filter fun l => !(w.resolve l).isOk).map Page.StyleLink.url
  inputBytes : r.inputBytes = Text.byteCount (joinedCss w links)
  outputBytes : r.outputBytes = Text.byteCount css

/-- What a page must be purged to. -/
structure Purging (w : World) (markup : Text) (isSplit : Bool) (e : Except Failure Purged) : Prop where
  /-- There is nothing to purge exactly if no stylesheet was downloaded or read. -/
  noStylesheets : e = .error .noStylesheets ↔ NoneDownloaded w markup
  /-- A stylesheet cannot be used exactly if the failure of one of the links is fatal. -/
  unusable : (∃ f, Unusable f ∧ e = .error f) ↔ SomeFatal w markup
  /-- The failure is then that of one of the links. -/
  unusable_mem : ∀ f, Unusable f → e = .error f → ∃ l ∈ Page.styleLinks markup, w.resolve l = .error f
  /-- Otherwise a pass fails, or there is a purged stylesheet. -/
  otherwise : ¬ NoneDownloaded w markup → ¬ SomeFatal w markup →
    ((∃ stage cause, e = .error (.transformFailed stage cause)) ↔ ∃ f, passed w markup = .error f) ∧
      ∀ css, passed w markup = .ok css → ∃ p, e = .ok p ∧ p.css = css ∧
        p.groups = (if isSplit then some (Split.split css) else none) ∧
        Accounts w (Page.styleLinks markup) css p.report

/-! ## The report -/

variable {w : World} {links : List Page.StyleLink} {markup : Text} {isSplit : Bool}

theorem used_urls (w : World) (links : List Page.StyleLink) :
    (links.filterMap fun l => (w.resolve l).toOption.map Used.ofStylesheet).map Used.url =
      (links.filter fun l => (w.resolve l).isOk).map Page.StyleLink.url := by
  induction links with
  | nil => rfl
  | cons l links ih =>
    rw [List.filterMap_cons, List.filter_cons]
    cases h : w.resolve l with
    | ok s =>
      have hurl : (Used.ofStylesheet s).url = l.url := World.url_of_resolve h
      simpa [Except.toOption, Except.isOk, Except.toBool, hurl] using ih
    | error f => simpa [Except.toOption, Except.isOk, Except.toBool] using ih

theorem skipped_urls (hno : ∀ l ∈ links, ∀ f, w.resolve l = .error f → f.isFatal = false) :
    (links.filterMap fun l => skippedBy (w.resolve l)).map Resolution.Skipped.url =
      (links.filter fun l => !(w.resolve l).isOk).map Page.StyleLink.url := by
  induction links with
  | nil => rfl
  | cons l links ih =>
    have ih := ih fun m hm => hno m (List.mem_cons_of_mem l hm)
    rw [List.filterMap_cons, List.filter_cons]
    rcases w.resolve_cases l with ⟨s, hs, -⟩ | ⟨cause, hc⟩ | ⟨f, hf, he⟩
    · rw [hs]
      simpa [skippedBy, Except.isOk, Except.toBool] using ih
    · rw [hc]
      simpa [skippedBy, Except.isOk, Except.toBool] using ih
    · have := hno l List.mem_cons_self f he
      rw [hf.isFatal] at this
      cases this

/-- Stylesheets that went through the passes are reported on with every link. -/
theorem accounts_ofCss {css : Text} (hno : ∀ l ∈ links, ∀ f, w.resolve l = .error f → f.isFatal = false) :
    Accounts w links css (Purged.ofCss ⟨links.filterMap fun l => (w.resolve l).toOption,
      links.filterMap fun l => skippedBy (w.resolve l)⟩ isSplit css).report where
  used := List.map_filterMap
  skipped := rfl
  used_urls := by
    rw [← used_urls]
    exact congrArg _ List.map_filterMap
  skipped_urls := skipped_urls hno
  inputBytes := by
    show Text.byteCount (Outcome.css _) = _
    rw [Outcome.css, List.map_filterMap, joinedCss]
  outputBytes := rfl

/-- A report says the same whatever else is done with the stylesheet. -/
theorem Accounts.report_eq {css : Text} {r r' : Report} (h : Accounts w links css r) (h' : Accounts w links css r') :
    r = r' := by
  cases r
  cases r'
  simp only [Report.mk.injEq]
  exact ⟨h.used.trans h'.used.symm, h.skipped.trans h'.skipped.symm, h.inputBytes.trans h'.inputBytes.symm,
    h.outputBytes.trans h'.outputBytes.symm⟩

/-! ## The four ways in which purging ends -/

theorem not_unusable_noStylesheets : ¬ Unusable .noStylesheets := by
  intro h
  exact absurd h.isFatal (by decide)

theorem not_unusable_transformFailed (stage cause : Text) : ¬ Unusable (.transformFailed stage cause) := by
  rintro (⟨path, h⟩ | ⟨source, h⟩)
  · cases h
  · cases h

theorem purging_of_unusable {f : Failure} (hf : Unusable f)
    (hmem : ∃ l ∈ Page.styleLinks markup, w.resolve l = .error f) : Purging w markup isSplit (.error f) := by
  obtain ⟨l, hl, he⟩ := hmem
  have hfatal : SomeFatal w markup := ⟨l, hl, f, he, hf.isFatal⟩
  refine ⟨iff_of_false ?_ ?_, iff_of_true ⟨f, hf, rfl⟩ hfatal, ?_, fun _ hno => absurd hfatal hno⟩
  · intro h
    obtain rfl := Except.error.inj h
    exact not_unusable_noStylesheets hf
  · intro hnone
    obtain ⟨url, cause, hc⟩ := hnone l hl
    rw [he] at hc
    obtain rfl := Except.error.inj hc
    exact absurd hf.isFatal Bool.false_ne_true
  · intro g _ hg
    obtain rfl := Except.error.inj hg
    exact ⟨l, hl, he⟩

theorem purging_of_noneDownloaded (hnone : NoneDownloaded w markup) (hno : ¬ SomeFatal w markup) :
    Purging w markup isSplit (.error .noStylesheets) := by
  refine ⟨iff_of_true rfl hnone, iff_of_false ?_ hno, ?_, fun hsome => absurd hnone hsome⟩
  · rintro ⟨f, hf, he⟩
    obtain rfl := Except.error.inj he
    exact not_unusable_noStylesheets hf
  · intro f hf he
    obtain rfl := Except.error.inj he
    exact absurd hf not_unusable_noStylesheets

theorem purging_of_passed_error {f : Failure} (hsome : ¬ NoneDownloaded w markup) (hno : ¬ SomeFatal w markup)
    (hp : passed w markup = .error f) : Purging w markup isSplit (.error f) := by
  obtain ⟨q, -, cause, rfl⟩ := Pass.runAll_eq_error hp
  refine ⟨iff_of_false (by rintro ⟨⟩) hsome, iff_of_false ?_ hno, ?_, fun _ _ => ⟨?_, ?_⟩⟩
  · rintro ⟨f, hf, he⟩
    obtain rfl := Except.error.inj he
    exact not_unusable_transformFailed q.name cause hf
  · intro f hf he
    obtain rfl := Except.error.inj he
    exact absurd hf (not_unusable_transformFailed q.name cause)
  · exact iff_of_true ⟨_, _, rfl⟩ ⟨_, hp⟩
  · intro css hok
    rw [hp] at hok
    cases hok

theorem purging_of_passed {p : Purged} (hsome : ¬ NoneDownloaded w markup) (hno : ¬ SomeFatal w markup)
    (hp : passed w markup = .ok p.css) (hgroups : p.groups = if isSplit then some (Split.split p.css) else none)
    (hreport : Accounts w (Page.styleLinks markup) p.css p.report) : Purging w markup isSplit (.ok p) := by
  refine ⟨iff_of_false (by rintro ⟨⟩) hsome, iff_of_false ?_ hno, ?_, fun _ _ => ⟨iff_of_false ?_ ?_, ?_⟩⟩
  · rintro ⟨f, -, he⟩
    cases he
  · intro f _ he
    cases he
  · rintro ⟨stage, cause, he⟩
    cases he
  · rintro ⟨f, he⟩
    rw [hp] at he
    cases he
  · intro css hok
    rw [hp] at hok
    obtain rfl := Except.ok.inj hok
    exact ⟨p, rfl, rfl, hgroups, hreport⟩

theorem purging_of_outcome
    (hno : ∀ l ∈ Page.styleLinks markup, ∀ f, w.resolve l = .error f → f.isFatal = false) :
    Purging w markup isSplit (purgeOutcome w.config markup isSplit
      ⟨(Page.styleLinks markup).filterMap fun l => (w.resolve l).toOption,
        (Page.styleLinks markup).filterMap fun l => skippedBy (w.resolve l)⟩) := by
  have hnofatal : ¬ SomeFatal w markup := by
    rintro ⟨l, hl, f, hf, hfatal⟩
    rw [hno l hl f hf] at hfatal
    cases hfatal
  have hempty : ((Page.styleLinks markup).filterMap fun l => (w.resolve l).toOption).isEmpty = true ↔
      NoneDownloaded w markup := by
    rw [List.isEmpty_iff, List.filterMap_eq_nil_iff]
    exact forall₂_congr fun l hl => World.toOption_eq_none_iff (hno l hl)
  have hcss : Outcome.css ⟨(Page.styleLinks markup).filterMap fun l => (w.resolve l).toOption,
      (Page.styleLinks markup).filterMap fun l => skippedBy (w.resolve l)⟩ = joinedCss w (Page.styleLinks markup) := by
    rw [Outcome.css, List.map_filterMap, joinedCss]
  -- what is left to decide is whether there is a stylesheet and whether the passes go through
  rw [purgeOutcome]
  dsimp only
  split
  · next h => exact purging_of_noneDownloaded (hempty.1 h) hnofatal
  · next h =>
    have hsome := mt hempty.2 h
    rw [hcss, ← passed]
    cases hp : passed w markup with
    | error f => exact purging_of_passed_error hsome hnofatal hp
    | ok css => exact purging_of_passed hsome hnofatal hp rfl (accounts_ofCss hno)

theorem purging_of_sequential {e : Except Failure Outcome} (h : Sequential w (Page.styleLinks markup) e) :
    Purging w markup isSplit (e.bind (purgeOutcome w.config markup isSplit)) := by
  by_cases hfatal : SomeFatal w markup
  · obtain ⟨l, hl, f, hf, hff, rfl⟩ := h.error hfatal
    rcases World.resolve_eq_error hf with ⟨cause, rfl⟩ | hunusable
    · cases hff
    · exact purging_of_unusable hunusable ⟨l, hl, hf⟩
  · have hno : ∀ l ∈ Page.styleLinks markup, ∀ f, w.resolve l = .error f → f.isFatal = false := by
      intro l hl f hf
      exact Bool.eq_false_iff.2 fun hff => hfatal ⟨l, hl, f, hf, hff⟩
    rw [h.ok hno]
    exact purging_of_outcome hno

/-- What is purged does not depend on how: the purged stylesheet and the report are decided by the links. -/
theorem Purging.unique {b b' : Bool} {e e' : Except Failure Purged} (h : Purging w markup b e)
    (h' : Purging w markup b' e') {p : Purged} (hp : e = .ok p) :
    ∃ p', e' = .ok p' ∧ p'.css = p.css ∧ p'.report = p.report := by
  subst hp
  have hsome : ¬ NoneDownloaded w markup := by
    intro hnone
    cases h.noStylesheets.2 hnone
  have hno : ¬ SomeFatal w markup := by
    intro hfatal
    obtain ⟨f, -, he⟩ := h.unusable.2 hfatal
    cases he
  obtain ⟨hfails, hgives⟩ := h.otherwise hsome hno
  cases hpassed : passed w markup with
  | error f =>
    obtain ⟨stage, cause, he⟩ := hfails.2 ⟨f, hpassed⟩
    cases he
  | ok css =>
    obtain ⟨q, hq, hqcss, -, hqreport⟩ := hgives css hpassed
    obtain rfl := Except.ok.inj hq
    obtain ⟨p', hp', hpcss, -, hpreport⟩ := (h'.otherwise hsome hno).2 css hpassed
    exact ⟨p', hp', hpcss.trans hqcss.symm, hpreport.report_eq hqreport⟩

/-- What a page is purged to when its links have come to these records. -/
def purgeRecords (w : World) (markup : Text) (isSplit : Bool)
    (slots : Except Failure (List (Nat × Resolution.Settled))) : Except Failure Purged :=
  (slots.map (Outcome.ofRecords (Page.styleLinks markup).length)).bind (purgeOutcome w.config markup isSplit)

theorem purging_withConcurrency (w : World) (markup : Text) {n : Nat} (hn : 1 ≤ n) (isSplit : Bool) :
    Purging w markup isSplit (purgePage (w.withConcurrency n) markup isSplit).2 :=
  purging_of_sequential (Resolution.sequential_withConcurrency
    (Resolution.sequential_resolveAll (w := w.withConcurrency n) hn (Page.styleLinks markup)))

theorem purging_of_ends {limit : Nat} {slots : Except Failure (List (Nat × Resolution.Settled))}
    (h : Pool.Ends w limit (Pool.start (Page.styleLinks markup)) slots) (isSplit : Bool) :
    Purging w markup isSplit (purgeRecords w markup isSplit slots) :=
  purging_of_sequential (h.recorded Pool.tracks_start).sequential

/-- **What a page is purged to is decided by its links and the passes.** This is so for every number of links that
are resolved at once and for every order in which they can end. Where a page is purged, the stylesheet and the
report are the same for all of them, and whether the stylesheet is to be split or not. -/
theorem purgePage_purging (w : World) (markup : Text) (isSplit : Bool) (h : 1 ≤ w.config.concurrency) :
    Purging w markup isSplit (purgePage w markup isSplit).2 ∧
      (∀ n b, 1 ≤ n → Purging w markup b (purgePage (w.withConcurrency n) markup b).2 ∧
        ∀ p, (purgePage w markup isSplit).2 = .ok p →
          ∃ p', (purgePage (w.withConcurrency n) markup b).2 = .ok p' ∧ p'.css = p.css ∧ p'.report = p.report) ∧
      ∀ limit slots b, Pool.Ends w limit (Pool.start (Page.styleLinks markup)) slots →
        Purging w markup b (purgeRecords w markup b slots) ∧
        ∀ p, (purgePage w markup isSplit).2 = .ok p →
          ∃ p', purgeRecords w markup b slots = .ok p' ∧ p'.css = p.css ∧ p'.report = p.report := by
  have hpurging : Purging w markup isSplit (purgePage w markup isSplit).2 :=
    purging_of_sequential (Resolution.sequential_resolveAll h (Page.styleLinks markup))
  refine ⟨hpurging, fun n b hn => ?_, fun limit slots b hends => ?_⟩
  · have hother := purging_withConcurrency w markup hn b
    exact ⟨hother, fun p hp => hpurging.unique hother hp⟩
  · have hother := purging_of_ends hends b
    exact ⟨hother, fun p hp => hpurging.unique hother hp⟩

def goneMarkup : Text := "<link rel=stylesheet href=https://host/gone.css>".toList

theorem styleLinks_goneMarkup : Page.styleLinks goneMarkup = [⟨"https://host/gone.css".toList, none⟩] := by
  decide +kernel

/-- With its only stylesheet left out, there is nothing to purge. -/
theorem purgePage_purging_goneMarkup :
    1 ≤ Resolution.oneSlowSheet.config.concurrency ∧
      Purging Resolution.oneSlowSheet goneMarkup true (purgePage Resolution.oneSlowSheet goneMarkup true).2 ∧
      (purgePage Resolution.oneSlowSheet goneMarkup true).2 = .error .noStylesheets := by
  obtain ⟨hpurging, -⟩ := purgePage_purging Resolution.oneSlowSheet goneMarkup true (by decide)
  refine ⟨by decide, hpurging, hpurging.noStylesheets.2 ?_⟩
  intro l hl
  rw [styleLinks_goneMarkup, List.mem_singleton] at hl
  subst hl
  exact ⟨_, "refused".toList, by rfl⟩

end Run
end StylePrune
