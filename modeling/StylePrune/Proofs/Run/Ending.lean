import StylePrune.Proofs.Run.Directory
import StylePrune.Proofs.Run.Purging
import StylePrune.Run.Basic

/-!
How a run ends.

If the identifier of a run is new and what it writes can be written, there are three ways (`Ending`): the page cannot
be loaded and nothing is changed; it cannot be purged and the directory of the run holds the page; or it is purged,
and the directory holds the result as well. `run_ending` says that every run ends in exactly one of them, each with
its own failures and its own files, and that no file outside the directory is created or changed.
-/
namespace StylePrune

namespace Page

theorem Source.load_eq_error {s : Source} {seconds : Nat} {files : Files.Tree} {network : Fetch.Network} {f : Failure}
    (h : s.load seconds files network = .error f) : ∃ target cause, f = .pageFailed target cause := by
  cases s with
  | markup m => cases h
  | file path =>
    obtain ⟨fault, -, rfl⟩ := mapError_eq_error h
    exact ⟨path, fault.text, rfl⟩
  | url address =>
    obtain ⟨cause, -, rfl⟩ := mapError_eq_error h
    exact ⟨address, cause, rfl⟩

end Page

namespace Run

open Files (Tree Place Entry)
open Resolution (World Unusable)

/-! ## What purging a page comes to -/

/-- A failure that purging a page ends with. -/
def Unpurgeable (f : Failure) : Prop :=
  f = .noStylesheets ∨ (∃ path, f = .overrideMissing path) ∨ (∃ source, f = .invalidCss source) ∨
    ∃ stage cause, f = .transformFailed stage cause

variable {w : World} {markup : Text} {isSplit : Bool}

theorem purgeOutcome_cases (c : Config) (o : Resolution.Outcome) :
    (∃ f, Unpurgeable f ∧ purgeOutcome c markup isSplit o = .error f) ∨
      ∃ css, purgeOutcome c markup isSplit o = .ok (Purged.ofCss o isSplit css) := by
  unfold purgeOutcome
  split
  · exact .inl ⟨_, .inl rfl, rfl⟩
  cases hpasses : Pass.runAll (Pass.standard c) o.css markup with
  | ok css => exact .inr ⟨css, rfl⟩
  | error f =>
    obtain ⟨p, -, cause, rfl⟩ := Pass.runAll_eq_error hpasses
    exact .inl ⟨_, .inr (.inr (.inr ⟨p.name, cause, rfl⟩)), rfl⟩

/-- Purging a page ends with one of its failures, or with a stylesheet that is split if it is to be. -/
theorem purgePage_cases (w : World) (markup : Text) (isSplit : Bool) :
    (∃ f, Unpurgeable f ∧ (purgePage w markup isSplit).2 = .error f) ∨
      ∃ p, (purgePage w markup isSplit).2 = .ok p ∧
        p.groups = if isSplit then some (Split.split p.css) else none := by
  show (∃ f, _ ∧ (w.resolveAll _).2.bind _ = .error f) ∨ ∃ p, (w.resolveAll _).2.bind _ = .ok p ∧ _
  cases houtcome : (w.resolveAll (Page.styleLinks markup)).2 with
  | error f =>
    rcases World.resolveAll_failed houtcome with hpath | hsource
    · exact .inl ⟨f, .inr (.inl hpath), rfl⟩
    · exact .inl ⟨f, .inr (.inr (.inl hsource)), rfl⟩
  | ok o =>
    rcases purgeOutcome_cases w.config o with ⟨f, hf, hfails⟩ | ⟨css, hcss⟩
    · exact .inl ⟨f, hf, hfails⟩
    · exact .inr ⟨_, hcss, rfl⟩

/-! ## The three ways -/

/-- The ways in which a run ends. -/
inductive Ending where
  /-- The page cannot be loaded. -/
  | unloaded
  /-- The page cannot be purged. -/
  | unpurged
  /-- The page is purged. -/
  | purged
deriving DecidableEq, Repr

def loaded (w : World) (source : Page.Source) : Except Failure Text :=
  source.load w.config.timeout w.files w.network

/-- What a run that ends in a way comes to and leaves behind. -/
def Ending.Of (w : World) (source : Page.Source) (isSplit : Bool) (ws : Workspace) (r : Result) : Ending → Prop
  | .unloaded => ∃ target cause, loaded w source = .error (.pageFailed target cause) ∧
      r.outcome = .error (.pageFailed target cause) ∧ r.files = w.files
  | .unpurged => ∃ markup f, loaded w source = .ok markup ∧
      (purgePage { w with files := r.files } markup isSplit).2 = .error f ∧ Unpurgeable f ∧ r.outcome = .error f ∧
      Leaves w.files r.files ws [pageEntry markup] ∧ r.files.readText ws.pagePath = .ok markup
  | .purged => ∃ markup p t, loaded w source = .ok markup ∧
      Leaves w.files t ws [pageEntry markup] ∧ (purgePage { w with files := t } markup isSplit).2 = .ok p ∧
      p.groups = (if isSplit then some (Split.split p.css) else none) ∧ r.outcome = .ok (p, ws) ∧
      Leaves w.files r.files ws (pageEntry markup :: resultListing p) ∧
      ∀ f ∈ (ws.pagePath, markup) :: ws.resultFiles p, r.files.readText f.1 = .ok f.2

/-- What a run writes for a page can be written: its directory, the copy of the page, and a purged stylesheet. -/
structure Writable (w : World) (ws : Workspace) (markup : Text) (isSplit : Bool) (t₁ t₂ : Tree) : Prop where
  create : ws.create w.files = (t₁, none)
  page : t₁.save ws.pagePath markup = (t₂, none)
  result : ∀ p, (purgePage { w with files := t₂ } markup isSplit).2 = .ok p →
    ∃ t₃, Workspace.saveAll (ws.resultFiles p) t₂ = (t₃, none)

/-- The way in which a run ended, told by what it came to. -/
def Ending.ofOutcome : Except Failure (Purged × Workspace) → Ending
  | .error (.pageFailed _ _) => .unloaded
  | .error _ => .unpurged
  | .ok _ => .purged

variable {source : Page.Source} {ws : Workspace} {r : Result} {runId : Text}

/-- A run ends in no two ways: what it comes to tells them apart. -/
theorem Ending.Of.eq_ofOutcome {e : Ending} (h : e.Of w source isSplit ws r) : e = .ofOutcome r.outcome := by
  cases e with
  | unloaded =>
    obtain ⟨target, cause, -, houtcome, -⟩ := h
    rw [houtcome]
    rfl
  | unpurged =>
    obtain ⟨markup, f, -, -, hf, houtcome, -⟩ := h
    rw [houtcome]
    rcases hf with rfl | ⟨path, rfl⟩ | ⟨source, rfl⟩ | ⟨stage, cause, rfl⟩
    · rfl
    · rfl
    · rfl
    · rfl
  | purged =>
    obtain ⟨markup, p, t, -, -, -, -, houtcome, -⟩ := h
    rw [houtcome]
    rfl

/-! ## One run -/

theorem run_of_unloaded {f : Failure} (hload : loaded w source = .error f) :
    run w source isSplit runId = ⟨w.files, source.requests, .error f⟩ := by
  unfold loaded at hload
  unfold run
  rw [hload]

theorem run_of_loaded {t₁ t₂ : Tree} (hload : loaded w source = .ok markup)
    (h : Writable w (.below w.config.outputDir runId) markup isSplit t₁ t₂) :
    run w source isSplit runId =
      purgeInto w (.below w.config.outputDir runId) markup isSplit source.requests t₂ := by
  unfold loaded at hload
  unfold run
  rw [hload]
  dsimp only
  rw [h.create]
  dsimp only [written, Option.map]
  rw [h.page]

theorem purgeInto_of_error {f : Failure} {calls : List Fetch.Call} {t : Tree}
    (h : (purgePage { w with files := t } markup isSplit).2 = .error f) :
    purgeInto w ws markup isSplit calls t =
      ⟨t, calls ++ (purgePage { w with files := t } markup isSplit).1.map (Fetch.Call.mk .stylesheet), .error f⟩ := by
  unfold purgeInto
  dsimp only
  rw [h]

theorem purgeInto_of_ok {p : Purged} {calls : List Fetch.Call} {t t' : Tree}
    (h : (purgePage { w with files := t } markup isSplit).2 = .ok p)
    (hsaved : Workspace.saveAll (ws.resultFiles p) t = (t', none)) :
    purgeInto w ws markup isSplit calls t =
      ⟨t', calls ++ (purgePage { w with files := t } markup isSplit).1.map (Fetch.Call.mk .stylesheet), .ok (p, ws)⟩ := by
  unfold purgeInto
  dsimp only
  rw [h]
  dsimp only
  rw [hsaved]
  rfl

theorem exists_ending_of_loaded {t₁ t₂ : Tree} (hid : Path.Plain runId) (hdot : '.' ∉ runId)
    (hfresh : Fresh w.files w.config.outputDir runId) (hload : loaded w source = .ok markup)
    (hw : Writable w (.below w.config.outputDir runId) markup isSplit t₁ t₂) :
    ∃ e : Ending, e.Of w source isSplit (.below w.config.outputDir runId) (run w source isSplit runId) := by
  rw [run_of_loaded hload hw]
  have hempty := hfresh.leaves hid hw.create
  have hmade := Workspace.makeDirs_of_create hw.create
  have hparent {n : Text} (hn : Path.Plain n) :
      Path.parent? (Path.join (Path.join w.config.outputDir runId) n) = some (Path.join w.config.outputDir runId) :=
    Path.parent?_join_join _ hid hdot hn
  obtain ⟨hpage, hkeeps, hlocate⟩ := hempty.page (Tree.makeDirs_again hmade (.refl t₁)) hparent hw.page
  rcases purgePage_cases { w with files := t₂ } markup isSplit with ⟨f, hf, hfails⟩ | ⟨p, hp, hgroups⟩
  · refine ⟨.unpurged, markup, f, hload, ?_⟩
    rw [purgeInto_of_error hfails]
    refine ⟨hfails, hf, rfl, hpage, ?_⟩
    exact hpage.readText (List.nodup_singleton _) (List.cons_ne_nil _ _) hlocate (List.mem_singleton_self _)
  · obtain ⟨t₃, hsaved⟩ := hw.result p hp
    obtain ⟨hresult, hread⟩ := hpage.result (Tree.makeDirs_again hmade hkeeps) hparent hlocate hgroups hsaved
    refine ⟨.purged, markup, p, t₂, hload, hpage, hp, hgroups, ?_⟩
    rw [purgeInto_of_ok hp hsaved]
    exact ⟨rfl, hresult, hread⟩

/-- **A run ends in exactly one way.** Its identifier is new, and what it writes can be written. If the page cannot be
loaded, nothing is changed. If it cannot be purged, the directory of the run holds the page and nothing else. If it is
purged, the directory holds the page and the purged stylesheet, in one file or split. In no case is there a change
outside that directory, except that the directories on the way to it are created. -/
theorem run_ending (w : World) (source : Page.Source) (isSplit : Bool) (seconds : Nat) (random : List UInt8)
    (hfresh : Fresh w.files w.config.outputDir (identifier seconds random))
    (hwritable : ∀ markup, loaded w source = .ok markup →
      ∃ t₁ t₂, Writable w (.below w.config.outputDir (identifier seconds random)) markup isSplit t₁ t₂) :
    ∃! e : Ending, e.Of w source isSplit (.below w.config.outputDir (identifier seconds random))
      (run w source isSplit (identifier seconds random)) := by
  refine existsUnique_of_exists_of_unique ?_ fun e e' h h' => h.eq_ofOutcome.trans h'.eq_ofOutcome.symm
  cases hload : loaded w source with
  | error f =>
    obtain ⟨target, cause, rfl⟩ := Page.Source.load_eq_error hload
    rw [run_of_unloaded hload]
    exact ⟨.unloaded, target, cause, hload, rfl, rfl⟩
  | ok markup =>
    obtain ⟨t₁, t₂, hw⟩ := hwritable markup hload
    exact exists_ending_of_loaded (plain_identifier seconds random) (dot_notMem_identifier seconds random) hfresh
      hload hw

def lateMarkup : Text := "<link rel=stylesheet href=https://host/late.css><p>a</p>".toList

/-- A world in which the page stands above the working directory, and the output directory and the file that stands in
for the stylesheet are given from the root on. -/
def scattered : World where
  config := { Config.usual with
    outputDir := "/srv/out".toList
    overrides := [⟨"late.css".toList, "/srv/late.css".toList⟩] }
  files := ⟨["home".toList, "work".toList], [(["srv".toList], .directory),
    (["srv".toList, "late.css".toList], .file (Text.toBytes "p{color:red}".toList)),
    (["home".toList, "page.html".toList], .file (Text.toBytes lateMarkup))]⟩
  network := fun _ _ => ⟨0, .error ["refused".toList]⟩

def firstRun : Text := identifier 0 [0, 0, 0, 0]

theorem fresh_firstRun : Fresh scattered.files scattered.config.outputDir firstRun := by
  apply fresh_of_unnamed (plain_identifier 0 [0, 0, 0, 0])
  · decide +kernel
  · decide +kernel

theorem writable_firstRun (markup : Text) :
    ∃ t₁ t₂, Writable scattered (.below scattered.config.outputDir firstRun) markup false t₁ t₂ := by
  refine ⟨_, _, ⟨Prod.ext rfl (by decide +kernel), Prod.ext rfl (by rfl), ?_⟩⟩
  intro p hp
  have hgroups : p.groups = none := by
    rcases purgePage_cases _ markup false with ⟨f, -, hfails⟩ | ⟨p', hp', hgroups⟩
    · rw [hp] at hfails
      cases hfails
    · rw [hp] at hp'
      obtain rfl := Except.ok.inj hp'
      exact hgroups
  simp only [Workspace.resultFiles, hgroups]
  exact ⟨_, Prod.ext rfl (by rfl)⟩

/-- The first run of all reads its page and ends in exactly one way. -/
theorem run_ending_firstRun :
    loaded scattered (.file "../page.html".toList) = .ok lateMarkup ∧
      scattered.resolve ⟨"https://host/late.css".toList, none⟩ =
        .ok ⟨"https://host/late.css".toList, "late.css".toList, "p{color:red}".toList, .localOverride, none⟩ ∧
      Fresh scattered.files scattered.config.outputDir firstRun ∧
      (∀ markup, loaded scattered (.file "../page.html".toList) = .ok markup →
        ∃ t₁ t₂, Writable scattered (.below scattered.config.outputDir firstRun) markup false t₁ t₂) ∧
      ∃! e : Ending, e.Of scattered (.file "../page.html".toList) false (.below scattered.config.outputDir firstRun)
        (run scattered (.file "../page.html".toList) false firstRun) :=
  ⟨by decide +kernel, by decide +kernel, fresh_firstRun, fun markup _ => writable_firstRun markup,
    run_ending scattered (.file "../page.html".toList) false 0 [0, 0, 0, 0] fresh_firstRun
      fun markup _ => writable_firstRun markup⟩

end Run
end StylePrune
