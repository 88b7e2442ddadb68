import Mathlib.Data.List.Induction
import Mathlib.Data.List.Nodup
import StylePrune.Config.Basic

/-!
When settings make a configuration, and which.

Of settings only the values count that each field is given, in order (`Config.Values`): the values of a list are put
together, of other values the last one holds (`Draft.ofSettings_eq`). So settings of different fields may change
places. A configuration comes of them exactly if the names of the overrides are bare and distinct, the counts are
not zero and every pattern can be read (`ofSettings_isOk_iff`), and what was checked holds of the configuration
(`Config.Sound`), so an override is found by its name alone.
-/
namespace StylePrune.Config

/-! ## What settings say -/

/-- The values that each field is given, in order. -/
structure Values where
  overrides : List Override
  tokens : List Text
  patterns : List Text
  timeouts : List Nat
  concurrencies : List Nat
  stylesheetBytes : List Nat
  pageBytes : List Nat
  browsers : List SupportedBrowsers
  recovers : List Bool
  outputDirs : List Text

def Values.of (settings : List Setting) : Values where
  overrides := settings.flatMap fun | .overrides more => more | _ => []
  tokens := settings.flatMap fun | .tokens more => more | _ => []
  patterns := settings.flatMap fun | .patterns more => more | _ => []
  timeouts := settings.filterMap fun | .timeout n => some n | _ => none
  concurrencies := settings.filterMap fun | .concurrency n => some n | _ => none
  stylesheetBytes := settings.filterMap fun | .maxStylesheetBytes n => some n | _ => none
  pageBytes := settings.filterMap fun | .maxPageBytes n => some n | _ => none
  browsers := settings.filterMap fun | .browsers b => some b | _ => none
  recovers := settings.filterMap fun | .recovers b => some b | _ => none
  outputDirs := settings.filterMap fun | .outputDir dir => some dir | _ => none

/-- The draft that values make: all of a list, the last of other values, the usual one where there is none. -/
def Values.draft (v : Values) : Draft where
  overrides := v.overrides
  tokens := v.tokens
  patterns := v.patterns
  timeout := v.timeouts.getLastD usualTimeout
  concurrency := v.concurrencies.getLastD usualConcurrency
  maxStylesheetBytes := v.stylesheetBytes.getLastD usualStylesheetBytes
  maxPageBytes := v.pageBytes.getLastD usualPageBytes
  browsers := v.browsers.getLastD .usual
  recovers := v.recovers.getLastD true
  outputDir := v.outputDirs.getLastD usualOutputDir

/-- A further setting changes the draft of the values as it changes a draft. -/
theorem Values.draft_of_concat (settings : List Setting) (x : Setting) :
    (Values.of (settings ++ [x])).draft = (Values.of settings).draft.set x := by
  cases x <;> simp [Values.of, Values.draft, Draft.set]

theorem Draft.ofSettings_eq (settings : List Setting) : Draft.ofSettings settings = (Values.of settings).draft := by
  induction settings using List.reverseRecOn with
  | nil => rfl
  | append_singleton settings x ih =>
    rw [Values.draft_of_concat, ← ih, Draft.ofSettings, List.foldl_append]
    rfl

theorem ofSettings_congr {s t : List Setting} (h : Values.of s = Values.of t) : ofSettings s = ofSettings t := by
  rw [ofSettings, ofSettings, Draft.ofSettings_eq, Draft.ofSettings_eq, h]

/-! ## What is checked -/

theorem Draft.isBareName_iff {name : Text} : isBareName name = true ↔ name ≠ [] ∧ '/' ∉ name := by
  cases name <;> simp [isBareName]

theorem Draft.overrideFault?_eq_none {seen : List Text} {os : List Override} :
    overrideFault? seen os = none ↔
      (∀ o ∈ os, o.name ≠ [] ∧ '/' ∉ o.name) ∧ (os.map Override.name).Nodup ∧ ∀ o ∈ os, o.name ∉ seen := by
  induction os generalizing seen with
  | nil => simp [overrideFault?]
  | cons o os ih =>
    rw [overrideFault?, List.map_cons, List.nodup_cons, List.forall_mem_cons, List.forall_mem_cons,
      ← isBareName_iff]
    by_cases hbare : isBareName o.name = true
    · by_cases hseen : o.name ∈ seen
      · simp [hbare, hseen]
      · have hnew : (∀ p ∈ os, p.name ∉ o.name :: seen) ↔
            o.name ∉ os.map Override.name ∧ ∀ p ∈ os, p.name ∉ seen := by
          simp only [List.mem_cons, not_or, List.mem_map, not_exists, not_and]
          exact forall₂_and
        rw [if_neg (by simp [hbare]), if_neg (by simpa using hseen), ih, hnew]
        simp only [hbare, hseen, not_false_eq_true, true_and]
        tauto
    · simp [hbare]

theorem Safelist.readPatterns_cons_eq_ok {p : Text} {ps : List Text} {ns : List Pattern.Node} :
    readPatterns (p :: ps) = .ok ns ↔ ∃ n ms, readPattern p = .ok n ∧ readPatterns ps = .ok ms ∧ ns = n :: ms := by
  rw [readPatterns]
  cases readPattern p with
  | error m => simp
  | ok n =>
    cases readPatterns ps with
    | error m => simp
    | ok ms => simp [eq_comm]

theorem Safelist.readPatterns_isOk_iff {ps : List Text} :
    (∃ ns, readPatterns ps = .ok ns) ↔ ∀ p ∈ ps, ∃ n, readPattern p = .ok n := by
  induction ps with
  | nil => simp [readPatterns]
  | cons p ps ih =>
    rw [List.forall_mem_cons, ← ih]
    constructor
    · rintro ⟨ns, h⟩
      obtain ⟨n, ms, hn, hms, -⟩ := readPatterns_cons_eq_ok.1 h
      exact ⟨⟨n, hn⟩, ms, hms⟩
    · rintro ⟨⟨n, hn⟩, ms, hms⟩
      exact ⟨n :: ms, readPatterns_cons_eq_ok.2 ⟨n, ms, hn, hms, rfl⟩⟩

theorem Safelist.exists_readPattern_of_mem {ps : List Text} {ns : List Pattern.Node} {n : Pattern.Node}
    (h : readPatterns ps = .ok ns) (hn : n ∈ ns) : ∃ p ∈ ps, readPattern p = .ok n := by
  induction ps generalizing ns with
  | nil =>
    obtain rfl : [] = ns := by simpa [readPatterns] using h
    cases hn
  | cons p ps ih =>
    obtain ⟨m, ms, hm, hms, rfl⟩ := readPatterns_cons_eq_ok.1 h
    rcases List.mem_cons.1 hn with rfl | hn
    · exact ⟨p, List.mem_cons_self, hm⟩
    · obtain ⟨q, hq, hread⟩ := ih hms hn
      exact ⟨q, List.mem_cons_of_mem p hq, hread⟩

def Draft.config (d : Draft) (safelist : Safelist) : Config where
  overrides := d.overrides
  safelist := safelist
  timeout := d.timeout
  concurrency := d.concurrency
  maxStylesheetBytes := d.maxStylesheetBytes
  maxPageBytes := d.maxPageBytes
  browsers := d.browsers
  recovers := d.recovers
  outputDir := d.outputDir

/-- What a draft has to pass, and what it gives then. -/
theorem Draft.build_eq_ok {d : Draft} {c : Config} :
    d.build = .ok c ↔ overrideFault? [] d.overrides = none ∧ 1 ≤ d.timeout ∧ 1 ≤ d.concurrency ∧
      ∃ ns, Safelist.readPatterns d.patterns = .ok ns ∧ c = d.config ⟨Safelist.collect d.tokens, ns⟩ := by
  rw [build]
  cases hfault : overrideFault? [] d.overrides with
  | some f => simp
  | none =>
    by_cases htime : d.timeout = 0
    · simp [htime]
    · by_cases hconc : d.concurrency = 0
      · simp [htime, hconc]
      · have htime' : 1 ≤ d.timeout := Nat.one_le_iff_ne_zero.2 htime
        have hconc' : 1 ≤ d.concurrency := Nat.one_le_iff_ne_zero.2 hconc
        simp only [if_neg htime, if_neg hconc, Safelist.ofLists, htime', hconc', true_and]
        cases hread : Safelist.readPatterns d.patterns with
        | error m => simp
        | ok ns => simp [Draft.config, eq_comm]

/-! ## Configurations that were built -/

/-- What values have to be for a configuration to come of them. -/
structure Values.Buildable (v : Values) : Prop where
  names : ∀ o ∈ v.overrides, o.name ≠ [] ∧ '/' ∉ o.name
  distinct : (v.overrides.map Override.name).Nodup
  time : 1 ≤ v.timeouts.getLastD usualTimeout
  concurrency : 1 ≤ v.concurrencies.getLastD usualConcurrency
  patterns : ∀ p ∈ v.patterns, ∃ n, Safelist.readPattern p = .ok n

/-- **When a configuration comes of settings.** -/
theorem ofSettings_isOk_iff (settings : List Setting) :
    (∃ c, ofSettings settings = .ok c) ↔ (Values.of settings).Buildable := by
  simp only [ofSettings, Draft.ofSettings_eq, Draft.build_eq_ok, Draft.overrideFault?_eq_none]
  constructor
  · rintro ⟨_, ⟨hnames, hdistinct, -⟩, htime, hconc, ns, hns, -⟩
    exact ⟨hnames, hdistinct, htime, hconc, Safelist.readPatterns_isOk_iff.1 ⟨ns, hns⟩⟩
  · intro h
    obtain ⟨ns, hns⟩ := Safelist.readPatterns_isOk_iff.2 h.patterns
    exact ⟨_, ⟨h.names, h.distinct, fun _ _ => List.not_mem_nil⟩, h.time, h.concurrency, ns, hns, rfl⟩

/-- What holds of every configuration. -/
structure Sound (c : Config) : Prop where
  names : ∀ o ∈ c.overrides, o.name ≠ [] ∧ '/' ∉ o.name
  distinct : (c.overrides.map Override.name).Nodup
  time : 1 ≤ c.timeout
  concurrency : 1 ≤ c.concurrency
  patterns : ∀ n ∈ c.safelist.patterns, ∃ p, Safelist.readPattern p = .ok n

theorem sound_of_ofSettings {settings : List Setting} {c : Config} (h : ofSettings settings = .ok c) : Sound c := by
  obtain ⟨hfault, htime, hconc, ns, hns, rfl⟩ := Draft.build_eq_ok.1 h
  obtain ⟨hnames, hdistinct, -⟩ := Draft.overrideFault?_eq_none.1 hfault
  refine ⟨hnames, hdistinct, htime, hconc, fun n hn => ?_⟩
  obtain ⟨p, -, hp⟩ := Safelist.exists_readPattern_of_mem hns hn
  exact ⟨p, hp⟩

theorem Sound.overrideFor?_eq_some {c : Config} (h : Sound c) {name : Text} {o : Override} :
    c.overrideFor? name = some o ↔ o ∈ c.overrides ∧ o.name = name ∧ ∀ p ∈ c.overrides, p.name = name → p = o := by
  constructor
  · intro hfind
    have hmem : o ∈ c.overrides := List.mem_of_find?_eq_some hfind
    have hname : o.name = name := by simpa using List.find?_some hfind
    refine ⟨hmem, hname, fun p hp hpname => ?_⟩
    exact List.inj_on_of_nodup_map h.distinct hp hmem (hpname.trans hname.symm)
  · rintro ⟨hmem, hname, hone⟩
    have hsome : (c.overrideFor? name).isSome := by
      rw [overrideFor?, List.find?_isSome]
      exact ⟨o, hmem, beq_iff_eq.2 hname⟩
    obtain ⟨p, hp⟩ := Option.isSome_iff_exists.1 hsome
    have hpname : p.name = name := by simpa using List.find?_some hp
    rw [hp, hone p (List.mem_of_find?_eq_some hp) hpname]

end StylePrune.Config
