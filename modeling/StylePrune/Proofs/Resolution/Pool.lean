import Mathlib.Data.List.Induction
import Mathlib.Data.List.Nodup
import Mathlib.Data.Multiset.AddSub
import StylePrune.Resolution.Session

/-!
Resolving links in any order.

A pool knows which links wait, which are under way and what became of the others, and nothing of time: any
job that is under way may be the next to end, and a job may be admitted whenever there is room
(`Pool.Step`). So what is proved of the pool holds for every order in which downloads can end.
`Pool.Ends.records` says that no order matters: a pool that comes to its end has a record for every link, and
the record is what resolving that link alone gives.
-/
namespace StylePrune.Resolution

/-! ## Resolving one link -/

/-- What stands for a link cannot be used: the local file cannot be read, or the text is no stylesheet. -/
def Unusable (f : Failure) : Prop := (∃ path, f = .overrideMissing path) ∨ ∃ source, f = .invalidCss source

theorem Unusable.isFatal {f : Failure} (h : Unusable f) : f.isFatal = true := by
  rcases h with ⟨path, rfl⟩ | ⟨source, rfl⟩
  · rfl
  · rfl

theorem Stylesheet.unusable_of_ofText {l : Page.StyleLink} {origin : Origin} {source css : Text} {f : Failure}
    (h : Stylesheet.ofText l origin source css = .error f) : Unusable f := by
  rw [Stylesheet.ofText] at h
  split at h
  · cases h
  · cases h
    exact .inr ⟨source, rfl⟩

theorem World.resolve_eq_error {w : World} {l : Page.StyleLink} {f : Failure} (h : w.resolve l = .error f) :
    (∃ cause, f = .fetchFailed l.url cause) ∨ Unusable f := by
  rw [World.resolve] at h
  split at h
  · rw [World.readOverride] at h
    split at h
    · exact .inr (Stylesheet.unusable_of_ofText h)
    · cases h
      exact .inr (.inl ⟨_, rfl⟩)
  · rw [World.download] at h
    split at h
    · exact .inr (Stylesheet.unusable_of_ofText h)
    · cases h
      exact .inl ⟨_, rfl⟩

theorem World.resolve_error {w : World} {l : Page.StyleLink} {f : Failure} (h : w.resolve l = .error f) :
    (∃ url cause, f = .fetchFailed url cause) ∨ f.isFatal = true := by
  rcases World.resolve_eq_error h with ⟨cause, rfl⟩ | hf
  · exact .inl ⟨l.url, cause, rfl⟩
  · exact .inr hf.isFatal

/-- Only a fatal failure ends a session. -/
theorem settle_error_iff {w : World} {l : Page.StyleLink} {f : Failure} :
    settle (w.resolve l) = .error f ↔ w.resolve l = .error f ∧ f.isFatal = true := by
  cases h : w.resolve l with
  | ok s => simp [settle]
  | error g =>
    rcases World.resolve_error h with ⟨url, cause, rfl⟩ | hg
    · constructor
      · intro hs
        cases hs
      · rintro ⟨hs, hf⟩
        cases hs
        cases hf
    · have hs : settle (.error g) = .error g := by
        cases g with
        | fetchFailed => cases hg
        | _ => rfl
      rw [hs]
      constructor
      · intro heq
        cases heq
        exact ⟨rfl, hg⟩
      · exact fun heq => by rw [Except.error.inj heq.1]

/-- The link that is left out because of a result, with the cause. -/
def skippedBy : Except Failure Stylesheet → Option Skipped
  | .error (.fetchFailed url cause) => some ⟨url, cause⟩
  | _ => none

theorem stylesheet?_settle (e : Except Failure Stylesheet) :
    (settle e).toOption.bind Outcome.stylesheet? = e.toOption := by
  unfold settle
  split <;> rfl

theorem skipped?_settle (e : Except Failure Stylesheet) :
    (settle e).toOption.bind Outcome.skipped? = skippedBy e := by
  unfold settle
  split
  · rfl
  · rfl
  · next f hne =>
    rw [skippedBy]
    · rfl
    · intro url cause heq
      exact hne url cause (Except.error.inj heq)

/-! ## Pools -/

/-- The links that are resolved side by side, as far as the order of their ends is concerned. -/
structure Pool where
  waiting : List Job
  underWay : Multiset Job
  settled : List (Nat × Settled)

def jobs (links : List Page.StyleLink) : List Job := links.zipIdx.map fun l => ⟨l.2, l.1⟩

namespace Pool

variable {w : World} {limit : Nat} {links : List Page.StyleLink}

def start (links : List Page.StyleLink) : Pool := ⟨jobs links, 0, []⟩

/-- What may happen in a pool that goes on. -/
inductive Step (w : World) (limit : Nat) : Pool → Pool → Prop where
  /-- The next job that waits is admitted. -/
  | letIn {j : Job} {js : List Job} {u : Multiset Job} {rs : List (Nat × Settled)} : u.card < limit →
      Step w limit ⟨j :: js, u, rs⟩ ⟨js, j ::ₘ u, rs⟩
  /-- Any job that is under way ends. -/
  | settle {j : Job} {js : List Job} {u : Multiset Job} {rs : List (Nat × Settled)} {r : Settled} :
      settle (w.resolve j.link) = .ok r → Step w limit ⟨js, j ::ₘ u, rs⟩ ⟨js, u, rs ++ [(j.number, r)]⟩

/-- How a pool may come to its end: with the records of its jobs, or with a failure. -/
inductive Ends (w : World) (limit : Nat) : Pool → Except Failure (List (Nat × Settled)) → Prop where
  | done {rs : List (Nat × Settled)} : Ends w limit ⟨[], 0, rs⟩ (.ok rs)
  | failed {p : Pool} {j : Job} {f : Failure} : j ∈ p.underWay → settle (w.resolve j.link) = .error f →
      Ends w limit p (.error f)
  | step {p q : Pool} {e : Except Failure (List (Nat × Settled))} : Step w limit p q → Ends w limit q e →
      Ends w limit p e

/-! ## What every order keeps -/

/-- Every job waits, is under way or has ended, and those that have ended are recorded with what became of
them. -/
def Tracks (w : World) (links : List Page.StyleLink) (p : Pool) : Prop :=
  ∃ ended : List Job, (p.waiting : Multiset Job) + p.underWay + ended = jobs links ∧
    p.settled.map Prod.fst = ended.map Job.number ∧
    ∀ j ∈ ended, ∃ r, Resolution.settle (w.resolve j.link) = .ok r ∧ (j.number, r) ∈ p.settled

theorem tracks_start : Tracks w links (start links) := ⟨[], by simp [start], rfl, by simp⟩

theorem Step.tracks {p q : Pool} (h : Step w limit p q) (hp : Tracks w links p) : Tracks w links q := by
  obtain ⟨ended, hjobs, hnumbers, hrecords⟩ := hp
  cases h with
  | @letIn j js u rs _ =>
    refine ⟨ended, ?_, hnumbers, hrecords⟩
    simp only [← hjobs, ← Multiset.cons_coe, Multiset.add_cons, Multiset.cons_add]
  | @settle j js u rs r hr =>
    have hended : ((ended ++ [j] : List Job) : Multiset Job) = j ::ₘ ended := by
      rw [Multiset.cons_coe]
      exact Multiset.coe_eq_coe.2 (List.perm_append_singleton j ended)
    refine ⟨ended ++ [j], ?_, ?_, ?_⟩
    · simp only [← hjobs, hended, Multiset.add_cons, Multiset.cons_add]
    · simp [hnumbers]
    · intro i hi
      rcases List.mem_append.1 hi with hi | hi
      · obtain ⟨r', hr', hmem⟩ := hrecords i hi
        exact ⟨r', hr', List.mem_append_left _ hmem⟩
      · obtain rfl := List.mem_singleton.1 hi
        exact ⟨r, hr, by simp⟩

theorem Tracks.mem_of_underWay {p : Pool} (h : Tracks w links p) {j : Job} (hj : j ∈ p.underWay) :
    j.link ∈ links := by
  obtain ⟨ended, hjobs, -, -⟩ := h
  have hmem : j ∈ (jobs links : Multiset Job) := by
    rw [← hjobs]
    exact Multiset.mem_add.2 (.inl (Multiset.mem_add.2 (.inr hj)))
  rw [Multiset.mem_coe, jobs, List.mem_map] at hmem
  obtain ⟨l, hl, rfl⟩ := hmem
  exact List.fst_mem_of_mem_zipIdx hl

/-! ## The end -/

theorem mem_jobs {n : Nat} {l : Page.StyleLink} (h : links[n]? = some l) : ⟨n, l⟩ ∈ jobs links := by
  rw [jobs, List.mem_map]
  exact ⟨(l, n), List.mem_zipIdx_iff_getElem?.2 h, rfl⟩

theorem numbers_jobs (links : List Page.StyleLink) :
    (jobs links).map Job.number = List.range links.length := by
  rw [jobs, List.map_map, List.range_eq_range']
  exact List.zipIdx_map_snd 0 links

theorem lookup_eq_some_of_mem {n : Nat} {r : Settled} {rs : List (Nat × Settled)}
    (hnd : (rs.map Prod.fst).Nodup) (h : (n, r) ∈ rs) : rs.lookup n = some r := by
  induction rs with
  | nil => cases h
  | cons e rs ih =>
    obtain ⟨m, r'⟩ := e
    obtain ⟨hm, hrs⟩ := List.nodup_cons.1 hnd
    rcases List.mem_cons.1 h with heq | hmem
    · cases heq
      exact List.lookup_cons_self
    · have hne : (n == m) = false := by
        rw [beq_eq_false_iff_ne]
        rintro rfl
        exact hm (List.mem_map.2 ⟨_, hmem, rfl⟩)
      rw [List.lookup_cons, hne]
      exact ih hrs hmem

/-- The records of a pool are complete, and each is what resolving the link alone gives; if there is a
failure instead, it is fatal and resolving one of the links alone gives it. -/
def Recorded (w : World) (links : List Page.StyleLink) : Except Failure (List (Nat × Settled)) → Prop
  | .ok rs => ∀ n l, links[n]? = some l →
      ∃ r, rs.lookup n = some r ∧ Resolution.settle (w.resolve l) = .ok r
  | .error f => ∃ l ∈ links, w.resolve l = .error f ∧ f.isFatal = true

/-- A pool in which nothing waits and nothing is under way has a record for every link. -/
theorem Tracks.recorded {rs : List (Nat × Settled)} (h : Tracks w links ⟨[], 0, rs⟩) :
    Recorded w links (.ok rs) := by
  obtain ⟨ended, hjobs, hnumbers, hrecords⟩ := h
  have hperm : ended.Perm (jobs links) := Multiset.coe_eq_coe.1 (by simpa using hjobs)
  have hnodup : (rs.map Prod.fst).Nodup := by
    rw [hnumbers, (hperm.map Job.number).nodup_iff, numbers_jobs]
    exact List.nodup_range
  intro n l hl
  obtain ⟨r, hr, hmem⟩ := hrecords ⟨n, l⟩ (hperm.mem_iff.2 (mem_jobs hl))
  exact ⟨r, lookup_eq_some_of_mem hnodup hmem, hr⟩

/-- **A whole run**: in whatever order the jobs end, what is recorded in the end is right. -/
theorem Ends.recorded {p : Pool} {e : Except Failure (List (Nat × Settled))} (h : Ends w limit p e)
    (hp : Tracks w links p) : Recorded w links e := by
  induction h with
  | done => exact hp.recorded
  | failed hj hf =>
    obtain ⟨hresolve, hfatal⟩ := settle_error_iff.1 hf
    exact ⟨_, hp.mem_of_underWay hj, hresolve, hfatal⟩
  | step hstep _ ih => exact ih (hstep.tracks hp)

end Pool

/-! ## The lists that are made of the records -/

/-- What the records of so many links come to. -/
def Outcome.ofRecords (count : Nat) (rs : List (Nat × Settled)) : Outcome :=
  .ofSettled ((List.range count).filterMap fun n => rs.lookup n)

/-- Resolving links must come to what resolving them one by one comes to: the stylesheets and the links
that are left out, in the order of the links, or one of the fatal failures if there is one. -/
structure Sequential (w : World) (links : List Page.StyleLink) (e : Except Failure Outcome) : Prop where
  ok : (∀ l ∈ links, ∀ f, w.resolve l = .error f → f.isFatal = false) →
    e = .ok ⟨links.filterMap fun l => (w.resolve l).toOption,
      links.filterMap fun l => skippedBy (w.resolve l)⟩
  /-- Without a fatal failure every link is in one of the two lists and not in both. -/
  once : (∀ l ∈ links, ∀ f, w.resolve l = .error f → f.isFatal = false) →
    ∀ l ∈ links, (w.resolve l).toOption.isSome = !(skippedBy (w.resolve l)).isSome
  error : (∃ l ∈ links, ∃ f, w.resolve l = .error f ∧ f.isFatal = true) →
    ∃ l ∈ links, ∃ f, w.resolve l = .error f ∧ f.isFatal = true ∧ e = .error f
  never : e ≠ .error .noStylesheets ∧ ∀ url cause, e ≠ .error (.fetchFailed url cause)

theorem filterMap_range_getElem? {α β : Type} (f : α → Option β) (as : List α) :
    ((List.range as.length).filterMap fun n => as[n]?.bind f) = as.filterMap f := by
  induction as using List.reverseRecOn with
  | nil => rfl
  | append_singleton as a ih =>
    have hinit : ((List.range as.length).filterMap fun n => (as ++ [a])[n]?.bind f) =
        (List.range as.length).filterMap fun n => as[n]?.bind f := by
      refine List.filterMap_congr fun n hn => ?_
      rw [List.getElem?_append_left (List.mem_range.1 hn)]
    rw [List.length_append, List.length_singleton, List.range_succ, List.filterMap_append, hinit, ih,
      List.filterMap_append, List.filterMap_cons, List.filterMap_cons, List.getElem?_concat_length]
    rfl

/-- Complete and right records come to what resolving the links one by one comes to. -/
theorem ofRecords_eq {w : World} {links : List Page.StyleLink} {rs : List (Nat × Settled)}
    (h : Pool.Recorded w links (.ok rs)) :
    Outcome.ofRecords links.length rs =
      ⟨links.filterMap fun l => (w.resolve l).toOption,
        links.filterMap fun l => skippedBy (w.resolve l)⟩ := by
  have hrecords : ((List.range links.length).filterMap fun n => rs.lookup n) =
      links.filterMap fun l => (settle (w.resolve l)).toOption := by
    rw [← filterMap_range_getElem? _ links]
    refine List.filterMap_congr fun n hn => ?_
    obtain ⟨l, hl⟩ : ∃ l, links[n]? = some l :=
      ⟨_, List.getElem?_eq_getElem (List.mem_range.1 hn)⟩
    obtain ⟨r, hr, hsettle⟩ := h n l hl
    rw [hr, hl, Option.bind_some, hsettle]
    rfl
  rw [Outcome.ofRecords, hrecords, Outcome.ofSettled, List.filterMap_filterMap, List.filterMap_filterMap]
  simp only [stylesheet?_settle, skipped?_settle]

/-- **Every order comes to the same.** What is right for every order that a pool allows is that the links
come to what they come to one by one. -/
theorem Pool.Recorded.sequential {w : World} {links : List Page.StyleLink}
    {e : Except Failure (List (Nat × Settled))} (h : Pool.Recorded w links e) :
    Sequential w links (e.map (Outcome.ofRecords links.length)) := by
  cases e with
  | ok rs =>
    have hsettled : ∀ l ∈ links, ∃ r, settle (w.resolve l) = .ok r := by
      intro l hl
      obtain ⟨n, hn⟩ := List.mem_iff_getElem?.1 hl
      obtain ⟨r, -, hr⟩ := h n l hn
      exact ⟨r, hr⟩
    refine ⟨fun _ => ?_, fun _ l hl => ?_, ?_, by simp [Except.map]⟩
    · rw [Except.map, ofRecords_eq h]
    · obtain ⟨r, hr⟩ := hsettled l hl
      rw [← stylesheet?_settle, ← skipped?_settle, hr]
      cases r <;> rfl
    · rintro ⟨l, hl, f, hf, hfatal⟩
      obtain ⟨r, hr⟩ := hsettled l hl
      rw [settle_error_iff.2 ⟨hf, hfatal⟩] at hr
      cases hr
  | error f =>
    obtain ⟨l, hl, hf, hfatal⟩ := h
    refine ⟨fun hno => ?_, fun hno => ?_, fun _ => ⟨l, hl, f, hf, hfatal, rfl⟩, ?_, ?_⟩
    · rw [hno l hl f hf] at hfatal
      cases hfatal
    · rw [hno l hl f hf] at hfatal
      cases hfatal
    · rintro ⟨⟩
      cases hfatal
    · rintro url cause ⟨⟩
      cases hfatal

end StylePrune.Resolution
