import StylePrune.Proofs.Resolution.Session

/-!
The order in which a session admits links and makes requests.

What a session has done so far is told by two lists that only grow: the jobs that were started, in order, and the
jobs that have come to their end (`Session.Orderly`). The jobs that were started, those that are admitted and not
started, and those that wait are one after the other the jobs of the links. So links are admitted and started in
their order, and the requests that were made are those of the jobs that were started. Admitting jobs and taking a
step keep a session orderly (`Orderly.letIn`, `Orderly.step`), so every state in which a session can be is
(`Reached.orderly`); `reached_inOrder` draws the conclusions.
-/
namespace StylePrune.Resolution

/-! ## Tasks -/

/-- The job that a task is to start. -/
def Task.starting? : Task → Option Job
  | start j => some j
  | finish _ => none

/-- The job that a task is to end. -/
def Task.ending? : Task → Option Job
  | start _ => none
  | finish j => some j

def startsOf (ts : List Task) : List Job := ts.filterMap Task.starting?

def endsOf (ts : List Task) : List Job := ts.filterMap Task.ending?

@[simp] theorem startsOf_nil : startsOf [] = [] := rfl
@[simp] theorem startsOf_start (j : Job) (ts : List Task) : startsOf (.start j :: ts) = j :: startsOf ts := rfl
@[simp] theorem startsOf_finish (j : Job) (ts : List Task) : startsOf (.finish j :: ts) = startsOf ts := rfl
@[simp] theorem startsOf_append (ts us : List Task) : startsOf (ts ++ us) = startsOf ts ++ startsOf us :=
  List.filterMap_append

@[simp] theorem endsOf_nil : endsOf [] = [] := rfl
@[simp] theorem endsOf_start (j : Job) (ts : List Task) : endsOf (.start j :: ts) = endsOf ts := rfl
@[simp] theorem endsOf_finish (j : Job) (ts : List Task) : endsOf (.finish j :: ts) = j :: endsOf ts := rfl
@[simp] theorem endsOf_append (ts us : List Task) : endsOf (ts ++ us) = endsOf ts ++ endsOf us :=
  List.filterMap_append

@[simp] theorem startsOf_map_start (js : List Job) : startsOf (js.map .start) = js := by
  induction js with
  | nil => rfl
  | cons j js ih => rw [List.map_cons, startsOf_start, ih]

@[simp] theorem endsOf_map_start (js : List Job) : endsOf (js.map .start) = [] := by
  induction js with
  | nil => rfl
  | cons j js ih => rw [List.map_cons, endsOf_start, ih]

@[simp] theorem startsOf_map_finish (es : List (Nat × Job)) : startsOf (es.map fun e => .finish e.2) = [] := by
  induction es with
  | nil => rfl
  | cons e es ih => rw [List.map_cons, startsOf_finish, ih]

@[simp] theorem endsOf_map_finish (es : List (Nat × Job)) :
    endsOf (es.map fun e => .finish e.2) = es.map Prod.snd := by
  induction es with
  | nil => rfl
  | cons e es ih => rw [List.map_cons, endsOf_finish, ih, List.map_cons]

theorem length_startsOf_endsOf (ts : List Task) : (startsOf ts).length + (endsOf ts).length = ts.length := by
  induction ts with
  | nil => rfl
  | cons t ts ih =>
    cases t with
    | start j =>
      simp only [startsOf_start, endsOf_start, List.length_cons]
      omega
    | finish j =>
      simp only [startsOf_finish, endsOf_finish, List.length_cons]
      omega

/-- The state that a step leads to, whether the session goes on or not. -/
def Progress.state : Progress → Session
  | going s => s
  | failed _ s => s
  | done s => s

namespace Session

variable {w : World} {links : List Page.StyleLink} {s : Session} {begun ended : List Job}

/-- Jobs that are admitted and not started, in the order of their admission. -/
def pending (s : Session) : List Job := startsOf s.queue

/-- Jobs that are started and have not come to their end. -/
def underWay (s : Session) : List Job := endsOf s.queue ++ s.running.map Prod.snd

/-- Every job that is admitted and unfinished is pending or under way. -/
theorem length_unfinished (s : Session) : s.pending.length + s.underWay.length = s.unfinished := by
  have := length_startsOf_endsOf s.queue
  rw [pending, underWay, unfinished, List.length_append, List.length_map]
  omega

/-- The addresses that are asked for to resolve the links of jobs. -/
def requestsOf (w : World) (js : List Job) : List Text := (js.map Job.link).flatMap w.requests

theorem requestsOf_append (js ks : List Job) : requestsOf w (js ++ ks) = requestsOf w js ++ requestsOf w ks := by
  rw [requestsOf, List.map_append, List.flatMap_append, ← requestsOf, ← requestsOf]

theorem requestsOf_concat (js : List Job) (j : Job) :
    requestsOf w (js ++ [j]) = requestsOf w js ++ w.requests j.link := by
  have hlast : requestsOf w [j] = w.requests j.link := List.flatMap_singleton _ _
  rw [requestsOf_append, hlast]

/-- What is so in every state of a session, told by the jobs that were started and those that have ended. -/
structure Orderly (w : World) (links : List Page.StyleLink) (s : Session) (begun ended : List Job) : Prop where
  /-- Jobs are admitted and started in the order of the links. -/
  order : begun ++ s.pending ++ s.waiting = jobs links
  /-- A job that was started is under way or has ended. -/
  fate : begun.Perm (s.underWay ++ ended)
  bounded : s.unfinished ≤ w.config.concurrency
  calls : s.calls = requestsOf w begun

theorem orderly_start : Orderly w links (start links) [] [] :=
  ⟨rfl, .refl _, Nat.zero_le _, rfl⟩

/-! ## One step -/

theorem Orderly.letIn (h : Orderly w links s begun ended) :
    Orderly w links (s.letIn w.config.concurrency) begun ended := by
  have hpending : (s.letIn w.config.concurrency).pending =
      s.pending ++ s.waiting.take (w.config.concurrency - s.unfinished) := by
    simp only [Session.letIn, pending, startsOf_append, startsOf_map_start]
  have hunderWay : (s.letIn w.config.concurrency).underWay = s.underWay := by
    simp only [Session.letIn, underWay, endsOf_append, endsOf_map_start, List.append_nil]
  -- jobs only move from those that wait to those that are pending
  refine ⟨?_, ?_, ?_, h.calls⟩
  · have hwaiting : (s.letIn w.config.concurrency).waiting =
        s.waiting.drop (w.config.concurrency - s.unfinished) := rfl
    rw [hpending, hwaiting, ← List.append_assoc, List.append_assoc, List.take_append_drop]
    exact h.order
  · rw [hunderWay]
    exact h.fate
  · have hroom := h.bounded
    have hlength := length_unfinished s
    rw [← length_unfinished, hpending, hunderWay, List.length_append, List.length_take]
    omega

/-- A job that ends is no longer under way; whether it is recorded does not matter here. -/
theorem Orderly.conclude {j : Job} (horder : begun ++ s.pending ++ s.waiting = jobs links)
    (hfate : begun.Perm (j :: (s.underWay ++ ended))) (hbounded : s.unfinished ≤ w.config.concurrency)
    (hcalls : s.calls = requestsOf w begun) :
    Orderly w links (s.conclude w j).state begun (j :: ended) := by
  have hfate' : begun.Perm (s.underWay ++ j :: ended) := hfate.trans List.perm_middle.symm
  unfold Session.conclude
  split
  · exact ⟨horder, hfate', hbounded, hcalls⟩
  · exact ⟨horder, hfate', hbounded, hcalls⟩

theorem map_snd_insertRunning_perm (time : Nat) (j : Job) (l : List (Nat × Job)) :
    ((insertRunning time j l).map Prod.snd).Perm (j :: l.map Prod.snd) :=
  Multiset.coe_eq_coe.1 (map_snd_insertRunning time j l)

theorem Orderly.started {j : Job} {q : List Task} (h : Orderly w links s begun ended) (hq : s.queue = .start j :: q) :
    begun ++ [j] ++ startsOf q ++ s.waiting = jobs links ∧
      (begun ++ [j]).Perm (j :: (endsOf q ++ s.running.map Prod.snd ++ ended)) ∧
      q.length + 1 + s.running.length ≤ w.config.concurrency := by
  have horder := h.order
  have hfate := h.fate
  have hbounded := h.bounded
  rw [pending, hq, startsOf_start] at horder
  rw [underWay, hq, endsOf_start] at hfate
  rw [unfinished, hq, List.length_cons] at hbounded
  exact ⟨by simpa using horder, (List.perm_append_singleton j begun).trans (hfate.cons j), hbounded⟩

section Start

variable {j : Job} {q : List Task} {calls : List Text}
variable (h : Orderly w links s begun ended) (hq : s.queue = .start j :: q)
  (hcalls : calls = requestsOf w (begun ++ [j]))
include h hq hcalls

theorem Orderly.endsNow :
    Orderly w links (Session.conclude w j { s with queue := q, calls }).state (begun ++ [j]) (j :: ended) := by
  obtain ⟨horder, hfate, hbounded⟩ := h.started hq
  refine Orderly.conclude horder hfate ?_ hcalls
  simp only [unfinished]
  omega

theorem Orderly.endsBehind :
    Orderly w links { s with queue := q ++ [.finish j], calls } (begun ++ [j]) ended := by
  obtain ⟨horder, hfate, hbounded⟩ := h.started hq
  refine ⟨?_, ?_, ?_, hcalls⟩
  · simpa [pending] using horder
  · refine hfate.trans ?_
    simp only [underWay, endsOf_append, endsOf_finish, endsOf_nil, List.append_assoc]
    exact List.perm_middle.symm
  · simp only [unfinished, List.length_append, List.length_singleton]
    omega

theorem Orderly.endsBy (time : Nat) :
    Orderly w links { s with queue := q, calls, running := insertRunning time j s.running } (begun ++ [j]) ended := by
  obtain ⟨horder, hfate, hbounded⟩ := h.started hq
  refine ⟨horder, hfate.trans ?_, ?_, hcalls⟩
  · have hrunning := ((map_snd_insertRunning_perm time j s.running).append_left (endsOf q)).append_right ended
    refine List.Perm.trans ?_ hrunning.symm
    simp only [List.append_assoc, List.cons_append]
    exact List.perm_middle.symm
  · simp only [unfinished, length_insertRunning]
    omega

end Start

/-- A job for which a local file stands in makes no request. -/
theorem Orderly.calls_local {j : Job} (h : Orderly w links s begun ended)
    (hlocal : (w.overrideOf? j.link.url).isSome = true) : s.calls = requestsOf w (begun ++ [j]) := by
  rw [requestsOf_concat, World.requests, if_pos hlocal, List.append_nil]
  exact h.calls

theorem Orderly.begin {j : Job} {q : List Task} (h : Orderly w links s begun ended) (hq : s.queue = .start j :: q) :
    ∃ ended', Orderly w links (Session.begin w j { s with queue := q }).state (begun ++ [j]) ended' := by
  unfold Session.begin
  split
  · next hlocal =>
    -- the end of a job for which a local file stands in is put behind what is in the queue
    exact ⟨ended, h.endsBehind hq (h.calls_local hlocal)⟩
  · next hremote =>
    have hcalls : s.calls ++ [j.link.url] = requestsOf w (begun ++ [j]) := by
      rw [requestsOf_concat, World.requests, if_neg hremote, h.calls]
    dsimp only
    split
    · exact ⟨j :: ended, h.endsNow hq hcalls⟩
    · exact ⟨ended, h.endsBy hq hcalls _⟩

theorem Orderly.finish {j : Job} {q : List Task} (h : Orderly w links s begun ended) (hq : s.queue = .finish j :: q) :
    Orderly w links (Session.conclude w j { s with queue := q }).state begun (j :: ended) := by
  have horder := h.order
  have hfate := h.fate
  have hbounded := h.bounded
  rw [pending, hq] at horder
  rw [underWay, hq] at hfate
  rw [unfinished, hq, List.length_cons] at hbounded
  refine Orderly.conclude horder hfate ?_ h.calls
  simp only [unfinished]
  omega

/-- Waiting makes jobs ready that are under way; if there are none, it changes nothing. -/
theorem Orderly.wait (h : Orderly w links s begun ended) (hq : s.queue = []) :
    Orderly w links s.wait.state begun ended := by
  unfold Session.wait
  split
  · exact h
  · next time j r hr =>
    have hsplit : (r.takeWhile fun e => e.1 == time).map Prod.snd ++ (r.dropWhile fun e => e.1 == time).map Prod.snd =
        r.map Prod.snd := by
      rw [← List.map_append, List.takeWhile_append_dropWhile]
    have horder := h.order
    have hfate := h.fate
    have hbounded := h.bounded
    rw [pending, hq] at horder
    rw [underWay, hq, hr] at hfate
    rw [unfinished, hq, hr] at hbounded
    refine ⟨?_, ?_, ?_, h.calls⟩
    · simpa [Progress.state, pending] using horder
    · -- the same jobs are under way, some of them in the queue now
      simp only [Progress.state, underWay, endsOf_finish, endsOf_map_finish, List.cons_append, hsplit]
      exact hfate
    · have hlength := congrArg List.length hsplit
      simp only [List.length_append, List.length_map] at hlength
      simp only [List.length_nil, List.length_cons] at hbounded
      simp only [Progress.state, unfinished, List.length_cons, List.length_map]
      omega

/-- **One step** keeps a session orderly, also one that ends it. -/
theorem Orderly.step (h : Orderly w links s begun ended) :
    ∃ begun' ended', Orderly w links (s.step w).state begun' ended' := by
  have hin := h.letIn
  -- the first task of the queue starts a job or ends one; without a task the session waits
  unfold Session.step
  dsimp only
  split
  · next j q hq =>
    obtain ⟨ended', hbegin⟩ := hin.begin hq
    exact ⟨_, ended', hbegin⟩
  · next j q hq => exact ⟨begun, j :: ended, hin.finish hq⟩
  · next hq => exact ⟨begun, ended, hin.wait hq⟩

/-! ## A whole run -/

/-- The states in which a session can be: before anything is admitted, after jobs were admitted, and after a
step, the last one included. The session puts the end of a local file behind what is ready; the file may also be read at
once or by any time, and then the session is in one of these states as well. -/
inductive Reached (w : World) (links : List Page.StyleLink) : Session → Prop where
  | start : Reached w links (start links)
  | letIn {s : Session} : Reached w links s → Reached w links (s.letIn w.config.concurrency)
  | step {s : Session} : Reached w links s → Reached w links (s.step w).state
  | readNow {s : Session} {j : Job} {q : List Task} : Reached w links s → s.queue = .start j :: q →
      (w.overrideOf? j.link.url).isSome = true → Reached w links (Session.conclude w j { s with queue := q }).state
  | readBy {s : Session} {j : Job} {q : List Task} (time : Nat) : Reached w links s → s.queue = .start j :: q →
      (w.overrideOf? j.link.url).isSome = true →
      Reached w links { s with queue := q, running := insertRunning time j s.running }

theorem Reached.orderly (h : Reached w links s) : ∃ begun ended, Orderly w links s begun ended := by
  induction h with
  | start => exact ⟨[], [], orderly_start⟩
  | letIn _ ih =>
    obtain ⟨begun, ended, h⟩ := ih
    exact ⟨begun, ended, h.letIn⟩
  | step _ ih =>
    obtain ⟨begun, ended, h⟩ := ih
    exact h.step
  | readNow _ hq hlocal ih =>
    obtain ⟨begun, ended, h⟩ := ih
    exact ⟨_, _, h.endsNow hq (h.calls_local hlocal)⟩
  | readBy time _ hq hlocal ih =>
    obtain ⟨begun, ended, h⟩ := ih
    exact ⟨_, _, h.endsBy hq (h.calls_local hlocal) time⟩

theorem Reached.run (h : Reached w links s) : Reached w links (s.run w).1 := by
  fun_induction Session.run w s with
  | case1 s s' hs ih =>
    have hnext := h.step
    rw [hs] at hnext
    exact ih hnext
  | case2 s f s' hs =>
    have hnext := h.step
    rwa [hs] at hnext
  | case3 s s' hs =>
    have hnext := h.step
    rwa [hs] at hnext

theorem wait_done {s' : Session} (h : s.wait = .done s') : s' = s ∧ s.running = [] := by
  unfold Session.wait at h
  split at h
  · next hr =>
    cases h
    exact ⟨rfl, hr⟩
  · cases h

theorem step_done {s' : Session} (hlimit : 1 ≤ w.config.concurrency) (h : s.step w = .done s') :
    s'.queue = [] ∧ s'.running = [] ∧ s'.waiting = [] := by
  unfold Session.step at h
  dsimp only at h
  split at h
  · next j q hq =>
    unfold Session.begin Session.conclude at h
    split at h
    · cases h
    · dsimp only at h
      split at h
      · split at h <;> cases h
      · cases h
  · next j q hq =>
    unfold Session.conclude at h
    split at h <;> cases h
  · next hq =>
    obtain ⟨rfl, hr⟩ := wait_done h
    exact ⟨hq, hr, waiting_letIn hlimit hq hr⟩

theorem run_done (hlimit : 1 ≤ w.config.concurrency) (s : Session) (h : (s.run w).2 = none) :
    (s.run w).1.queue = [] ∧ (s.run w).1.running = [] ∧ (s.run w).1.waiting = [] := by
  fun_induction Session.run w s with
  | case1 s s' hs ih => exact ih h
  | case2 s f s' hs => cases h
  | case3 s s' hs => exact step_done hlimit hs

/-! ## What can be seen of the order -/

theorem links_jobs (links : List Page.StyleLink) : (jobs links).map Job.link = links := by
  rw [jobs, List.map_map]
  exact List.zipIdx_map_fst 0 links

/-- The addresses of the links for which no local file stands in. -/
def remoteUrls (w : World) (links : List Page.StyleLink) : List Text :=
  (links.filter fun l => (w.overrideOf? l.url).isNone).map Page.StyleLink.url

theorem requestsOf_jobs (w : World) (links : List Page.StyleLink) : requestsOf w (jobs links) = remoteUrls w links := by
  rw [requestsOf, links_jobs]
  induction links with
  | nil => rfl
  | cons l links ih =>
    rw [List.flatMap_cons, ih, World.requests, remoteUrls, remoteUrls, List.filter_cons]
    cases w.overrideOf? l.url with
    | none => rfl
    | some o => rfl

theorem overrideOf?_of_mem_remoteUrls {url : Text} (h : url ∈ remoteUrls w links) : w.overrideOf? url = none := by
  obtain ⟨l, hl, rfl⟩ := List.mem_map.1 h
  exact Option.isNone_iff_eq_none.1 (List.mem_filter.1 hl).2

/-- Where all links were admitted and none is unfinished, all jobs were started, so all requests have been made. -/
theorem Reached.calls_of_finished (h : Reached w links s) (hwaiting : s.waiting = []) (hqueue : s.queue = []) :
    s.calls = remoteUrls w links := by
  obtain ⟨begun, ended, horderly⟩ := h.orderly
  have horder := horderly.order
  rw [pending, hqueue, hwaiting, startsOf_nil, List.append_nil, List.append_nil] at horder
  rw [horderly.calls, horder, requestsOf_jobs]

theorem calls_of_done (hlimit : 1 ≤ w.config.concurrency) (h : ((start links).run w).2 = none) :
    ((start links).run w).1.calls = remoteUrls w links := by
  obtain ⟨hqueue, -, hwaiting⟩ := run_done hlimit (start links) h
  exact Reached.start.run.calls_of_finished hwaiting hqueue

/-- What can be seen of a state of a session. -/
structure InOrder (w : World) (links : List Page.StyleLink) (s : Session) : Prop where
  /-- Never are more links admitted and unfinished than may be. -/
  bounded : s.unfinished ≤ w.config.concurrency
  /-- The links that are admitted are the first ones, in order and each of them once. Each is unfinished or has
  ended, and the requests that were made are those of the first of them. -/
  history : ∃ admitted begun ended : List Job, admitted ++ s.waiting = jobs links ∧
    admitted.map Job.number = List.range admitted.length ∧ admitted.map Job.link = links.take admitted.length ∧
    admitted.Perm (s.pending ++ s.underWay ++ ended) ∧ begun <+: admitted ∧ s.calls = requestsOf w begun
  /-- The requests that were made are the first ones of the links for which no local file stands in. -/
  calls : s.calls <+: remoteUrls w links
  /-- Nothing is asked for if a local file stands in for it. -/
  remote : ∀ url ∈ s.calls, w.overrideOf? url = none

theorem prefix_jobs {admitted : List Job} (h : admitted <+: jobs links) :
    admitted.map Job.number = List.range admitted.length ∧ admitted.map Job.link = links.take admitted.length := by
  have hle : admitted.length ≤ links.length := by
    have hlength := congrArg List.length (links_jobs links)
    rw [List.length_map] at hlength
    exact h.length_le.trans (Nat.le_of_eq hlength)
  have hfirst := List.prefix_iff_eq_take.1 h
  refine ⟨?_, ?_⟩
  · calc admitted.map Job.number
        = ((jobs links).take admitted.length).map Job.number := by rw [← hfirst]
      _ = (List.range links.length).take admitted.length := by rw [List.map_take, Pool.numbers_jobs]
      _ = List.range admitted.length := by rw [List.take_range, Nat.min_eq_left hle]
  · calc admitted.map Job.link
        = ((jobs links).take admitted.length).map Job.link := by rw [← hfirst]
      _ = links.take admitted.length := by rw [List.map_take, links_jobs]

theorem Orderly.inOrder (h : Orderly w links s begun ended) : InOrder w links s := by
  have hadmitted : begun ++ s.pending <+: jobs links := ⟨s.waiting, h.order⟩
  have hcalls : s.calls <+: remoteUrls w links := by
    obtain ⟨rest, hrest⟩ := (List.prefix_append begun s.pending).trans hadmitted
    rw [h.calls, ← requestsOf_jobs, ← hrest, requestsOf_append]
    exact List.prefix_append _ _
  obtain ⟨hnumbers, hlinks⟩ := prefix_jobs hadmitted
  have hfate : (begun ++ s.pending).Perm (s.pending ++ s.underWay ++ ended) := by
    rw [List.append_assoc]
    exact List.perm_append_comm.trans (h.fate.append_left s.pending)
  exact ⟨h.bounded, ⟨begun ++ s.pending, begun, ended, h.order, hnumbers, hlinks, hfate, List.prefix_append _ _,
    h.calls⟩, hcalls, fun url hurl => overrideOf?_of_mem_remoteUrls (hcalls.subset hurl)⟩

/-- **A session admits links in their order, within its limit, and asks for each at most once.** This is so in
every state, the state in which the session ends included, and whenever local files have been read; and if all links are
resolved, everything has been asked for that no local file stands in for. -/
theorem reached_inOrder (w : World) (links : List Page.StyleLink) (h : 1 ≤ w.config.concurrency) :
    (∀ s, Reached w links s → InOrder w links s) ∧
      (∀ s, Reached w links s → s.waiting = [] → s.unfinished = 0 → s.calls = remoteUrls w links) ∧
      (∃ s, Reached w links s ∧ s = ((start links).run w).1 ∧ (w.resolveAll links).1 = s.calls) ∧
      ∀ o, (w.resolveAll links).2 = .ok o → (w.resolveAll links).1 = remoteUrls w links := by
  have hcalls : (w.resolveAll links).1 = ((start links).run w).1.calls := by
    rw [World.resolveAll]
    rcases (start links).run w with ⟨s, _ | f⟩
    · rfl
    · rfl
  refine ⟨fun s hs => ?_, fun s hs hwaiting hnone => ?_, ⟨_, Reached.start.run, rfl, hcalls⟩, fun o ho => ?_⟩
  · obtain ⟨begun, ended, horderly⟩ := hs.orderly
    exact horderly.inOrder
  · rw [unfinished] at hnone
    exact hs.calls_of_finished hwaiting (List.length_eq_zero_iff.1 (by omega))
  · rw [hcalls]
    refine calls_of_done h ?_
    rw [resolveAll_eq] at ho
    cases hrun : (start links).run w with
    | mk s f =>
      cases f with
      | none => rfl
      | some f =>
        rw [hrun] at ho
        cases ho

/-- A link that is resolved late, one that cannot be downloaded, and the first one again. -/
def lateTwice : List Page.StyleLink :=
  [⟨"https://host/late.css".toList, none⟩, ⟨"https://host/gone.css".toList, none⟩,
    ⟨"https://host/late.css".toList, none⟩]

theorem reached_inOrder_lateTwice :
    1 ≤ oneSlowSheet.config.concurrency ∧
      (∀ s, Reached oneSlowSheet lateTwice s → InOrder oneSlowSheet lateTwice s) ∧
      (∀ s, Reached oneSlowSheet lateTwice s → s.waiting = [] → s.unfinished = 0 →
        s.calls = lateTwice.map Page.StyleLink.url) ∧
      ∀ o, (oneSlowSheet.resolveAll lateTwice).2 = .ok o →
        (oneSlowSheet.resolveAll lateTwice).1 = lateTwice.map Page.StyleLink.url := by
  obtain ⟨horder, hfinished, -, hall⟩ := reached_inOrder oneSlowSheet lateTwice (by decide)
  exact ⟨by decide, horder, hfinished, hall⟩

end Session
end StylePrune.Resolution
