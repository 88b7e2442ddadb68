import Mathlib.Algebra.Order.Group.Multiset
import Mathlib.Logic.Relation
import StylePrune.Proofs.Resolution.Pool

/-!
A session is a pool.

A session keeps time and so chooses one of the orders that a pool allows. Forgetting the time turns every
step of a session into steps of a pool (`Session.step_leads`), and a whole session into a way in which the
pool can come to its end (`Session.run_ends`). `resolveAll_sequential` draws the conclusion: how many links
are resolved at once, and which of them ends first, does not matter.
-/
namespace StylePrune.Resolution

def Task.job : Task → Job
  | start j => j
  | finish j => j

namespace Session

variable {w : World} {limit : Nat}

/-- A session without its time: jobs that are admitted and unfinished are under way. -/
def pool (s : Session) : Pool :=
  ⟨s.waiting, (s.queue.map Task.job : Multiset Job) + (s.running.map Prod.snd : Multiset Job), s.settled⟩

/-- A step of a session as something that may happen in a pool. -/
def Leads (w : World) (limit : Nat) (p : Pool) : Progress → Prop
  | .going s => Relation.ReflTransGen (Pool.Step w limit) p s.pool
  | .failed f _ => Pool.Ends w limit p (.error f)
  | .done s => Pool.Ends w limit p (.ok s.settled)

theorem ends_of_steps {p q : Pool} {e : Except Failure (List (Nat × Settled))}
    (h : Relation.ReflTransGen (Pool.Step w limit) p q) (hq : Pool.Ends w limit q e) :
    Pool.Ends w limit p e := by
  induction h using Relation.ReflTransGen.head_induction_on with
  | refl => exact hq
  | head hstep _ ih => exact .step hstep ih

theorem Leads.of_steps {p q : Pool} {r : Progress} (h : Relation.ReflTransGen (Pool.Step w limit) p q)
    (hr : Leads w limit q r) : Leads w limit p r := by
  cases r with
  | going s => exact h.trans hr
  | failed f s => exact ends_of_steps h hr
  | done s => exact ends_of_steps h hr

/-! ## One step -/

theorem letIn_one_by_one (js rest : List Job) (u : Multiset Job) (rs : List (Nat × Settled))
    (h : u.card + js.length ≤ limit) :
    Relation.ReflTransGen (Pool.Step w limit) ⟨js ++ rest, u, rs⟩ ⟨rest, u + (js : Multiset Job), rs⟩ := by
  induction js generalizing u with
  | nil => simpa using Relation.ReflTransGen.refl
  | cons j js ih =>
    rw [List.length_cons] at h
    have hrest := ih (j ::ₘ u) (by rw [Multiset.card_cons]; omega)
    rw [Multiset.cons_add, ← Multiset.add_cons, Multiset.cons_coe] at hrest
    exact .head (.letIn (by omega)) hrest

theorem card_pool (s : Session) : s.pool.underWay.card = s.unfinished := by
  simp [pool, unfinished]

theorem letIn_steps (s : Session) :
    Relation.ReflTransGen (Pool.Step w limit) s.pool (s.letIn limit).pool := by
  have hqueue : (s.letIn limit).pool =
      ⟨s.waiting.drop (limit - s.unfinished),
        s.pool.underWay + (s.waiting.take (limit - s.unfinished) : Multiset Job), s.settled⟩ := by
    have hjobs : ((s.letIn limit).queue.map Task.job) =
        s.queue.map Task.job ++ s.waiting.take (limit - s.unfinished) := by
      simp [letIn, Function.comp_def, Task.job]
    rw [pool, hjobs, ← Multiset.coe_add, pool, add_right_comm]
    rfl
  have hsplit : s.pool =
      ⟨s.waiting.take (limit - s.unfinished) ++ s.waiting.drop (limit - s.unfinished), s.pool.underWay,
        s.settled⟩ := by
    rw [List.take_append_drop]
    rfl
  by_cases hroom : s.unfinished ≤ limit
  · rw [hqueue]
    nth_rewrite 1 [hsplit]
    refine letIn_one_by_one _ _ _ _ ?_
    rw [card_pool, List.length_take]
    omega
  · -- more jobs are under way than there is room for, so none is admitted
    have hzero : limit - s.unfinished = 0 := by omega
    rw [hqueue, hzero, List.drop_zero, List.take_zero, Multiset.coe_nil, Multiset.add_zero]
    exact .refl

/-- The pool of a session together with a job that was taken from the queue. -/
def poolWith (s : Session) (j : Job) : Pool := ⟨s.waiting, j ::ₘ s.pool.underWay, s.settled⟩

theorem pool_of_queue {s : Session} {t : Task} {q : List Task} (h : s.queue = t :: q) :
    s.pool = Session.poolWith { s with queue := q } t.job := by
  rw [poolWith, pool, pool, h, List.map_cons, ← Multiset.cons_coe, Multiset.cons_add]

theorem conclude_leads (j : Job) (s : Session) : Leads w limit (s.poolWith j) (s.conclude w j) := by
  unfold conclude
  split
  · next r hr => exact .single (.settle hr)
  · next f hf => exact .failed (Multiset.mem_cons_self j s.pool.underWay) hf

theorem map_snd_insertRunning (t : Nat) (j : Job) (l : List (Nat × Job)) :
    ((insertRunning t j l).map Prod.snd : Multiset Job) = j ::ₘ (l.map Prod.snd : Multiset Job) := by
  induction l with
  | nil => rfl
  | cons e l ih =>
    rw [insertRunning]
    split
    · rw [List.map_cons, ← Multiset.cons_coe, ih, Multiset.cons_swap, List.map_cons, ← Multiset.cons_coe]
    · rfl

theorem begin_leads (j : Job) (s : Session) : Leads w limit (s.poolWith j) (s.begin w j) := by
  unfold begin
  split
  · have hsame : s.poolWith j = Session.pool { s with queue := s.queue ++ [.finish j] } := by
      rw [poolWith, pool, pool, List.map_append, ← Multiset.coe_add, List.map_singleton,
        Multiset.coe_singleton, add_right_comm, Multiset.add_comm _ {Task.job (.finish j)},
        Multiset.singleton_add]
      rfl
    rw [hsame]
    exact .refl
  · dsimp only
    split
    · show Leads w limit (Session.poolWith { s with calls := s.calls ++ [j.link.url] } j) _
      exact conclude_leads j _
    · generalize s.clock + (w.replyFor j.link.url).duration w.config.timeout = time
      have hsame : s.poolWith j = Session.pool { s with
          calls := s.calls ++ [j.link.url]
          running := insertRunning time j s.running } := by
        rw [poolWith, pool, pool, map_snd_insertRunning, Multiset.add_cons]
      rw [hsame]
      exact .refl

/-- When nothing is ready, either jobs come to their end or nothing is left at all. -/
theorem wait_leads {s : Session} (hqueue : s.queue = []) (hwaiting : s.running = [] → s.waiting = []) :
    Leads w limit s.pool s.wait := by
  unfold wait
  split
  · next hr =>
    have hdone : s.pool = ⟨[], 0, s.settled⟩ := by
      rw [pool, hwaiting hr, hqueue, hr]
      rfl
    rw [hdone]
    exact .done
  · next t j r hr =>
    have hjobs : r.map Prod.snd =
        ((r.takeWhile fun e => e.1 == t).map fun e => Task.finish e.2).map Task.job ++
          (r.dropWhile fun e => e.1 == t).map Prod.snd := by
      nth_rewrite 1 [← List.takeWhile_append_dropWhile (p := fun e => e.1 == t) (l := r)]
      rw [List.map_append, List.map_map]
      rfl
    have hsame : s.pool = Session.pool { s with
        clock := t
        queue := .finish j :: (r.takeWhile fun e => e.1 == t).map fun e => .finish e.2
        running := r.dropWhile fun e => e.1 == t } := by
      rw [pool, pool, hqueue, hr, List.map_cons, hjobs]
      rfl
    rw [hsame]
    exact .refl

/-- If nothing is ready and nothing is under way after jobs were admitted, none waits any more. -/
theorem waiting_letIn (hlimit : 1 ≤ limit) {s : Session} (hqueue : (s.letIn limit).queue = [])
    (hrunning : s.running = []) : (s.letIn limit).waiting = [] := by
  rw [letIn, List.append_eq_nil_iff, List.map_eq_nil_iff, List.take_eq_nil_iff] at hqueue
  have hnone : s.unfinished = 0 := by simp [unfinished, hqueue.1, hrunning]
  rcases hqueue.2 with hroom | hwaiting
  · omega
  · simp [letIn, hwaiting]

/-- One step of a session is something that may happen in its pool. -/
theorem step_leads (h : 1 ≤ w.config.concurrency) (s : Session) :
    Leads w w.config.concurrency s.pool (s.step w) := by
  refine Leads.of_steps (letIn_steps s) ?_
  unfold step
  dsimp only
  split
  · next j q hq =>
    rw [pool_of_queue hq]
    exact begin_leads j _
  · next j q hq =>
    rw [pool_of_queue hq]
    exact conclude_leads j _
  · next hq => exact wait_leads hq fun hr => waiting_letIn h hq hr

/-! ## A whole run -/

/-- How a session has come to its end, its time and its requests aside. -/
def ending : Session × Option Failure → Except Failure (List (Nat × Settled))
  | (_, some f) => .error f
  | (s, none) => .ok s.settled

/-- **A whole run** of a session is one way in which its pool may come to its end. -/
theorem run_ends (h : 1 ≤ w.config.concurrency) (s : Session) :
    Pool.Ends w w.config.concurrency s.pool (ending (s.run w)) := by
  fun_induction run w s with
  | case1 s s' hs ih =>
    have hleads := step_leads h s
    rw [hs] at hleads
    exact ends_of_steps hleads ih
  | case2 s f s' hs =>
    have hleads := step_leads h s
    rwa [hs] at hleads
  | case3 s s' hs =>
    have hleads := step_leads h s
    rwa [hs] at hleads

theorem resolveAll_eq (w : World) (links : List Page.StyleLink) :
    (w.resolveAll links).2 =
      (ending ((start links).run w)).map (Outcome.ofRecords links.length) := by
  rw [World.resolveAll]
  rcases (start links).run w with ⟨s, _ | f⟩
  · rfl
  · rfl

/-! ## Failures -/

theorem conclude_failed {j : Job} {s s' : Session} {f : Failure} (h : s.conclude w j = .failed f s') :
    Unusable f := by
  unfold conclude at h
  split at h
  · cases h
  · next g hsettle =>
    cases h
    obtain ⟨hresolve, hfatal⟩ := settle_error_iff.1 hsettle
    rcases World.resolve_eq_error hresolve with ⟨cause, rfl⟩ | hunusable
    · cases hfatal
    · exact hunusable

theorem step_failed {s s' : Session} {f : Failure} (h : s.step w = .failed f s') : Unusable f := by
  unfold step at h
  dsimp only at h
  split at h
  · unfold begin at h
    dsimp only at h
    split at h
    · cases h
    split at h
    · exact conclude_failed h
    · cases h
  · exact conclude_failed h
  · unfold wait at h
    split at h
    · cases h
    · cases h

theorem run_failed {s : Session} {f : Failure} (h : (s.run w).2 = some f) : Unusable f := by
  fun_induction run w s with
  | case1 s s' hstep ih => exact ih h
  | case2 s g s' hstep =>
    cases h
    exact step_failed hstep
  | case3 s s' hstep => cases h

end Session

/-! ## Resolving all links of a page -/

theorem World.resolveAll_failed {w : World} {links : List Page.StyleLink} {f : Failure}
    (h : (w.resolveAll links).2 = .error f) : Unusable f := by
  unfold World.resolveAll at h
  split at h
  · next s g hrun =>
    cases h
    apply Session.run_failed (w := w) (s := Session.start links)
    rw [hrun]
  · cases h

def World.withConcurrency (w : World) (n : Nat) : World :=
  { w with config := { w.config with concurrency := n } }

theorem sequential_withConcurrency {w : World} {n : Nat} {links : List Page.StyleLink}
    {e : Except Failure Outcome} (h : Sequential (w.withConcurrency n) links e) : Sequential w links e :=
  ⟨h.ok, h.once, h.error, h.never⟩

theorem recorded_run {w : World} (h : 1 ≤ w.config.concurrency) (links : List Page.StyleLink) :
    Pool.Recorded w links (Session.ending ((Session.start links).run w)) :=
  (Session.run_ends h (Session.start links)).recorded Pool.tracks_start

theorem sequential_resolveAll {w : World} (h : 1 ≤ w.config.concurrency) (links : List Page.StyleLink) :
    Sequential w links (w.resolveAll links).2 := by
  rw [Session.resolveAll_eq]
  exact (recorded_run h links).sequential

/-- **Resolving links side by side is resolving them one after another.** What all links come to is what
each of them comes to alone, in the order of the links, however many are resolved at once; no link is left
without a record; and the order that the session takes is one of the orders that a pool allows, of which all
come to this. -/
theorem resolveAll_sequential (w : World) (links : List Page.StyleLink) (h : 1 ≤ w.config.concurrency) :
    Sequential w links (w.resolveAll links).2 ∧
      (∀ n, 1 ≤ n → Sequential w links ((w.withConcurrency n).resolveAll links).2) ∧
      Pool.Recorded w links (Session.ending ((Session.start links).run w)) ∧
      Pool.Ends w w.config.concurrency (Pool.start links) (Session.ending ((Session.start links).run w)) ∧
      ∀ limit slots, Pool.Ends w limit (Pool.start links) slots →
        Pool.Recorded w links slots ∧ Sequential w links (slots.map (Outcome.ofRecords links.length)) := by
  refine ⟨sequential_resolveAll h links, fun n hn => ?_, recorded_run h links,
    Session.run_ends h (Session.start links), fun limit slots hends => ?_⟩
  · exact sequential_withConcurrency (sequential_resolveAll (w := w.withConcurrency n) hn links)
  · have hrecorded := hends.recorded Pool.tracks_start
    exact ⟨hrecorded, hrecorded.sequential⟩

/-- A world without local files in which one stylesheet arrives late and no other can be downloaded. -/
def oneSlowSheet : World where
  config := .usual
  files := .empty
  network := fun _ url =>
    if url = "https://host/late.css".toList then ⟨250, .ok "a{}".toList⟩ else ⟨0, .error ["refused".toList]⟩

/-- A link that is resolved late, and one that cannot be downloaded. -/
def lateAndGone : List Page.StyleLink := [⟨"https://host/late.css".toList, none⟩, ⟨"https://host/gone.css".toList, none⟩]

theorem resolveAll_sequential_oneSlowSheet :
    1 ≤ oneSlowSheet.config.concurrency ∧
      Sequential oneSlowSheet lateAndGone (oneSlowSheet.resolveAll lateAndGone).2 ∧
      (∀ n, 1 ≤ n → Sequential oneSlowSheet lateAndGone ((oneSlowSheet.withConcurrency n).resolveAll lateAndGone).2) ∧
      Pool.Recorded oneSlowSheet lateAndGone (Session.ending ((Session.start lateAndGone).run oneSlowSheet)) ∧
      Pool.Ends oneSlowSheet oneSlowSheet.config.concurrency (Pool.start lateAndGone)
        (Session.ending ((Session.start lateAndGone).run oneSlowSheet)) ∧
      ∀ limit slots, Pool.Ends oneSlowSheet limit (Pool.start lateAndGone) slots →
        Pool.Recorded oneSlowSheet lateAndGone slots ∧
          Sequential oneSlowSheet lateAndGone (slots.map (Outcome.ofRecords lateAndGone.length)) :=
  ⟨by decide, resolveAll_sequential oneSlowSheet lateAndGone (by decide)⟩

end StylePrune.Resolution
