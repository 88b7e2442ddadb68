import StylePrune.Resolution.Stylesheet

/-!
Links that are resolved side by side.

A session admits links in order, as long as fewer than so many of the admitted ones are unfinished. What
is ready stands in a queue: links that were admitted and links that have come to their end. A link from
the queue is started or ended; when the queue is empty, time goes on to the next end. A local file takes
no time, but its end waits behind what is in the queue already. A failure that is fatal ends the session.
-/
namespace StylePrune.Resolution

/-- A link with its place in the list. -/
structure Job where
  number : Nat
  link : Page.StyleLink
deriving DecidableEq, Repr

/-- What is to be done with a job that is ready. -/
inductive Task where
  | start (j : Job)
  | finish (j : Job)
deriving DecidableEq, Repr

/-- A stylesheet that is left out, and why. -/
structure Skipped where
  url : Text
  cause : Text
deriving DecidableEq, Repr

/-- What became of a link. -/
inductive Settled where
  | resolved (s : Stylesheet)
  | skipped (s : Skipped)
deriving DecidableEq, Repr

/-- The state of links that are resolved side by side. -/
structure Session where
  /-- Jobs that are not admitted. -/
  waiting : List Job
  queue : List Task
  /-- Jobs under way with the time of their end, the earliest first. -/
  running : List (Nat × Job)
  clock : Nat
  /-- Addresses that were asked for. -/
  calls : List Text
  /-- What became of the jobs that have ended. -/
  settled : List (Nat × Settled)
deriving Repr

/-- What a step of a session leads to. -/
inductive Progress where
  | going (s : Session)
  | failed (f : Failure) (s : Session)
  | done (s : Session)

/-- What became of a link, or the failure that ends the session. -/
def settle : Except Failure Stylesheet → Except Failure Settled
  | .ok s => .ok (.resolved s)
  | .error (.fetchFailed url cause) => .ok (.skipped ⟨url, cause⟩)
  | .error f => .error f

/-- Puts a job among those under way, behind those that end no later. -/
def insertRunning (time : Nat) (j : Job) : List (Nat × Job) → List (Nat × Job)
  | [] => [(time, j)]
  | e :: r => if e.1 ≤ time then e :: insertRunning time j r else (time, j) :: e :: r

namespace Session

/-- The state before anything is admitted. -/
def start (links : List Page.StyleLink) : Session :=
  { waiting := links.zipIdx.map fun l => ⟨l.2, l.1⟩, queue := [], running := [], clock := 0, calls := [],
    settled := [] }

/-- How many jobs are admitted and unfinished. -/
def unfinished (s : Session) : Nat := s.queue.length + s.running.length

/-- Admits as many jobs as there is room for. -/
def letIn (limit : Nat) (s : Session) : Session :=
  let room := limit - s.unfinished
  { s with
    waiting := s.waiting.drop room
    queue := s.queue ++ (s.waiting.take room).map .start }

/-- Ends a job. -/
def conclude (w : World) (j : Job) (s : Session) : Progress :=
  match settle (w.resolve j.link) with
  | .ok r => .going { s with settled := s.settled ++ [(j.number, r)] }
  | .error f => .failed f s

/-- Starts a job. A download that takes no time ends at once. -/
def begin (w : World) (j : Job) (s : Session) : Progress :=
  if (w.overrideOf? j.link.url).isSome then .going { s with queue := s.queue ++ [.finish j] }
  else
    let reply := w.replyFor j.link.url
    let s' := { s with calls := s.calls ++ [j.link.url] }
    if reply.isImmediate then s'.conclude w j
    else
      let time := s.clock + reply.duration w.config.timeout
      .going { s' with running := insertRunning time j s.running }

/-- Lets time go on to the next end. -/
def wait (s : Session) : Progress :=
  match s.running with
  | [] => .done s
  | (time, j) :: r =>
    .going { s with
      clock := time
      queue := .finish j :: (r.takeWhile fun e => e.1 == time).map fun e => .finish e.2
      running := r.dropWhile fun e => e.1 == time }

/-- One step, after which there may be room for more jobs. -/
def step (w : World) (s : Session) : Progress :=
  let s := s.letIn w.config.concurrency
  match s.queue with
  | .start j :: q => { s with queue := q }.begin w j
  | .finish j :: q => { s with queue := q }.conclude w j
  | [] => s.wait

/-- Steps that are left at most for a task. -/
def taskWork : Task → Nat
  | .start _ => 3
  | .finish _ => 1

/-- Steps that are left at most for what is in the queue. -/
def queueWork : List Task → Nat
  | [] => 0
  | t :: r => taskWork t + queueWork r

/-- Steps that are left at most: a job is started, waited for and ended. -/
def work (s : Session) : Nat :=
  3 * s.waiting.length + 2 * s.running.length + queueWork s.queue

theorem queueWork_append (ts us : List Task) : queueWork (ts ++ us) = queueWork ts + queueWork us := by
  induction ts with
  | nil => simp [queueWork]
  | cons t r ih => simp only [List.cons_append, queueWork, ih]; omega

theorem queueWork_starts (js : List Job) : queueWork (js.map .start) = 3 * js.length := by
  induction js with
  | nil => rfl
  | cons j r ih => simp only [List.map_cons, queueWork, List.length_cons, ih, taskWork]; omega

theorem queueWork_finishes (es : List (Nat × Job)) :
    queueWork (es.map fun e => .finish e.2) = es.length := by
  induction es with
  | nil => rfl
  | cons e r ih => simp only [List.map_cons, queueWork, List.length_cons, ih, taskWork]; omega

theorem work_letIn (n : Nat) (s : Session) : (s.letIn n).work = s.work := by
  simp only [work, letIn, queueWork_append, queueWork_starts, List.length_drop, List.length_take]
  omega

theorem length_insertRunning (t : Nat) (j : Job) (l : List (Nat × Job)) :
    (insertRunning t j l).length = l.length + 1 := by
  induction l with
  | nil => rfl
  | cons e r ih => simp only [insertRunning]; split <;> simp [ih]

/-- Work that is left after a step that goes on. -/
def LeavesLess (n : Nat) : Progress → Prop
  | .going s => s.work < n
  | _ => True

theorem conclude_work (w : World) (j : Job) (s : Session) (n : Nat) (h : s.work < n) :
    LeavesLess n (s.conclude w j) := by
  unfold conclude
  split
  · exact h
  · trivial

theorem begin_work (w : World) (j : Job) (s : Session) : LeavesLess (s.work + 3) (s.begin w j) := by
  unfold begin
  split
  · simp only [LeavesLess, work, queueWork_append, queueWork, taskWork]; omega
  · dsimp only
    split
    · exact conclude_work w j _ _ (by simp only [work]; omega)
    · simp only [LeavesLess, work, length_insertRunning]; omega

theorem wait_work (s : Session) (h : s.queue = []) : LeavesLess s.work s.wait := by
  unfold wait
  split
  · trivial
  · next e t j r hr =>
    have hl : (r.takeWhile fun e => e.1 == t).length + (r.dropWhile fun e => e.1 == t).length = r.length := by
      rw [← List.length_append, List.takeWhile_append_dropWhile]
    simp only [LeavesLess, work, h, hr, queueWork, queueWork_finishes, List.length_cons, taskWork]
    omega

theorem LeavesLess.mono {m n : Nat} (h : m ≤ n) {p : Progress} (hp : LeavesLess m p) : LeavesLess n p := by
  cases p with
  | going s => exact Nat.lt_of_lt_of_le hp h
  | failed f s => trivial
  | done s => trivial

/-- A step that goes on leaves less work. -/
theorem step_work (w : World) (s : Session) : LeavesLess s.work (s.step w) := by
  rw [← work_letIn w.config.concurrency s]
  unfold step
  generalize s.letIn w.config.concurrency = t
  dsimp only
  split
  · next j q hq =>
    refine LeavesLess.mono ?_ (begin_work w j { t with queue := q })
    simp only [work, hq, queueWork, taskWork]; omega
  · next j q hq =>
    refine conclude_work w j _ _ ?_
    simp only [work, hq, queueWork, taskWork]; omega
  · next hq => exact wait_work t hq

/-- Takes steps to the end: the state there, and the failure that ended it if there is one. -/
def run (w : World) (s : Session) : Session × Option Failure :=
  match _h : s.step w with
  | .going s' => run w s'
  | .failed f s' => (s', some f)
  | .done s' => (s', none)
termination_by s.work
decreasing_by
  have hs := step_work w s
  rw [_h] at hs
  exact hs

/-- What became of the links, in their order. -/
def outcome (count : Nat) (s : Session) : List Settled :=
  (List.range count).filterMap fun n => s.settled.lookup n

end Session

/-! ## Resolving the links of a page -/

/-- What became of the links of a page, in their order. -/
structure Outcome where
  stylesheets : List Stylesheet
  skipped : List Skipped
deriving Repr

namespace Outcome

/-- The stylesheet of a link that was resolved. -/
def stylesheet? : Settled → Option Stylesheet
  | .resolved s => some s
  | .skipped _ => none

/-- The link that was left out. -/
def skipped? : Settled → Option Skipped
  | .resolved _ => none
  | .skipped s => some s

/-- The two lists of what became of links. -/
def ofSettled (rs : List Settled) : Outcome := ⟨rs.filterMap stylesheet?, rs.filterMap skipped?⟩

/-- The texts of the stylesheets, one after another. -/
def css (o : Outcome) : Text := Text.join ['\n'] (o.stylesheets.map Stylesheet.css)

/-- A stylesheet was left out. -/
def hasFailures (o : Outcome) : Bool := !o.skipped.isEmpty

end Outcome

/-- Resolves links side by side: the addresses that were asked for, and what became of the links. -/
def World.resolveAll (w : World) (links : List Page.StyleLink) : List Text × Except Failure Outcome :=
  match (Session.start links).run w with
  | (s, some f) => (s.calls, .error f)
  | (s, none) => (s.calls, .ok (.ofSettled (s.outcome links.length)))

end StylePrune.Resolution
