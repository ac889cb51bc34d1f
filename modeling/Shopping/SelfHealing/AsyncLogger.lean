import Mathlib.Data.List.Perm.Basic
import Shopping.Lib.Run

/-!
# The `AsyncHealingLogger`

Threads log events.  A warning gets a thread of its own that hands it to the callback.
Every other event goes to the queue, unless the queue is full.  The worker takes events
off the queue and hands them over in batches; `flush_now` empties the queue in the
thread that calls it.

One step of the model is one step that no other thread can divide: a read of
`_running`, a `get` or a `put` of the queue, a call of `_flush_batch`.  The test of the
queue's size and the `put` after it are two steps, and so are `stop` and the end of the
worker, so a second worker can start while the first one runs.

`logged_once` is the account of every event, `logged_handed` says when the queue is left
empty, `queue_bounded` is the bound that the size test really gives, and
`handed_in_order` is the order of the batches.
-/

namespace Shopping

/-- `EventSeverity` -/
inductive EventSeverity where
  | debug
  | info
  | warning
  | critical
  deriving DecidableEq, Repr

/-- `IMMEDIATE_SEVERITIES` -/
def EventSeverity.immediate : EventSeverity → Bool
  | .critical | .warning => true
  | .debug | .info => false

/-- What a call of `_flush_batch` came to. -/
inductive FlushOutcome where
  | noCallback
  | sent
  | failed
  deriving DecidableEq, Repr

/-- Where a thread is that empties the queue: `_worker` from its first line, or
`flush_now`, which has the code of the worker's end. -/
inductive WorkerStage where
  /-- It reads `_running`. -/
  | check
  /-- It waits for an event. -/
  | get
  /-- It works out `should_flush`. -/
  | decide
  /-- It left the loop with a batch. -/
  | ending
  /-- It takes what is left in the queue. -/
  | drain
  /-- It found the queue empty. -/
  | handing
  | done
  deriving DecidableEq, Repr

/-- The thread has left the loop that empties the queue. -/
def WorkerStage.left : WorkerStage → Bool
  | .handing | .done => true
  | .check | .get | .decide | .ending | .drain => false

/-- A thread that empties the queue, and the events that it has in its hands. -/
structure QueueThread (ε : Type) where
  batch : List ε
  stage : WorkerStage
  done_empty : stage = .done → batch = [] := by simp
  deriving DecidableEq, Repr

/-- The class variables, and what the threads have in their hands. -/
structure AsyncHealingLogger (ε : Type) where
  /-- `_flush_callback` is set. -/
  callback : Bool := false
  running : Bool := false
  batchSize : Int := 5
  maxQueueSize : Int := 5000
  queue : List ε := []
  /-- The events whose `log` saw room in the queue, and has not put them there yet. -/
  putting : List ε := []
  /-- The events whose `ImmediateFlush` thread has not run yet. -/
  immediate : List ε := []
  threads : List (QueueThread ε) := []
  /-- The batches of `_worker` and `flush_now` that `_flush_batch` was called with. -/
  batches : List (List ε × FlushOutcome) := []
  /-- The same for the `ImmediateFlush` threads. -/
  alerts : List (ε × FlushOutcome) := []
  /-- The events that found the queue full. -/
  overflows : List ε := []
  deriving DecidableEq, Repr

namespace AsyncHealingLogger

inductive Event (ε : Type) where
  | configure (batchSize maxQueueSize : Int)
  | start
  | stop
  | log (event : ε) (severity : EventSeverity)
  /-- The `put_nowait` of a `log` that saw room. -/
  | put (event : ε)
  /-- The `ImmediateFlush` thread of the event runs. -/
  | alert (event : ε) (sent : Bool)
  | flushNow
  /-- The thread `n` takes its next step.  `elapsed` is the comparison with
  `FLUSH_INTERVAL`, `sent` says that the callback does not raise. -/
  | turn (n : Nat) (elapsed sent : Bool)
  deriving DecidableEq, Repr

variable {ε : Type}

def outcome (s : AsyncHealingLogger ε) (sent : Bool) : FlushOutcome :=
  if s.callback then if sent then .sent else .failed else .noCallback

/-- `_flush_batch` -/
def flushBatch (s : AsyncHealingLogger ε) (events : List ε) (sent : Bool) :
    AsyncHealingLogger ε :=
  if events.isEmpty then s else { s with batches := s.batches ++ [(events, s.outcome sent)] }

/-- The thread `n` goes on as `d`. -/
def become (s : AsyncHealingLogger ε) (n : Nat) (d : QueueThread ε) : AsyncHealingLogger ε :=
  { s with threads := s.threads.set n d }

/-- `_worker` and `flush_now`, one step of the thread `n`. -/
def turn (s : AsyncHealingLogger ε) (n : Nat) (c : QueueThread ε) (elapsed sent : Bool) :
    Option (AsyncHealingLogger ε) :=
  match c.stage with
  | .check =>
    if s.running then some (s.become n { batch := c.batch, stage := .get })
    else some (s.become n { batch := c.batch, stage := .ending })
  | .get =>
    match s.queue with
    | [] => some (s.become n { batch := c.batch, stage := .decide })
    | e :: rest =>
      some ({ s with queue := rest }.become n { batch := c.batch ++ [e], stage := .decide })
  | .decide =>
    if s.batchSize ≤ c.batch.length ∨ (c.batch ≠ [] ∧ elapsed) then
      some ((s.flushBatch c.batch sent).become n { batch := [], stage := .check })
    else
      some (s.become n { batch := c.batch, stage := .check })
  | .ending => some ((s.flushBatch c.batch sent).become n { batch := [], stage := .drain })
  | .drain =>
    match s.queue with
    | [] => some (s.become n { batch := c.batch, stage := .handing })
    | e :: rest =>
      some ({ s with queue := rest }.become n { batch := c.batch ++ [e], stage := .drain })
  | .handing => some ((s.flushBatch c.batch sent).become n { batch := [], stage := .done })
  | .done => none

def step [DecidableEq ε] (s : AsyncHealingLogger ε) : Event ε → Option (AsyncHealingLogger ε)
  | .configure batchSize maxQueueSize =>
    some { s with callback := true, batchSize := batchSize, maxQueueSize := maxQueueSize }
  | .start =>
    if s.running then some s
    else some { s with running := true, threads := s.threads ++ [{ batch := [], stage := .check }] }
  | .stop => some { s with running := false }
  | .log event severity =>
    if severity.immediate then some { s with immediate := s.immediate ++ [event] }
    else if s.queue.length < s.maxQueueSize then some { s with putting := s.putting ++ [event] }
    else some { s with overflows := s.overflows ++ [event] }
  | .put event =>
    if event ∈ s.putting then
      some { s with putting := s.putting.erase event, queue := s.queue ++ [event] }
    else none
  | .alert event sent =>
    if event ∈ s.immediate then
      some { s with
        immediate := s.immediate.erase event, alerts := s.alerts ++ [(event, s.outcome sent)] }
    else none
  | .flushNow => some { s with threads := s.threads ++ [{ batch := [], stage := .drain }] }
  | .turn n elapsed sent => s.threads[n]?.bind fun c => s.turn n c elapsed sent

/-- The events that are still in the logger. -/
def held (s : AsyncHealingLogger ε) : List ε :=
  s.putting ++ s.queue ++ s.immediate ++ s.threads.flatMap QueueThread.batch

/-- The events that `_flush_batch` was called with. -/
def handed (s : AsyncHealingLogger ε) : List ε :=
  s.batches.flatMap Prod.fst ++ s.alerts.map Prod.fst

/-- The events that the calls of `log` were made with. -/
def logged (es : List (Event ε)) : List ε :=
  es.filterMap fun
    | .log event _ => some event
    | _ => none

/-- The events that were put in the queue. -/
def queued (es : List (Event ε)) : List ε :=
  es.filterMap fun
    | .put event => some event
    | _ => none

/-! ## One turn of a thread -/

variable {s s' : AsyncHealingLogger ε} {n : Nat} {c : QueueThread ε}

/-- A thread goes on with its batch, takes an event off the queue, or hands its batch over.
It leaves the loop when the queue is empty. -/
inductive Turn (s : AsyncHealingLogger ε) (n : Nat) (c : QueueThread ε) (sent : Bool) :
    AsyncHealingLogger ε → Prop
  | moved {d : QueueThread ε} (hbatch : d.batch = c.batch)
      (hempty : d.stage.left = true → s.queue = []) : Turn s n c sent (s.become n d)
  | took {e : ε} {rest : List ε} {d : QueueThread ε} (hqueue : s.queue = e :: rest)
      (hbatch : d.batch = c.batch ++ [e]) (hstays : d.stage.left = false) :
      Turn s n c sent ({ s with queue := rest }.become n d)
  | flushed {d : QueueThread ε} (hbatch : d.batch = [])
      (hleft : d.stage.left = true → c.stage.left = true) :
      Turn s n c sent ((s.flushBatch c.batch sent).become n d)

theorem turn_cases {elapsed sent : Bool} (h : s.turn n c elapsed sent = some s') :
    c.stage ≠ .done ∧ Turn s n c sent s' := by
  unfold turn at h
  cases hstage : c.stage with
  | check =>
    simp only [hstage] at h
    split at h
    · cases h
      exact ⟨WorkerStage.noConfusion, .moved rfl fun hleft => by cases hleft⟩
    · cases h
      exact ⟨WorkerStage.noConfusion, .moved rfl fun hleft => by cases hleft⟩
  | get =>
    simp only [hstage] at h
    split at h
    · cases h
      exact ⟨WorkerStage.noConfusion, .moved rfl fun hleft => by cases hleft⟩
    · rename_i e rest hqueue
      cases h
      exact ⟨WorkerStage.noConfusion, .took hqueue rfl rfl⟩
  | decide =>
    simp only [hstage] at h
    split at h
    · cases h
      exact ⟨WorkerStage.noConfusion, .flushed rfl fun hleft => by cases hleft⟩
    · cases h
      exact ⟨WorkerStage.noConfusion, .moved rfl fun hleft => by cases hleft⟩
  | ending =>
    simp only [hstage] at h
    cases h
    exact ⟨WorkerStage.noConfusion, .flushed rfl fun hleft => by cases hleft⟩
  | drain =>
    simp only [hstage] at h
    split at h
    · rename_i hqueue
      cases h
      exact ⟨WorkerStage.noConfusion, .moved rfl fun _ => hqueue⟩
    · rename_i e rest hqueue
      cases h
      exact ⟨WorkerStage.noConfusion, .took hqueue rfl rfl⟩
  | handing =>
    simp only [hstage] at h
    cases h
    exact ⟨WorkerStage.noConfusion, .flushed rfl fun _ => by rw [hstage]; rfl⟩
  | done =>
    simp only [hstage] at h
    cases h

theorem flushBatch_eq (s : AsyncHealingLogger ε) (events : List ε) (sent : Bool) :
    ∃ batches, s.flushBatch events sent = { s with batches := batches } ∧
      batches.flatMap Prod.fst = s.batches.flatMap Prod.fst ++ events := by
  unfold flushBatch
  split
  · rename_i hnone
    rw [List.isEmpty_iff.mp hnone]
    exact ⟨s.batches, rfl, by simp⟩
  · exact ⟨s.batches ++ [(events, s.outcome sent)], rfl, by simp⟩

theorem threads_at {threads : List (QueueThread ε)} (h : threads[n]? = some c) :
    ∃ before after, threads = before ++ c :: after ∧ n = before.length := by
  obtain ⟨hlt, hc⟩ := List.getElem?_eq_some_iff.mp h
  refine ⟨threads.take n, threads.drop (n + 1), ?_, ?_⟩
  · rw [← hc, ← List.drop_eq_getElem_cons hlt, List.take_append_drop]
  · rw [List.length_take_of_le (Nat.le_of_lt hlt)]

/-! ## The account of the events -/

section

variable [DecidableEq ε]

/-- All events that are or were in the logger. -/
def total (s : AsyncHealingLogger ε) : List ε := s.held ++ s.handed ++ s.overflows

omit [DecidableEq ε] in
theorem logged_append (es fs : List (Event ε)) : logged (es ++ fs) = logged es ++ logged fs :=
  List.filterMap_append

theorem Turn.count_total {sent : Bool} (hc : s.threads[n]? = some c) (h : Turn s n c sent s')
    (a : ε) : s'.total.count a = s.total.count a := by
  obtain ⟨before, after, hthreads, rfl⟩ := threads_at hc
  cases h with
  | moved hbatch _ => simp [total, held, handed, become, hthreads, hbatch]
  | took hqueue hbatch _ =>
    simp [total, held, handed, become, hthreads, hqueue, hbatch, List.count_cons]
    omega
  | flushed hbatch _ =>
    obtain ⟨batches, hflush, hbatches⟩ := flushBatch_eq s c.batch sent
    simp [total, held, handed, become, hflush, hbatches, hthreads, hbatch]
    omega

/-- One step. -/
theorem step_count_total {event : Event ε} (h : s.step event = some s') (a : ε) :
    s'.total.count a = (logged [event]).count a + s.total.count a := by
  cases event with
  | configure batchSize maxQueueSize =>
    cases h
    simp [total, held, handed, logged]
  | start =>
    simp only [step] at h
    split at h
    · cases h
      simp [logged]
    · cases h
      simp [total, held, handed, logged]
  | stop =>
    cases h
    simp [total, held, handed, logged]
  | log event severity =>
    simp only [step] at h
    split at h
    · cases h
      simp [total, held, handed, logged, List.count_cons]
      omega
    · split at h
      · cases h
        simp [total, held, handed, logged, List.count_cons]
        omega
      · cases h
        simp [total, held, handed, logged, List.count_cons]
        omega
  | put event =>
    simp only [step] at h
    split at h
    · rename_i hmem
      have hcount := (List.perm_cons_erase hmem).count_eq a
      cases h
      simp [total, held, handed, logged, List.count_cons] at hcount ⊢
      omega
    · cases h
  | alert event sent =>
    simp only [step] at h
    split at h
    · rename_i hmem
      have hcount := (List.perm_cons_erase hmem).count_eq a
      cases h
      simp [total, held, handed, logged, List.count_cons] at hcount ⊢
      omega
    · cases h
  | flushNow =>
    cases h
    simp [total, held, handed, logged]
  | turn k elapsed sent =>
    obtain ⟨c, hc, hturn⟩ := Option.bind_eq_some_iff.mp h
    rw [(turn_cases hturn).2.count_total hc]
    simp [logged]

theorem count_logged {s₀ : AsyncHealingLogger ε} {ok : AsyncHealingLogger ε → Event ε → Prop}
    {es : List (Event ε)} (h : Run step ok s₀ es s) (a : ε) :
    s.total.count a = (logged es).count a + s₀.total.count a := by
  induction h with
  | nil => simp [logged]
  | snoc _ _ hs ih =>
    rw [logged_append, List.count_append, step_count_total hs, ih]
    omega

/-- In every run, whatever the order of the threads' steps: the logged events are those that
are in the logger, those that were handed over and those that found the queue full.  No event
is lost in between, and none is handed over twice. -/
theorem logged_once {es : List (Event ε)} (h : Run step (fun _ _ => True) {} es s) :
    (logged es).Perm (s.held ++ s.handed ++ s.overflows) := by
  refine List.perm_iff_count.mpr fun a => ?_
  have hcount := count_logged h a
  simpa [total, held, handed] using hcount.symm

/-- An alert that fails, an event in the hands of `flush_now`, and one that found no room. -/
theorem logged_once_full : ∃ s : AsyncHealingLogger Nat,
    s.alerts = [(1, .failed)] ∧ s.held = [2] ∧ s.overflows = [3] ∧
      (logged [.configure 2 1, .log 1 .critical, .log 2 .info, .put 2, .log 3 .info,
        .alert 1 false, .flushNow, .turn 0 false true]).Perm
          (s.held ++ s.handed ++ s.overflows) := by
  obtain ⟨s, hs, hstate⟩ := (Option.any_eq_true _ _).mp (by decide +kernel :
    (exec step ({} : AsyncHealingLogger Nat)
      [.configure 2 1, .log 1 .critical, .log 2 .info, .put 2, .log 3 .info, .alert 1 false,
        .flushNow, .turn 0 false true]).any (fun s =>
          decide (s.alerts = [(1, .failed)] ∧ s.held = [2] ∧ s.overflows = [3])) = true)
  obtain ⟨halerts, hheld, hfull⟩ := of_decide_eq_true hstate
  exact ⟨s, halerts, hheld, hfull, logged_once (Run.of_exec (fun _ _ => trivial) hs)⟩

/-! ## The queue is left empty -/

/-- Some thread has not left the loop that empties the queue. -/
def awake (s : AsyncHealingLogger ε) : Bool := s.threads.any fun c => !c.stage.left

/-- A `put` finds a thread that will look at the queue again. -/
def putsAwake (s : AsyncHealingLogger ε) : Event ε → Bool
  | .put _ => s.awake
  | _ => true

/-- No thread has work left. -/
def finished (s : AsyncHealingLogger ε) : Bool :=
  s.putting.isEmpty && s.immediate.isEmpty && s.threads.all fun c => decide (c.stage = .done)

/-- What is in the queue will be taken. -/
def Attended (s : AsyncHealingLogger ε) : Prop := s.queue ≠ [] → s.awake = true

omit [DecidableEq ε] in
/-- A thread that goes on, and is awake when it was. -/
theorem awake_set {before after : List (QueueThread ε)} {d : QueueThread ε}
    (hawake : s.awake = true) (hthreads : s.threads = before ++ c :: after)
    (hset : s'.threads = before ++ d :: after) (hleft : d.stage.left = true → c.stage.left = true) :
    s'.awake = true := by
  simp only [awake, hthreads, hset, List.any_append, List.any_cons, Bool.or_eq_true,
    Bool.not_eq_true'] at hawake ⊢
  rcases hawake with hbefore | hthis | hafter
  · exact Or.inl hbefore
  · refine Or.inr (Or.inl ?_)
    by_contra hd
    rw [hleft (by simpa using hd)] at hthis
    cases hthis
  · exact Or.inr (Or.inr hafter)

omit [DecidableEq ε] in
theorem become_threads {before after : List (QueueThread ε)} {d : QueueThread ε}
    (h : s.threads = before ++ c :: after) :
    (s.become before.length d).threads = before ++ d :: after := by
  simp [become, h]

omit [DecidableEq ε] in
theorem Turn.attended {sent : Bool} (hI : Attended s) (hc : s.threads[n]? = some c)
    (h : Turn s n c sent s') : Attended s' := by
  obtain ⟨before, after, hthreads, rfl⟩ := threads_at hc
  intro hne
  cases h with
  | @moved d _ hempty =>
    refine awake_set (hI hne) hthreads (become_threads hthreads) fun hleft => ?_
    exact absurd (hempty hleft) hne
  | @took e rest d hqueue _ hstays =>
    have hs : s.queue ≠ [] := by
      rw [hqueue]
      exact List.cons_ne_nil e rest
    refine awake_set (hI hs) hthreads (become_threads hthreads) fun hleft => ?_
    rw [hleft] at hstays
    cases hstays
  | flushed _ hleft =>
    obtain ⟨batches, hflush, _⟩ := flushBatch_eq s c.batch sent
    rw [hflush] at hne ⊢
    exact awake_set (hI hne) hthreads (become_threads hthreads) hleft

theorem step_attended {event : Event ε} (hI : Attended s) (hok : s.putsAwake event = true)
    (h : s.step event = some s') : Attended s' := by
  cases event with
  | configure batchSize maxQueueSize =>
    cases h
    exact hI
  | start =>
    simp only [step] at h
    split at h
    · cases h
      exact hI
    · cases h
      intro _
      simp [awake, WorkerStage.left]
  | stop =>
    cases h
    exact hI
  | log event severity =>
    simp only [step] at h
    split at h
    · cases h
      exact hI
    · split at h
      · cases h
        exact hI
      · cases h
        exact hI
  | put event =>
    simp only [step] at h
    split at h
    · cases h
      exact fun _ => hok
    · cases h
  | alert event sent =>
    simp only [step] at h
    split at h
    · cases h
      exact hI
    · cases h
  | flushNow =>
    cases h
    intro _
    simp [awake, WorkerStage.left]
  | turn k elapsed sent =>
    obtain ⟨c, hc, hturn⟩ := Option.bind_eq_some_iff.mp h
    exact (turn_cases hturn).2.attended hI hc

omit [DecidableEq ε] in
theorem held_finished (hI : Attended s) (h : s.finished = true) : s.held = [] := by
  obtain ⟨⟨hputting, himmediate⟩, hthreads⟩ :
      (s.putting = [] ∧ s.immediate = []) ∧ ∀ c ∈ s.threads, c.stage = .done := by
    simpa [finished] using h
  have hbatches : s.threads.flatMap QueueThread.batch = [] :=
    List.flatMap_eq_nil_iff.mpr fun c hc => c.done_empty (hthreads c hc)
  have hqueue : s.queue = [] := by
    by_contra hne
    obtain ⟨c, hc, hleft⟩ := List.any_eq_true.mp (hI hne)
    rw [hthreads c hc] at hleft
    cases hleft
  simp [held, hputting, himmediate, hbatches, hqueue]

/-- Once a thread is awake, and as long as every `put` finds one: when no thread has work
left, every logged event was handed over, or found the queue full. -/
theorem logged_handed {es fs : List (Event ε)} {t : AsyncHealingLogger ε}
    (h : Run step (fun _ _ => True) {} es t) (hawake : t.awake = true)
    (h' : Run step (fun s event => s.putsAwake event = true) t fs s)
    (hfinished : s.finished = true) : (logged (es ++ fs)).Perm (s.handed ++ s.overflows) := by
  have hI : Attended s := h'.invariant Attended (fun _ => hawake) fun u event v hu hok hs =>
    step_attended hu hok hs
  refine List.perm_iff_count.mpr fun a => ?_
  have htotal : s.total = s.handed ++ s.overflows := by
    rw [total, held_finished hI hfinished, List.nil_append]
  have hcount := count_logged (h.append (h'.mono fun _ _ _ => trivial)) a
  rw [htotal] at hcount
  simpa [total, held, handed] using hcount.symm

/-- One event is queued before the start.  The worker is stopped with it in its hands, and
takes the other one on its way out. -/
theorem logged_handed_stopped : ∃ s : AsyncHealingLogger Nat,
    s.finished = true ∧ s.batches = [([1], .sent), ([3], .failed)] ∧ s.alerts = [(2, .sent)] ∧
      (logged ([.configure 2 100, .log 1 .info, .put 1, .log 2 .critical, .start] ++
        [.log 3 .debug, .put 3, .alert 2 true, .turn 0 false true, .turn 0 false true, .stop,
          .turn 0 false true, .turn 0 false true, .turn 0 false true, .turn 0 false true,
          .turn 0 false true, .turn 0 false false])).Perm (s.handed ++ s.overflows) := by
  obtain ⟨t, ht, hstate⟩ := (Option.any_eq_true _ _).mp (by decide +kernel :
    (exec step ({} : AsyncHealingLogger Nat)
      [.configure 2 100, .log 1 .info, .put 1, .log 2 .critical, .start]).any (fun t =>
        t.awake && (execIf step putsAwake t
          [.log 3 .debug, .put 3, .alert 2 true, .turn 0 false true, .turn 0 false true, .stop,
            .turn 0 false true, .turn 0 false true, .turn 0 false true, .turn 0 false true,
            .turn 0 false true, .turn 0 false false]).any (fun s => s.finished &&
              decide (s.batches = [([1], .sent), ([3], .failed)] ∧ s.alerts = [(2, .sent)])))
      = true)
  obtain ⟨hawake, hlater⟩ := Bool.and_eq_true_iff.mp hstate
  obtain ⟨s, hs, hend⟩ := Run.exists_of_execIf hlater
  obtain ⟨hfinished, hsent⟩ := Bool.and_eq_true_iff.mp hend
  obtain ⟨hbatches, halerts⟩ := of_decide_eq_true hsent
  exact ⟨s, hfinished, hbatches, halerts,
    logged_handed (Run.of_exec (fun _ _ => trivial) ht) hawake hs hfinished⟩

/-! ## The bound of the queue -/

/-- A call of `log` that finds room is one of at most `p` that are past the test of the
queue's size, and the callers of `configure` ask for no more than `m`. -/
def fewPutting (m : Int) (p : Nat) (s : AsyncHealingLogger ε) : Event ε → Bool
  | .configure _ maxQueueSize => decide (maxQueueSize ≤ m)
  | .log _ severity => severity.immediate || decide (s.maxQueueSize ≤ s.queue.length) ||
      decide (s.putting.length < p)
  | _ => true

/-- What every step keeps below the bound. -/
structure Bounded (m : Int) (p : Nat) (s : AsyncHealingLogger ε) : Prop where
  max : s.maxQueueSize ≤ m
  size : (s.queue.length + s.putting.length : Int) ≤ m - 1 + p

omit [DecidableEq ε] in
theorem Turn.bounded {m : Int} {p : Nat} {sent : Bool} (hI : Bounded m p s)
    (h : Turn s n c sent s') : Bounded m p s' := by
  cases h with
  | moved _ _ => exact ⟨hI.max, hI.size⟩
  | took hqueue _ _ =>
    refine ⟨hI.max, ?_⟩
    have hsize := hI.size
    rw [hqueue, List.length_cons] at hsize
    simp only [become]
    omega
  | flushed _ _ =>
    obtain ⟨batches, hflush, _⟩ := flushBatch_eq s c.batch sent
    rw [hflush]
    exact ⟨hI.max, hI.size⟩

theorem step_bounded {m : Int} {p : Nat} {event : Event ε} (hI : Bounded m p s)
    (hok : fewPutting m p s event = true) (h : s.step event = some s') : Bounded m p s' := by
  cases event with
  | configure batchSize maxQueueSize =>
    cases h
    exact ⟨of_decide_eq_true hok, hI.size⟩
  | start =>
    simp only [step] at h
    split at h
    · cases h
      exact hI
    · cases h
      exact ⟨hI.max, hI.size⟩
  | stop =>
    cases h
    exact ⟨hI.max, hI.size⟩
  | log event severity =>
    simp only [step] at h
    split at h
    · cases h
      exact ⟨hI.max, hI.size⟩
    · rename_i hqueued
      split at h
      · rename_i hroom
        cases h
        have hfew : s.putting.length < p := by
          simpa [fewPutting, hqueued, Int.not_le.mpr hroom] using hok
        have hmax := hI.max
        refine ⟨hmax, ?_⟩
        simp only [List.length_append, List.length_cons, List.length_nil]
        omega
      · cases h
        exact ⟨hI.max, hI.size⟩
  | put event =>
    simp only [step] at h
    split at h
    · rename_i hmem
      cases h
      have hlength := List.length_erase_of_mem hmem
      have hpos := List.length_pos_of_mem hmem
      have hsize := hI.size
      refine ⟨hI.max, ?_⟩
      simp only [List.length_append, List.length_cons, List.length_nil, hlength]
      omega
    · cases h
  | alert event sent =>
    simp only [step] at h
    split at h
    · cases h
      exact ⟨hI.max, hI.size⟩
    · cases h
  | flushNow =>
    cases h
    exact ⟨hI.max, hI.size⟩
  | turn k elapsed sent =>
    obtain ⟨c, hc, hturn⟩ := Option.bind_eq_some_iff.mp h
    exact (turn_cases hturn).2.bounded hI

/-- A logger with `n` events in the queue and `j` on their way. -/
def filled (m : Int) (a : ε) (n j : Nat) : AsyncHealingLogger ε :=
  { maxQueueSize := m, queue := List.replicate n a, putting := List.replicate j a }

/-- A call that sees room. -/
theorem filled_log {m : Int} {a : ε} {n j : Nat} (hroom : (n : Int) < m) :
    (filled m a n j).step (.log a .info) = some (filled m a n (j + 1)) := by
  simp [filled, step, EventSeverity.immediate, hroom, List.replicate_succ']

theorem filled_put (m : Int) (a : ε) (n j : Nat) :
    (filled m a n (j + 1)).step (.put a) = some (filled m a (n + 1) j) := by
  simp [filled, step, List.replicate_succ, ← List.replicate_succ']

omit [DecidableEq ε] in
theorem filled_fewPutting {m : Int} {p n j : Nat} {a : ε} (hj : j < p) :
    fewPutting m p (filled m a n j) (.log a .info) = true := by
  simp [fewPutting, filled, hj]

/-- The queue is filled up to one below its size, `p` calls see the room that is left, and
all of them put their event. -/
theorem reaches_filled {m : Int} {p : Nat} (a : ε) (hp : 1 ≤ p) {n : Nat} (hn : (n : Int) + 1 = m) :
    ∃ es, Run step (fun s event => fewPutting m p s event = true)
      ({ maxQueueSize := m } : AsyncHealingLogger ε) es (filled m a (n + p) 0) := by
  have hfill : ∀ k ≤ n, ∃ es, Run step (fun s event => fewPutting m p s event = true)
      ({ maxQueueSize := m } : AsyncHealingLogger ε) es (filled m a k 0) := by
    intro k hk
    induction k with
    | zero => exact ⟨[], Run.nil⟩
    | succ k ih =>
      obtain ⟨es, hrun⟩ := ih (by omega)
      exact ⟨_, (hrun.snoc (filled_fewPutting (by omega)) (filled_log (by omega))).snoc rfl
        (filled_put m a k 0)⟩
  have hlog : ∀ j ≤ p, ∃ es, Run step (fun s event => fewPutting m p s event = true)
      ({ maxQueueSize := m } : AsyncHealingLogger ε) es (filled m a n j) := by
    intro j hj
    induction j with
    | zero => exact hfill n (Nat.le_refl n)
    | succ j ih =>
      obtain ⟨es, hrun⟩ := ih (by omega)
      exact ⟨_, hrun.snoc (filled_fewPutting (by omega)) (filled_log (by omega))⟩
  have hput : ∀ i j, i + j = p → ∃ es, Run step (fun s event => fewPutting m p s event = true)
      ({ maxQueueSize := m } : AsyncHealingLogger ε) es (filled m a (n + i) j) := by
    intro i
    induction i with
    | zero =>
      intro j hj
      exact hlog j (by omega)
    | succ i ih =>
      intro j hj
      obtain ⟨es, hrun⟩ := ih (j + 1) (by omega)
      exact ⟨_, hrun.snoc rfl (filled_put m a (n + i) j)⟩
  exact hput p 0 rfl

/-- The size test does not keep the queue below `MAX_QUEUE_SIZE` when threads log at the
same time.  What it gives: with at most `p` threads between the test and the `put`, the
queue is at most `p - 1` events longer, and it can be that long. -/
theorem queue_bounded {m : Int} {p : Nat} :
    (∀ (s₀ s : AsyncHealingLogger ε) (es : List (Event ε)), s₀.maxQueueSize ≤ m →
      (s₀.queue.length + s₀.putting.length : Int) ≤ m - 1 + p →
      Run step (fun s event => fewPutting m p s event = true) s₀ es s →
      (s.queue.length : Int) ≤ m + (p - 1)) ∧
    (∀ _ : ε, 1 ≤ m → 1 ≤ p → ∃ (es : List (Event ε)) (s : AsyncHealingLogger ε),
      Run step (fun s event => fewPutting m p s event = true) { maxQueueSize := m } es s ∧
        (s.queue.length : Int) = m + (p - 1)) := by
  constructor
  · intro s₀ s es hmax hsize h
    have hI : Bounded m p s := h.invariant (Bounded m p) ⟨hmax, hsize⟩ fun u event v hu hok hs =>
      step_bounded hu hok hs
    have hle := hI.size
    omega
  · intro a hm hp
    have hn : ((m - 1).toNat : Int) + 1 = m := by omega
    obtain ⟨es, hrun⟩ := reaches_filled a hp hn
    refine ⟨es, _, hrun, ?_⟩
    simp only [filled, List.length_replicate]
    omega

/-- Two threads see room for one event, and both put theirs. -/
theorem queue_bounded_raced : ∃ s : AsyncHealingLogger Nat,
    (s.queue.length : Int) = s.maxQueueSize + (2 - 1) ∧
      (s.queue.length : Int) ≤ 1 + ((2 : Nat) - 1) := by
  obtain ⟨s, hrun, hfull⟩ := Run.exists_of_execIf (by decide +kernel :
    (execIf step (fewPutting 1 2) ({ maxQueueSize := 1 } : AsyncHealingLogger Nat)
      [.log 1 .info, .log 2 .info, .put 2, .put 1, .log 3 .info]).any (fun s =>
        decide ((s.queue.length : Int) = s.maxQueueSize + (2 - 1))) = true)
  exact ⟨s, of_decide_eq_true hfull, queue_bounded.1 _ s _ (by decide) (by decide) hrun⟩

/-! ## The order of the batches -/

/-- Every thread that empties the queue is done. -/
def idle (s : AsyncHealingLogger ε) : Bool := s.threads.all fun c => decide (c.stage = .done)

/-- A thread that empties the queue starts when no other one is at it. -/
def oneThread (s : AsyncHealingLogger ε) : Event ε → Bool
  | .start => s.running || s.idle
  | .flushNow => s.idle
  | _ => true

/-- Only the last thread can have something to do. -/
def Serial (s : AsyncHealingLogger ε) : Prop := s.threads.Pairwise fun c _ => c.stage = .done

/-- The queued events, in the order in which they were put. -/
def line (s : AsyncHealingLogger ε) : List ε :=
  s.batches.flatMap Prod.fst ++ s.threads.flatMap QueueThread.batch ++ s.queue

omit [DecidableEq ε] in
theorem queued_append (es fs : List (Event ε)) : queued (es ++ fs) = queued es ++ queued fs :=
  List.filterMap_append

omit [DecidableEq ε] in
theorem Serial.snoc {d : QueueThread ε} (hidle : s.idle = true)
    (hset : s'.threads = s.threads ++ [d]) : Serial s' := by
  have hdone : ∀ c ∈ s.threads, c.stage = .done := by simpa [idle] using hidle
  unfold Serial
  rw [hset, List.pairwise_append]
  refine ⟨?_, List.pairwise_singleton _ d, fun c hc _ _ => hdone c hc⟩
  exact List.pairwise_of_forall_mem_list fun c hc _ _ => hdone c hc

omit [DecidableEq ε] in
/-- The thread that takes a turn is the last one, and the others have nothing. -/
theorem Serial.last (hI : Serial s) (hc : s.threads[n]? = some c) (hlive : c.stage ≠ .done) :
    ∃ before, s.threads = before ++ [c] ∧ n = before.length ∧
      (∀ b ∈ before, b.stage = .done) ∧ before.flatMap QueueThread.batch = [] := by
  obtain ⟨before, after, hthreads, hn⟩ := threads_at hc
  have hpair := hI
  unfold Serial at hpair
  rw [hthreads, List.pairwise_append, List.pairwise_cons] at hpair
  obtain ⟨_, ⟨hafter, _⟩, hbefore⟩ := hpair
  have hdone : ∀ b ∈ before, b.stage = .done := fun b hb =>
    hbefore b hb c List.mem_cons_self
  cases after with
  | nil =>
    exact ⟨before, hthreads, hn, hdone,
      List.flatMap_eq_nil_iff.mpr fun b hb => b.done_empty (hdone b hb)⟩
  | cons d rest => exact absurd (hafter d List.mem_cons_self) hlive

omit [DecidableEq ε] in
theorem Turn.line {sent : Bool} (hI : Serial s) (hc : s.threads[n]? = some c)
    (hlive : c.stage ≠ .done) (h : Turn s n c sent s') : Serial s' ∧ s'.line = s.line := by
  obtain ⟨before, hthreads, rfl, hdone, hempty⟩ := hI.last hc hlive
  have hserial : ∀ d : QueueThread ε, (before ++ [d]).Pairwise fun c _ => c.stage = .done := by
    intro d
    rw [List.pairwise_append]
    refine ⟨?_, List.pairwise_singleton _ d, fun b hb _ _ => hdone b hb⟩
    exact List.pairwise_of_forall_mem_list fun b hb _ _ => hdone b hb
  cases h with
  | @moved d hbatch _ =>
    constructor
    · simpa [Serial, become, hthreads] using hserial d
    · simp [AsyncHealingLogger.line, become, hthreads, hempty, hbatch]
  | @took e rest d hqueue hbatch _ =>
    constructor
    · simpa [Serial, become, hthreads] using hserial d
    · simp [AsyncHealingLogger.line, become, hthreads, hempty, hbatch, hqueue]
  | @flushed d hbatch _ =>
    obtain ⟨batches, hflush, hbatches⟩ := flushBatch_eq s c.batch sent
    rw [hflush]
    constructor
    · simpa [Serial, become, hthreads] using hserial d
    · simp [AsyncHealingLogger.line, become, hthreads, hempty, hbatch, hbatches]

theorem step_line {event : Event ε} (hI : Serial s) (hok : s.oneThread event = true)
    (h : s.step event = some s') : Serial s' ∧ s'.line = s.line ++ queued [event] := by
  cases event with
  | configure batchSize maxQueueSize =>
    cases h
    exact ⟨hI, by simp [line, queued]⟩
  | start =>
    simp only [step] at h
    split at h
    · cases h
      exact ⟨hI, by simp [queued]⟩
    · rename_i hstopped
      cases h
      have hidle : s.idle = true := by simpa [oneThread, hstopped] using hok
      exact ⟨.snoc hidle rfl, by simp [line, queued]⟩
  | stop =>
    cases h
    exact ⟨hI, by simp [line, queued]⟩
  | log event severity =>
    simp only [step] at h
    split at h
    · cases h
      exact ⟨hI, by simp [line, queued]⟩
    · split at h
      · cases h
        exact ⟨hI, by simp [line, queued]⟩
      · cases h
        exact ⟨hI, by simp [line, queued]⟩
  | put event =>
    simp only [step] at h
    split at h
    · cases h
      exact ⟨hI, by simp [line, queued]⟩
    · cases h
  | alert event sent =>
    simp only [step] at h
    split at h
    · cases h
      exact ⟨hI, by simp [line, queued]⟩
    · cases h
  | flushNow =>
    cases h
    exact ⟨.snoc hok rfl, by simp [line, queued]⟩
  | turn k elapsed sent =>
    obtain ⟨c, hc, hturn⟩ := Option.bind_eq_some_iff.mp h
    obtain ⟨hlive, hcases⟩ := turn_cases hturn
    have hline := hcases.line hI hc hlive
    exact ⟨hline.1, by simpa [queued] using hline.2⟩

/-- When the threads that empty the queue do it one after the other: the batches hand the
events over in the order in which they were put, none left out, and what is not handed over
yet comes after them in that order. -/
theorem handed_in_order {es : List (Event ε)}
    (h : Run step (fun s event => s.oneThread event = true) {} es s) :
    queued es = s.batches.flatMap Prod.fst ++ s.threads.flatMap QueueThread.batch ++ s.queue := by
  have hI : Serial s ∧ s.line = queued es := by
    induction h with
    | nil => exact ⟨List.Pairwise.nil, rfl⟩
    | snoc _ hok hs ih =>
      obtain ⟨hserial, hline⟩ := step_line ih.1 hok hs
      exact ⟨hserial, by rw [hline, ih.2, queued_append]⟩
  exact hI.2.symm

theorem handed_in_order_two : ∃ s : AsyncHealingLogger Nat,
    s.batches = [([2, 1], .sent), ([3], .sent)] ∧ s.queue = [4] ∧
      queued [.configure 2 100, .log 1 .info, .log 2 .info, .put 2, .put 1, .start,
          .turn 0 false true, .turn 0 false true, .turn 0 false true, .turn 0 false true,
          .turn 0 false true, .turn 0 false true, .stop, .log 3 .info, .put 3,
          .turn 0 false true, .turn 0 false true, .turn 0 false true, .turn 0 false true,
          .turn 0 false true, .log 4 .info, .put 4, .start]
        = s.batches.flatMap Prod.fst ++ s.threads.flatMap QueueThread.batch ++ s.queue := by
  obtain ⟨s, hrun, hstate⟩ := Run.exists_of_execIf (by decide +kernel :
    (execIf step oneThread ({} : AsyncHealingLogger Nat)
      [.configure 2 100, .log 1 .info, .log 2 .info, .put 2, .put 1, .start,
        .turn 0 false true, .turn 0 false true, .turn 0 false true, .turn 0 false true,
        .turn 0 false true, .turn 0 false true, .stop, .log 3 .info, .put 3,
        .turn 0 false true, .turn 0 false true, .turn 0 false true, .turn 0 false true,
        .turn 0 false true, .log 4 .info, .put 4, .start]).any (fun s =>
          decide (s.batches = [([2, 1], .sent), ([3], .sent)] ∧ s.queue = [4])) = true)
  obtain ⟨hbatches, hqueue⟩ := of_decide_eq_true hstate
  exact ⟨s, hbatches, hqueue, handed_in_order hrun⟩

/-- A second worker that starts while the first one has an event in its hands overtakes it. -/
example : (exec step ({} : AsyncHealingLogger Nat)
    [.configure 2 100, .log 1 .info, .put 1, .start, .turn 0 false true, .turn 0 false true,
      .stop, .start, .log 2 .info, .put 2, .turn 1 false true, .turn 1 false true,
      .turn 1 true true, .turn 0 true true]).map (·.batches)
    = some [([2], .sent), ([1], .sent)] := by
  decide +kernel

end

end AsyncHealingLogger

end Shopping
