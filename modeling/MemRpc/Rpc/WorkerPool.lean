import MemRpc.Lib.Machine

/-!
# The worker loops of a thread pool

`ThreadPoolExecutor` with its `n` threads, one producer that submits and waits for capacity,
and one call of `Stop`. The queue holds at most `n` tasks. Workers that wait for a task and
the producer that waits for capacity block on one condition variable, and whoever removes a
task or adds one calls `notify_one`, which wakes any of them.

No wakeup is lost to the wrong waiter, because the two kinds never wait together: queued
tasks and blocked workers are at most `n` together, apart from a notification that the
producer owes (`WorkerPool.Inv.slack`), so with a full queue no worker is blocked.

A critical section of `mutex_` is one step, except that a worker keeps the mutex from the
removal of a task to its `notify_one`. Waits may end without a notification, and those of the
producer by their timeout. A task is the number of its `TrySubmit`.

## Main definitions

* `ThreadPool`: `ThreadPoolExecutor`, one critical section of its queue at a time.
* `WorkerPool`, `workerPool`: the pool with the points of its threads.

## Main results

* `WorkerPool.Inv.of_reach`, `queue_full_of_waiting`.
-/

namespace MemRpc

open Concurrency

/-- `ThreadPoolExecutor`, with the tasks that its workers are executing. -/
structure ThreadPool (α : Type) where
  threads : ℕ
  queueCapacity : ℕ
  running : Bool := true
  queue : List α := []
  executing : List α := []

namespace ThreadPool

variable {α : Type}

/-- The constructor. -/
def create (threadCount : UInt32) : ThreadPool α where
  threads := max 1 threadCount.toNat
  queueCapacity := max 1 threadCount.toNat

/-- `HasCapacity`. -/
def hasCapacity (p : ThreadPool α) : Bool := p.running && decide (p.queue.length < p.queueCapacity)

/-- `TrySubmit`. It accepts what `HasCapacity` announces. -/
def trySubmit (p : ThreadPool α) (task : α) : ThreadPool α :=
  if p.hasCapacity then { p with queue := p.queue ++ [task] } else p

/-- The predicate that `WaitForCapacity` waits for. -/
def capacityOrStopped (p : ThreadPool α) : Bool :=
  !p.running || decide (p.queue.length < p.queueCapacity)

/-- A worker that is not executing takes the front of the queue. -/
def takeTask (p : ThreadPool α) : Option (ThreadPool α) :=
  match p.queue with
  | [] => none
  | task :: rest =>
    if p.executing.length < p.threads then
      some { p with queue := rest, executing := p.executing ++ [task] }
    else none

/-- A task returns to its worker. -/
def finishTask (p : ThreadPool α) (i : ℕ) : Option (ThreadPool α) :=
  if i < p.executing.length then some { p with executing := p.executing.eraseIdx i } else none

/-- `Stop`. -/
def stop (p : ThreadPool α) : ThreadPool α := { p with running := false }

end ThreadPool

/-- The points of `WorkerLoop`. -/
inductive PoolWorkerPc
  -- about to lock `mutex_` and to look at the queue
  | checking
  -- blocked on `cv_` and not notified
  | waiting
  -- holds `mutex_` and has removed the task
  | notifying (task : ℕ)
  | starting (task : ℕ)
  | executing (task : ℕ)
  | exited
  deriving DecidableEq, Repr

/-- The points of the producer in `TrySubmit` and `WaitForCapacity`. -/
inductive PoolProducerPc
  | idle
  | submitting (task : ℕ)
  | notifying
  | checking
  | waiting
  deriving DecidableEq, Repr

/-- The points of `Stop`. -/
inductive PoolStopPc
  | outside
  | entering
  | notifying
  | joining
  | returned
  deriving DecidableEq, Repr

/-- Who can be blocked on `cv_`. -/
inductive PoolWaiter (n : ℕ)
  | producer
  | worker (i : Fin n)
  deriving DecidableEq, Repr

/-- A `ThreadPoolExecutor` with `n` threads, which is also its `queueCapacity_`. -/
structure WorkerPool (n : ℕ) where
  running : Bool := true
  queue : List ℕ := []
  /-- The worker that holds `mutex_` between two steps. -/
  holder : Option (Fin n) := none
  producer : PoolProducerPc := .idle
  worker : Fin n → PoolWorkerPc := fun _ => .checking
  stopper : PoolStopPc := .outside
  /-- `HasCapacity` has returned true since the last `TrySubmit`. -/
  capacitySeen : Bool := false
  /-- The calls of `TrySubmit` so far. -/
  calls : ℕ := 0
  accepted : List ℕ := []
  rejected : List ℕ := []
  /-- The tasks in the order in which they were removed from the queue. -/
  taken : List ℕ := []
  /-- The tasks in the order in which their execution began. -/
  started : List ℕ := []
  /-- The tasks in the order in which they returned. -/
  executed : List ℕ := []

namespace WorkerPool

variable {n : ℕ}

def setWorker (s : WorkerPool n) (i : Fin n) (pc : PoolWorkerPc) : WorkerPool n :=
  { s with worker := Function.update s.worker i pc }

/-- The workers that are blocked on `cv_`. -/
def waiting (s : WorkerPool n) : Finset (Fin n) := {i | s.worker i = .waiting}

/-- `HasCapacity`, and the condition of `TrySubmit`. -/
def hasCapacity (s : WorkerPool n) : Bool := s.running && decide (s.queue.length < n)

/-- `notify_one` wakes one of the waiters, if there are any. -/
def notifyOne (s : WorkerPool n) : Option (PoolWaiter n) → Option (WorkerPool n)
  | none => if s.producer = .waiting ∨ s.waiting.Nonempty then none else some s
  | some .producer =>
    if s.producer = .waiting then some { s with producer := .checking } else none
  | some (.worker i) => if s.worker i = .waiting then some (s.setWorker i .checking) else none

/-- The next step of a worker. -/
def workerStep (s : WorkerPool n) (i : Fin n) (target : Option (PoolWaiter n)) :
    Option (WorkerPool n) :=
  match s.worker i with
  | .checking =>
    if s.holder ≠ none then none
    else
      match s.queue with
      | task :: queue =>
        some { s.setWorker i (.notifying task) with
          queue, holder := some i, taken := s.taken ++ [task] }
      | [] => some (s.setWorker i (if s.running then .waiting else .exited))
  | .waiting | .exited => none
  | .notifying task =>
    (s.notifyOne target).map fun s' => { s'.setWorker i (.starting task) with holder := none }
  | .starting task =>
    some { s.setWorker i (.executing task) with started := s.started ++ [task] }
  | .executing task =>
    some { s.setWorker i .checking with executed := s.executed ++ [task] }

/-- The critical section of `TrySubmit`: what it returns, and the pool after it. -/
def trySubmit (s : WorkerPool n) (task : ℕ) : Bool × WorkerPool n :=
  if s.hasCapacity then
    (true, { s with
      queue := s.queue ++ [task], accepted := s.accepted ++ [task], capacitySeen := false })
  else (false, { s with rejected := s.rejected ++ [task], capacitySeen := false })

/-- The next step of the producer. -/
def producerStep (s : WorkerPool n) (target : Option (PoolWaiter n)) : Option (WorkerPool n) :=
  match s.producer with
  | .idle | .waiting => none
  | .submitting task =>
    if s.holder ≠ none then none
    else some { (s.trySubmit task).2 with
      producer := if (s.trySubmit task).1 then .notifying else .idle }
  | .notifying => (s.notifyOne target).map fun s' => { s' with producer := .idle }
  -- the predicate of `WaitForCapacity`
  | .checking =>
    if s.holder ≠ none then none
    else
      some { s with
        producer := if s.running = false ∨ s.queue.length < n then .idle else .waiting }

/-- `TrySubmit` is called. A null function is refused before the mutex is locked. -/
def callTrySubmit (s : WorkerPool n) (null : Bool) : Option (WorkerPool n) :=
  if s.producer ≠ .idle then none
  else if null then some { s with calls := s.calls + 1, rejected := s.rejected ++ [s.calls] }
  else some { s with calls := s.calls + 1, producer := .submitting s.calls }

/-- The waits that end by themselves check their predicate again. -/
def wakeWorker (s : WorkerPool n) (i : Fin n) : Option (WorkerPool n) :=
  if s.worker i = .waiting then some (s.setWorker i .checking) else none

/-- `notify_all`. -/
def notifyAll (s : WorkerPool n) : WorkerPool n :=
  { s with
    producer := if s.producer = .waiting then .checking else s.producer
    worker := fun i => if s.worker i = .waiting then .checking else s.worker i }

/-- The next step of `Stop`. -/
def stopStep (s : WorkerPool n) : Option (WorkerPool n) :=
  match s.stopper with
  | .outside | .returned => none
  | .entering =>
    if s.holder ≠ none then none
    else if s.running then some { s with running := false, stopper := .notifying }
    else some { s with stopper := .returned }
  | .notifying => some { s.notifyAll with stopper := .joining }
  | .joining => if ∀ i, s.worker i = .exited then some { s with stopper := .returned } else none

end WorkerPool

/-- Who moves, and whom a `notify_one` wakes. -/
inductive WorkerPoolAction (n : ℕ)
  | trySubmit (null : Bool)
  | hasCapacity
  | waitForCapacity
  | producer (target : Option (PoolWaiter n))
  /-- The producer wakes without a notification. -/
  | wakeProducer
  /-- The timeout of `WaitForCapacity` is over. -/
  | timeout
  | worker (i : Fin n) (target : Option (PoolWaiter n))
  | wakeWorker (i : Fin n)
  | callStop
  | stop

/-- All interleavings of a producer, `n` workers and one call of `Stop`. -/
def workerPool (n : ℕ) : Machine (WorkerPool n) (WorkerPoolAction n) where
  init := {}
  step s
    | .trySubmit null => s.callTrySubmit null
    | .hasCapacity =>
      if s.producer = .idle ∧ s.holder = none then some { s with capacitySeen := s.hasCapacity }
      else none
    | .waitForCapacity =>
      if s.producer = .idle then some { s with producer := .checking } else none
    | .producer target => s.producerStep target
    | .wakeProducer =>
      if s.producer = .waiting then some { s with producer := .checking } else none
    | .timeout =>
      if s.producer = .waiting ∧ s.holder = none then some { s with producer := .idle } else none
    | .worker i target => s.workerStep i target
    | .wakeWorker i => s.wakeWorker i
    | .callStop =>
      if s.stopper = .outside then some { s with stopper := .entering } else none
    | .stop => s.stopStep

namespace WorkerPool

variable {n : ℕ} {s s' : WorkerPool n} {i : Fin n} {pc : PoolWorkerPc} {task : ℕ}

/-! ## What a step does -/

/-- What `notify_one` does. -/
inductive Notified (s : WorkerPool n) : WorkerPool n → Prop
  | nobody (hproducer : s.producer ≠ .waiting) (hworkers : s.waiting = ∅) : Notified s s
  | producer (h : s.producer = .waiting) : Notified s { s with producer := .checking }
  | worker {i : Fin n} (h : s.worker i = .waiting) : Notified s (s.setWorker i .checking)

variable {target : Option (PoolWaiter n)}

theorem Notified.of_notifyOne (h : s.notifyOne target = some s') :
    Notified s s' := by
  cases target with
  | none =>
    simp only [notifyOne, Option.ite_none_left_eq_some, not_or,
      Finset.not_nonempty_iff_eq_empty] at h
    obtain ⟨⟨hproducer, hworkers⟩, heq⟩ := h
    cases heq
    exact .nobody hproducer hworkers
  | some target =>
    cases target with
    | producer =>
      obtain ⟨hproducer, heq⟩ := Option.ite_none_right_eq_some.mp h
      cases heq
      exact .producer hproducer
    | worker i =>
      obtain ⟨hworker, heq⟩ := Option.ite_none_right_eq_some.mp h
      cases heq
      exact .worker hworker

/-- A step of the machine. -/
inductive Move (s : WorkerPool n) : WorkerPool n → Prop
  | submitNull (hpc : s.producer = .idle) :
      Move s { s with calls := s.calls + 1, rejected := s.rejected ++ [s.calls] }
  | submit (hpc : s.producer = .idle) :
      Move s { s with calls := s.calls + 1, producer := .submitting s.calls }
  | capacity (hpc : s.producer = .idle) : Move s { s with capacitySeen := s.hasCapacity }
  | waitForCapacity (hpc : s.producer = .idle) : Move s { s with producer := .checking }
  | accepted {task : ℕ} (hpc : s.producer = .submitting task) (hfree : s.holder = none)
      (hcapacity : s.hasCapacity = true) :
      Move s { s with
        queue := s.queue ++ [task], accepted := s.accepted ++ [task], capacitySeen := false
        producer := .notifying }
  | rejected {task : ℕ} (hpc : s.producer = .submitting task) (hfree : s.holder = none)
      (hcapacity : s.hasCapacity = false) :
      Move s { s with
        rejected := s.rejected ++ [task], capacitySeen := false, producer := .idle }
  | submitted {s₁ : WorkerPool n} (hpc : s.producer = .notifying) (h : Notified s s₁) :
      Move s { s₁ with producer := .idle }
  | capacityFound (hpc : s.producer = .checking) : Move s { s with producer := .idle }
  | block (hpc : s.producer = .checking) (hfree : s.holder = none) (hrunning : s.running = true)
      (hfull : n ≤ s.queue.length) : Move s { s with producer := .waiting }
  | wakeProducer (hpc : s.producer = .waiting) : Move s { s with producer := .checking }
  | timeout (hpc : s.producer = .waiting) : Move s { s with producer := .idle }
  | take {i : Fin n} {task : ℕ} {queue : List ℕ} (hpc : s.worker i = .checking)
      (hfree : s.holder = none) (hqueue : s.queue = task :: queue) :
      Move s { s.setWorker i (.notifying task) with
        queue, holder := some i, taken := s.taken ++ [task] }
  | blockWorker {i : Fin n} (hpc : s.worker i = .checking) (hfree : s.holder = none)
      (hqueue : s.queue = []) (hrunning : s.running = true) : Move s (s.setWorker i .waiting)
  | exit {i : Fin n} (hpc : s.worker i = .checking) (hqueue : s.queue = [])
      (hrunning : s.running = false) : Move s (s.setWorker i .exited)
  | notified {i : Fin n} {task : ℕ} {s₁ : WorkerPool n} (hpc : s.worker i = .notifying task)
      (h : Notified s s₁) : Move s { s₁.setWorker i (.starting task) with holder := none }
  | start {i : Fin n} {task : ℕ} (hpc : s.worker i = .starting task) :
      Move s { s.setWorker i (.executing task) with started := s.started ++ [task] }
  | finish {i : Fin n} {task : ℕ} (hpc : s.worker i = .executing task) :
      Move s { s.setWorker i .checking with executed := s.executed ++ [task] }
  | wakeWorker {i : Fin n} (hpc : s.worker i = .waiting) : Move s (s.setWorker i .checking)
  | callStop (hpc : s.stopper = .outside) : Move s { s with stopper := .entering }
  | stop (hpc : s.stopper = .entering) (hrunning : s.running = true) :
      Move s { s with running := false, stopper := .notifying }
  | stopAgain (hpc : s.stopper = .entering) (hrunning : s.running = false) :
      Move s { s with stopper := .returned }
  | notifyAll (hpc : s.stopper = .notifying) : Move s { s.notifyAll with stopper := .joining }
  | joined (hpc : s.stopper = .joining) (hexited : ∀ i, s.worker i = .exited) :
      Move s { s with stopper := .returned }

theorem Move.of_workerStep (h : s.workerStep i target = some s') : Move s s' := by
  unfold workerStep at h
  split at h
  · rename_i hpc
    obtain ⟨hfree, h⟩ := Option.ite_none_left_eq_some.mp h
    have hfree := not_not.mp hfree
    split at h
    · rename_i task queue hqueue
      cases h
      exact .take hpc hfree hqueue
    · rename_i hqueue
      cases h
      cases hrunning : s.running with
      | true => exact .blockWorker hpc hfree hqueue hrunning
      | false => exact .exit hpc hqueue hrunning
  · cases h
  · cases h
  · rename_i task hpc
    obtain ⟨s₁, hs₁, rfl⟩ := Option.map_eq_some_iff.mp h
    exact .notified hpc (.of_notifyOne hs₁)
  · rename_i task hpc
    cases h
    exact .start hpc
  · rename_i task hpc
    cases h
    exact .finish hpc

theorem Move.of_producerStep (h : s.producerStep target = some s') : Move s s' := by
  unfold producerStep at h
  split at h
  · cases h
  · cases h
  · rename_i task hpc
    obtain ⟨hfree, h⟩ := Option.ite_none_left_eq_some.mp h
    have hfree := not_not.mp hfree
    cases h
    unfold trySubmit
    split
    · rename_i hcapacity
      exact .accepted hpc hfree hcapacity
    · rename_i hcapacity
      exact .rejected hpc hfree (Bool.eq_false_of_not_eq_true hcapacity)
  · rename_i hpc
    obtain ⟨s₁, hs₁, rfl⟩ := Option.map_eq_some_iff.mp h
    exact .submitted hpc (.of_notifyOne hs₁)
  · rename_i hpc
    obtain ⟨hfree, h⟩ := Option.ite_none_left_eq_some.mp h
    have hfree := not_not.mp hfree
    cases h
    split
    · exact .capacityFound hpc
    · rename_i hfull
      rw [not_or, Bool.not_eq_false, not_lt] at hfull
      exact .block hpc hfree hfull.1 hfull.2

theorem Move.of_stopStep (h : s.stopStep = some s') : Move s s' := by
  unfold stopStep at h
  split at h
  · cases h
  · cases h
  · rename_i hpc
    obtain ⟨-, h⟩ := Option.ite_none_left_eq_some.mp h
    split at h
    · rename_i hrunning
      cases h
      exact .stop hpc hrunning
    · rename_i hrunning
      cases h
      exact .stopAgain hpc (Bool.eq_false_of_not_eq_true hrunning)
  · rename_i hpc
    cases h
    exact .notifyAll hpc
  · rename_i hpc
    obtain ⟨hexited, h⟩ := Option.ite_none_right_eq_some.mp h
    cases h
    exact .joined hpc hexited

theorem Move.of_step {a : WorkerPoolAction n} (h : (workerPool n).step s a = some s') :
    Move s s' := by
  cases a with
  | trySubmit null =>
    obtain ⟨hpc, h⟩ := Option.ite_none_left_eq_some.mp h
    have hpc := not_not.mp hpc
    cases null <;> cases h
    · exact .submit hpc
    · exact .submitNull hpc
  | hasCapacity =>
    obtain ⟨⟨hpc, -⟩, h⟩ := Option.ite_none_right_eq_some.mp h
    cases h
    exact .capacity hpc
  | waitForCapacity =>
    obtain ⟨hpc, h⟩ := Option.ite_none_right_eq_some.mp h
    cases h
    exact .waitForCapacity hpc
  | producer target => exact .of_producerStep h
  | wakeProducer =>
    obtain ⟨hpc, h⟩ := Option.ite_none_right_eq_some.mp h
    cases h
    exact .wakeProducer hpc
  | timeout =>
    obtain ⟨⟨hpc, -⟩, h⟩ := Option.ite_none_right_eq_some.mp h
    cases h
    exact .timeout hpc
  | worker i target => exact .of_workerStep h
  | wakeWorker i =>
    obtain ⟨hpc, h⟩ := Option.ite_none_right_eq_some.mp h
    cases h
    exact .wakeWorker hpc
  | callStop =>
    obtain ⟨hpc, h⟩ := Option.ite_none_right_eq_some.mp h
    cases h
    exact .callStop hpc
  | stop => exact .of_stopStep h

/-! ## Waiters -/

@[simp] theorem worker_setWorker_self : (s.setWorker i pc).worker i = pc := Function.update_self ..

theorem worker_setWorker_of_ne {j : Fin n} (h : j ≠ i) :
    (s.setWorker i pc).worker j = s.worker j := Function.update_of_ne h ..

theorem mem_waiting {j : Fin n} : j ∈ s.waiting ↔ s.worker j = .waiting := by
  simp [waiting]

/-- A worker that is set to another point is not blocked, and the others are as before. -/
theorem waiting_setWorker (hpc : pc ≠ .waiting) :
    (s.setWorker i pc).waiting = s.waiting.erase i := by
  ext j
  rw [Finset.mem_erase, mem_waiting, mem_waiting]
  by_cases hj : j = i
  · subst hj
    simp [hpc]
  · simp [worker_setWorker_of_ne hj, hj]

theorem card_waiting_setWorker_le (hpc : pc ≠ .waiting) :
    (s.setWorker i pc).waiting.card ≤ s.waiting.card := by
  rw [waiting_setWorker hpc]
  exact Finset.card_erase_le

theorem card_waiting_le (s : WorkerPool n) : s.waiting.card ≤ n :=
  (Finset.card_le_univ _).trans (Fintype.card_fin n).le

/-- The `mutex_`, the queue and the waiters. -/
structure Inv (s : WorkerPool n) : Prop where
  holds : ∀ i task, s.worker i = .notifying task → s.holder = some i
  full : s.queue.length ≤ n
  /-- Queued tasks and blocked workers are at most `n`, apart from a notification owed. -/
  slack : s.queue.length + s.waiting.card ≤ n + if s.producer = .notifying then 1 else 0
  /-- Where the producer is blocked, no worker is, and the queue is full unless a worker has
  just removed a task. -/
  blocked : s.producer = .waiting → s.running = true →
    s.waiting = ∅ ∧ (s.queue.length = n ∨ ∃ i task, s.worker i = .notifying task)

namespace Inv

theorem slack_of_ne (h : Inv s) (hpc : s.producer ≠ .notifying) :
    s.queue.length + s.waiting.card ≤ n := by
  have hslack := h.slack
  rwa [if_neg hpc] at hslack

/-- A worker without the mutex goes to a point where it is not blocked. -/
theorem setWorker (h : Inv s) (hold : ∀ task, s.worker i ≠ .notifying task)
    (hnotifying : ∀ task, pc ≠ .notifying task) (hwaiting : pc ≠ .waiting) :
    Inv (s.setWorker i pc) where
  holds j task hj := by
    by_cases hji : j = i
    · subst hji
      rw [worker_setWorker_self] at hj
      exact absurd hj (hnotifying task)
    · rw [worker_setWorker_of_ne hji] at hj
      exact h.holds j task hj
  full := h.full
  slack := (Nat.add_le_add_left (card_waiting_setWorker_le hwaiting) _).trans h.slack
  blocked hpc hrunning := by
    obtain ⟨hnone, hqueue⟩ := h.blocked hpc hrunning
    refine ⟨by rw [waiting_setWorker hwaiting, hnone, Finset.erase_empty], hqueue.imp_right ?_⟩
    rintro ⟨j, task, hj⟩
    have hji : j ≠ i := by
      rintro rfl
      exact hold task hj
    exact ⟨j, task, by rwa [worker_setWorker_of_ne hji]⟩

/-- After a notification the producer owes none, and a removed task is accounted for. -/
theorem notified (h : Inv s) (hn : Notified s s') :
    s'.queue.length + s'.waiting.card ≤ n ∧ (s'.producer = .waiting → s'.running ≠ true) ∧
      s'.queue = s.queue ∧ s'.holder = s.holder ∧
      ∀ j task, s'.worker j = .notifying task → s.worker j = .notifying task := by
  cases hn with
  | nobody hproducer hworkers =>
    refine ⟨?_, fun hpc => absurd hpc hproducer, rfl, rfl, fun _ _ => id⟩
    rw [hworkers, Finset.card_empty]
    exact h.full
  | producer hproducer =>
    have hslack := h.slack
    rw [if_neg (by rw [hproducer]; exact PoolProducerPc.noConfusion)] at hslack
    exact ⟨hslack, fun hpc => PoolProducerPc.noConfusion hpc, rfl, rfl, fun _ _ => id⟩
  | @worker i hworker =>
    have hmem : i ∈ s.waiting := mem_waiting.mpr hworker
    refine ⟨?_, fun hpc hrunning => ?_, rfl, rfl, fun j task hj => ?_⟩
    · have hcard : (s.setWorker i .checking).waiting.card + 1 = s.waiting.card := by
        rw [waiting_setWorker PoolWorkerPc.noConfusion, Finset.card_erase_add_one hmem]
      have hslack := h.slack
      have hqueue : (s.setWorker i .checking).queue = s.queue := rfl
      rw [hqueue]
      split at hslack <;> omega
    · -- a blocked worker is found only where the producer is not
      rw [(h.blocked hpc hrunning).1] at hmem
      exact absurd hmem (Finset.notMem_empty i)
    · by_cases hji : j = i
      · subst hji
        rw [worker_setWorker_self] at hj
        exact PoolWorkerPc.noConfusion hj
      · rwa [worker_setWorker_of_ne hji] at hj

theorem take (h : Inv s) {queue : List ℕ} (hfree : s.holder = none)
    (hqueue : s.queue = task :: queue) :
    Inv { s.setWorker i (.notifying task) with
      queue, holder := some i, taken := s.taken ++ [task] } where
  holds j task' hj := by
    by_cases hji : j = i
    · exact congrArg some hji.symm
    · change (s.setWorker i _).worker j = _ at hj
      rw [worker_setWorker_of_ne hji] at hj
      exact absurd (h.holds j task' hj) (by simp [hfree])
  full := by
    have hfull := h.full
    rw [hqueue, List.length_cons] at hfull
    dsimp only
    omega
  slack := by
    have hslack := h.slack
    have hcard : (s.setWorker i (.notifying task)).waiting.card ≤ s.waiting.card :=
      card_waiting_setWorker_le PoolWorkerPc.noConfusion
    rw [hqueue, List.length_cons] at hslack
    change queue.length + (s.setWorker i (.notifying task)).waiting.card ≤
      n + if s.producer = .notifying then 1 else 0
    omega
  blocked hproducer hrunning := by
    obtain ⟨hnone, -⟩ := h.blocked hproducer hrunning
    constructor
    · change (s.setWorker i (.notifying task)).waiting = ∅
      rw [waiting_setWorker PoolWorkerPc.noConfusion, hnone, Finset.erase_empty]
    · exact .inr ⟨i, task, Function.update_self ..⟩

theorem blockWorker (h : Inv s) (hfree : s.holder = none) (hqueue : s.queue = [])
    (hrunning : s.running = true) : Inv (s.setWorker i .waiting) where
  holds j task hj := by
    by_cases hji : j = i
    · subst hji
      rw [worker_setWorker_self] at hj
      exact PoolWorkerPc.noConfusion hj
    · rw [worker_setWorker_of_ne hji] at hj
      exact h.holds j task hj
  full := h.full
  slack := by
    have hcard := card_waiting_le (s.setWorker i .waiting)
    have hempty : (s.setWorker i .waiting).queue = [] := hqueue
    rw [hempty, List.length_nil]
    omega
  blocked hproducer _ := by
    -- the queue is empty, so with a blocked producer there would be no worker at all
    obtain ⟨-, hlength | ⟨j, task, hj⟩⟩ := h.blocked hproducer hrunning
    · rw [hqueue, List.length_nil] at hlength
      subst hlength
      exact i.elim0
    · exact absurd (h.holds j task hj) (by simp [hfree])

theorem step (h : Inv s) (hm : Move s s') : Inv s' := by
  cases hm with
  | submitNull hpc | capacity hpc | callStop hpc | stopAgain hpc hrunning | joined hpc hexited =>
    exact { h with }
  | submit hpc | waitForCapacity hpc | capacityFound hpc | wakeProducer hpc | timeout hpc
  | rejected hpc hfree hcapacity =>
    have hslack := h.slack_of_ne (by simp [hpc])
    exact ⟨h.holds, h.full, hslack.trans (Nat.le_add_right _ _), fun hpc' => by cases hpc'⟩
  | @accepted task hpc hfree hcapacity =>
    have hlength : s.queue.length < n := by
      simp only [hasCapacity, Bool.and_eq_true, decide_eq_true_eq] at hcapacity
      exact hcapacity.2
    have hslack := h.slack_of_ne (by simp [hpc])
    refine ⟨h.holds, ?_, ?_, fun hpc' => by cases hpc'⟩
    · simpa using hlength
    · change (s.queue ++ [task]).length + s.waiting.card ≤ n + 1
      rw [List.length_append, List.length_singleton]
      omega
  | submitted hpc hn =>
    obtain ⟨hslack, -, hqueue, hholder, hworkers⟩ := h.notified hn
    refine ⟨fun j task hj => ?_, hqueue ▸ h.full, hslack.trans (Nat.le_add_right _ _),
      fun hpc' => by cases hpc'⟩
    exact hholder.trans (h.holds j task (hworkers j task hj))
  | block hpc hfree hrunning hfull =>
    have hslack := h.slack_of_ne (by simp [hpc])
    have hnone : s.waiting = ∅ := Finset.card_eq_zero.mp (by omega)
    exact ⟨h.holds, h.full, hslack.trans (Nat.le_add_right _ _),
      fun _ _ => ⟨hnone, .inl (le_antisymm h.full hfull)⟩⟩
  | take hpc hfree hqueue => exact h.take hfree hqueue
  | blockWorker hpc hfree hqueue hrunning => exact h.blockWorker hfree hqueue hrunning
  | exit hpc hqueue hrunning | wakeWorker hpc =>
    exact h.setWorker (by simp [hpc]) (by simp) (by simp)
  | @start i task hpc =>
    have h' : Inv (s.setWorker i (.executing task)) :=
      h.setWorker (by simp [hpc]) (by simp) (by simp)
    exact { h' with }
  | @finish i task hpc =>
    have h' : Inv (s.setWorker i .checking) := h.setWorker (by simp [hpc]) (by simp) (by simp)
    exact { h' with }
  | @notified i task s₁ hpc hn =>
    obtain ⟨hslack, hblocked, hqueue, hholder, hworkers⟩ := h.notified hn
    have hcard : (s₁.setWorker i (.starting task)).waiting.card ≤ s₁.waiting.card :=
      card_waiting_setWorker_le (by simp)
    refine ⟨fun j task' hj => ?_, hqueue ▸ h.full,
      ((Nat.add_le_add_left hcard _).trans hslack).trans (Nat.le_add_right _ _),
      fun hpc' hrunning => absurd hrunning (hblocked hpc')⟩
    -- the worker that notified was the only one with the mutex
    change (s₁.setWorker i _).worker j = _ at hj
    by_cases hji : j = i
    · subst hji
      rw [worker_setWorker_self] at hj
      cases hj
    · rw [worker_setWorker_of_ne hji] at hj
      have hj' := h.holds j task' (hworkers j task' hj)
      rw [h.holds i task hpc] at hj'
      exact absurd (Option.some.inj hj').symm hji
  | stop hpc hrunning =>
    exact { h with blocked := fun _ hrunning' => by cases hrunning' }
  | notifyAll hpc =>
    have hworker : ∀ j pc, pc ≠ .checking → s.notifyAll.worker j = pc → s.worker j = pc := by
      intro j pc hpc hj
      simp only [notifyAll] at hj
      split at hj
      · exact absurd hj.symm hpc
      · exact hj
    have hwaiting : s.notifyAll.waiting = ∅ := by
      ext j
      simp only [mem_waiting, notifyAll, Finset.notMem_empty, iff_false]
      split <;> simp_all
    have hproducer : s.notifyAll.producer ≠ .waiting := by
      simp only [notifyAll]
      split <;> simp_all
    refine ⟨fun j task hj => h.holds j task (hworker j _ (by simp) hj), h.full, ?_,
      fun hpc => absurd hpc hproducer⟩
    change s.queue.length + s.notifyAll.waiting.card ≤ _
    rw [hwaiting, Finset.card_empty]
    exact h.full.trans (Nat.le_add_right _ _)

theorem of_reach (h : (workerPool n).Reach Machine.Always s) : Inv s := by
  refine Machine.Reach.invariant ⟨?_, ?_, ?_, ?_⟩
    (fun s a s' hinv _ hs => hinv.step (.of_step hs)) h
  · intro i task hi
    cases hi
  · exact Nat.zero_le n
  · exact (Nat.zero_add _).le.trans ((card_waiting_le _).trans (Nat.le_add_right _ _))
  · intro hpc
    cases hpc

end Inv

end WorkerPool

/-- Where the producer is blocked in `WaitForCapacity` and not notified, the executor is
running and no worker is between the removal of a task and its `notify_one`, the queue is
full. -/
theorem queue_full_of_waiting {n : ℕ} {s : WorkerPool n}
    (h : (workerPool n).Reach Machine.Always s) (hwaiting : s.producer = .waiting)
    (hrunning : s.running = true) (hnotified : ∀ i task, s.worker i ≠ .notifying task) :
    s.queue.length = n := by
  obtain ⟨-, hfull | ⟨i, task, hi⟩⟩ := (WorkerPool.Inv.of_reach h).blocked hwaiting hrunning
  · exact hfull
  · exact absurd hi (hnotified i task)

/-- A worker blocks and is notified of the first task; the second task fills the queue, and the
producer blocks. -/
def blockedProducerRun (i : Fin 2) : List (WorkerPoolAction 2) :=
  [.worker i none, .trySubmit false, .producer none, .producer (some (.worker i)),
    .trySubmit false, .producer none, .producer none, .waitForCapacity, .producer none]

theorem queue_full_blockedProducer :
    ∃ s : WorkerPool 2, s.producer = .waiting ∧ s.running = true ∧
      (∀ i task, s.worker i ≠ .notifying task) ∧ s.queue.length = 2 := by
  obtain ⟨s, hs, hpc, hrunning, hworkers⟩ := Machine.exists_of_any
    (o := (workerPool 2).run (workerPool 2).init (blockedProducerRun 0))
    (P := fun s => s.producer = .waiting ∧ s.running = true ∧ ∀ i, s.worker i = .checking)
    (by decide +kernel)
  have hnotified : ∀ i task, s.worker i ≠ .notifying task := by
    intro i task
    rw [hworkers i]
    exact PoolWorkerPc.noConfusion
  exact ⟨s, hpc, hrunning, hnotified,
    queue_full_of_waiting (Machine.reach_of_run _ hs) hpc hrunning hnotified⟩

end MemRpc
