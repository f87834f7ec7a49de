import MemRpc.Rpc.DispatcherLoop
import MemRpc.Rpc.WorkerPool

/-!
# The executors and the wait for their capacity

Each priority has a `ThreadPoolExecutor` of its own, so that normal requests do not slow
high ones down. One dispatcher feeds both. `HandleBackloggedQueues` makes it wait in
`WaitForCapacity` of an executor whose ring holds requests and whose queue is full, and
while it waits there it serves no other ring.

The two answers that send it to the normal executor are taken once, before the wait. A
high request that is pushed after the dispatcher's last look at the high ring is not seen
until the wait ends, although its own executor is idle. `drainedHigh` and `passedHigh`
name the points between that look and the end of the wait; a high ring that stays as it
was found there is never kept waiting.

A look at a ring count and at the capacity of its executor is one step here. Only the
dispatcher pops, so an answer that mixes two moments is the answer of the second one.

## Main definitions

* `BacklogLoop`: `DispatchLoop` with its executors and the points of `WaitForCapacity`.
* `backlogLoop`: the machine.
-/

namespace MemRpc

open Concurrency

/-- Where the dispatcher is with respect to `WaitForCapacity`: about to lock the mutex of
an executor, or blocked on its condition variable. -/
inductive CapacityWait
  | outside
  | entering (q : Priority)
  | blocked (q : Priority)
  deriving DecidableEq, Repr

/-- A session with its client, and the dispatcher and the executors of its server. -/
structure BacklogLoop where
  dispatch : DispatchLoop
  pool : Priority → ThreadPool PendingSubmit
  wait : CapacityWait := .outside
  running : Bool := true
  /-- `DispatcherLoop` has returned. -/
  exited : Bool := false

namespace BacklogLoop

/-- The executor that the next step of the dispatcher asks, if it asks one. -/
def asked (s : BacklogLoop) : Priority :=
  match s.dispatch.session.dispatcher, s.dispatch.loop with
  | .draining q _, _ | .submitting q _ _, _ => q
  | _, .backlogHigh => .high
  | _, _ => .normal

/-- The executors after the next step of the dispatcher: `DrainQueue` submits what it has
popped. -/
def submitted (s : BacklogLoop) : Priority → ThreadPool PendingSubmit :=
  match s.dispatch.session.dispatcher with
  | .submitting q _ task => Function.update s.pool q ((s.pool q).trySubmit task)
  | _ => s.pool

/-- What `HandleBackloggedQueues` does with its two answers. -/
def backlogWait (s : BacklogLoop) : CapacityWait :=
  match s.dispatch.loop with
  | .backlogNormal highBacklogged =>
    if highBacklogged then .entering .high
    else if s.dispatch.pending .normal && !(s.pool .normal).hasCapacity then .entering .normal
    else .outside
  | _ => .outside

/-- The next step of the dispatcher, if it is not blocked. -/
def dispatcherStep (s : BacklogLoop) : Option BacklogLoop :=
  match s.wait with
  | .entering q =>
    some { s with wait := if (s.pool q).capacityOrStopped then .outside else .blocked q }
  | .blocked q => if (s.pool q).capacityOrStopped then some { s with wait := .outside } else none
  | .outside =>
    if s.exited then none
    else if s.dispatch.loop = .top ∧ s.running = false then some { s with exited := true }
    else (s.dispatch.loopStep (s.pool s.asked).hasCapacity).map fun d =>
      { s with dispatch := d, pool := s.submitted, wait := s.backlogWait }

/-- The 100 ms of `WaitForCapacity` or of `poll` are over. -/
def timeout (s : BacklogLoop) : Option BacklogLoop :=
  match s.wait with
  | .blocked _ => some { s with wait := .outside }
  | .entering _ => none
  | .outside => s.dispatch.pollTimeout.map fun d => { s with dispatch := d }

end BacklogLoop

/-- Who moves. -/
inductive BacklogAction
  | push (r : PendingSubmit)
  | client
  | dispatcher
  | timeout
  | worker (q : Priority)
  | finish (q : Priority) (i : ℕ)
  /-- The next step of `MarkSessionBroken`. -/
  | markBroken
  /-- `Stop` clears `running`. -/
  | stop
  /-- `Stop` stops an executor, after it has joined the dispatcher. -/
  | stopPool (q : Priority)

/-- All interleavings of a submit thread, a dispatcher, the workers of both executors, a
thread in `MarkSessionBroken` and `Stop`. -/
def backlogLoop (caps : Priority → RingCapacity) (m : ℕ → PendingSubmit)
    (workerThreads : Priority → UInt32) : Machine BacklogLoop BacklogAction where
  init :=
    { dispatch := { session := RequestSession.create caps m }
      pool := fun q => ThreadPool.create (workerThreads q) }
  step s
    | .push r =>
      match s.dispatch.client with
      | .idle => some { s with dispatch := { s.dispatch with client := .checking r } }
      | _ => none
    | .client => s.dispatch.clientStep.map fun d => { s with dispatch := d }
    | .dispatcher => s.dispatcherStep
    | .timeout => s.timeout
    | .worker q => (s.pool q).takeTask.map fun p => { s with pool := Function.update s.pool q p }
    | .finish q i =>
      ((s.pool q).finishTask i).map fun p => { s with pool := Function.update s.pool q p }
    | .markBroken =>
      some { s with dispatch := { s.dispatch with session := s.dispatch.session.breakStep } }
    | .stop => some { s with running := false }
    | .stopPool q =>
      if s.exited then some { s with pool := Function.update s.pool q (s.pool q).stop } else none

/-! ## The property -/

namespace BacklogLoop

/-- The high request ring holds no entry. -/
def HighEmpty (s : BacklogLoop) : Prop :=
  (s.dispatch.session.ring .high).cursor.tail = (s.dispatch.session.ring .high).cursor.head

instance (s : BacklogLoop) : Decidable s.HighEmpty := inferInstanceAs (Decidable (_ = _))

/-- The dispatcher is blocked for the normal executor while it could dispatch a high
request. -/
def NormalBlocksHigh (s : BacklogLoop) : Prop :=
  s.wait = .blocked .normal ∧ ¬ s.HighEmpty ∧ (s.pool .high).hasCapacity = true

instance (s : BacklogLoop) : Decidable s.NormalBlocksHigh := inferInstanceAs (Decidable (_ ∧ _))

/-! ## The points between the last look at the high ring and the end of the wait -/

/-- `DrainQueue` on the high ring has found what ends it, and `HandleBackloggedQueues` has
not looked at the high ring yet. -/
def drainedHigh (s : BacklogLoop) : Bool :=
  match s.wait, s.dispatch.loop, s.dispatch.session.dispatcher with
  | .outside, .drainHigh, .popping _ _ pc => !pc.takes (s.dispatch.session.ring .high).cursor
  | .outside, .drainHigh, .signalling | .outside, .drainHigh, .outside => true
  | .outside, .drainNormal, _ | .outside, .backlogHigh, _ => true
  | _, _, _ => false

/-- `HandleBackloggedQueues` has found no backlog of the high ring, and is not done with the
normal one. -/
def passedHigh (s : BacklogLoop) : Bool :=
  match s.wait with
  | .entering q | .blocked q => q = .normal
  | .outside => s.dispatch.loop = .backlogNormal false

end BacklogLoop

/-- The next step of the submit thread stores the tail of the ring. -/
def NotifyPc.publishes : NotifyPc → Priority → Bool
  | .pushing (.storeTail r _), q => r.priority = q
  | _, _ => false

/-- The high ring and its executor stay as the dispatcher has found them: between its last
look and the end of a wait no high request is pushed, until it has looked for a backlog no
worker makes room for the requests of a backlog, and the session stays alive. -/
def HighSettled (s : BacklogLoop) : BacklogAction → Prop
  | .client =>
    s.dispatch.client.publishes .high = true → s.drainedHigh = false ∧ s.passedHigh = false
  | .worker .high => s.drainedHigh = true → s.HighEmpty
  | .markBroken => False
  | _ => True

instance (s : BacklogLoop) (a : BacklogAction) : Decidable (HighSettled s a) := by
  unfold HighSettled
  split <;> infer_instance

/-! ## The invariant -/

variable {q : Priority}

namespace RequestSession

/-- A call of `DrainQueue` stays on its ring. -/
theorem queue?_dispatchStep (s : RequestSession) (ok : Bool) (pc : DispatcherPc) :
    ∀ q ∈ (s.dispatchStep ok pc).dispatcher.queue?, s.dispatcher = pc → pc.queue? = some q := by
  intro q hq hpc
  subst hpc
  revert hq
  cases hpc : s.dispatcher with
  | outside => simp [dispatchStep, hpc]
  | signalling => simp [dispatchStep, DispatcherPc.queue?]
  | draining q' nf => cases ok <;> cases nf <;> simp [dispatchStep, leaveDrain, DispatcherPc.queue?]
  | checking q' nf | popping q' nf =>
    simp only [dispatchStep]
    split <;> cases nf <;> simp [leaveDrain, DispatcherPc.queue?]
  | counting | submitting => simp [dispatchStep, DispatcherPc.queue?]

/-- A call of `DrainQueue` leaves the other ring alone. -/
theorem ring_dispatchStep_of_ne (s : RequestSession) (ok : Bool) (pc : DispatcherPc)
    (hq : pc.queue? ≠ some q) : (s.dispatchStep ok pc).ring q = s.ring q := by
  cases pc with
  | draining q' nf => cases ok <;> rfl
  | checking q' nf => simp only [dispatchStep]; split <;> rfl
  | popping q' nf pc =>
    have hne : q ≠ q' := fun h => hq (h ▸ rfl)
    simp only [dispatchStep]
    split <;> simp [setRing, leaveDrain, hne]
  | _ => rfl

end RequestSession

namespace DispatchLoop

/-- The submit thread leaves the dispatcher and the heads alone, and moves a tail only by
the last access of a push. -/
theorem clientStep_frame {d d' : DispatchLoop} (hs : d.clientStep = some d') :
    d'.loop = d.loop ∧ d'.session.dispatcher = d.session.dispatcher ∧
      d'.session.state = d.session.state ∧ ∀ q,
        (d'.session.ring q).cursor.head = (d.session.ring q).cursor.head ∧
        (d.client.publishes q = false →
          (d'.session.ring q).cursor.tail = (d.session.ring q).cursor.tail) := by
  unfold clientStep at hs
  cases hpc : d.client with
  | idle => simp [hpc] at hs
  | checking r | rechecking r | loadHead r tail =>
    simp only [hpc] at hs
    split at hs <;> cases hs <;> simp
  | loadTail r | signalling r =>
    simp only [hpc] at hs
    cases hs
    simp
  | pushing pc =>
    -- every outcome of the access stores the ring that `pushStep` returns
    have hring : d'.loop = d.loop ∧ d'.session.dispatcher = d.session.dispatcher ∧
        d'.session.state = d.session.state ∧ d'.session.ring =
          Function.update d.session.ring pc.entry.priority
            (pushStep (d.session.ring pc.entry.priority) pc).1 := by
      simp only [hpc] at hs
      split at hs <;> rename_i heq <;> cases hs <;> simp [RequestSession.setRing, heq]
    refine ⟨hring.1, hring.2.1, hring.2.2.1, fun q => ?_⟩
    rw [hring.2.2.2]
    by_cases hq : q = pc.entry.priority
    · subst hq
      rw [Function.update_self]
      cases pc with
      | loadHead r => simp [pushStep]
      | loadTail r head => simp only [pushStep]; split <;> simp
      | writeSlot r tail => simp [pushStep]
      | storeTail r tail => simp [pushStep, NotifyPc.publishes, PushPc.entry]
    · simp [Function.update_of_ne hq]

end DispatchLoop

/-- The dispatcher drains the high ring before it handles a backlog. -/
def LoopPc.away : LoopPc → Bool
  | .drainHigh | .drainNormal | .backlogHigh | .backlogNormal _ => false
  | _ => true

namespace BacklogLoop

variable {s s' : BacklogLoop}

/-- The high ring is empty once it has been passed, and empty or not to be served from the
end of its `DrainQueue` on. -/
structure HighInv (s : BacklogLoop) : Prop where
  alive : s.dispatch.session.state = .alive
  waiting : s.wait ≠ .outside → s.dispatch.loop = .top
  place : ∀ q ∈ s.dispatch.session.dispatcher.queue?, s.dispatch.loop.queue? = some q
  drained : s.drainedHigh = true → s.HighEmpty ∨ (s.pool .high).hasCapacity = false
  passed : s.passedHigh = true → s.HighEmpty

namespace HighInv

/-- A step of another thread. -/
theorem frame (H : s.HighInv) (hwait : s'.wait = s.wait) (hloop : s'.dispatch.loop = s.dispatch.loop)
    (hdispatcher : s'.dispatch.session.dispatcher = s.dispatch.session.dispatcher)
    (hstate : s'.dispatch.session.state = s.dispatch.session.state)
    (hhead : (s'.dispatch.session.ring .high).cursor.head =
      (s.dispatch.session.ring .high).cursor.head)
    (hempty : s.drainedHigh = true ∨ s.passedHigh = true → s.HighEmpty → s'.HighEmpty)
    (hfull : s.drainedHigh = true → (s.pool .high).hasCapacity = false →
      s'.HighEmpty ∨ (s'.pool .high).hasCapacity = false) : s'.HighInv := by
  have hdrained : s'.drainedHigh = s.drainedHigh := by
    simp only [drainedHigh, hwait, hloop, hdispatcher, PopPc.takes_congr hhead]
  have hpassed : s'.passedHigh = s.passedHigh := by
    simp only [passedHigh, hwait, hloop]
  refine ⟨hstate.trans H.alive, ?_, ?_, ?_, ?_⟩
  · rw [hwait, hloop]
    exact H.waiting
  · rw [hdispatcher, hloop]
    exact H.place
  · rw [hdrained]
    intro h
    rcases H.drained h with he | hf
    · exact .inl (hempty (.inl h) he)
    · exact hfull h hf
  · rw [hpassed]
    intro h
    exact hempty (.inr h) (H.passed h)

/-- A step of the dispatcher to a point from which it looks at the high ring again before it
waits for the normal executor. -/
theorem ahead (halive : s'.dispatch.session.state = .alive)
    (hwaiting : s'.wait ≠ .outside → s'.dispatch.loop = .top)
    (hplace : ∀ q ∈ s'.dispatch.session.dispatcher.queue?, s'.dispatch.loop.queue? = some q)
    (hdrained : s'.drainedHigh = false) (hpassed : s'.passedHigh = false) : s'.HighInv :=
  ⟨halive, hwaiting, hplace, by simp [hdrained], by simp [hpassed]⟩

/-- Outside of `DrainQueue` the dispatcher has no ring. -/
theorem queue?_eq_none (H : s.HighInv) (hloop : s.dispatch.loop.queue? = none) :
    s.dispatch.session.dispatcher.queue? = none := by
  cases hq : s.dispatch.session.dispatcher.queue? with
  | none => rfl
  | some q => simp [H.place q hq] at hloop

/-- The executors change only where `DrainQueue` submits. -/
theorem submitted_of_queue? (h : s.dispatch.session.dispatcher.queue? ≠ some q) :
    s.submitted q = s.pool q := by
  unfold submitted
  cases hpc : s.dispatch.session.dispatcher with
  | submitting q' nf task =>
    have hne : q ≠ q' := fun heq => h (by rw [hpc, heq]; rfl)
    simp only [Function.update_of_ne hne]
  | _ => rfl

/-- A step inside `DrainQueue` on the high ring ends it only with an empty ring or a full
executor. -/
theorem drainHigh (H : s.HighInv) (hwait : s.wait = .outside) (hloop : s.dispatch.loop = .drainHigh)
    (hout : s.dispatch.session.dispatcher ≠ .outside) (hwait' : s'.wait = .outside)
    (hloop' : s'.dispatch.loop = .drainHigh)
    (hsession : s'.dispatch.session =
      s.dispatch.session.dispatchStep (s.pool s.asked).hasCapacity s.dispatch.session.dispatcher)
    (hpool : s'.pool = s.submitted) : s'.HighInv := by
  have hq : ∀ q ∈ s.dispatch.session.dispatcher.queue?, q = .high := by
    intro q hq
    have := H.place q hq
    simp only [hloop, LoopPc.queue?, Option.some.injEq] at this
    exact this.symm
  have halive : s'.dispatch.session.state = .alive := by
    rw [hsession, (RequestSession.dispatchStep_frame _ _ _).1, H.alive]
  refine ⟨halive, by simp [hwait'], ?_, ?_, by simp [passedHigh, hwait', hloop']⟩
  · intro q hmem
    rw [hloop', ← hloop]
    rw [hsession] at hmem
    exact H.place q (RequestSession.queue?_dispatchStep _ _ _ q hmem rfl)
  cases hpc : s.dispatch.session.dispatcher with
  | outside => exact absurd hpc hout
  | signalling =>
    have h := H.drained (by simp [drainedHigh, hwait, hloop, hpc])
    intro _
    rw [HighEmpty, hsession, hpool, submitted_of_queue? (by simp [hpc, DispatcherPc.queue?]), hpc]
    exact h
  | draining q nf =>
    obtain rfl : q = .high := hq q (by simp [hpc, DispatcherPc.queue?])
    have hasked : s.asked = .high := by simp [asked, hpc]
    intro h
    right
    rw [hpool, submitted, hpc]
    simp only
    by_contra hcap
    rw [Bool.not_eq_false] at hcap
    simp [drainedHigh, hwait', hloop', hsession, hpc, hasked, hcap,
      RequestSession.dispatchStep] at h
  | checking q nf =>
    intro h
    simp [drainedHigh, hwait', hloop', hsession, hpc, RequestSession.dispatchStep, H.alive,
      PopPc.takes] at h
  | popping q nf pc =>
    obtain rfl : q = .high := hq q (by simp [hpc, DispatcherPc.queue?])
    have hsame : s'.pool = s.pool := by rw [hpool, submitted, hpc]
    rw [hsame]
    intro h
    cases pc with
    | loadTail =>
      left
      simpa [HighEmpty, drainedHigh, hwait', hloop', hsession, hpc, RequestSession.dispatchStep,
        popStep, PopPc.takes, RequestSession.setRing] using h
    | loadHead tail =>
      by_cases heq : tail = (s.dispatch.session.ring .high).cursor.head
      · have h := H.drained (by simp [drainedHigh, hwait, hloop, hpc, PopPc.takes, heq])
        simpa [HighEmpty, hsession, hpc, RequestSession.dispatchStep, popStep, heq,
          RequestSession.setRing, RequestSession.leaveDrain] using h
      · simp [drainedHigh, hwait', hloop', hsession, hpc, RequestSession.dispatchStep, popStep,
          PopPc.takes, heq, RequestSession.setRing] at h
    | readSlot head =>
      simp [drainedHigh, hwait', hloop', hsession, hpc, RequestSession.dispatchStep, popStep,
        PopPc.takes, RequestSession.setRing] at h
    | storeHead e head =>
      simp [drainedHigh, hwait', hloop', hsession, hpc, RequestSession.dispatchStep,
        popStep] at h
  | counting | submitting =>
    intro h
    simp [drainedHigh, hwait', hloop', hsession, hpc, RequestSession.dispatchStep] at h

/-- A step inside `DrainQueue` on the normal ring leaves the high ring and its executor
alone. -/
theorem drainNormal (H : s.HighInv) (hwait : s.wait = .outside)
    (hloop : s.dispatch.loop = .drainNormal) (hwait' : s'.wait = .outside)
    (hloop' : s'.dispatch.loop = .drainNormal)
    (hsession : s'.dispatch.session =
      s.dispatch.session.dispatchStep (s.pool s.asked).hasCapacity s.dispatch.session.dispatcher)
    (hpool : s'.pool = s.submitted) : s'.HighInv := by
  have hq : s.dispatch.session.dispatcher.queue? ≠ some .high := by
    intro hq
    have := H.place .high hq
    simp [hloop, LoopPc.queue?] at this
  have halive : s'.dispatch.session.state = .alive := by
    rw [hsession, (RequestSession.dispatchStep_frame _ _ _).1, H.alive]
  have hdrained := H.drained (by simp [drainedHigh, hwait, hloop])
  refine ⟨halive, by simp [hwait'], ?_, ?_, by simp [passedHigh, hwait', hloop']⟩
  · intro q hmem
    rw [hloop', ← hloop]
    rw [hsession] at hmem
    exact H.place q (RequestSession.queue?_dispatchStep _ _ _ q hmem rfl)
  · intro _
    rw [HighEmpty, hsession, hpool, submitted_of_queue? hq,
      RequestSession.ring_dispatchStep_of_ne _ _ _ hq]
    exact hdrained

/-- Outside of `DrainQueue` only the backlog checks ask an executor. -/
theorem asked_of_queue? (h : s.dispatch.session.dispatcher.queue? = none) :
    s.asked = if s.dispatch.loop = .backlogHigh then .high else .normal := by
  unfold asked
  cases hpc : s.dispatch.session.dispatcher with
  | outside | signalling => cases s.dispatch.loop <;> simp
  | _ => simp [hpc, DispatcherPc.queue?] at h

/-- A step of the loop to a point away from the backlog checks. -/
theorem goto (H : s.HighInv) (hwait' : s'.wait = .outside) (haway : s'.dispatch.loop.away = true)
    (halive : s'.dispatch.session.state = s.dispatch.session.state)
    (hplace : ∀ q ∈ s'.dispatch.session.dispatcher.queue?, s'.dispatch.loop.queue? = some q) :
    s'.HighInv := by
  refine ahead (halive.trans H.alive) (by simp [hwait']) hplace ?_ ?_
  · rw [drainedHigh, hwait']
    cases hloop : s'.dispatch.loop <;> simp_all [LoopPc.away]
  · rw [passedHigh, hwait']
    cases hloop : s'.dispatch.loop <;> simp_all [LoopPc.away]

/-- A step inside `DrainQueue`. -/
theorem inside (H : s.HighInv) (hwait : s.wait = .outside) (hqueue : s.dispatch.loop.queue? ≠ none)
    (hin : s.dispatch.session.dispatcher ≠ .outside) (hwait' : s'.wait = .outside)
    (hloop' : s'.dispatch.loop = s.dispatch.loop)
    (hsession : s'.dispatch.session =
      s.dispatch.session.dispatchStep (s.pool s.asked).hasCapacity s.dispatch.session.dispatcher)
    (hpool : s'.pool = s.submitted) : s'.HighInv := by
  have hredrain : s.dispatch.loop.away = true → s'.HighInv := by
    intro haway
    refine H.goto hwait' (by rw [hloop', haway]) ?_ ?_
    · rw [hsession, (RequestSession.dispatchStep_frame _ _ _).1]
    · intro q hmem
      rw [hsession] at hmem
      rw [hloop']
      exact H.place q (RequestSession.queue?_dispatchStep _ _ _ q hmem rfl)
  cases hloop : s.dispatch.loop with
  | drainHigh => exact H.drainHigh hwait hloop hin hwait' (hloop'.trans hloop) hsession hpool
  | drainNormal => exact H.drainNormal hwait hloop hwait' (hloop'.trans hloop) hsession hpool
  | redrainHigh | redrainNormal => exact hredrain (by rw [hloop]; rfl)
  | _ => exact absurd (by rw [hloop]; rfl) hqueue

/-- The dispatcher returns from the `DrainQueue` calls of an iteration to the backlog check. -/
theorem toBacklog (H : s.HighInv) (hdrained : s.drainedHigh = true)
    (hout : s.dispatch.session.dispatcher = .outside) :
    ({ s with
      dispatch := { s.dispatch with loop := .backlogHigh }
      pool := s.submitted
      wait := .outside } : BacklogLoop).HighInv := by
  have hpool := submitted_of_queue? (s := s) (q := .high) (by simp [hout, DispatcherPc.queue?])
  refine ⟨H.alive, by simp, by simp [hout, DispatcherPc.queue?], fun _ => ?_, by simp [passedHigh]⟩
  simp only [hpool]
  exact H.drained hdrained

theorem loopStep (H : s.HighInv) (hwait : s.wait = .outside) {d : DispatchLoop}
    (hd : s.dispatch.loopStep (s.pool s.asked).hasCapacity = some d) :
    ({ s with dispatch := d, pool := s.submitted, wait := s.backlogWait } :
      BacklogLoop).HighInv := by
  have hm := DispatchLoop.LoopMove.of_loopStep hd
  have houtside : (∀ b, s.dispatch.loop ≠ .backlogNormal b) → s.backlogWait = .outside := by
    intro hne
    cases hloop : s.dispatch.loop with
    | backlogNormal b => exact absurd hloop (hne b)
    | _ => simp [backlogWait, hloop]
  generalize hloop : s.dispatch.loop = pc at hm
  cases hm with
  | inside hqueue hin hwork =>
    refine H.inside hwait (hloop ▸ hqueue) hin (houtside ?_) rfl rfl rfl
    intro b hb
    rw [← hloop, hb] at hqueue
    exact hqueue rfl
  | start =>
    exact ahead H.alive (by simp [backlogWait, hloop])
      (by simp [DispatchLoop.enterDrain, DispatcherPc.queue?, LoopPc.queue?])
      (by simp [drainedHigh, backlogWait, hloop, DispatchLoop.enterDrain])
      (by simp [passedHigh, backlogWait, hloop, DispatchLoop.enterDrain])
  | highWorked hout hwork =>
    rw [houtside (by simp [hloop])]
    exact H.toBacklog (by simp [drainedHigh, hwait, hloop, hout]) hout
  | highIdle hout hwork =>
    have hpool := submitted_of_queue? (s := s) (q := .high)
      (by simp [hout, DispatcherPc.queue?])
    rw [houtside (by simp [hloop])]
    refine ⟨H.alive, by simp, ?_, fun _ => ?_, by simp [passedHigh, DispatchLoop.enterDrain]⟩
    · simp [DispatchLoop.enterDrain, DispatcherPc.queue?, LoopPc.queue?]
    · simp only [hpool]
      exact H.drained (by simp [drainedHigh, hwait, hloop, hout])
  | normalDrained hout =>
    rw [houtside (by simp [hloop])]
    exact H.toBacklog (by simp [drainedHigh, hwait, hloop]) hout
  | backlogHigh =>
    have hqueue := H.queue?_eq_none (by rw [hloop]; rfl)
    have hdrained := H.drained (by simp [drainedHigh, hwait, hloop])
    have hasked : s.asked = .high := by rw [asked_of_queue? hqueue, if_pos hloop]
    rw [hasked]
    refine ⟨H.alive, by simp [backlogWait, hloop], by simp [hqueue], ?_, ?_⟩
    · simp [drainedHigh, backlogWait, hloop]
    · intro h
      -- a high ring that is not backlogged is empty, since its executor was full otherwise
      rcases hdrained with hempty | hfull
      · exact hempty
      · have hpending : s.dispatch.pending .high = false := by
          simpa [passedHigh, backlogWait, hloop, hfull] using h
        exact DispatchLoop.empty_of_not_pending hpending
  | @backlogged highBacklogged hbacklog =>
    have hqueue := H.queue?_eq_none (by rw [hloop]; rfl)
    refine ⟨H.alive, by simp, by simp [hqueue], by simp [drainedHigh], ?_⟩
    intro h
    refine H.passed ?_
    cases highBacklogged with
    | true => simp [passedHigh, backlogWait, hloop] at h
    | false => simp [passedHigh, hwait, hloop]
  | noBacklog hroom =>
    have hqueue := H.queue?_eq_none (by rw [hloop]; rfl)
    have hasked : s.asked = .normal := by rw [asked_of_queue? hqueue, if_neg (by simp [hloop])]
    rw [hasked] at hroom
    exact H.goto (by simpa [backlogWait, hloop] using hroom) rfl rfl (by simp [hqueue])
  | consumeHigh | consumeNormal =>
    exact H.goto (by simp [backlogWait, hloop]) rfl rfl
      (by simp [DispatchLoop.enterDrain, DispatcherPc.queue?, LoopPc.queue?])
  | highRedrained hout | normalRedrained hout =>
    exact H.goto (by simp [backlogWait, hloop]) rfl rfl (by simp [hout, DispatcherPc.queue?])
  | highFound | highEmpty | normalFound | spin | poll | wakeHigh | wakeNormal | normalReady
  | polled =>
    have hqueue := H.queue?_eq_none (by rw [hloop]; rfl)
    exact H.goto (by simp [backlogWait, hloop]) rfl rfl (by simp [hqueue])

theorem dispatcherStep (H : s.HighInv) (hs : s.dispatcherStep = some s') : s'.HighInv := by
  unfold BacklogLoop.dispatcherStep at hs
  cases hwait : s.wait with
  | entering q =>
    have htop := H.waiting (by simp [hwait])
    simp only [hwait, Option.some.injEq] at hs
    subst hs
    refine ⟨H.alive, fun _ => htop, H.place, ?_, ?_⟩
    · intro h
      simp [drainedHigh, htop] at h
    · intro h
      refine H.passed ?_
      split at h
      · simp [passedHigh, htop] at h
      · simpa [passedHigh, hwait] using h
  | blocked q =>
    have htop := H.waiting (by simp [hwait])
    simp only [hwait, Option.ite_none_right_eq_some, Option.some.injEq] at hs
    obtain ⟨-, rfl⟩ := hs
    exact ahead H.alive (by simp) H.place (by simp [drainedHigh, htop])
      (by simp [passedHigh, htop])
  | outside =>
    simp only [hwait] at hs
    split at hs
    · cases hs
    split at hs
    · rename_i htop
      cases hs
      exact H.frame hwait.symm rfl rfl rfl rfl (fun _ => id) fun _ => .inr
    rw [Option.map_eq_some_iff] at hs
    obtain ⟨d, hd, rfl⟩ := hs
    exact H.loopStep hwait hd

/-- A worker makes no room for a backlog that the dispatcher has left behind. -/
theorem worker (H : s.HighInv) {p : ThreadPool PendingSubmit} (hok : HighSettled s (.worker q)) :
    ({ s with pool := Function.update s.pool q p } : BacklogLoop).HighInv := by
  refine H.frame rfl rfl rfl rfl rfl (fun _ => id) ?_
  intro hdrained hfull
  cases q with
  | high => exact .inl (hok hdrained)
  | normal => exact .inr (by simpa using hfull)

/-- A step of an executor that makes no room. -/
theorem pool (H : s.HighInv) {p : ThreadPool PendingSubmit}
    (hfull : (s.pool q).hasCapacity = false → p.hasCapacity = false) :
    ({ s with pool := Function.update s.pool q p } : BacklogLoop).HighInv := by
  refine H.frame rfl rfl rfl rfl rfl (fun _ => id) ?_
  intro _ hhigh
  right
  by_cases hq : q = .high
  · subst hq
    simpa using hfull hhigh
  · simpa [Function.update_of_ne (Ne.symm hq)] using hhigh

theorem step (H : s.HighInv) {caps : Priority → RingCapacity} {m : ℕ → PendingSubmit}
    {workerThreads : Priority → UInt32} {a : BacklogAction} (hok : HighSettled s a)
    (hs : (backlogLoop caps m workerThreads).step s a = some s') : s'.HighInv := by
  cases a with
  | push r =>
    simp only [backlogLoop] at hs
    split at hs
    · cases hs
      exact H.frame rfl rfl rfl rfl rfl (fun _ => id) fun _ => .inr
    · cases hs
  | client =>
    simp only [backlogLoop, Option.map_eq_some_iff] at hs
    obtain ⟨d, hd, rfl⟩ := hs
    obtain ⟨hloop, hdispatcher, hstate, hring⟩ := DispatchLoop.clientStep_frame hd
    refine H.frame rfl hloop hdispatcher hstate (hring .high).1 ?_ fun _ => .inr
    intro hphase hempty
    have hquiet : s.dispatch.client.publishes .high = false := by
      by_contra hpub
      rw [Bool.not_eq_false] at hpub
      have := hok hpub
      simp_all
    simpa [HighEmpty, (hring .high).1, (hring .high).2 hquiet] using hempty
  | dispatcher => exact H.dispatcherStep hs
  | timeout =>
    simp only [backlogLoop, BacklogLoop.timeout] at hs
    cases hwait : s.wait with
    | blocked q =>
      have htop := H.waiting (by simp [hwait])
      simp only [hwait, Option.some.injEq] at hs
      subst hs
      exact H.goto rfl (by rw [htop]; rfl) rfl H.place
    | entering q => simp [hwait] at hs
    | outside =>
      simp only [hwait, Option.map_eq_some_iff, DispatchLoop.pollTimeout] at hs
      obtain ⟨d, hd, rfl⟩ := hs
      split at hd
      · rename_i hloop
        cases hd
        refine H.goto rfl rfl rfl ?_
        simp [H.queue?_eq_none (by rw [hloop]; rfl)]
      · cases hd
  | worker q =>
    simp only [backlogLoop, Option.map_eq_some_iff] at hs
    obtain ⟨p, -, rfl⟩ := hs
    exact H.worker hok
  | finish q i =>
    simp only [backlogLoop, Option.map_eq_some_iff, ThreadPool.finishTask,
      Option.ite_none_right_eq_some, Option.some.injEq] at hs
    obtain ⟨p, ⟨-, rfl⟩, rfl⟩ := hs
    exact H.pool id
  | markBroken => exact absurd hok id
  | stop =>
    cases hs
    exact H.frame rfl rfl rfl rfl rfl (fun _ => id) fun _ => .inr
  | stopPool q =>
    simp only [backlogLoop, Option.ite_none_right_eq_some, Option.some.injEq] at hs
    obtain ⟨-, rfl⟩ := hs
    exact H.pool fun _ => rfl

end HighInv

end BacklogLoop

theorem highInv_of_reach {caps : Priority → RingCapacity} {m : ℕ → PendingSubmit}
    {workerThreads : Priority → UInt32} {s : BacklogLoop}
    (h : (backlogLoop caps m workerThreads).Reach HighSettled s) : s.HighInv := by
  refine Machine.Reach.invariant (I := BacklogLoop.HighInv) ?_ ?_ h
  · exact ⟨rfl, fun _ => rfl, nofun, nofun, nofun⟩
  · intro s a s' H hok hs
    exact H.step hok hs

/-- **A settled high ring is never kept waiting for the normal executor.** In every run in
which no high request is pushed between the dispatcher's last look at the high ring and the
end of its wait, no worker makes room for a high backlog before the dispatcher has looked
for it, and the session stays alive, the dispatcher is never blocked for the normal executor
while it could dispatch a high request. -/
theorem not_normalBlocksHigh_of_reach (caps : Priority → RingCapacity) (m : ℕ → PendingSubmit)
    (workerThreads : Priority → UInt32) {s : BacklogLoop}
    (h : (backlogLoop caps m workerThreads).Reach HighSettled s) : ¬ s.NormalBlocksHigh := by
  rintro ⟨hblocked, hpending, -⟩
  exact hpending ((highInv_of_reach h).passed (by simp [BacklogLoop.passedHigh, hblocked]))

/-- Rings of eight slots and one worker each, as by default. -/
def defaultBacklog : Machine BacklogLoop BacklogAction :=
  backlogLoop (fun _ => ⟨8, validRingSize_eight⟩) (fun _ => ⟨0, .normal, {}⟩) fun _ => 1

/-- The submit thread pushes a request to an empty ring and signals it. -/
def pushAndSignal (call : ℕ) (priority : Priority) : List BacklogAction :=
  .push (enqueueSubmitLocked call priority {}) :: List.replicate 9 .client

/-- A high request and a normal one are being executed, a second normal request fills the
queue of its executor, and the dispatcher waits with a third. -/
def waitSchedule : List BacklogAction :=
  pushAndSignal 0 .high ++ List.replicate 9 .dispatcher ++ .worker .high ::
    List.replicate 7 .dispatcher ++
    pushAndSignal 1 .normal ++ List.replicate 16 .dispatcher ++ .worker .normal ::
    pushAndSignal 2 .normal ++ List.replicate 8 .dispatcher ++
    pushAndSignal 3 .normal ++ List.replicate 5 .dispatcher

theorem not_normalBlocksHigh_waitSchedule :
    ∃ s, defaultBacklog.Reach HighSettled s ∧ s.wait = .blocked .normal ∧
      (s.pool .high).executing.length = 1 ∧ ¬ s.NormalBlocksHigh := by
  obtain ⟨s, hreach, hblocked, hexecuting⟩ := defaultBacklog.exists_reachOk HighSettled waitSchedule
    (P := fun s => s.wait = .blocked .normal ∧ (s.pool .high).executing.length = 1)
      (by decide +kernel)
  exact ⟨s, hreach, hblocked, hexecuting, not_normalBlocksHigh_of_reach _ _ _ hreach⟩

/-- A high request that arrives during the wait is kept waiting: the high executor has
room for it, and the dispatcher sleeps until a normal task is taken. -/
theorem normalBlocksHigh_of_latePush :
    ∃ s, defaultBacklog.Reach Machine.Always s ∧ s.NormalBlocksHigh := by
  exact defaultBacklog.exists_reach (waitSchedule ++ .push (enqueueSubmitLocked 4 .high {}) ::
    List.replicate 5 .client) (by decide +kernel)

end MemRpc
