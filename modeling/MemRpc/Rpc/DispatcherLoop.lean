import MemRpc.Rpc.RequestPath

/-!
# The dispatcher loop and its wakeup

`DispatcherLoop` drains the high ring, then the normal ring if there was no high work,
waits for an executor if a ring is backlogged, spins for a while on the ring counts, and
only then blocks in `poll` on the two request eventfds. The client signals an eventfd
only if it finds exactly one entry after its push. A dispatcher that blocks with entries
behind an unsignalled first one would sleep on them.

It cannot: it blocks only after a look at each ring that found it empty, and the first
push after that look finds one entry, since nobody else pops. `sawEmpty` names the
points of the loop at which that look has been made.

## Main definitions

* `LoopPc`, `loopStep`: `DispatcherLoop` around the `DrainQueue` of `RequestSession`.
* `NotifyPc`, `clientStep`: `PushRequestToSession` with its conditional signal.
* `dispatchLoop`: the machine, on a session that stays alive.
-/

namespace MemRpc

open Concurrency

/-- The points of `DispatcherLoop`; those with `drain` in the name are inside a call of
`DrainQueue`. -/
inductive LoopPc
  | top
  | drainHigh
  | drainNormal
  | backlogHigh
  | backlogNormal (highBacklogged : Bool)
  | spinHigh (i : ℕ)
  | spinNormal (i : ℕ)
  | polling
  | consumeHigh (normalReady : Bool)
  | redrainHigh (normalReady : Bool)
  | polledHigh (normalReady : Bool)
  | consumeNormal
  | redrainNormal
  deriving DecidableEq, Repr

/-- The points of `PushRequestToSession`: `PushRequest`, the two loads of
`RingCountIsOneAfterPush`, and the signal. -/
inductive NotifyPc
  | idle
  | checking (r : PendingSubmit)
  | pushing (pc : PushPc PendingSubmit)
  | rechecking (r : PendingSubmit)
  | loadTail (r : PendingSubmit)
  | loadHead (r : PendingSubmit) (tail : UInt32)
  | signalling (r : PendingSubmit)
  deriving DecidableEq

/-- A session with the dispatcher of its server and the submit thread of its client. -/
structure DispatchLoop where
  session : RequestSession
  /-- The counters of `highReqEventFd` and `normalReqEventFd`. -/
  event : Priority → ℕ := fun _ => 0
  loop : LoopPc := .top
  highWork : Bool := false
  client : NotifyPc := .idle

namespace DispatchLoop

/-- `SPIN_ITERATIONS`. -/
def spinIterations : ℕ := 256

/-- The ring counts entries. -/
def pending (s : DispatchLoop) (q : Priority) : Bool :=
  decide (ringCount (s.session.ring q).cursor > 0)

/-- Call `DrainQueue`. -/
def enterDrain (s : DispatchLoop) (q : Priority) (pc : LoopPc) : DispatchLoop :=
  { s with
    session := { s.session with dispatcher := .draining q false }
    loop := pc }

/-- The next step inside `DrainQueue`, or the return from it. The return value of a call
on the high ring is whether it popped. -/
def inDrain (s : DispatchLoop) (ok : Bool) (return' : DispatchLoop) : DispatchLoop :=
  match s.session.dispatcher with
  | .outside => return'
  | pc =>
    let t := s.session.dispatchStep ok pc
    { s with
      session := t
      highWork := s.highWork || t.dispatcher matches .counting .high _ _ }

/-- The next step of the dispatcher, if it is not blocked. `ok` answers the executors. -/
def loopStep (s : DispatchLoop) (ok : Bool) : Option DispatchLoop :=
  match s.loop with
  | .top => some ({ s with highWork := false }.enterDrain .high .drainHigh)
  | .drainHigh =>
    some (s.inDrain ok
      (if s.highWork then { s with loop := .backlogHigh } else s.enterDrain .normal .drainNormal))
  | .drainNormal => some (s.inDrain ok { s with loop := .backlogHigh })
  | .backlogHigh => some { s with loop := .backlogNormal (s.pending .high && !ok) }
  | .backlogNormal highBacklogged =>
    if highBacklogged || (s.pending .normal && !ok) then some { s with loop := .top }
    else some { s with loop := .spinHigh 0 }
  | .spinHigh i =>
    if s.pending .high then some { s with loop := .top }
    else some { s with loop := .spinNormal i }
  | .spinNormal i =>
    if s.pending .normal then some { s with loop := .top }
    else if i + 1 < spinIterations then some { s with loop := .spinHigh (i + 1) }
    else some { s with loop := .polling }
  | .polling =>
    if s.event .high ≠ 0 then some { s with loop := .consumeHigh (s.event .normal != 0) }
    else if s.event .normal ≠ 0 then some { s with loop := .polledHigh true }
    else none
  | .consumeHigh normalReady =>
    some ({ s with event := Function.update s.event .high 0, highWork := false }.enterDrain .high
      (.redrainHigh normalReady))
  | .redrainHigh normalReady => some (s.inDrain ok { s with loop := .polledHigh normalReady })
  | .polledHigh normalReady =>
    if !s.highWork && normalReady then some { s with loop := .consumeNormal }
    else some { s with loop := .top }
  | .consumeNormal =>
    some ({ s with event := Function.update s.event .normal 0 }.enterDrain .normal .redrainNormal)
  | .redrainNormal => some (s.inDrain ok { s with loop := .top })

/-- The poll times out or fails. -/
def pollTimeout (s : DispatchLoop) : Option DispatchLoop :=
  match s.loop with
  | .polling => some { s with loop := .top }
  | _ => none

/-- The next step of the submit thread. -/
def clientStep (s : DispatchLoop) : Option DispatchLoop :=
  match s.client with
  | .idle => none
  | .checking r =>
    match s.session.state with
    | .alive => some { s with client := .pushing (.loadHead r) }
    | .broken => some { s with client := .idle }
  | .pushing pc =>
    let q := pc.entry.priority
    match pushStep (s.session.ring q) pc with
    | (ring, .running pc') =>
      some { s with session := s.session.setRing q ring, client := .pushing pc' }
    | (ring, .returned .ok) =>
      some { s with
        session :=
          { s.session.setRing q ring with
            pushed := Function.update s.session.pushed q (s.session.pushed q ++ [pc.entry]) }
        client := .rechecking pc.entry }
    | (ring, .returned _) =>
      some { s with session := s.session.setRing q ring, client := .idle }
  | .rechecking r =>
    match s.session.state with
    | .alive => some { s with client := .loadTail r }
    | .broken => some { s with client := .idle }
  | .loadTail r =>
    some { s with client := .loadHead r (s.session.ring r.priority).cursor.tail }
  | .loadHead r tail =>
    if tail - (s.session.ring r.priority).cursor.head = 1 then
      some { s with client := .signalling r }
    else some { s with client := .idle }
  | .signalling r =>
    some { s with
      event := Function.update s.event r.priority (s.event r.priority + 1)
      client := .idle }

end DispatchLoop

/-- Who moves. -/
inductive LoopAction
  | push (r : PendingSubmit)
  | client
  | dispatcher (ok : Bool)
  | pollTimeout

/-- All interleavings of a submit thread and a dispatcher on an alive session. -/
def dispatchLoop (caps : Priority → RingCapacity) (m : ℕ → PendingSubmit) :
    Machine DispatchLoop LoopAction where
  init := { session := RequestSession.create caps m }
  step s
    | .push r =>
      match s.client with
      | .idle => some { s with client := .checking r }
      | _ => none
    | .client => s.clientStep
    | .dispatcher ok => s.loopStep ok
    | .pollTimeout => s.pollTimeout

/-! ## The property -/

namespace DispatchLoop

/-- The submit thread has stored the tail of the ring and is going to signal it: it has
found one entry, or it will. -/
def willSignal (s : DispatchLoop) (q : Priority) : Prop :=
  match s.client with
  | .rechecking r | .loadTail r =>
    r.priority = q ∧ ringCount (s.session.ring q).cursor = 1
  | .loadHead r tail => r.priority = q ∧ tail - (s.session.ring q).cursor.head = 1
  | .signalling r => r.priority = q
  | _ => False

/-- The eventfd of the ring is signalled, or going to be. -/
def Woken (s : DispatchLoop) (q : Priority) : Prop := s.event q ≠ 0 ∨ s.willSignal q

/-- A dispatcher that is blocked in `poll` is woken for every ring that holds entries. -/
def WakeupKept (s : DispatchLoop) : Prop :=
  s.loop = .polling →
    ∀ q, (s.session.ring q).cursor.tail ≠ (s.session.ring q).cursor.head → s.Woken q

/-! ## What a step of the dispatcher does -/

end DispatchLoop

/-- The ring whose `DrainQueue` call a point of the loop is in. -/
def LoopPc.queue? : LoopPc → Option Priority
  | .drainHigh | .redrainHigh _ => some .high
  | .drainNormal | .redrainNormal => some .normal
  | _ => none

namespace DispatchLoop

variable {s s' : DispatchLoop} {ok : Bool}

/-- What a step of the dispatcher does at each point of the loop. -/
inductive LoopMove (s : DispatchLoop) (ok : Bool) : LoopPc → DispatchLoop → Prop
  | inside {pc : LoopPc} {highWork : Bool} (hqueue : pc.queue? ≠ none)
      (hin : s.session.dispatcher ≠ .outside)
      (hwork : highWork = true → s.highWork = true ∨ ∃ nf e,
        (s.session.dispatchStep ok s.session.dispatcher).dispatcher = .counting .high nf e) :
      LoopMove s ok pc
        { s with session := s.session.dispatchStep ok s.session.dispatcher, highWork }
  | start : LoopMove s ok .top ({ s with highWork := false }.enterDrain .high .drainHigh)
  | highWorked (hout : s.session.dispatcher = .outside) (hwork : s.highWork = true) :
      LoopMove s ok .drainHigh { s with loop := .backlogHigh }
  | highIdle (hout : s.session.dispatcher = .outside) (hwork : s.highWork = false) :
      LoopMove s ok .drainHigh (s.enterDrain .normal .drainNormal)
  | normalDrained (hout : s.session.dispatcher = .outside) :
      LoopMove s ok .drainNormal { s with loop := .backlogHigh }
  | backlogHigh :
      LoopMove s ok .backlogHigh { s with loop := .backlogNormal (s.pending .high && !ok) }
  | backlogged {highBacklogged : Bool}
      (h : highBacklogged = true ∨ s.pending .normal = true ∧ ok = false) :
      LoopMove s ok (.backlogNormal highBacklogged) { s with loop := .top }
  | noBacklog (h : s.pending .normal = true → ok = true) :
      LoopMove s ok (.backlogNormal false) { s with loop := .spinHigh 0 }
  | highFound {i : ℕ} (hpending : s.pending .high = true) :
      LoopMove s ok (.spinHigh i) { s with loop := .top }
  | highEmpty {i : ℕ} (hpending : s.pending .high = false) :
      LoopMove s ok (.spinHigh i) { s with loop := .spinNormal i }
  | normalFound {i : ℕ} (hpending : s.pending .normal = true) :
      LoopMove s ok (.spinNormal i) { s with loop := .top }
  | spin {i : ℕ} (hpending : s.pending .normal = false) :
      LoopMove s ok (.spinNormal i) { s with loop := .spinHigh (i + 1) }
  | poll {i : ℕ} (hpending : s.pending .normal = false) :
      LoopMove s ok (.spinNormal i) { s with loop := .polling }
  | wakeHigh (hevent : s.event .high ≠ 0) :
      LoopMove s ok .polling { s with loop := .consumeHigh (s.event .normal != 0) }
  | wakeNormal (hevent : s.event .normal ≠ 0) :
      LoopMove s ok .polling { s with loop := .polledHigh true }
  | consumeHigh {normalReady : Bool} :
      LoopMove s ok (.consumeHigh normalReady)
        ({ s with event := Function.update s.event .high 0, highWork := false }.enterDrain .high
          (.redrainHigh normalReady))
  | highRedrained {normalReady : Bool} (hout : s.session.dispatcher = .outside) :
      LoopMove s ok (.redrainHigh normalReady) { s with loop := .polledHigh normalReady }
  | normalReady (hwork : s.highWork = false) :
      LoopMove s ok (.polledHigh true) { s with loop := .consumeNormal }
  | polled {normalReady : Bool} (h : s.highWork = true ∨ normalReady = false) :
      LoopMove s ok (.polledHigh normalReady) { s with loop := .top }
  | consumeNormal :
      LoopMove s ok .consumeNormal
        ({ s with event := Function.update s.event .normal 0 }.enterDrain .normal .redrainNormal)
  | normalRedrained (hout : s.session.dispatcher = .outside) :
      LoopMove s ok .redrainNormal { s with loop := .top }

/-- A step at a point inside `DrainQueue` is one of the call, or the return from it. -/
theorem LoopMove.of_inDrain {pc : LoopPc} {return' : DispatchLoop} (hqueue : pc.queue? ≠ none)
    (hreturn : s.session.dispatcher = .outside → LoopMove s ok pc return') :
    LoopMove s ok pc (s.inDrain ok return') := by
  unfold inDrain
  split
  next hout => exact hreturn hout
  next pc' hin =>
    refine .inside hqueue hin ?_
    intro hwork
    rcases Bool.or_eq_true_iff.mp hwork with hbefore | hcounting
    · exact .inl hbefore
    · right
      split at hcounting
      · rename_i nf e hpc
        exact ⟨nf, e, hpc⟩
      · cases hcounting

theorem LoopMove.of_loopStep (h : s.loopStep ok = some s') : LoopMove s ok s.loop s' := by
  cases hloop : s.loop with
  | top =>
    simp only [loopStep, hloop, Option.some.injEq] at h
    subst h
    exact .start
  | drainHigh =>
    simp only [loopStep, hloop, Option.some.injEq] at h
    subst h
    refine .of_inDrain (by simp [LoopPc.queue?]) fun hout => ?_
    split
    next hwork => exact .highWorked hout hwork
    next hwork => exact .highIdle hout (Bool.eq_false_of_not_eq_true hwork)
  | drainNormal =>
    simp only [loopStep, hloop, Option.some.injEq] at h
    subst h
    exact .of_inDrain (by simp [LoopPc.queue?]) .normalDrained
  | backlogHigh =>
    simp only [loopStep, hloop, Option.some.injEq] at h
    subst h
    exact .backlogHigh
  | backlogNormal highBacklogged =>
    simp only [loopStep, hloop] at h
    split at h <;> cases h
    next hbacklog => exact .backlogged (by simpa using hbacklog)
    next hnone =>
      simp only [Bool.or_eq_true, not_or, Bool.not_eq_true] at hnone
      obtain ⟨rfl, hnormal⟩ := hnone
      exact .noBacklog (by simpa using hnormal)
  | spinHigh i =>
    simp only [loopStep, hloop] at h
    split at h <;> cases h
    next hpending => exact .highFound hpending
    next hpending => exact .highEmpty (Bool.eq_false_of_not_eq_true hpending)
  | spinNormal i =>
    simp only [loopStep, hloop] at h
    split at h
    next hpending =>
      cases h
      exact .normalFound hpending
    next hpending =>
      have hempty := Bool.eq_false_of_not_eq_true hpending
      split at h <;> cases h
      · exact .spin hempty
      · exact .poll hempty
  | polling =>
    simp only [loopStep, hloop] at h
    split at h
    next hevent =>
      cases h
      exact .wakeHigh hevent
    next =>
      split at h <;> cases h
      next hevent => exact .wakeNormal hevent
  | consumeHigh normalReady =>
    simp only [loopStep, hloop, Option.some.injEq] at h
    subst h
    exact .consumeHigh
  | redrainHigh normalReady =>
    simp only [loopStep, hloop, Option.some.injEq] at h
    subst h
    exact .of_inDrain (by simp [LoopPc.queue?]) .highRedrained
  | polledHigh normalReady =>
    simp only [loopStep, hloop] at h
    split at h <;> cases h
    next hready =>
      simp only [Bool.and_eq_true, Bool.not_eq_true'] at hready
      obtain ⟨hwork, rfl⟩ := hready
      exact .normalReady hwork
    next hnot => exact .polled (by simpa [or_iff_not_imp_left] using hnot)
  | consumeNormal =>
    simp only [loopStep, hloop, Option.some.injEq] at h
    subst h
    exact .consumeNormal
  | redrainNormal =>
    simp only [loopStep, hloop, Option.some.injEq] at h
    subst h
    exact .of_inDrain (by simp [LoopPc.queue?]) .normalRedrained

/-! ## The invariant -/

/-- The dispatcher has looked at the ring since its last `DrainQueue`, found it empty,
and does not look again before it blocks. -/
def sawEmpty : LoopPc → Priority → Bool
  | .spinNormal _, .high => true
  | .polling, _ => true
  | _, _ => false

/-- The session is alive, the copy of the tail in a push is the tail, and rings that were
seen empty are watched. -/
structure LoopInv (s : DispatchLoop) : Prop where
  alive : s.session.state = .alive
  tailCopy : ∀ r tail,
    s.client = .pushing (.writeSlot r tail) ∨ s.client = .pushing (.storeTail r tail) →
      tail = (s.session.ring r.priority).cursor.tail
  watched : ∀ q, sawEmpty s.loop q = true →
    (s.session.ring q).cursor.tail ≠ (s.session.ring q).cursor.head → s.Woken q

/-- A ring that counts nothing is empty. -/
theorem empty_of_not_pending {q : Priority} (h : s.pending q = false) :
    (s.session.ring q).cursor.tail = (s.session.ring q).cursor.head := by
  have hzero : ringCount (s.session.ring q).cursor = 0 := by
    simpa [pending, UInt32.pos_iff_ne_zero] using h
  simpa using UInt32.sub_eq_iff_eq_add.mp hzero

namespace LoopInv

/-- A step of the dispatcher that leaves the rings alone. -/
theorem goto (H : s.LoopInv) {pc : LoopPc}
    (hwatched : ∀ q, sawEmpty pc q = true →
      (s.session.ring q).cursor.tail ≠ (s.session.ring q).cursor.head → s.Woken q) :
    ({ s with loop := pc } : DispatchLoop).LoopInv :=
  ⟨H.alive, H.tailCopy, hwatched⟩

/-- A step of the dispatcher to or from a call of `DrainQueue`, where nothing is watched. -/
theorem drain (H : s.LoopInv) (hclient : s'.client = s.client)
    (halive : s'.session.state = s.session.state)
    (htail : ∀ q, (s'.session.ring q).cursor.tail = (s.session.ring q).cursor.tail)
    (hloop : ∀ q, sawEmpty s'.loop q = false) : s'.LoopInv where
  alive := halive.trans H.alive
  tailCopy r tail hpc := by
    rw [hclient] at hpc
    rw [htail]
    exact H.tailCopy r tail hpc
  watched q hq := by simp [hloop q] at hq

/-- Only the last looks before `poll` start a watch, and each finds its ring empty. -/
theorem loopStep (H : s.LoopInv) (hs : s.loopStep ok = some s') : s'.LoopInv := by
  have hnone : ∀ {pc : LoopPc}, (∀ q, sawEmpty pc q = false) →
      ({ s with loop := pc } : DispatchLoop).LoopInv := by
    intro pc hpc
    refine H.goto ?_
    intro q hq
    simp [hpc q] at hq
  have hm := LoopMove.of_loopStep hs
  generalize hloop : s.loop = pc at hm
  cases hm with
  | inside hqueue hin hwork =>
    refine H.drain rfl ?_ ?_ ?_
    · exact (s.session.dispatchStep_frame ok s.session.dispatcher).1
    · exact s.session.tail_dispatchStep ok s.session.dispatcher
    · intro q
      show sawEmpty s.loop q = false
      rw [hloop]
      cases pc with
      | drainHigh | drainNormal | redrainHigh | redrainNormal => rfl
      | _ => exact absurd rfl hqueue
  | start | highIdle | consumeHigh | consumeNormal =>
    exact H.drain rfl rfl (fun _ => rfl) fun _ => rfl
  | highEmpty hpending =>
    refine H.goto ?_
    intro q hq hne
    cases q with
    | high => exact absurd (empty_of_not_pending hpending) hne
    | normal => cases hq
  | poll hpending =>
    refine H.goto ?_
    intro q _ hne
    cases q with
    | high => exact H.watched .high (by rw [hloop]; rfl) hne
    | normal => exact absurd (empty_of_not_pending hpending) hne
  | _ => exact hnone fun _ => rfl

/-- A step of the submit thread that leaves rings and eventfds alone, outside a push. -/
theorem client (H : s.LoopInv) {pc : NotifyPc} (hpc : ∀ p, pc ≠ .pushing p)
    (hwill : ∀ q, s.willSignal q → ({ s with client := pc } : DispatchLoop).willSignal q) :
    ({ s with client := pc } : DispatchLoop).LoopInv where
  alive := H.alive
  tailCopy r tail h := by
    rcases h with h | h
    · exact absurd h (hpc _)
    · exact absurd h (hpc _)
  watched q hq hne := (H.watched q hq hne).imp_right (hwill q)

variable {pc : PushPc PendingSubmit}

/-- A submit thread inside a push has no signal pending. -/
theorem event_of_pushing (H : s.LoopInv) (hpc : s.client = .pushing pc)
    {q : Priority} (hq : sawEmpty s.loop q = true)
    (hne : (s.session.ring q).cursor.tail ≠ (s.session.ring q).cursor.head) : s.event q ≠ 0 := by
  rcases H.watched q hq hne with hsome | hwill
  · exact hsome
  · simp [willSignal, hpc] at hwill

/-- The accesses before the store of the tail leave the cursors alone. -/
theorem pushQuiet (H : s.LoopInv) (hpc : s.client = .pushing pc)
    {q : Priority} {ring : Ring PendingSubmit} {client : NotifyPc}
    (hcursor : ring.cursor = (s.session.ring q).cursor)
    (hcopy : ∀ r tail,
      client = .pushing (.writeSlot r tail) ∨ client = .pushing (.storeTail r tail) →
        tail = (s.session.ring r.priority).cursor.tail) :
    ({ s with session := s.session.setRing q ring, client } : DispatchLoop).LoopInv := by
  have hsame : ∀ q', ((s.session.setRing q ring).ring q').cursor =
      (s.session.ring q').cursor := by
    intro q'
    by_cases hq : q' = q
    · subst hq
      simpa [RequestSession.setRing] using hcursor
    · simp [RequestSession.setRing, hq]
  refine ⟨H.alive, ?_, ?_⟩
  · intro r tail h
    rw [hsame]
    exact hcopy r tail h
  · intro q' hq hne
    rw [hsame] at hne
    exact .inl (H.event_of_pushing hpc hq hne)

/-- The store of the tail leaves one entry on a ring that was empty, and on that count the
submit thread signals. -/
theorem pushStored (H : s.LoopInv) {r : PendingSubmit} {tail : UInt32}
    (hpc : s.client = .pushing (.storeTail r tail)) (pushed : Priority → List PendingSubmit) :
    ({ s with
      session :=
        { s.session.setRing r.priority ((s.session.ring r.priority).storeTail (tail + 1)) with
          pushed }
      client := .rechecking r } : DispatchLoop).LoopInv := by
  have htail := H.tailCopy r tail (.inr hpc)
  refine ⟨H.alive, by simp, ?_⟩
  intro q hq hne
  by_cases hqr : q = r.priority
  · subst hqr
    by_cases hempty : (s.session.ring r.priority).cursor.tail =
        (s.session.ring r.priority).cursor.head
    · right
      refine ⟨rfl, ?_⟩
      simp only [RequestSession.setRing, Function.update_self, Ring.cursor_storeTail, ringCount,
        htail, hempty]
      exact UInt32.sub_eq_iff_eq_add.mpr (UInt32.add_comm _ _)
    · exact .inl (H.event_of_pushing hpc hq hempty)
  · refine .inl (H.event_of_pushing hpc hq ?_)
    simpa [RequestSession.setRing, hqr] using hne

/-- One access of a push. The store of the tail is the only one that moves a cursor. -/
theorem pushing (H : s.LoopInv) (hpc : s.client = .pushing pc)
    (hs : s.clientStep = some s') : s'.LoopInv := by
  cases pc with
  | loadHead r =>
    simp only [DispatchLoop.clientStep, hpc, pushStep, Option.some.injEq] at hs
    subst hs
    exact H.pushQuiet hpc rfl (by simp)
  | loadTail r head =>
    by_cases hfull : (s.session.ring r.priority).cursor.tail - head ≥
        (s.session.ring r.priority).cursor.capacity
    · have hpush : pushStep (s.session.ring r.priority) (.loadTail r head) =
          (s.session.ring r.priority, .returned .queueFull) := if_pos hfull
      simp only [DispatchLoop.clientStep, hpc, PushPc.entry, hpush, Option.some.injEq] at hs
      subst hs
      exact H.pushQuiet hpc rfl (by simp)
    · have hpush : pushStep (s.session.ring r.priority) (.loadTail r head) =
          (s.session.ring r.priority,
            .running (.writeSlot r (s.session.ring r.priority).cursor.tail)) := if_neg hfull
      simp only [DispatchLoop.clientStep, hpc, PushPc.entry, hpush, Option.some.injEq] at hs
      subst hs
      refine H.pushQuiet hpc rfl ?_
      rintro r' tail (h | h)
      · cases h
        rfl
      · cases h
  | writeSlot r tail =>
    simp only [DispatchLoop.clientStep, hpc, pushStep, Option.some.injEq] at hs
    subst hs
    refine H.pushQuiet hpc rfl ?_
    rintro r' tail' (h | h)
    · cases h
    · cases h
      exact H.tailCopy r tail (.inl hpc)
  | storeTail r tail =>
    simp only [DispatchLoop.clientStep, hpc, pushStep, PushPc.entry, Option.some.injEq] at hs
    subst hs
    exact H.pushStored hpc _

theorem clientStep (H : s.LoopInv) (hs : s.clientStep = some s') : s'.LoopInv := by
  cases hpc : s.client with
  | idle => simp [DispatchLoop.clientStep, hpc] at hs
  | checking r =>
    simp only [DispatchLoop.clientStep, hpc, H.alive, Option.some.injEq] at hs
    subst hs
    refine ⟨H.alive, by simp, ?_⟩
    intro q hq hne
    rcases H.watched q hq hne with hsome | hwill
    · exact .inl hsome
    · simp [willSignal, hpc] at hwill
  | pushing pc => exact H.pushing hpc hs
  | rechecking r =>
    simp only [DispatchLoop.clientStep, hpc, H.alive, Option.some.injEq] at hs
    subst hs
    refine H.client (by simp) ?_
    intro q hwill
    simpa [willSignal, hpc] using hwill
  | loadTail r =>
    simp only [DispatchLoop.clientStep, hpc, Option.some.injEq] at hs
    subst hs
    refine H.client (by simp) ?_
    intro q hwill
    obtain ⟨rfl, hone⟩ : r.priority = q ∧ ringCount (s.session.ring q).cursor = 1 := by
      simpa [willSignal, hpc] using hwill
    exact ⟨rfl, hone⟩
  | loadHead r tail =>
    simp only [DispatchLoop.clientStep, hpc] at hs
    split at hs
    · cases hs
      refine H.client (by simp) ?_
      intro q hwill
      obtain ⟨rfl, -⟩ : r.priority = q ∧ tail - (s.session.ring q).cursor.head = 1 := by
        simpa [willSignal, hpc] using hwill
      rfl
    · rename_i hmany
      cases hs
      refine H.client (by simp) ?_
      intro q hwill
      obtain ⟨rfl, hone⟩ : r.priority = q ∧ tail - (s.session.ring q).cursor.head = 1 := by
        simpa [willSignal, hpc] using hwill
      exact absurd hone hmany
  | signalling r =>
    simp only [DispatchLoop.clientStep, hpc, Option.some.injEq] at hs
    subst hs
    refine ⟨H.alive, by simp, ?_⟩
    intro q hq hne
    left
    by_cases hqr : q = r.priority
    · simp [hqr]
    · rcases H.watched q hq hne with hsome | hwill
      · simpa [hqr] using hsome
      · have hsame : r.priority = q := by simpa [willSignal, hpc] using hwill
        exact absurd hsame.symm hqr

theorem push (H : s.LoopInv) (r : PendingSubmit) (hpc : s.client = .idle) :
    ({ s with client := .checking r } : DispatchLoop).LoopInv := by
  refine H.client (by simp) ?_
  intro q hwill
  simp [willSignal, hpc] at hwill

theorem of_reach {caps : Priority → RingCapacity} {m : ℕ → PendingSubmit}
    (h : (dispatchLoop caps m).Reach Machine.Always s) : s.LoopInv := by
  refine Machine.Reach.invariant ?_ ?_ h
  · exact ⟨rfl, by simp [dispatchLoop], by simp [dispatchLoop, sawEmpty]⟩
  · intro s a s' H _ hs
    cases a with
    | push r =>
      simp only [dispatchLoop] at hs
      split at hs
      · rename_i hpc
        cases hs
        exact H.push r hpc
      · cases hs
    | client => exact H.clientStep hs
    | dispatcher ok => exact H.loopStep hs
    | pollTimeout =>
      simp only [dispatchLoop, pollTimeout] at hs
      split at hs
      · cases hs
        exact H.goto fun q hq => by simp [sawEmpty] at hq
      · cases hs

end LoopInv

end DispatchLoop

/-- In every run, whenever the dispatcher is blocked in `poll`, the eventfd of each ring
with entries is signalled, or the submit thread has just stored the tail of that ring
and is going to find one entry and signal. -/
theorem wakeupKept_of_reach (caps : Priority → RingCapacity) (m : ℕ → PendingSubmit)
    {s : DispatchLoop} (h : (dispatchLoop caps m).Reach Machine.Always s) : s.WakeupKept := by
  intro hpoll q hne
  exact (DispatchLoop.LoopInv.of_reach h).watched q (by simp [hpoll, DispatchLoop.sawEmpty]) hne

/-- Default rings of eight slots. -/
def defaultLoop : Machine DispatchLoop LoopAction :=
  dispatchLoop (fun _ => ⟨8, validRingSize_eight⟩) fun _ => ⟨0, .normal, {}⟩

/-- The dispatcher finds nothing to do and blocks; then the submit thread stores the tail
of the normal ring. -/
def blockThenPush : List LoopAction :=
  List.replicate 519 (.dispatcher false) ++
    .push (enqueueSubmitLocked 0 .normal {}) :: List.replicate 5 .client

theorem wakeupKept_blocked :
    ∃ s, defaultLoop.run defaultLoop.init blockThenPush = some s ∧ s.loop = .polling ∧
      (s.session.ring .normal).cursor.tail ≠ (s.session.ring .normal).cursor.head ∧
      s.event .normal = 0 ∧ s.WakeupKept := by
  have hrun : (defaultLoop.run defaultLoop.init blockThenPush).any
      (fun s => s.loop = .polling ∧
        (s.session.ring .normal).cursor.tail ≠ (s.session.ring .normal).cursor.head ∧
        s.event .normal = 0) = true := by decide +kernel
  obtain ⟨s, hs, hpoll, hne, hevent⟩ := Machine.exists_of_any hrun
  exact ⟨s, hs, hpoll, hne, hevent, wakeupKept_of_reach _ _ (Machine.reach_of_run blockThenPush hs)⟩

end MemRpc
