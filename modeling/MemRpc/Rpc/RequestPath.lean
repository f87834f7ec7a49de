import MemRpc.Lib.Machine
import MemRpc.Core.RingSteps

/-!
# The request path: submit thread, dispatchers and breaking servers

One client and the servers of the sessions it opens one after another. The client's
submit thread is `SubmitWorker` of `rpc_client.cpp`, each server is a `DrainQueue`
dispatcher, its executor's tasks and a thread inside `MarkSessionBroken`. Every
access to shared memory is a step of its own; what happens under a mutex of one
process and touches no shared memory is one step.

A client that finds no live session opens the next one: `CloseSession` of the
bootstrap contract makes the following `OpenSession` return a new session, and both
run under `lifecycleMutex_`. Other client threads may close the live session
whenever the submit thread does not hold `sessionMutex_`. What the environment
decides (executor capacity, payload checks, the moment of a break) is part of the
action.

## Main definitions

* `RequestSession`: one session as its server and the ring memory see it.
* `RequestPath`: the client with all its sessions.
* `requestPath`: the machine.
-/

namespace MemRpc

open Concurrency

/-- `static_cast<uint8_t>(Priority)`. -/
def Priority.toUInt8 : Priority → UInt8
  | .normal => 0
  | .high => 1

/-- `PendingSubmit` together with the ring entry built from it. `call` counts the
`InvokeAsync` calls of the client; it identifies the request where the 64-bit
`requestId` may repeat. -/
structure PendingSubmit where
  call : ℕ
  priority : Priority
  entry : RequestRingEntry
  deriving DecidableEq

/-- `EnqueueSubmitLocked` and `BuildRequestEntry`: request ids start at 1. -/
def enqueueSubmitLocked (call : ℕ) (priority : Priority) (entry : RequestRingEntry) :
    PendingSubmit where
  call := call
  priority := priority
  entry := { entry with requestId := UInt64.ofNat (call + 1), priority := priority.toUInt8 }

/-- The points of `DrainQueue`; `notFull` is its `ringBecameNotFull`. -/
inductive DispatcherPc
  | outside
  | draining (q : Priority) (notFull : Bool)
  | checking (q : Priority) (notFull : Bool)
  | popping (q : Priority) (notFull : Bool) (pc : PopPc PendingSubmit)
  | counting (q : Priority) (notFull : Bool) (r : PendingSubmit)
  | submitting (q : Priority) (notFull : Bool) (r : PendingSubmit)
  | signalling
  deriving DecidableEq

/-- The ring that a call of `DrainQueue` works on. -/
def DispatcherPc.queue? : DispatcherPc → Option Priority
  | .draining q _ | .checking q _ | .popping q _ _ | .counting q _ _ | .submitting q _ _ => some q
  | .outside | .signalling => none

/-- The points of `MarkSessionBroken`. -/
inductive BreakPc
  | outside
  | removing
  | signalling
  deriving DecidableEq, Repr

/-- One session: its shared words, its server's threads, and what was pushed to and
popped from each request ring. -/
structure RequestSession where
  state : SessionState := .alive
  ring : Priority → Ring PendingSubmit
  /-- The counter of `reqCreditEventFd`. -/
  credit : ℕ := 0
  dispatcher : DispatcherPc := .outside
  breaker : BreakPc := .outside
  /-- Popped requests waiting in the executors. -/
  tasks : List PendingSubmit := []
  /-- The requests handed to a handler. -/
  handled : List PendingSubmit := []
  pushed : Priority → List PendingSubmit := fun _ => []
  popped : Priority → List PendingSubmit := fun _ => []
  /-- Some `MarkSessionBroken` has returned. -/
  breakReturned : Bool := false

namespace RequestSession

/-- `SharedMemorySessionHost` creates a session with empty rings. -/
def create (caps : Priority → RingCapacity) (m : ℕ → PendingSubmit) : RequestSession where
  ring q := Ring.create (caps q).size m

def setRing (s : RequestSession) (q : Priority) (r : Ring PendingSubmit) : RequestSession :=
  { s with ring := Function.update s.ring q r }

/-- The end of `DrainQueue`: signal request credit if the ring became not full. -/
def leaveDrain (s : RequestSession) (notFull : Bool) : RequestSession :=
  { s with dispatcher := if notFull then .signalling else .outside }

/-- The test of `DrainQueue` after a pop. -/
def becameNotFull (c : RingCursor) : Bool := c.capacity != 0 && ringCount c + 1 == c.capacity

/-- The next step of the dispatcher. `ok` answers `HasCapacity` and `TrySubmit`. -/
def dispatchStep (s : RequestSession) (ok : Bool) : DispatcherPc → RequestSession
  | .outside => s
  | .draining q nf =>
    if ok then { s with dispatcher := .checking q nf } else s.leaveDrain nf
  | .checking q nf =>
    match s.state with
    | .alive => { s with dispatcher := .popping q nf .loadTail }
    | .broken => s.leaveDrain nf
  | .popping q nf pc =>
    match popStep (s.ring q) pc with
    | (r, .running pc') => { s.setRing q r with dispatcher := .popping q nf pc' }
    | (r, .returned (some e)) =>
      { s.setRing q r with
        popped := Function.update s.popped q (s.popped q ++ [e])
        dispatcher := .counting q nf e }
    | (r, .returned none) => (s.setRing q r).leaveDrain nf
  | .counting q nf e =>
    { s with dispatcher := .submitting q (nf || becameNotFull (s.ring q).cursor) e }
  | .submitting q nf e =>
    { s with
      tasks := if ok then s.tasks ++ [e] else s.tasks
      dispatcher := .draining q nf }
  | .signalling => { s with credit := s.credit + 1, dispatcher := .outside }

/-- A server pushes no requests. -/
theorem dispatchStep_pushed (s : RequestSession) (ok : Bool) (pc : DispatcherPc) :
    (s.dispatchStep ok pc).pushed = s.pushed := by
  cases pc with
  | draining q nf => cases ok <;> rfl
  | checking | popping => simp only [dispatchStep]; split <;> rfl
  | _ => rfl

/-- A dispatcher step keeps what only breaking and opening a session change. -/
theorem dispatchStep_frame (s : RequestSession) (ok : Bool) (pc : DispatcherPc) :
    (s.dispatchStep ok pc).state = s.state ∧ (s.dispatchStep ok pc).breaker = s.breaker ∧
      (s.dispatchStep ok pc).breakReturned = s.breakReturned := by
  cases pc with
  | draining q nf => cases ok <;> exact ⟨rfl, rfl, rfl⟩
  | checking | popping => simp only [dispatchStep]; split <;> exact ⟨rfl, rfl, rfl⟩
  | _ => exact ⟨rfl, rfl, rfl⟩

theorem tail_dispatchStep (s : RequestSession) (ok : Bool) (pc : DispatcherPc) (q : Priority) :
    ((s.dispatchStep ok pc).ring q).cursor.tail = (s.ring q).cursor.tail := by
  cases pc with
  | draining q' nf => cases ok <;> rfl
  | checking q' nf => simp only [dispatchStep]; split <;> rfl
  | popping q' nf pc =>
    have htail := tail_popStep (s.ring q') pc
    simp only [dispatchStep]
    rcases hs : popStep (s.ring q') pc with ⟨r, pc' | _ | e⟩ <;>
      by_cases hq : q = q' <;>
      simp_all [setRing, leaveDrain]
  | _ => rfl

/-- The next step of a thread in `MarkSessionBroken`. The payload sweep and the
response signal touch nothing of the request path. -/
def breakStep (s : RequestSession) : RequestSession :=
  match s.breaker with
  | .outside => { s with state := .broken, breaker := .removing }
  | .removing => { s with breaker := .signalling }
  | .signalling => { s with breaker := .outside, breakReturned := true }

@[simp] theorem breakStep_ring (s : RequestSession) : s.breakStep.ring = s.ring := by
  rw [breakStep]; split <;> rfl

@[simp] theorem breakStep_pushed (s : RequestSession) : s.breakStep.pushed = s.pushed := by
  rw [breakStep]; split <;> rfl

@[simp] theorem breakStep_popped (s : RequestSession) : s.breakStep.popped = s.popped := by
  rw [breakStep]; split <;> rfl

@[simp] theorem breakStep_dispatcher (s : RequestSession) :
    s.breakStep.dispatcher = s.dispatcher := by
  rw [breakStep]; split <;> rfl

@[simp] theorem breakStep_credit (s : RequestSession) : s.breakStep.credit = s.credit := by
  rw [breakStep]; split <;> rfl

@[simp] theorem breakStep_tasks (s : RequestSession) : s.breakStep.tasks = s.tasks := by
  rw [breakStep]; split <;> rfl

@[simp] theorem breakStep_handled (s : RequestSession) : s.breakStep.handled = s.handled := by
  rw [breakStep]; split <;> rfl

/-- An executor runs a task. `valid` answers the payload checks of `ProcessEntry`,
which answer a malformed entry without a handler. -/
def runTask (s : RequestSession) (i : ℕ) (valid : Bool) : Option RequestSession :=
  s.tasks[i]?.map fun r =>
    { s with
      tasks := s.tasks.eraseIdx i
      handled := if valid then s.handled ++ [r] else s.handled }

end RequestSession

/-- The points of `SubmitWorker`: `checkState`, `pushing` and `recheck` are inside
`Session::PushRequest` with `sessionMutex_` held, `syncing` to `waiting` inside
`WaitForRequestCredit`. `syncing` remembers the session whose ring was full. -/
inductive SubmitPc
  | idle
  | ready (r : PendingSubmit)
  | admitting (r : PendingSubmit)
  | checkState (r : PendingSubmit) (k : ℕ)
  | pushing (k : ℕ) (pc : PushPc PendingSubmit)
  | recheck (r : PendingSubmit) (k : ℕ)
  | disconnected (r : PendingSubmit)
  | syncing (r : PendingSubmit) (k : ℕ)
  | unsynced (r : PendingSubmit)
  | waiting (r : PendingSubmit) (k : ℕ)
  deriving DecidableEq

/-- The submit thread holds `sessionMutex_`. -/
def SubmitPc.holdsLock : SubmitPc → Bool
  | .checkState _ _ | .pushing _ _ | .recheck _ _ => true
  | _ => false

/-- The client and its sessions, numbered in the order they are opened. -/
structure RequestPath where
  calls : ℕ := 0
  queue : List PendingSubmit := []
  submit : SubmitPc := .idle
  opened : ℕ := 0
  current : Option ℕ := none
  session : ℕ → RequestSession

namespace RequestPath

def setSession (s : RequestPath) (k : ℕ) (t : RequestSession) : RequestPath :=
  { s with session := Function.update s.session k t }

/-- The next access of `PushRingEntry` on session `k`. -/
def pushAccess (s : RequestPath) (k : ℕ) (pc : PushPc PendingSubmit) : RequestPath :=
  let t := s.session k
  let q := pc.entry.priority
  match pushStep (t.ring q) pc with
  | (r, .running pc') => { s.setSession k (t.setRing q r) with submit := .pushing k pc' }
  | (r, .returned .ok) =>
    { s.setSession k
        { t.setRing q r with
          pushed := Function.update t.pushed q (t.pushed q ++ [pc.entry]) } with
      submit := .recheck pc.entry k }
  | (r, .returned _) => { s.setSession k (t.setRing q r) with submit := .syncing pc.entry k }

/-- The next step of the submit thread, if it is not blocked. -/
def submitStep (s : RequestPath) : Option RequestPath :=
  match s.submit with
  | .idle =>
    match s.queue with
    | [] => none
    | r :: rest => some { s with queue := rest, submit := .ready r }
  | .ready r => if s.current.isSome then some { s with submit := .admitting r } else none
  | .admitting r =>
    match s.current with
    | none => some { s with submit := .disconnected r }
    | some k => some { s with submit := .checkState r k }
  | .checkState r k =>
    match (s.session k).state with
    | .alive => some { s with submit := .pushing k (.loadHead r) }
    | .broken => some { s with submit := .disconnected r }
  | .pushing k pc => some (s.pushAccess k pc)
  | .recheck r k =>
    match (s.session k).state with
    | .alive => some { s with submit := .idle }
    | .broken => some { s with submit := .disconnected r }
  | .disconnected r => some { s with current := none, submit := .ready r }
  | .syncing r _ =>
    match s.current with
    | none => some { s with submit := .unsynced r }
    | some k => some { s with submit := .waiting r k }
  | .unsynced r =>
    if s.current.isNone then some { s with submit := .ready r }
    else some { s with submit := .disconnected r }
  | .waiting r k =>
    if (s.session k).credit ≠ 0 then
      some { s.setSession k { s.session k with credit := 0 } with submit := .ready r }
    else if s.current ≠ some k then
      some { s with submit := .ready r }
    else none

/-- What one step of the submit thread can do. -/
inductive SubmitMove (s : RequestPath) : RequestPath → Prop
  | take {r : PendingSubmit} {rest : List PendingSubmit} (hpc : s.submit = .idle)
      (hqueue : s.queue = r :: rest) : SubmitMove s { s with queue := rest, submit := .ready r }
  | live {r : PendingSubmit} (hpc : s.submit = .ready r) :
      SubmitMove s { s with submit := .admitting r }
  | noSession {r : PendingSubmit} (hpc : s.submit = .admitting r) :
      SubmitMove s { s with submit := .disconnected r }
  | lock {r : PendingSubmit} {k : ℕ} (hpc : s.submit = .admitting r)
      (hcurrent : s.current = some k) : SubmitMove s { s with submit := .checkState r k }
  | enter {r : PendingSubmit} {k : ℕ} (hpc : s.submit = .checkState r k)
      (hstate : (s.session k).state = .alive) :
      SubmitMove s { s with submit := .pushing k (.loadHead r) }
  | refused {r : PendingSubmit} {k : ℕ} (hpc : s.submit = .checkState r k) :
      SubmitMove s { s with submit := .disconnected r }
  | access {k : ℕ} {pc : PushPc PendingSubmit} (hpc : s.submit = .pushing k pc) :
      SubmitMove s (s.pushAccess k pc)
  | accepted {r : PendingSubmit} {k : ℕ} (hpc : s.submit = .recheck r k) :
      SubmitMove s { s with submit := .idle }
  | lost {r : PendingSubmit} {k : ℕ} (hpc : s.submit = .recheck r k)
      (hstate : (s.session k).state = .broken) :
      SubmitMove s { s with submit := .disconnected r }
  | close {r : PendingSubmit} (hpc : s.submit = .disconnected r) :
      SubmitMove s { s with current := none, submit := .ready r }
  | sync {r : PendingSubmit} {k k' : ℕ} (hpc : s.submit = .syncing r k)
      (hcurrent : s.current = some k') : SubmitMove s { s with submit := .waiting r k' }
  | unsync {r : PendingSubmit} {k : ℕ} (hpc : s.submit = .syncing r k) :
      SubmitMove s { s with submit := .unsynced r }
  | retry {r : PendingSubmit} (hpc : s.submit = .unsynced r) :
      SubmitMove s { s with submit := .ready r }
  | failed {r : PendingSubmit} (hpc : s.submit = .unsynced r) :
      SubmitMove s { s with submit := .disconnected r }
  | wake {r : PendingSubmit} {k : ℕ} (hpc : s.submit = .waiting r k) :
      SubmitMove s
        { s.setSession k { s.session k with credit := 0 } with submit := .ready r }
  | moved {r : PendingSubmit} {k : ℕ} (hpc : s.submit = .waiting r k) :
      SubmitMove s { s with submit := .ready r }

theorem submitStep_move {s s' : RequestPath} (hs : s.submitStep = some s') : SubmitMove s s' := by
  rw [submitStep] at hs
  cases hpc : s.submit with
  | idle =>
    cases hqueue : s.queue with
    | nil => simp [hpc, hqueue] at hs
    | cons r rest =>
      simp only [hpc, hqueue, Option.some.injEq] at hs
      exact hs ▸ .take hpc hqueue
  | ready r =>
    simp only [hpc, Option.ite_none_right_eq_some, Option.some.injEq] at hs
    exact hs.2 ▸ .live hpc
  | admitting r =>
    cases hcurrent : s.current with
    | none =>
      simp only [hpc, hcurrent, Option.some.injEq] at hs
      exact hs ▸ hcurrent ▸ .noSession hpc
    | some k =>
      simp only [hpc, hcurrent, Option.some.injEq] at hs
      exact hs ▸ hcurrent ▸ .lock hpc hcurrent
  | checkState r k =>
    cases hstate : (s.session k).state with
    | alive =>
      simp only [hpc, hstate, Option.some.injEq] at hs
      exact hs ▸ .enter hpc hstate
    | broken =>
      simp only [hpc, hstate, Option.some.injEq] at hs
      exact hs ▸ .refused hpc
  | pushing k pc =>
    simp only [hpc, Option.some.injEq] at hs
    exact hs ▸ .access hpc
  | recheck r k =>
    cases hstate : (s.session k).state with
    | alive =>
      simp only [hpc, hstate, Option.some.injEq] at hs
      exact hs ▸ .accepted hpc
    | broken =>
      simp only [hpc, hstate, Option.some.injEq] at hs
      exact hs ▸ .lost hpc hstate
  | disconnected r =>
    simp only [hpc, Option.some.injEq] at hs
    exact hs ▸ .close hpc
  | syncing r k =>
    cases hcurrent : s.current with
    | none =>
      simp only [hpc, hcurrent, Option.some.injEq] at hs
      exact hs ▸ hcurrent ▸ .unsync hpc
    | some k' =>
      simp only [hpc, hcurrent, Option.some.injEq] at hs
      exact hs ▸ hcurrent ▸ .sync hpc hcurrent
  | unsynced r =>
    by_cases hcurrent : s.current.isNone
    · simp only [hpc, if_pos hcurrent, Option.some.injEq] at hs
      exact hs ▸ .retry hpc
    · simp only [hpc, if_neg hcurrent, Option.some.injEq] at hs
      exact hs ▸ .failed hpc
  | waiting r k =>
    by_cases hcredit : (s.session k).credit ≠ 0
    · simp only [hpc, if_pos hcredit, Option.some.injEq] at hs
      exact hs ▸ .wake hpc
    · simp only [hpc, if_neg hcredit, Option.ite_none_right_eq_some, Option.some.injEq] at hs
      exact hs.2 ▸ .moved hpc

/-- `SubmitOne` resolves the request with a failure: no session is to be had, the
payload is rejected, or the client is stopping. -/
def giveUp (s : RequestPath) : Option RequestPath :=
  match s.submit with
  | .ready _ | .admitting _ => some { s with submit := .idle }
  | _ => none

/-- `WaitForRequestCredit` fails and the submit thread closes the session. -/
def waitFailed (s : RequestPath) : Option RequestPath :=
  match s.submit with
  | .waiting r _ => some { s with submit := .disconnected r }
  | _ => none

end RequestPath

/-- Who moves. -/
inductive RequestAction
  | invoke (priority : Priority) (entry : RequestRingEntry)
  | rejectInvoke
  | submit
  | giveUp
  | waitFailed
  | openSession
  | closeSession
  | drain (k : ℕ) (q : Priority)
  | dispatch (k : ℕ) (ok : Bool)
  | runTask (k i : ℕ) (valid : Bool)
  | markBroken (k : ℕ)

/-- All interleavings of a client and its servers; `caps` are the ring sizes of
each session and `m` what fresh slots hold. -/
def requestPath (caps : ℕ → Priority → RingCapacity) (m : ℕ → PendingSubmit) :
    Machine RequestPath RequestAction where
  init := { session := fun k => RequestSession.create (caps k) m }
  step s
    | .invoke priority entry =>
      some { s with
        calls := s.calls + 1
        queue := s.queue ++ [enqueueSubmitLocked s.calls priority entry] }
    | .rejectInvoke => some { s with calls := s.calls + 1 }
    | .submit => s.submitStep
    | .giveUp => s.giveUp
    | .waitFailed => s.waitFailed
    | .openSession =>
      if s.submit.holdsLock = false ∧ s.current = none then
        some { s.setSession s.opened { s.session s.opened with state := .alive } with
          current := some s.opened
          opened := s.opened + 1 }
      else none
    | .closeSession =>
      if s.submit.holdsLock = false then some { s with current := none } else none
    | .drain k q =>
      match (s.session k).dispatcher with
      | .outside => some (s.setSession k { s.session k with dispatcher := .draining q false })
      | _ => none
    | .dispatch k ok =>
      some (s.setSession k ((s.session k).dispatchStep ok (s.session k).dispatcher))
    | .runTask k i valid => ((s.session k).runTask i valid).map (s.setSession k)
    | .markBroken k => some (s.setSession k (s.session k).breakStep)

/-- What one step of the system can do. -/
inductive RequestMove (s : RequestPath) : RequestAction → RequestPath → Prop
  | invoke (priority : Priority) (entry : RequestRingEntry) :
      RequestMove s (.invoke priority entry)
        { s with
          calls := s.calls + 1
          queue := s.queue ++ [enqueueSubmitLocked s.calls priority entry] }
  | rejectInvoke : RequestMove s .rejectInvoke { s with calls := s.calls + 1 }
  | submit {s' : RequestPath} (hmove : RequestPath.SubmitMove s s') : RequestMove s .submit s'
  | giveUp {r : PendingSubmit} (hpc : s.submit = .ready r ∨ s.submit = .admitting r) :
      RequestMove s .giveUp { s with submit := .idle }
  | waitFailed {r : PendingSubmit} {k : ℕ} (hpc : s.submit = .waiting r k) :
      RequestMove s .waitFailed { s with submit := .disconnected r }
  | openSession (hlock : s.submit.holdsLock = false) (hcurrent : s.current = none) :
      RequestMove s .openSession
        { s.setSession s.opened { s.session s.opened with state := .alive } with
          current := some s.opened
          opened := s.opened + 1 }
  | closeSession (hlock : s.submit.holdsLock = false) :
      RequestMove s .closeSession { s with current := none }
  | drain (k : ℕ) (q : Priority) (hpc : (s.session k).dispatcher = .outside) :
      RequestMove s (.drain k q)
        (s.setSession k { s.session k with dispatcher := .draining q false })
  | dispatch (k : ℕ) (ok : Bool) :
      RequestMove s (.dispatch k ok)
        (s.setSession k ((s.session k).dispatchStep ok (s.session k).dispatcher))
  | runTask (k : ℕ) {i : ℕ} {valid : Bool} {t : RequestSession}
      (hrun : (s.session k).runTask i valid = some t) :
      RequestMove s (.runTask k i valid) (s.setSession k t)
  | markBroken (k : ℕ) : RequestMove s (.markBroken k) (s.setSession k (s.session k).breakStep)

theorem requestPath_move {caps : ℕ → Priority → RingCapacity} {m : ℕ → PendingSubmit}
    {s s' : RequestPath} {a : RequestAction} (hs : (requestPath caps m).step s a = some s') :
    RequestMove s a s' := by
  cases a with
  | invoke priority entry =>
    simp only [requestPath, Option.some.injEq] at hs
    exact hs ▸ .invoke priority entry
  | rejectInvoke =>
    simp only [requestPath, Option.some.injEq] at hs
    exact hs ▸ .rejectInvoke
  | submit => exact .submit (RequestPath.submitStep_move hs)
  | giveUp =>
    simp only [requestPath, RequestPath.giveUp] at hs
    split at hs
    · rename_i r hpc
      cases hs
      exact .giveUp (.inl hpc)
    · rename_i r hpc
      cases hs
      exact .giveUp (.inr hpc)
    · cases hs
  | waitFailed =>
    simp only [requestPath, RequestPath.waitFailed] at hs
    split at hs
    · rename_i r k hpc
      cases hs
      exact .waitFailed hpc
    · cases hs
  | openSession =>
    simp only [requestPath, Option.ite_none_right_eq_some, Option.some.injEq] at hs
    obtain ⟨⟨hlock, hcurrent⟩, rfl⟩ := hs
    exact .openSession hlock hcurrent
  | closeSession =>
    simp only [requestPath, Option.ite_none_right_eq_some, Option.some.injEq] at hs
    obtain ⟨hlock, rfl⟩ := hs
    exact .closeSession hlock
  | drain k q =>
    cases hpc : (s.session k).dispatcher with
    | outside =>
      simp only [requestPath, hpc, Option.some.injEq] at hs
      exact hs ▸ .drain k q hpc
    | _ => simp [requestPath, hpc] at hs
  | dispatch k ok =>
    simp only [requestPath, Option.some.injEq] at hs
    exact hs ▸ .dispatch k ok
  | runTask k i valid =>
    simp only [requestPath, Option.map_eq_some_iff] at hs
    obtain ⟨t, hrun, rfl⟩ := hs
    exact .runTask k hrun
  | markBroken k =>
    simp only [requestPath, Option.some.injEq] at hs
    exact hs ▸ .markBroken k

/-! ## The rings of the request path

Any relation that is kept by the steps of the ring calls is kept on every ring of
every session. -/

/-- The pop a dispatcher has under way on a ring. -/
def DispatcherPc.popOn (q : Priority) : DispatcherPc → Option (PopPc PendingSubmit)
  | .popping q' _ pc => if q' = q then some pc else none
  | _ => none

/-- The push the submit thread has under way on a ring. -/
def SubmitPc.pushOn (k : ℕ) (q : Priority) : SubmitPc → Option (PushPc PendingSubmit)
  | .pushing k' pc => if k' = k ∧ pc.entry.priority = q then some pc else none
  | _ => none

section Rings

variable {R : Ring PendingSubmit → List PendingSubmit → List PendingSubmit →
    Option (PushPc PendingSubmit) → Option (PopPc PendingSubmit) → Prop}
  {guard : Ring PendingSubmit → List PendingSubmit → PushPc PendingSubmit → Prop}

/-- Both request rings of a session are related to their histories. -/
def RequestSession.Rings
    (R : Ring PendingSubmit → List PendingSubmit → List PendingSubmit →
      Option (PushPc PendingSubmit) → Option (PopPc PendingSubmit) → Prop)
    (t : RequestSession) (producer : Priority → Option (PushPc PendingSubmit)) : Prop :=
  ∀ q, R (t.ring q) (t.pushed q) (t.popped q) (producer q) (t.dispatcher.popOn q)

namespace RequestSession.Rings
variable {t t' : RequestSession} {producer : Priority → Option (PushPc PendingSubmit)}

theorem congr (H : t.Rings R producer) (hring : t'.ring = t.ring)
    (hpushed : t'.pushed = t.pushed) (hpopped : t'.popped = t.popped)
    (hpc : t'.dispatcher = t.dispatcher) : t'.Rings R producer := by
  intro q
  rw [hring, hpushed, hpopped, hpc]
  exact H q

/-- The dispatcher may be anywhere outside a pop. -/
theorem leave (hR : RingInvariant R guard) (H : t.Rings R producer) (hring : t'.ring = t.ring)
    (hpushed : t'.pushed = t.pushed) (hpopped : t'.popped = t.popped)
    (hpc : ∀ q, t'.dispatcher.popOn q = none) : t'.Rings R producer := by
  intro q
  rw [hring, hpushed, hpopped, hpc q]
  exact hR.endPop (H q)

theorem popOn_leaveDrain (t : RequestSession) (nf : Bool) (q : Priority) :
    (t.leaveDrain nf).dispatcher.popOn q = none := by
  cases nf <;> rfl

/-- One access of a pop. -/
theorem popAccess (hR : RingInvariant R guard) (H : t.Rings R producer) {q : Priority}
    {nf : Bool} {pc : PopPc PendingSubmit} (ok : Bool) (hpc : t.dispatcher = .popping q nf pc) :
    (t.dispatchStep ok (.popping q nf pc)).Rings R producer := by
  have hother : ∀ q', q' ≠ q → t.dispatcher.popOn q' = none := by
    intro q' hne
    simp [hpc, DispatcherPc.popOn, Ne.symm hne]
  have hq := H q
  simp only [hpc, DispatcherPc.popOn, if_true] at hq
  simp only [dispatchStep]
  intro q'
  have hq' := H q'
  rcases hs : popStep (t.ring q) pc with ⟨r, pc' | _ | e⟩
  · by_cases hqq : q' = q
    · subst hqq
      simpa [setRing, DispatcherPc.popOn] using hR.pop_running hq hs
    · rw [hother q' hqq] at hq'
      simpa [setRing, DispatcherPc.popOn, hqq, Ne.symm hqq] using hq'
  · rw [popOn_leaveDrain]
    by_cases hqq : q' = q
    · subst hqq
      rcases popStep_returned hs with ⟨-, rfl, -⟩ | ⟨e, head, he, -⟩
      · simpa [setRing, leaveDrain] using hR.endPop hq
      · simp at he
    · simpa [setRing, leaveDrain, hqq] using hR.endPop hq'
  · by_cases hqq : q' = q
    · subst hqq
      simpa [setRing, DispatcherPc.popOn] using hR.pop_some hq hs
    · simpa [setRing, DispatcherPc.popOn, hqq] using hR.endPop hq'

/-- One step of the dispatcher. -/
theorem dispatchStep (hR : RingInvariant R guard) (H : t.Rings R producer) (ok : Bool) :
    (t.dispatchStep ok t.dispatcher).Rings R producer := by
  cases hpc : t.dispatcher with
  | outside => exact H
  | draining q nf =>
    cases ok with
    | true => exact H.leave hR rfl rfl rfl (fun _ => rfl)
    | false => exact H.leave hR rfl rfl rfl (popOn_leaveDrain t nf)
  | checking q nf =>
    cases hstate : t.state with
    | alive =>
      simp only [RequestSession.dispatchStep, hstate]
      intro q'
      have hq' := H q'
      rw [hpc] at hq'
      by_cases hqq : q = q'
      · simpa [DispatcherPc.popOn, hqq] using hR.beginPop hq'
      · simpa [DispatcherPc.popOn, hqq] using hq'
    | broken =>
      simp only [RequestSession.dispatchStep, hstate]
      exact H.leave hR rfl rfl rfl (popOn_leaveDrain t nf)
  | popping q nf pc => exact H.popAccess hR ok hpc
  | counting | submitting | signalling => exact H.leave hR rfl rfl rfl (fun _ => rfl)

theorem breakStep (H : t.Rings R producer) : t.breakStep.Rings R producer :=
  H.congr t.breakStep_ring t.breakStep_pushed t.breakStep_popped t.breakStep_dispatcher

theorem runTask (H : t.Rings R producer) {i : ℕ} {valid : Bool}
    (hrun : t.runTask i valid = some t') : t'.Rings R producer := by
  simp only [RequestSession.runTask, Option.map_eq_some_iff] at hrun
  obtain ⟨r, -, rfl⟩ := hrun
  exact H.congr rfl rfl rfl rfl

end RequestSession.Rings

/-- The rings of all sessions are related to their histories. -/
def RequestPath.Rings
    (R : Ring PendingSubmit → List PendingSubmit → List PendingSubmit →
      Option (PushPc PendingSubmit) → Option (PopPc PendingSubmit) → Prop)
    (s : RequestPath) : Prop :=
  ∀ k, (s.session k).Rings R fun q => s.submit.pushOn k q

/-- The guard on the push access the submit thread is about to make. -/
def RequestPath.PushGuard
    (guard : Ring PendingSubmit → List PendingSubmit → PushPc PendingSubmit → Prop)
    (s : RequestPath) : Prop :=
  ∀ k pc, s.submit = .pushing k pc →
    guard ((s.session k).ring pc.entry.priority) ((s.session k).pushed pc.entry.priority) pc

namespace RequestPath.Rings
variable {s s' : RequestPath}

/-- A server step changes one session. -/
theorem setSession (H : s.Rings R) {k : ℕ} {t : RequestSession}
    (ht : t.Rings R fun q => s.submit.pushOn k q) : (s.setSession k t).Rings R := by
  intro k'
  by_cases hk : k' = k
  · subst hk
    simpa [RequestPath.setSession] using ht
  · simpa [RequestPath.setSession, hk] using H k'

/-- The submit thread may be anywhere outside a push. -/
theorem leave (hR : RingInvariant R guard) (H : s.Rings R) (hsession : s'.session = s.session)
    (hpc : ∀ k q, s'.submit.pushOn k q = none) : s'.Rings R := by
  intro k q
  simp only [hsession, hpc k q]
  exact hR.endPush (H k q)

theorem enter (hR : RingInvariant R guard) (H : s.Rings R) {r : PendingSubmit} {k : ℕ}
    (hpc : s.submit = .checkState r k) :
    ({ s with submit := .pushing k (.loadHead r) } : RequestPath).Rings R := by
  intro k' q
  have hq := H k' q
  simp only [hpc] at hq
  by_cases hkq : k = k' ∧ r.priority = q
  · simpa [SubmitPc.pushOn, PushPc.entry, hkq] using hR.beginPush r hq
  · simpa [SubmitPc.pushOn, PushPc.entry, hkq] using hq

/-- One access of a push. -/
theorem pushAccess (hR : RingInvariant R guard) (H : s.Rings R) (hguard : s.PushGuard guard)
    {k : ℕ} {pc : PushPc PendingSubmit} (hpc : s.submit = .pushing k pc) :
    (s.pushAccess k pc).Rings R := by
  have hq := H k pc.entry.priority
  simp only [hpc, SubmitPc.pushOn, and_self, if_true] at hq
  have hg := hguard k pc hpc
  simp only [RequestPath.pushAccess]
  intro k' q'
  have hq' := H k' q'
  by_cases hkq : k' = k ∧ q' = pc.entry.priority
  · obtain ⟨rfl, rfl⟩ := hkq
    rcases hs : pushStep ((s.session k').ring pc.entry.priority) pc with ⟨r, pc' | status⟩
    · have hentry := (pushStep_running hs).2
      simpa [RequestPath.setSession, RequestSession.setRing, SubmitPc.pushOn, hentry]
        using hR.push_running hq hg hs
    · rcases pushStep_returned hs with ⟨rfl, rfl, -⟩ | ⟨rfl, -⟩
      · simpa [RequestPath.setSession, RequestSession.setRing, SubmitPc.pushOn]
          using hR.endPush hq
      · simpa [RequestPath.setSession, RequestSession.setRing, SubmitPc.pushOn]
          using hR.push_ok hq hs
  · have hne : ¬ (k = k' ∧ pc.entry.priority = q') := fun h => hkq ⟨h.1.symm, h.2.symm⟩
    simp only [hpc, SubmitPc.pushOn, if_neg hne] at hq'
    rcases hs : pushStep ((s.session k).ring pc.entry.priority) pc with ⟨r, pc' | status⟩
    · have hentry := (pushStep_running hs).2
      by_cases hk : k' = k
      · have hqq : q' ≠ pc.entry.priority := fun h => hkq ⟨hk, h⟩
        subst hk
        simpa [RequestPath.setSession, RequestSession.setRing, SubmitPc.pushOn, hentry, hqq,
          Ne.symm hqq] using hq'
      · simpa [RequestPath.setSession, SubmitPc.pushOn, hk, Ne.symm hk] using hq'
    · by_cases hk : k' = k
      · have hqq : q' ≠ pc.entry.priority := fun h => hkq ⟨hk, h⟩
        subst hk
        cases status <;>
          simpa [RequestPath.setSession, RequestSession.setRing, SubmitPc.pushOn, hqq] using hq'
      · cases status <;> simpa [RequestPath.setSession, SubmitPc.pushOn, hk] using hq'

theorem submitMove (hR : RingInvariant R guard) (H : s.Rings R) (hguard : s.PushGuard guard)
    (hmove : SubmitMove s s') : s'.Rings R := by
  cases hmove with
  | enter hpc _ => exact H.enter hR hpc
  | access hpc => exact H.pushAccess hR hguard hpc
  | @wake r k hpc =>
    have hquiet : (s.setSession k { s.session k with credit := 0 }).Rings R :=
      H.setSession ((H k).congr rfl rfl rfl rfl)
    exact hquiet.leave hR rfl fun _ _ => rfl
  | _ => exact H.leave hR rfl fun _ _ => rfl

/-- Every step keeps the rings related. -/
theorem move (hR : RingInvariant R guard) {a : RequestAction} (H : s.Rings R)
    (hguard : a = .submit → s.PushGuard guard) (hmove : RequestMove s a s') : s'.Rings R := by
  cases hmove with
  | invoke | rejectInvoke => exact H
  | submit hsubmit => exact H.submitMove hR (hguard rfl) hsubmit
  | giveUp | waitFailed => exact H.leave hR rfl fun _ _ => rfl
  | openSession hlock hcurrent =>
    exact H.setSession (k := s.opened) ((H s.opened).congr rfl rfl rfl rfl)
  | closeSession hlock => exact H
  | drain k q hpc => exact H.setSession ((H k).leave hR rfl rfl rfl fun _ => rfl)
  | dispatch k ok => exact H.setSession ((H k).dispatchStep hR ok)
  | runTask k hrun => exact H.setSession ((H k).runTask hrun)
  | markBroken k => exact H.setSession (H k).breakStep

theorem init (hR : RingInvariant R guard) (caps : ℕ → Priority → RingCapacity)
    (m : ℕ → PendingSubmit) : (requestPath caps m).init.Rings R :=
  fun _ _ => hR.create _ _

end RequestPath.Rings

end Rings

end MemRpc
