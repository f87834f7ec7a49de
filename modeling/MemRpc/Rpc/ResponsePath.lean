import MemRpc.Lib.Machine
import MemRpc.Core.RingSteps

/-!
# The response path: response writer, response worker and the pending store

One session from the server's `ResponseWriterLoop` to the client's `ResponseWorker`.
The writer pushes completed entries with `PushResponseWithRetry` and waits for response
credit on a full ring; the worker alternates `DrainResponseRing` with a poll of the
response eventfd, and resolves pending requests from the replies it pops. A server
thread may run `MarkSessionBroken` at any time, and the client's submit thread adds to
the pending store what it publishes.

The entries the writer pushes are arbitrary, and so is the outcome of a push on the
request ring, whose own machine is `requestPath`; eventfds are counters that a read
resets. The session stays the client's live one, so the poll handle is kept; an entry
on which the client gives the session up (`HandleEngineDeath`) ends the run.

## Main definitions

* `ResponsePath`: the session with the threads of both sides.
* `responsePath`: the machine.
-/

namespace MemRpc

open Concurrency

/-- The points of `ResponseWriterLoop` with one entry: `PushResponse` from `checking`
to `rechecking`, then `WaitForResponseCredit` or the signal. -/
inductive WriterPc
  | idle
  | checking (e : ResponseRingEntry)
  | pushing (pc : PushPc ResponseRingEntry)
  | rechecking (e : ResponseRingEntry)
  | full (e : ResponseRingEntry)
  | waiting (e : ResponseRingEntry)
  | signalling
  deriving DecidableEq

/-- The points of `ResponseWorker::Run`. `drained` is the local of `DrainResponseRing`,
`notFull` its `ringBecameNotFull`. -/
inductive WorkerPc
  | draining (drained : Bool)
  | checking (drained notFull : Bool)
  | popping (drained notFull : Bool) (pc : PopPc ResponseRingEntry)
  | signalling (e : ResponseRingEntry)
  | delivering (e : ResponseRingEntry)
  | syncing
  | polling
  deriving DecidableEq

/-- The points of `TryPushRequest` for one request, from its entry in the store to the
re-check of `PushRequest`. -/
inductive StorePc
  | idle
  | checking (id : UInt64)
  | pushing (id : UInt64)
  | rechecking (id : UInt64)
  deriving DecidableEq

/-- The points of `MarkSessionBroken`. -/
inductive MarkPc
  | outside
  | removing
  | signalling
  deriving DecidableEq, Repr

/-- The session, its two sides, and the pending store of the client. -/
structure ResponsePath where
  state : SessionState := .alive
  ring : Ring ResponseRingEntry
  /-- The counter of `respCreditEventFd`. -/
  credit : ℕ := 0
  /-- The counter of `respEventFd`. -/
  respEvent : ℕ := 0
  writer : WriterPc := .idle
  worker : WorkerPc := .draining false
  marker : MarkPc := .outside
  submit : StorePc := .idle
  /-- The keys of `requestStore_`. -/
  store : List UInt64 := []
  /-- The requests whose last `PushRequest` returned `Ok`. -/
  published : List UInt64 := []
  pushed : List ResponseRingEntry := []
  popped : List ResponseRingEntry := []
  /-- `MarkSessionBroken` has signalled the response eventfd. -/
  breakSignalled : Bool := false
  /-- The worker has consumed the eventfd since. -/
  breakConsumed : Bool := false

/-- `Take`: remove a key. -/
def takeId (store : List UInt64) (id : UInt64) : List UInt64 := store.filter (· ≠ id)

@[simp] theorem mem_takeId {store : List UInt64} {id j : UInt64} :
    j ∈ takeId store id ↔ j ∈ store ∧ j ≠ id := by
  simp [takeId]

namespace ResponsePath

/-- The next step of the response writer, if it is not blocked. -/
def writerStep (s : ResponsePath) : Option ResponsePath :=
  match s.writer with
  | .idle => none
  | .checking e =>
    match s.state with
    | .alive => some { s with writer := .pushing (.loadHead e) }
    | .broken => some { s with writer := .idle }
  | .pushing pc =>
    match pushStep s.ring pc with
    | (r, .running pc') => some { s with ring := r, writer := .pushing pc' }
    | (r, .returned .ok) =>
      some { s with
        ring := r
        pushed := s.pushed ++ [pc.entry]
        writer := .rechecking pc.entry }
    | (r, .returned _) => some { s with ring := r, writer := .full pc.entry }
  | .rechecking _ =>
    match s.state with
    | .alive => some { s with writer := .signalling }
    | .broken => some { s with writer := .idle }
  | .full e => some { s with writer := .waiting e }
  | .waiting e =>
    if s.credit ≠ 0 then some { s with credit := 0, writer := .checking e } else none
  | .signalling => some { s with respEvent := s.respEvent + 1, writer := .idle }

/-- The retry budget of an entry is spent. -/
def writerTimeout (s : ResponsePath) : Option ResponsePath :=
  match s.writer with
  | .full _ | .waiting _ => some { s with writer := .idle }
  | _ => none

/-- `DrainResponseRing` returns: `Run` drains again after a delivery and polls
otherwise. -/
def drainReturn (s : ResponsePath) (drained : Bool) : ResponsePath :=
  { s with worker := if drained then .draining false else .syncing }

/-- `ringBecameNotFull` of `DrainResponseRing`, read before the pop. -/
def countsFull (c : RingCursor) : Bool := c.capacity != 0 && ringCount c == c.capacity

/-- The next step of the response worker, if it is not blocked. A reply takes its
request from the store, an event does not. -/
def workerStep (s : ResponsePath) : Option ResponsePath :=
  match s.worker with
  | .draining d => some { s with worker := .checking d (countsFull s.ring.cursor) }
  | .checking d nf =>
    match s.state with
    | .alive => some { s with worker := .popping d nf .loadTail }
    | .broken => some (s.drainReturn d)
  | .popping d nf pc =>
    match popStep s.ring pc with
    | (r, .running pc') => some { s with ring := r, worker := .popping d nf pc' }
    | (r, .returned (some e)) =>
      some { s with
        ring := r
        popped := s.popped ++ [e]
        worker := if nf then .signalling e else .delivering e }
    | (r, .returned none) => some ({ s with ring := r }.drainReturn d)
  | .signalling e => some { s with credit := s.credit + 1, worker := .delivering e }
  | .delivering e =>
    if responseInlinePayloadBytes < e.resultSize.toNat then none
    else if e.messageKind = messageKindEvent then some { s with worker := .draining true }
    else some { s with store := takeId s.store e.requestId, worker := .draining true }
  | .syncing => some { s with worker := .polling }
  | .polling =>
    if s.respEvent ≠ 0 then
      some { s with
        respEvent := 0
        breakConsumed := s.breakConsumed || s.breakSignalled
        worker := .draining false }
    else none

/-- The poll of the worker times out. -/
def pollTimeout (s : ResponsePath) : Option ResponsePath :=
  match s.worker with
  | .polling => some { s with worker := .draining false }
  | _ => none

/-- The next step of `TryPushRequest`; `room` answers the push on the request ring. -/
def submitStep (s : ResponsePath) (room : Bool) : Option ResponsePath :=
  match s.submit with
  | .idle => none
  | .checking id =>
    match s.state with
    | .alive => some { s with submit := .pushing id }
    | .broken => some { s with store := takeId s.store id, submit := .idle }
  | .pushing id =>
    if room then some { s with submit := .rechecking id }
    else some { s with store := takeId s.store id, submit := .idle }
  | .rechecking id =>
    match s.state with
    | .alive => some { s with published := id :: s.published, submit := .idle }
    | .broken => some { s with store := takeId s.store id, submit := .idle }

/-- The next step of a thread in `MarkSessionBroken`. -/
def markStep (s : ResponsePath) : ResponsePath :=
  match s.marker with
  | .outside => { s with state := .broken, marker := .removing }
  | .removing => { s with marker := .signalling }
  | .signalling =>
    { s with respEvent := s.respEvent + 1, marker := .outside, breakSignalled := true }

end ResponsePath

/-- Who moves. -/
inductive ResponseAction
  | respond (e : ResponseRingEntry)
  | writer
  | writerTimeout
  | worker
  | pollTimeout
  | put (id : UInt64)
  | submit (room : Bool)
  | expire (id : UInt64)
  | markBroken

/-- All interleavings of the two sides over a response ring of the given size. -/
def responsePath (capacity : RingCapacity) (m : ℕ → ResponseRingEntry) :
    Machine ResponsePath ResponseAction where
  init := { ring := Ring.create capacity.size m }
  step s
    | .respond e =>
      match s.writer with
      | .idle => some { s with writer := .checking e }
      | _ => none
    | .writer => s.writerStep
    | .writerTimeout => s.writerTimeout
    | .worker => s.workerStep
    | .pollTimeout => s.pollTimeout
    | .put id =>
      match s.submit with
      | .idle =>
        some { s with
          store := id :: takeId s.store id
          published := takeId s.published id
          submit := .checking id }
      | _ => none
    | .submit room => s.submitStep room
    | .expire id => some { s with store := takeId s.store id }
    | .markBroken => some s.markStep

namespace ResponsePath
variable {s s' : ResponsePath}

/-- What one step of the response writer can do. -/
inductive WriterMove (s : ResponsePath) : ResponsePath → Prop
  | enter {e : ResponseRingEntry} (hpc : s.writer = .checking e) :
      WriterMove s { s with writer := .pushing (.loadHead e) }
  | refused (hpc : (∃ e, s.writer = .checking e) ∨ ∃ e, s.writer = .rechecking e) :
      WriterMove s { s with writer := .idle }
  | running {pc pc' : PushPc ResponseRingEntry} {r : Ring ResponseRingEntry}
      (hpc : s.writer = .pushing pc) (hs : pushStep s.ring pc = (r, .running pc')) :
      WriterMove s { s with ring := r, writer := .pushing pc' }
  | stored {pc : PushPc ResponseRingEntry} {r : Ring ResponseRingEntry}
      (hpc : s.writer = .pushing pc) (hs : pushStep s.ring pc = (r, .returned .ok)) :
      WriterMove s
        { s with ring := r, pushed := s.pushed ++ [pc.entry], writer := .rechecking pc.entry }
  | full {pc : PushPc ResponseRingEntry} (hpc : s.writer = .pushing pc)
      (hs : pushStep s.ring pc = (s.ring, .returned .queueFull)) :
      WriterMove s { s with writer := .full pc.entry }
  | accepted {e : ResponseRingEntry} (hpc : s.writer = .rechecking e) :
      WriterMove s { s with writer := .signalling }
  | wait {e : ResponseRingEntry} (hpc : s.writer = .full e) :
      WriterMove s { s with writer := .waiting e }
  | wake {e : ResponseRingEntry} (hpc : s.writer = .waiting e) :
      WriterMove s { s with credit := 0, writer := .checking e }
  | signal (hpc : s.writer = .signalling) :
      WriterMove s { s with respEvent := s.respEvent + 1, writer := .idle }

theorem writerStep_move (hs : s.writerStep = some s') : WriterMove s s' := by
  rw [writerStep] at hs
  cases hpc : s.writer with
  | idle => simp [hpc] at hs
  | checking e =>
    cases hstate : s.state with
    | alive =>
      simp only [hpc, hstate, Option.some.injEq] at hs
      exact hs ▸ hstate ▸ .enter hpc
    | broken =>
      simp only [hpc, hstate, Option.some.injEq] at hs
      exact hs ▸ hstate ▸ .refused (.inl ⟨e, hpc⟩)
  | pushing pc =>
    rcases hpush : pushStep s.ring pc with ⟨r, pc' | status⟩
    · simp only [hpc, hpush, Option.some.injEq] at hs
      exact hs ▸ .running hpc hpush
    · rcases pushStep_returned hpush with ⟨rfl, rfl, -⟩ | ⟨rfl, -⟩
      · simp only [hpc, hpush, Option.some.injEq] at hs
        exact hs ▸ .full hpc hpush
      · simp only [hpc, hpush, Option.some.injEq] at hs
        exact hs ▸ .stored hpc hpush
  | rechecking e =>
    cases hstate : s.state with
    | alive =>
      simp only [hpc, hstate, Option.some.injEq] at hs
      exact hs ▸ hstate ▸ .accepted hpc
    | broken =>
      simp only [hpc, hstate, Option.some.injEq] at hs
      exact hs ▸ hstate ▸ .refused (.inr ⟨e, hpc⟩)
  | full e =>
    simp only [hpc, Option.some.injEq] at hs
    exact hs ▸ .wait hpc
  | waiting e =>
    simp only [hpc, Option.ite_none_right_eq_some, Option.some.injEq] at hs
    exact hs.2 ▸ .wake hpc
  | signalling =>
    simp only [hpc, Option.some.injEq] at hs
    exact hs ▸ .signal hpc

/-- What one step of the response worker can do. -/
inductive WorkerMove (s : ResponsePath) : ResponsePath → Prop
  | count {d : Bool} (hpc : s.worker = .draining d) :
      WorkerMove s { s with worker := .checking d (countsFull s.ring.cursor) }
  | enter {d nf : Bool} (hpc : s.worker = .checking d nf) (hstate : s.state = .alive) :
      WorkerMove s { s with worker := .popping d nf .loadTail }
  | refused {d nf : Bool} (hpc : s.worker = .checking d nf) (hstate : s.state = .broken) :
      WorkerMove s (s.drainReturn d)
  | running {d nf : Bool} {pc pc' : PopPc ResponseRingEntry} (hpc : s.worker = .popping d nf pc)
      (hs : popStep s.ring pc = (s.ring, .running pc')) :
      WorkerMove s { s with worker := .popping d nf pc' }
  | empty {d nf : Bool} {pc : PopPc ResponseRingEntry} (hpc : s.worker = .popping d nf pc)
      (hs : popStep s.ring pc = (s.ring, .returned none)) : WorkerMove s (s.drainReturn d)
  | popped {d nf : Bool} {pc : PopPc ResponseRingEntry} {r : Ring ResponseRingEntry}
      {e : ResponseRingEntry} (hpc : s.worker = .popping d nf pc)
      (hs : popStep s.ring pc = (r, .returned (some e))) :
      WorkerMove s
        { s with
          ring := r
          popped := s.popped ++ [e]
          worker := if nf then .signalling e else .delivering e }
  | signal {e : ResponseRingEntry} (hpc : s.worker = .signalling e) :
      WorkerMove s { s with credit := s.credit + 1, worker := .delivering e }
  | event {e : ResponseRingEntry} (hpc : s.worker = .delivering e)
      (hkind : e.messageKind = messageKindEvent) :
      WorkerMove s { s with worker := .draining true }
  | resolve {e : ResponseRingEntry} (hpc : s.worker = .delivering e) :
      WorkerMove s { s with store := takeId s.store e.requestId, worker := .draining true }
  | sync (hpc : s.worker = .syncing) : WorkerMove s { s with worker := .polling }
  | consume (hpc : s.worker = .polling) :
      WorkerMove s
        { s with
          respEvent := 0
          breakConsumed := s.breakConsumed || s.breakSignalled
          worker := .draining false }

theorem workerStep_move (hs : s.workerStep = some s') : WorkerMove s s' := by
  rw [workerStep] at hs
  cases hpc : s.worker with
  | draining d =>
    simp only [hpc, Option.some.injEq] at hs
    exact hs ▸ .count hpc
  | checking d nf =>
    cases hstate : s.state with
    | alive =>
      simp only [hpc, hstate, Option.some.injEq] at hs
      subst hs
      rw [← hstate]
      exact .enter hpc hstate
    | broken =>
      simp only [hpc, hstate, Option.some.injEq] at hs
      exact hs ▸ .refused hpc hstate
  | popping d nf pc =>
    rcases hpop : popStep s.ring pc with ⟨r, pc' | _ | e⟩
    · obtain rfl := popStep_running hpop
      simp only [hpc, hpop, Option.some.injEq] at hs
      exact hs ▸ .running hpc hpop
    · rcases popStep_returned hpop with ⟨-, rfl, -⟩ | ⟨e, head, he, -⟩
      · simp only [hpc, hpop, Option.some.injEq] at hs
        exact hs ▸ .empty hpc hpop
      · simp at he
    · simp only [hpc, hpop, Option.some.injEq] at hs
      exact hs ▸ .popped hpc hpop
  | signalling e =>
    simp only [hpc, Option.some.injEq] at hs
    exact hs ▸ .signal hpc
  | delivering e =>
    simp only [hpc, Option.ite_none_left_eq_some] at hs
    obtain ⟨-, hs⟩ := hs
    split at hs
    · rename_i hkind
      cases hs
      exact .event hpc hkind
    · cases hs
      exact .resolve hpc
  | syncing =>
    simp only [hpc, Option.some.injEq] at hs
    exact hs ▸ .sync hpc
  | polling =>
    simp only [hpc, Option.ite_none_right_eq_some, Option.some.injEq] at hs
    exact hs.2 ▸ .consume hpc

/-- What one step of the submit thread can do to the store. -/
inductive StoreMove (s : ResponsePath) : ResponsePath → Prop
  | enter {id : UInt64} (hpc : s.submit = .checking id) :
      StoreMove s { s with submit := .pushing id }
  | pushed {id : UInt64} (hpc : s.submit = .pushing id) :
      StoreMove s { s with submit := .rechecking id }
  | accepted {id : UInt64} (hpc : s.submit = .rechecking id) (hstate : s.state = .alive) :
      StoreMove s { s with published := id :: s.published, submit := .idle }
  | dropped {id : UInt64} : StoreMove s { s with store := takeId s.store id, submit := .idle }

theorem submitStep_move {room : Bool} (hs : s.submitStep room = some s') : StoreMove s s' := by
  rw [submitStep] at hs
  cases hpc : s.submit with
  | idle => simp [hpc] at hs
  | checking id =>
    cases hstate : s.state with
    | alive =>
      simp only [hpc, hstate, Option.some.injEq] at hs
      exact hs ▸ hstate ▸ .enter hpc
    | broken =>
      simp only [hpc, hstate, Option.some.injEq] at hs
      exact hs ▸ hstate ▸ .dropped
  | pushing id =>
    cases room with
    | true =>
      simp only [hpc, if_true, Option.some.injEq] at hs
      exact hs ▸ .pushed hpc
    | false =>
      simp only [hpc, Bool.false_eq_true, if_false, Option.some.injEq] at hs
      exact hs ▸ .dropped
  | rechecking id =>
    cases hstate : s.state with
    | alive =>
      simp only [hpc, hstate, Option.some.injEq] at hs
      subst hs
      rw [← hstate]
      exact .accepted hpc hstate
    | broken =>
      simp only [hpc, hstate, Option.some.injEq] at hs
      exact hs ▸ hstate ▸ .dropped

end ResponsePath

/-- What one step of the response path can do. -/
inductive ResponseMove (s : ResponsePath) : ResponseAction → ResponsePath → Prop
  | respond (e : ResponseRingEntry) (hpc : s.writer = .idle) :
      ResponseMove s (.respond e) { s with writer := .checking e }
  | writer {s' : ResponsePath} (hmove : ResponsePath.WriterMove s s') : ResponseMove s .writer s'
  | writerTimeout (hpc : (∃ e, s.writer = .full e) ∨ ∃ e, s.writer = .waiting e) :
      ResponseMove s .writerTimeout { s with writer := .idle }
  | worker {s' : ResponsePath} (hmove : ResponsePath.WorkerMove s s') : ResponseMove s .worker s'
  | pollTimeout (hpc : s.worker = .polling) :
      ResponseMove s .pollTimeout { s with worker := .draining false }
  | put (id : UInt64) (hpc : s.submit = .idle) :
      ResponseMove s (.put id)
        { s with
          store := id :: takeId s.store id
          published := takeId s.published id
          submit := .checking id }
  | submit (room : Bool) {s' : ResponsePath} (hmove : ResponsePath.StoreMove s s') :
      ResponseMove s (.submit room) s'
  | expire (id : UInt64) : ResponseMove s (.expire id) { s with store := takeId s.store id }
  | markBroken : ResponseMove s .markBroken s.markStep

theorem responsePath_move {capacity : RingCapacity} {m : ℕ → ResponseRingEntry}
    {s s' : ResponsePath} {a : ResponseAction} (hs : (responsePath capacity m).step s a = some s') :
    ResponseMove s a s' := by
  cases a with
  | respond e =>
    cases hpc : s.writer with
    | idle =>
      simp only [responsePath, hpc, Option.some.injEq] at hs
      exact hs ▸ .respond e hpc
    | _ => simp [responsePath, hpc] at hs
  | writer => exact .writer (ResponsePath.writerStep_move hs)
  | writerTimeout =>
    cases hpc : s.writer with
    | full e =>
      simp only [responsePath, ResponsePath.writerTimeout, hpc, Option.some.injEq] at hs
      exact hs ▸ .writerTimeout (.inl ⟨e, hpc⟩)
    | waiting e =>
      simp only [responsePath, ResponsePath.writerTimeout, hpc, Option.some.injEq] at hs
      exact hs ▸ .writerTimeout (.inr ⟨e, hpc⟩)
    | _ => simp [responsePath, ResponsePath.writerTimeout, hpc] at hs
  | worker => exact .worker (ResponsePath.workerStep_move hs)
  | pollTimeout =>
    cases hpc : s.worker with
    | polling =>
      simp only [responsePath, ResponsePath.pollTimeout, hpc, Option.some.injEq] at hs
      exact hs ▸ .pollTimeout hpc
    | _ => simp [responsePath, ResponsePath.pollTimeout, hpc] at hs
  | put id =>
    cases hpc : s.submit with
    | idle =>
      simp only [responsePath, hpc, Option.some.injEq] at hs
      exact hs ▸ .put id hpc
    | _ => simp [responsePath, hpc] at hs
  | submit room => exact .submit room (ResponsePath.submitStep_move hs)
  | expire id =>
    simp only [responsePath, Option.some.injEq] at hs
    exact hs ▸ .expire id
  | markBroken =>
    simp only [responsePath, Option.some.injEq] at hs
    exact hs ▸ .markBroken

end MemRpc
