import MemRpc.Rpc.PayloadReads
import MemRpc.Rpc.ReplyCorrelation

/-!
# The threads of the server around the completion queue

A started `RpcServer`: the dispatcher pops requests and hands them to an executor, the
tasks of the executor call handlers and enqueue their replies, `PublishEvent` enqueues
events, the response writer pops the completion queue and pushes to the response ring,
and `Stop` takes all of this down. Every access to a flag, to the state word or to what
`completionMutex` guards is a step of its own, and so are taking the mutex and blocking
on `completionCv`.

What the server does not decide is answered by the action: the entries that the rings
hold, the capacity of an executor, replies of handlers, room in the response ring, the
outcome of a poll, the budget of a retry. An executor accepts what it has announced
capacity for until it is stopped, runs a task in any order on any thread, and releases
tasks without running them only once it is stopped. A client that attaches writes the
state word.

## Main definitions

* `CallerPc`, `ResponseWriterPc`, `ServerStopPc`: the points of the threads.
* `serverRuntime`: the machine.
-/

namespace MemRpc

open Concurrency

/-- `struct RpcEvent`. -/
structure RpcEvent where
  eventDomain : UInt32 := 0
  eventType : UInt32 := 0
  flags : UInt32 := 0
  payload : List UInt8 := []
  deriving DecidableEq, Repr

/-- The numeric value of a status. -/
def StatusCode.toUInt32 : StatusCode → UInt32
  | .ok => 0
  | .queueFull => 1
  | .queueTimeout => 2
  | .execTimeout => 3
  | .peerDisconnected => 4
  | .protocolMismatch => 5
  | .engineInternalError => 6
  | .invalidArgument => 7
  | .crashedDuringExecution => 8
  | .cooldownActive => 9
  | .clientClosed => 10
  | .payloadTooLarge => 11

/-- A caller of `EnqueueCompletion`: the task of a request, by the order of the pops, or a
call of `PublishEvent`. -/
inductive Caller
  | task (n : ℕ)
  | event (n : ℕ)
  deriving DecidableEq, Repr

/-- `struct CompletionItem`. The `CompletionState` is the one its caller waits for. -/
structure CompletionItem where
  caller : Caller
  entry : ResponseRingEntry
  breakSessionOnFailure : Bool := false
  deriving DecidableEq

/-- `BuildResponseCompletionItem`, and the item of `PublishEvent`. -/
def completionItem : Caller → ResponseRingEntry → CompletionItem
  | .task n, entry => { caller := .task n, entry, breakSessionOnFailure := true }
  | .event n, entry => { caller := .event n, entry }

@[simp] theorem caller_completionItem (c : Caller) (e : ResponseRingEntry) :
    (completionItem c e).caller = c := by
  cases c <;> rfl

@[simp] theorem entry_completionItem (c : Caller) (e : ResponseRingEntry) :
    (completionItem c e).entry = e := by
  cases c <;> rfl

/-- The points of a task from the pop of its request to the release of its token, and of a
call of `PublishEvent`. The last three of `EnqueueCompletion` hold the mutex. -/
inductive CallerPc
  | idle
  | submitting (request : RequestRingEntry)
  | queued (request : RequestRingEntry)
  | processing (request : RequestRingEntry)
  | invoking (request : RequestRingEntry)
  | preparing (request : RequestRingEntry) (reply : RpcReply)
  | checking (event : RpcEvent)
  | validating (event : RpcEvent)
  | preparingEvent (event : RpcEvent)
  | locking (entry : ResponseRingEntry)
  | admitting (entry : ResponseRingEntry)
  | pushing (entry : ResponseRingEntry)
  | counting
  | breaking
  | awaiting
  | finished
  | released
  deriving DecidableEq

/-- The points of `ResponseWriterLoop`. `waiting`, `blocking` and `popping` are in
`WaitAndPopCompletionItem`, `counting` in `OnCompletionItemFinished`, with the mutex. -/
inductive ResponseWriterPc
  | locking
  | waiting
  | blocking
  | blocked
  | woken
  | popping
  | checking (item : CompletionItem)
  | pushing (item : CompletionItem)
  | rechecking (item : CompletionItem)
  | full (item : CompletionItem)
  | failed (item : CompletionItem) (status : StatusCode)
  | completing (item : CompletionItem) (status : StatusCode)
  | finishing
  | counting
  | exited
  deriving DecidableEq

/-- A notification wakes a writer that is blocked, and is lost on any other. -/
def ResponseWriterPc.notified : ResponseWriterPc → ResponseWriterPc
  | .blocked => .woken
  | pc => pc

/-- The points of `DispatcherLoop` with respect to the tasks it makes. -/
inductive DrainPc
  | top
  | draining
  | popping
  | taking
  | submitting (n : ℕ)
  | exited
  deriving DecidableEq, Repr

/-- The points of `Stop`, from its exchange of `running` on. Those from `stoppingWriter` to
`failing` are `StopResponseWriter`. -/
inductive ServerStopPc
  | outside
  | marking
  | clearing
  | stoppingWriter
  | signalling
  | notifying
  | joiningWriter
  | locking
  | swapping
  | zeroing (queued : List CompletionItem)
  | failing (queued : List CompletionItem)
  | joiningDispatcher
  | stoppingHigh
  | stoppingNormal
  | waitingTasks
  | resetting
  | returned
  deriving DecidableEq

/-- Who owns `completionMutex`. -/
inductive MutexOwner
  | caller (c : Caller)
  | writer
  | stop
  deriving DecidableEq, Repr

/-- The options, the layout of the session and the handler table. -/
structure ServerConfig where
  completionQueueCapacity : UInt32
  maxRequestBytes : UInt32
  /-- The opcodes of `handlers`. -/
  registered : UInt16 → Bool

/-- `RpcServer::Impl` with its threads. -/
structure ServerRuntime where
  /-- The state word of the session. -/
  state : SessionState := .alive
  /-- The session is mapped. -/
  valid : Bool := true
  running : Bool := true
  responseWriterRunning : Bool := true
  dispatcher : DrainPc := .top
  /-- `Stop` was called on an executor. One executor may serve both rings. -/
  executorStopped : Bool := false
  pendingSubmittedTasks : UInt32 := 0
  caller : Caller → CallerPc := fun _ => .idle
  completionMutex : Option MutexOwner := none
  completionQueue : List CompletionItem := []
  pendingCompletionCount : UInt32 := 0
  writer : ResponseWriterPc := .locking
  stop : ServerStopPc := .outside
  /-- What the dispatcher has popped. -/
  requests : List RequestRingEntry := []
  /-- The callers whose item `EnqueueCompletion` has accepted. -/
  accepted : List Caller := []
  /-- The calls of `CompleteItem`. -/
  completed : List (Caller × StatusCode) := []
  /-- What the writer has pushed to the response ring. -/
  pushed : List CompletionItem := []
  /-- `MarkSessionBroken` has been executed. -/
  marked : Bool := false

/-! ## The functions without shared state -/

/-- `InvokeHandler`. `resolved` answers `ResolveRequestPayload` and `reply` the handler. -/
def invokeHandler (registered : UInt16 → Bool) (e : RequestRingEntry) (resolved : Bool)
    (reply : RpcReply) : RpcReply :=
  if !registered e.opcode then { status := .invalidArgument }
  else if !resolved then { status := .protocolMismatch }
  else reply

/-- A payload as `PrepareFilePayloadForTransport` leaves it: its bytes, or the envelope of
a file. -/
structure TransportPayload where
  bytes : List UInt8
  payloadKind : UInt8
  deriving DecidableEq, Repr

/-- `memcpy` to the payload array of an entry. -/
def payloadArray (n : ℕ) (bytes : List UInt8) : Vector UInt8 n :=
  Vector.ofFn fun i => bytes[i.val]?.getD 0

/-- `WriteResponse` with the payload prepared: what cannot be transported is replaced by
`PayloadTooLarge`. -/
def transportReply (reply : RpcReply) : Option TransportPayload → ReplyData
  | none => { statusCode := StatusCode.payloadTooLarge.toUInt32 }
  | some p =>
    { statusCode := reply.status.toUInt32
      resultSize := UInt32.ofNat p.bytes.length
      payloadKind := p.payloadKind
      payload := payloadArray _ p.bytes }

/-- The entry of `PublishEvent`. -/
def buildEventEntry (event : RpcEvent) (p : TransportPayload) : ResponseRingEntry where
  messageKind := messageKindEvent
  eventDomain := event.eventDomain
  eventType := event.eventType
  flags := event.flags
  payloadKind := p.payloadKind
  resultSize := UInt32.ofNat p.bytes.length
  payload := payloadArray _ p.bytes

/-! ## The steps -/

namespace ServerRuntime

/-- `Session::State`. -/
def sessionState (s : ServerRuntime) : SessionState := if s.valid then s.state else .broken

/-- `MarkSessionBroken`. -/
def markSessionBroken (s : ServerRuntime) : ServerRuntime :=
  { s with state := if s.valid then .broken else s.state, marked := true }

/-- A notification of `completionCv`. Only the response writer waits there. -/
def notifyWriter (s : ServerRuntime) : ServerRuntime := { s with writer := s.writer.notified }

def setCaller (s : ServerRuntime) (c : Caller) (pc : CallerPc) : ServerRuntime :=
  { s with caller := Function.update s.caller c pc }

/-- The `CompletionState` of the caller is ready. -/
def ready (s : ServerRuntime) (c : Caller) : Bool := decide (c ∈ s.completed.map Prod.fst)

/-- The next step of `DispatcherLoop` up to the pop, and after a failed one. `PopRequest` tests
the state at `popping` and the ring at `taking`. -/
def drainStep (s : ServerRuntime) (ok : Bool) : Option ServerRuntime :=
  match s.dispatcher with
  | .top => some { s with dispatcher := if s.running then .draining else .exited }
  | .draining => some { s with dispatcher := if ok then .popping else .top }
  | .popping => some { s with dispatcher := if s.sessionState = .alive then .taking else .top }
  | .taking => if ok then none else some { s with dispatcher := .top }
  | .submitting _ | .exited => none

/-- `PopRequest` takes an entry, and `MakeSubmittedTaskToken`: one step, since the token count
is read only by `Stop` after it has joined the dispatcher. -/
def popRequest (s : ServerRuntime) (e : RequestRingEntry) : Option ServerRuntime :=
  match s.dispatcher with
  | .taking =>
    some { s.setCaller (.task s.requests.length) (.submitting e) with
      dispatcher := .submitting s.requests.length
      requests := s.requests ++ [e]
      pendingSubmittedTasks := s.pendingSubmittedTasks + 1 }
  | _ => none

/-- `TrySubmit` after `HasCapacity`. The task that a stopped executor refuses is destroyed
with its token. -/
def trySubmit (s : ServerRuntime) : Option ServerRuntime :=
  match s.dispatcher with
  | .submitting n =>
    match s.caller (.task n) with
    | .submitting e =>
      some { s.setCaller (.task n) (if s.executorStopped then .finished else .queued e) with
        dispatcher := .draining }
    | _ => none
  | _ => none

/-- The executor runs a task, or releases it unrun once it is stopped. -/
def executorStep (s : ServerRuntime) (n : ℕ) (runs : Bool) : Option ServerRuntime :=
  match s.caller (.task n) with
  | .queued e =>
    if runs then some (s.setCaller (.task n) (.processing e))
    else if s.executorStopped then some (s.setCaller (.task n) .finished)
    else none
  | _ => none

/-- The handler of a task returns. -/
def handlerStep (s : ServerRuntime) (cfg : ServerConfig) (n : ℕ) (resolved : Bool)
    (reply : RpcReply) : Option ServerRuntime :=
  match s.caller (.task n) with
  | .invoking e =>
    some (s.setCaller (.task n) (.preparing e (invokeHandler cfg.registered e resolved reply)))
  | _ => none

/-- `PrepareResponsePayloadForTransport`, with the answer of
`PrepareFilePayloadForTransport`. -/
def prepareStep (s : ServerRuntime) (c : Caller) (p : Option TransportPayload) :
    Option ServerRuntime :=
  match s.caller c with
  | .preparing e reply =>
    some (s.setCaller c
      (if s.valid then .locking (buildReplyEntry e (transportReply reply p)) else .finished))
  | .preparingEvent event =>
    match p with
    | some p =>
      some (s.setCaller c (if s.valid then .locking (buildEventEntry event p) else .finished))
    | none => some (s.setCaller c .finished)
  | _ => none

/-- `PublishEvent` is called. -/
def publishEvent (s : ServerRuntime) (n : ℕ) (event : RpcEvent) : Option ServerRuntime :=
  match s.caller (.event n) with
  | .idle => some (s.setCaller (.event n) (.checking event))
  | _ => none

/-- Where `EnqueueCompletion` returns false to: `WriteResponse` breaks the session,
`PublishEvent` returns. -/
def refusedPc : Caller → CallerPc
  | .task _ => .breaking
  | .event _ => .finished

/-- The next step of a caller that needs no answer. -/
def callerStep (s : ServerRuntime) (cfg : ServerConfig) (c : Caller) : Option ServerRuntime :=
  match s.caller c with
  | .processing e =>
    if !s.valid then some (s.setCaller c .finished)
    else
      match invalidTransport cfg.maxRequestBytes e with
      | some status => some (s.setCaller c (.preparing e { status }))
      | none => some (s.setCaller c (.invoking e))
  | .checking event =>
    if s.running && s.sessionState == .alive then some (s.setCaller c (.validating event))
    else some (s.setCaller c .finished)
  | .validating event =>
    some (s.setCaller c (if s.valid then .preparingEvent event else .finished))
  | .locking e =>
    match s.completionMutex with
    | none => some { s.setCaller c (.admitting e) with completionMutex := some (.caller c) }
    | some _ => none
  | .admitting e =>
    if !s.responseWriterRunning || s.pendingCompletionCount ≥ cfg.completionQueueCapacity then
      some { s.setCaller c (refusedPc c) with completionMutex := none }
    else some (s.setCaller c (.pushing e))
  | .pushing e =>
    some { s.setCaller c .counting with
      completionQueue := s.completionQueue ++ [completionItem c e]
      accepted := s.accepted ++ [c] }
  | .counting =>
    some { (s.setCaller c .awaiting).notifyWriter with
      pendingCompletionCount := s.pendingCompletionCount + 1
      completionMutex := none }
  | .breaking => some (s.markSessionBroken.setCaller c .finished)
  | .awaiting => if s.ready c then some (s.setCaller c .finished) else none
  | .finished =>
    match c with
    | .task _ =>
      some { s.setCaller c .released with
        pendingSubmittedTasks :=
          if s.pendingSubmittedTasks > 0 then s.pendingSubmittedTasks - 1
          else s.pendingSubmittedTasks }
    | .event _ => none
  | _ => none

/-- The next step of the response writer that needs no answer, if it is not blocked. -/
def responseWriterStep (s : ServerRuntime) : Option ServerRuntime :=
  match s.writer with
  | .locking | .woken =>
    match s.completionMutex with
    | none => some { s with writer := .waiting, completionMutex := some .writer }
    | some _ => none
  | .waiting =>
    if !s.responseWriterRunning || !s.completionQueue.isEmpty then
      some { s with writer := .popping }
    else some { s with writer := .blocking }
  | .blocking => some { s with writer := .blocked, completionMutex := none }
  | .popping =>
    match s.completionQueue with
    | item :: rest =>
      some { s with
        writer := .checking item
        completionQueue := rest
        completionMutex := none }
    | [] =>
      -- `front` of an empty queue while running is never reached
      if s.responseWriterRunning then none
      else some { s with writer := .exited, completionMutex := none }
  | .checking item =>
    match s.sessionState with
    | .alive => some { s with writer := .pushing item }
    | .broken => some { s with writer := .failed item .peerDisconnected }
  | .rechecking item =>
    match s.sessionState with
    | .alive => some { s with writer := .completing item .ok }
    | .broken => some { s with writer := .failed item .peerDisconnected }
  | .failed item status =>
    some { (if item.breakSessionOnFailure then s.markSessionBroken else s) with
      writer := .completing item status }
  | .completing item status =>
    some { s with
      writer := .finishing
      completed := s.completed ++ [(item.caller, status)] }
  | .finishing =>
    match s.completionMutex with
    | none => some { s with writer := .counting, completionMutex := some .writer }
    | some _ => none
  | .counting =>
    some { s with
      writer := .locking
      completionMutex := none
      pendingCompletionCount :=
        if s.pendingCompletionCount > 0 then s.pendingCompletionCount - 1
        else s.pendingCompletionCount }
  | .blocked | .pushing _ | .full _ | .exited => none

/-- `PushRingEntry` of the response writer. -/
def pushResponse (s : ServerRuntime) (full : Bool) : Option ServerRuntime :=
  match s.writer with
  | .pushing item =>
    if full then some { s with writer := .full item }
    else some { s with writer := .rechecking item, pushed := s.pushed ++ [item] }
  | _ => none

/-- `PushResponseWithRetry` on a full ring: the deadline, and `WaitForResponseCredit`. -/
def waitForResponseCredit (s : ServerRuntime) (r : PollEventFdResult) : Option ServerRuntime :=
  match s.writer with
  | .full item =>
    match r with
    | .ready => some { s with writer := .checking item }
    | .timeout => some { s with writer := .failed item .queueFull }
    | .failed => some { s with writer := .failed item .peerDisconnected }
    | .retry =>
      if s.responseWriterRunning then some s
      else some { s with writer := .failed item .peerDisconnected }
  | _ => none

/-- The response writer wakes without a notification. -/
def spuriousWakeup (s : ServerRuntime) : Option ServerRuntime :=
  match s.writer with
  | .blocked => some { s with writer := .woken }
  | _ => none

/-- The next step of `Stop`, if it is not blocked. -/
def stopStep (s : ServerRuntime) : Option ServerRuntime :=
  match s.stop with
  | .outside => if s.running then some { s with running := false, stop := .marking } else none
  | .marking => some { s.markSessionBroken with stop := .clearing }
  | .clearing => some { s with responseWriterRunning := false, stop := .stoppingWriter }
  | .stoppingWriter => some { s with responseWriterRunning := false, stop := .signalling }
  | .signalling => some { s with stop := .notifying }
  | .notifying => some { s.notifyWriter with stop := .joiningWriter }
  | .joiningWriter =>
    match s.writer with
    | .exited => some { s with stop := .locking }
    | _ => none
  | .locking =>
    match s.completionMutex with
    | none => some { s with stop := .swapping, completionMutex := some .stop }
    | some _ => none
  | .swapping => some { s with stop := .zeroing s.completionQueue, completionQueue := [] }
  | .zeroing queued =>
    some { s with
      stop := .failing queued
      pendingCompletionCount := 0
      completionMutex := none }
  | .failing (item :: rest) =>
    some { s with
      stop := .failing rest
      completed := s.completed ++ [(item.caller, .peerDisconnected)] }
  | .failing [] => some { s with stop := .joiningDispatcher }
  | .joiningDispatcher =>
    match s.dispatcher with
    | .exited => some { s with stop := .stoppingHigh }
    | _ => none
  | .stoppingHigh => some { s with stop := .stoppingNormal, executorStopped := true }
  | .stoppingNormal => some { s with stop := .waitingTasks, executorStopped := true }
  | .waitingTasks => if s.pendingSubmittedTasks = 0 then some { s with stop := .resetting } else none
  | .resetting => some { s with stop := .returned, valid := false }
  | .returned => none

end ServerRuntime

/-- Who moves, with the answers of the environment. -/
inductive ServerAction
  | clientAttach
  | drain (ok : Bool)
  | popRequest (e : RequestRingEntry)
  | trySubmit
  | execute (n : ℕ) (runs : Bool)
  | handle (n : ℕ) (resolved : Bool) (reply : RpcReply)
  | prepare (c : Caller) (p : Option TransportPayload)
  | publishEvent (n : ℕ) (event : RpcEvent)
  | caller (c : Caller)
  | writer
  | pushResponse (full : Bool)
  | waitForResponseCredit (r : PollEventFdResult)
  | spuriousWakeup
  | stop

/-- All interleavings of dispatcher, tasks, `PublishEvent`, response writer and `Stop`. -/
def serverRuntime (cfg : ServerConfig) : Machine ServerRuntime ServerAction where
  init := {}
  step s
    | .clientAttach => some { s with state := .alive }
    | .drain ok => s.drainStep ok
    | .popRequest e => s.popRequest e
    | .trySubmit => s.trySubmit
    | .execute n runs => s.executorStep n runs
    | .handle n resolved reply => s.handlerStep cfg n resolved reply
    | .prepare c p => s.prepareStep c p
    | .publishEvent n event => s.publishEvent n event
    | .caller c => s.callerStep cfg c
    | .writer => s.responseWriterStep
    | .pushResponse full => s.pushResponse full
    | .waitForResponseCredit r => s.waitForResponseCredit r
    | .spuriousWakeup => s.spuriousWakeup
    | .stop => s.stopStep

end MemRpc
