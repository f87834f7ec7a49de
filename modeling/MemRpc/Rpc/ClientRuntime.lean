import MemRpc.Lib.Machine
import MemRpc.Lib.Threads
import MemRpc.Core.Protocol

/-!
# The threads of the client around its requests

An initialised `RpcClient`: calls of `InvokeAsync` enqueue requests, the submit thread
stores them as pending and pushes them to the request ring, the response thread takes
them out again for the replies it pops, the watchdog takes expired ones and observes the
health and the idleness of the session, engine deaths and external recoveries arrive on
threads of their own, `RetryUntilRecoverySettles` repeats calls, and `Shutdown` takes all
of this down.

A thread is the list of operations it has still to execute. An operation is a function of
`rpc_client.cpp` up to its next access to shared state; it is replaced by the operations
of the calls it makes. `lock` and `unlock` are those of `lifecycleMutex_`. What is between
them calls into policies and the bootstrap channel, so every access there is a step of its
own. `submitMutex_` is held over two steps of `InvokeAsync`, `sessionMutex_` over the steps
of `TryPushRequest`; elsewhere a critical section of these two is one step.

The ids of sessions come from the bootstrap channel: they are not zero and never reused.
What the client does not decide is in the `ClientAnswer` of a step: decisions of the
policy, the outcome of an open, of a push and of a poll, entries of the response ring.

## Main definitions

* `RpcClient`: the state that the threads share.
* `RecoveryOp`, `SubmitOp`, `WaitOp`, `ResponseOp`, `WatchdogOp`, `CallerOp`, `ShutdownOp`:
  the operations of each component with what executing them does.
* `rpcClient`: the machine.
-/

namespace MemRpc

open Concurrency

/-- `ApiLifecycleState`; `opened` is `Open`. -/
inductive ApiLifecycleState
  | uninitialized
  | opened
  | closing
  | closed
  deriving DecidableEq, Repr

/-- `enum class ClientLifecycleState`. -/
inductive ClientLifecycleState
  | uninitialized
  | active
  | noSession
  | cooldown
  | idleClosed
  | recovering
  | closed
  deriving DecidableEq, Repr

/-- `enum class ClientInitMode`. -/
inductive ClientInitMode
  | eagerSession
  | lazySession
  deriving DecidableEq, Repr

/-- `enum class RecoveryAction`. -/
inductive RecoveryAction
  | ignore
  | restart
  | idleClose
  | manualShutdown
  deriving DecidableEq, Repr

/-- `struct RecoveryDecision`. -/
structure RecoveryDecision where
  action : RecoveryAction := .ignore
  delayMs : UInt32 := 0
  deriving DecidableEq, Repr

/-- `enum class PendingRequestRecoveryAction`. -/
inductive PendingRequestRecoveryAction
  | failWithRecoveryPolicy
  | resolvePeerDisconnected
  | keepCurrentState
  deriving DecidableEq, Repr

/-- `struct ExternalRecoveryRequest`. -/
structure ExternalRecoveryRequest where
  sessionId : ℕ := 0
  delayMs : UInt32 := 0
  deriving DecidableEq, Repr

/-- `PendingSubmit`. `call` counts the calls of `InvokeAsync` and stands for the future. -/
structure SubmitJob where
  call : ℕ
  requestId : UInt64
  execTimeoutMs : UInt32
  deriving DecidableEq, Repr

/-- `PendingInfo`, without what only the policy reads. -/
structure PendingInfo where
  requestId : UInt64
  sessionId : ℕ
  deriving DecidableEq, Repr

/-- `PendingRequest`; no deadline is `time_point::max()`. -/
structure PendingRequest where
  call : ℕ
  info : PendingInfo
  waitDeadline : Option ℕ
  deriving DecidableEq, Repr

/-- The threads of the client and the threads that call it. -/
inductive ClientThread
  | submit
  | response
  | watchdog
  | shutdown
  | external (n : ℕ)
  | retrier (n : ℕ)
  deriving DecidableEq, Repr

/-- What happened, for statements about the order of events. The cause of a close or a
restart is the session on which a failure was observed. -/
inductive ClientEvent
  | pushed (call session : ℕ)
  | published (call session : ℕ)
  | resolved (call : ℕ) (reply : RpcReply)
  | restarted (cause : Option ℕ) (session : ℕ)
  | closed (cause : Option ℕ) (session : ℕ)
  deriving DecidableEq, Repr

/-- What the threads of a client share. -/
structure RpcClient where
  control : ApiLifecycleState := .opened
  lifecycle : ClientLifecycleState := .idleClosed
  cooldownUntilMs : ℕ := 0
  now : ℕ := 0
  /-- `snapshot_`: the id of the live session, zero without one. -/
  session : ℕ := 0
  /-- The sessions opened so far. -/
  opened : ℕ := 0
  lifecycleMutex : Option ClientThread := none
  /-- Only the submit thread holds `sessionMutex_` across steps. -/
  sessionMutex : Bool := false
  submitMutex : Option ClientThread := none
  submitQueue : List SubmitJob := []
  submitStopRequested : Bool := false
  watchdogStopRequested : Bool := false
  workersRunning : Bool := true
  /-- The result of the submit thread's last `EnsureLiveSession`. -/
  sessionStatus : StatusCode := .ok
  activeRequestCreditSessionId : ℕ := 0
  activePollSessionId : ℕ := 0
  requestStore : List PendingRequest := []
  /-- `RpcFuture::State` of each call. -/
  future : ℕ → Option RpcReply := fun _ => none
  /-- `nextRequestId_` is one more. -/
  calls : ℕ := 0
  /-- The threads that have returned from their loops. -/
  exited : List ClientThread := []
  /-- `Shutdown` has returned. -/
  shutdownReturned : Bool := false
  /-- The calls made by the callback of each `RetryUntilRecoverySettles`, newest first. -/
  attempts : List (ℕ × ℕ) := []
  /-- The events so far, newest first. -/
  log : List ClientEvent := []

/-- Why `CloseLiveSessionIfSnapshotMatches` is called. -/
inductive CloseReason
  | idle
  | recovery
  | death
  deriving DecidableEq, Repr

/-- The functions that run under `lifecycleMutex_`. -/
inductive RecoveryOp
  | applyFailure (info : PendingInfo) (status : StatusCode) (cause : Option ℕ)
  | handleIdle (observed : ℕ)
  | handleExternal (observed : ℕ) (request : ExternalRecoveryRequest) (cause : Option ℕ)
  | handleDeath (observed dead : ℕ) (cause : Option ℕ)
  | deathDecision (observed : ℕ) (cause : Option ℕ)
  | applyDecision (decision : RecoveryDecision) (observed : ℕ)
      (pending : PendingRequestRecoveryAction) (cause : Option ℕ)
  | closeIdle (observed : ℕ) (cause : Option ℕ)
  | scheduleRecovery (observed : ℕ) (delayMs : UInt32)
      (pending : PendingRequestRecoveryAction) (cause : Option ℕ)
  | startRecovery (observed : ℕ) (delayMs : UInt32) (cause : Option ℕ)
  | closeIfMatches (reason : CloseReason) (observed : ℕ) (cause : Option ℕ)
  | closeLive (cause : Option ℕ)
  | handlePending (pending : PendingRequestRecoveryAction)
  | resolveAll (status : StatusCode)
  | reconnect (delayMs : UInt32)
  | ensureLive (reports : Bool)
  | openSession (reports : Bool)
  | finalizeOpen (reports : Bool)
  | openFailed (status : StatusCode) (reports : Bool)
  | enterNoSession
  | enterIdleClosed
  | enterTerminalClosed
  deriving DecidableEq, Repr

/-- The points of `SubmitWorker`. -/
inductive SubmitOp
  | run
  | submitOne (job : SubmitJob)
  | submitLoop (job : SubmitJob) (info : PendingInfo)
  | readyLoop (job : SubmitJob) (info : PendingInfo)
  | ensured (job : SubmitJob) (info : PendingInfo)
  | tryPush (job : SubmitJob) (info : PendingInfo)
  | prepare (job : SubmitJob) (info : PendingInfo)
  | put (job : SubmitJob) (info : PendingInfo)
  | pushRequest (job : SubmitJob) (info : PendingInfo)
  | unput (job : SubmitJob) (info : PendingInfo) (status : StatusCode)
  | admitFailed (job : SubmitJob) (info : PendingInfo) (status : StatusCode)
  | creditSync (job : SubmitJob) (info : PendingInfo)
  | creditMissing (job : SubmitJob) (info : PendingInfo)
  | creditPoll (job : SubmitJob) (info : PendingInfo)
  | resolveFailure (job : SubmitJob) (info : PendingInfo) (status : StatusCode)
  deriving DecidableEq, Repr

/-- Who waits for the recovery state. -/
inductive Waiter
  | submit (job : SubmitJob) (info : PendingInfo)
  | retry (call : ℕ) (status : StatusCode)
  deriving DecidableEq, Repr

/-- The points of `WaitForCooldownToSettle` and of `WaitOneRecoveryRetryTick`, each before
and inside its wait on `recoveryStateCv_`. -/
inductive WaitOp
  | cooldown (w : Waiter)
  | cooldownAsleep (w : Waiter)
  | tick (w : Waiter)
  | tickAsleep (w : Waiter)
  deriving DecidableEq, Repr

/-- A popped response entry, as far as its handling differs. The reply is what
`ResolveEntryPayload` makes of the entry. -/
inductive PoppedResponse
  | oversized
  | event (resolved : Bool)
  | reply (requestId : UInt64) (reply : RpcReply)
  deriving DecidableEq, Repr

/-- The points of `ResponseWorker`. -/
inductive ResponseOp
  | run
  | drain (drained : Bool)
  | deliver (session : ℕ) (entry : PoppedResponse)
  | observeDeath (session : ℕ)
  | resolveCompleted (requestId : UInt64) (reply : RpcReply)
  | pollSync
  | poll
  deriving DecidableEq, Repr

/-- The points of `WatchdogLoop`. -/
inductive WatchdogOp
  | run
  | pendingTimeouts
  | takeExpired (now : ℕ)
  | healthObserve
  | healthCheck (observed : ℕ)
  | idleStore
  | idleQueue
  | idleObserve
  deriving DecidableEq, Repr

/-- The points of the public calls: `InvokeAsync`, the entries of external recoveries and
death notices, and `RetryUntilRecoverySettles`. -/
inductive CallerOp
  | invoke
  | enqueue (execTimeoutMs : UInt32)
  | reject
  | requestExternalRecovery (request : ExternalRecoveryRequest)
  | engineDied (dead : ℕ)
  | retryAwait (call : ℕ)
  | retrySnapshot (call : ℕ) (status : StatusCode)
  deriving DecidableEq, Repr

/-- The points of `Shutdown` after its section under `lifecycleMutex_`. -/
inductive ShutdownOp
  | stopRuntime
  | stopSubmit
  | stopWatchdog
  | join (t : ClientThread)
  | failAllPending
  | failQueued
  | finishShutdown
  deriving DecidableEq, Repr

/-- One operation of a thread. `lock` and `unlock` are those of `lifecycleMutex_`. -/
inductive ClientOp
  | lock
  | unlock
  | resolve (call : ℕ) (reply : RpcReply)
  | recovery (o : RecoveryOp)
  | submit (o : SubmitOp)
  | wait (o : WaitOp)
  | response (o : ResponseOp)
  | watchdog (o : WatchdogOp)
  | caller (o : CallerOp)
  | shutdown (o : ShutdownOp)
  deriving DecidableEq, Repr

/-- What a round of `WatchdogLoop` does next. -/
inductive WatchdogTask
  | pendingTimeouts
  | healthCheck
  | idlePolicy
  | stop
  deriving DecidableEq, Repr

/-- What the environment answers to an operation; each reads the fields it needs. -/
structure ClientAnswer where
  /-- The decision of the policy's callback, if one is installed. -/
  decision : Option RecoveryDecision := none
  /-- The result of `OpenSession` of the bootstrap channel and of the attach. -/
  openStatus : StatusCode := .ok
  /-- The payload could be prepared for the transport. -/
  prepared : Bool := true
  /-- The result of `PushRequest`. -/
  pushStatus : StatusCode := .ok
  /-- A push that fails has stored its entry all the same. -/
  stored : Bool := false
  popped : Option PoppedResponse := none
  poll : PollEventFdResult := .ready
  /-- The eventfd of the live session could be duplicated. -/
  duplicated : Bool := true
  unhealthy : Bool := false
  watchdog : WatchdogTask := .pendingTimeouts
  execTimeoutMs : UInt32 := 0
  /-- The deadline of `RetryUntilRecoverySettles` has passed. -/
  expired : Bool := false

/-- What executing an operation gives: the shared state and the operations to execute
next, or nothing while the operation is blocked. -/
abbrev ClientResult := Option (RpcClient × List ClientOp)

/-! ## The pending store and the futures -/

namespace PendingRequest

/-- The condition of `TakeExpired`. -/
def expired (p : PendingRequest) (now : ℕ) : Bool := p.waitDeadline.any (· ≤ now)

end PendingRequest

namespace RpcClient

variable (s : RpcClient)

/-- `ClientRequestStore::Put`: an entry with the same id is overwritten. -/
def put (p : PendingRequest) : RpcClient :=
  { s with requestStore := s.requestStore.filter (·.info.requestId ≠ p.info.requestId) ++ [p] }

/-- What `ClientRequestStore::Take` leaves. -/
def erase (requestId : UInt64) : RpcClient :=
  { s with requestStore := s.requestStore.filter (·.info.requestId ≠ requestId) }

/-- `ResolveState`: a future that is ready stays as it is. -/
def resolveState (call : ℕ) (reply : RpcReply) : RpcClient :=
  { s with
    future := Function.update s.future call (some ((s.future call).getD reply))
    log := if (s.future call).isSome then s.log else .resolved call reply :: s.log }

/-- `MakePendingInfo`. -/
def makePendingInfo (job : SubmitJob) : PendingInfo := ⟨job.requestId, s.session⟩

/-- `BuildPendingRequest` with `MakePendingWaitDeadline`. -/
def buildPendingRequest (job : SubmitJob) : PendingRequest where
  call := job.call
  info := s.makePendingInfo job
  waitDeadline := if job.execTimeoutMs = 0 then none else some (s.now + job.execTimeoutMs.toNat)

/-- `RuntimeStopStatus`. -/
def runtimeStopStatus : StatusCode :=
  if s.control = .opened then .peerDisconnected else .clientClosed

/-! ## Recovery -/

/-- The live session is closed. -/
def closeSession (cause : Option ℕ) : RpcClient :=
  { s with session := 0, log := .closed cause s.session :: s.log }

/-- The result of `EnsureLiveSessionLocked`, kept for the submit thread if it asked. -/
def report (reports : Bool) (status : StatusCode) : RpcClient :=
  { s with sessionStatus := if reports then status else s.sessionStatus }

/-- `TransitionLifecycle` with `CooldownWindowChange::Clear`. -/
def enter (state : ClientLifecycleState) : RpcClient :=
  { s with lifecycle := state, cooldownUntilMs := 0 }

/-- `BeginSessionOpen`. -/
def beginSessionOpen : RpcClient :=
  { s with lifecycle := if s.lifecycle = .uninitialized then .uninitialized else .recovering }

/-- `HasPendingRecoveryLocked`. -/
def recoveryPending : Bool := s.lifecycle = .recovering ∨ s.lifecycle = .cooldown

/-- `HandleSessionOpenFailure` enters `NoSession` out of a recovery. -/
def handleSessionOpenFailure : RpcClient :=
  { s with
    lifecycle := if s.recoveryPending then .noSession else s.lifecycle
    cooldownUntilMs := if s.recoveryPending then 0 else s.cooldownUntilMs }

/-- `StartRecovery`. -/
def startRecovery (observed : ℕ) (delayMs : UInt32) (cause : Option ℕ) : RpcClient :=
  { s with
    lifecycle := if delayMs = 0 then .recovering else .cooldown
    cooldownUntilMs := s.now + delayMs.toNat
    log := .restarted cause observed :: s.log }

/-- `FailAndResolve`. -/
def failAndResolve (info : PendingInfo) (status : StatusCode) (cause : Option ℕ) (call : ℕ) :
    List ClientOp :=
  [.lock, .recovery (.applyFailure info status cause), .unlock, .resolve call { status }]

/-- `FailAndResolveLocked`. -/
def failAndResolveLocked (status : StatusCode) (p : PendingRequest) : List ClientOp :=
  [.recovery (.applyFailure p.info status (some p.info.sessionId)), .resolve p.call { status }]

/-- `HandleEngineDeath` takes the mutex. -/
def handleEngineDeath (observed dead : ℕ) (cause : Option ℕ) : List ClientOp :=
  [.lock, .recovery (.handleDeath observed dead cause), .unlock]

/-- `CloseLiveSessionForTransportFailure`. -/
def closeLiveSessionForTransportFailure (cause : Option ℕ) : List ClientOp :=
  [.lock, .recovery (.closeLive cause), .unlock]

end RpcClient

open RpcClient

/-- What the functions under `lifecycleMutex_` do. -/
def RecoveryOp.exec (s : RpcClient) (answer : ClientAnswer) : RecoveryOp → ClientResult
  -- `ApplyFailureRecoveryDecisionLocked`
  | .applyFailure info _ cause =>
    if s.control = .opened ∧ info.sessionId = s.session then
      match answer.decision with
      | some d =>
        some (s, [.recovery (.applyDecision d info.sessionId .failWithRecoveryPolicy cause)])
      | none => some (s, [])
    else some (s, [])
  | .handleIdle observed =>
    if s.control = .opened ∧ observed = s.session then
      match answer.decision with
      | some d =>
        some (s, [.recovery (.applyDecision d observed .failWithRecoveryPolicy none)])
      | none => some (s, [])
    else some (s, [])
  | .handleExternal observed request cause =>
    if s.control = .opened ∧ observed = s.session ∧
        (request.sessionId = 0 ∨ request.sessionId = observed) then
      some (s, [.recovery (.scheduleRecovery observed request.delayMs
        .resolvePeerDisconnected cause)])
    else some (s, [])
  -- a notice without an id is taken for one of the observed session
  | .handleDeath observed dead cause =>
    if s.control = .opened ∧ observed = s.session ∧ observed ≠ 0 ∧
        (dead = 0 ∨ dead = observed) then
      some (s, [.recovery (.closeIfMatches .death observed cause),
        .recovery (.resolveAll .crashedDuringExecution),
        .recovery (.deathDecision observed cause)])
    else some (s, [])
  | .deathDecision observed cause =>
    match answer.decision with
    | some d =>
      if d.action = .ignore then some (s, [.recovery .enterNoSession])
      else some (s, [.recovery (.applyDecision d observed .keepCurrentState cause)])
    | none => some (s, [.recovery .enterNoSession])
  | .applyDecision d observed pending cause =>
    if s.control = .opened then
      match d.action with
      | .idleClose => some (s, [.recovery (.closeIdle observed cause)])
      | .restart =>
        some (s, [.recovery (.scheduleRecovery observed d.delayMs pending cause)])
      | .ignore | .manualShutdown => some (s, [])
    else some (s, [])
  | .closeIdle observed cause =>
    if s.control = .opened then
      some (s, [.recovery (.closeIfMatches .idle observed cause), .recovery .enterIdleClosed])
    else some (s, [])
  | .scheduleRecovery observed delayMs pending cause =>
    if s.control = .opened then
      some (s, [.recovery (.startRecovery observed delayMs cause),
        .recovery (.closeIfMatches .recovery observed cause),
        .recovery (.handlePending pending), .recovery (.reconnect delayMs)])
    else some (s, [])
  | .startRecovery observed delayMs cause => some (s.startRecovery observed delayMs cause, [])
  | .closeIfMatches _ observed cause =>
    if s.sessionMutex then none
    else if s.session = observed ∧ observed ≠ 0 then some (s.closeSession cause, [])
    else some (s, [])
  | .closeLive cause =>
    if s.sessionMutex then none
    else if s.session ≠ 0 then some (s.closeSession cause, [])
    else some (s, [])
  | .handlePending .failWithRecoveryPolicy =>
    some ({ s with requestStore := [] },
      s.requestStore.flatMap (failAndResolveLocked .peerDisconnected))
  | .handlePending .resolvePeerDisconnected =>
    some (s, [.recovery (.resolveAll .peerDisconnected)])
  | .handlePending .keepCurrentState => some (s, [])
  -- `ResolveAllPending`
  | .resolveAll status =>
    some ({ s with requestStore := [] },
      s.requestStore.map fun p => .resolve p.call { status })
  | .reconnect delayMs =>
    if delayMs = 0 then some (s, [.recovery (.ensureLive false)]) else some (s, [])
  | .ensureLive reports =>
    if s.control = .closing ∨ s.control = .closed then
      some (s.report reports .clientClosed, [])
    else if s.now < s.cooldownUntilMs then some (s.report reports .cooldownActive, [])
    else if s.session ≠ 0 then some (s.report reports .ok, [])
    else some (s.beginSessionOpen, [.recovery (.openSession reports)])
  | .openSession reports =>
    if s.sessionMutex then none
    else if answer.openStatus = .ok then
      some ({ s with session := s.opened + 1, opened := s.opened + 1 },
        [.recovery (.finalizeOpen reports)])
    else some (s, [.recovery (.openFailed answer.openStatus reports)])
  | .finalizeOpen reports => some ((s.enter .active).report reports .ok, [])
  | .openFailed status reports => some (s.handleSessionOpenFailure.report reports status, [])
  | .enterNoSession => if s.control = .opened then some (s.enter .noSession, []) else some (s, [])
  | .enterIdleClosed => some (s.enter .idleClosed, [])
  | .enterTerminalClosed => some (s.enter .closed, [])

/-! ## The submit thread -/

/-- What `TryAdmitSubmit` and `SubmitOne` do about a push that failed. -/
def admitFailed (job : SubmitJob) (info : PendingInfo) : StatusCode → List ClientOp
  | .peerDisconnected =>
    closeLiveSessionForTransportFailure none ++ [.submit (.submitLoop job info)]
  | .queueFull => [.submit (.creditSync job info)]
  | status => [.submit (.resolveFailure job info status)]

/-- What `SubmitWorker` does. -/
def SubmitOp.exec (s : RpcClient) (answer : ClientAnswer) : SubmitOp → ClientResult
  | .run =>
    if s.submitMutex ≠ none then none
    else
      match s.submitQueue with
      | job :: queue =>
        some ({ s with submitQueue := queue }, [.submit (.submitOne job), .submit .run])
      | [] =>
        if s.submitStopRequested then some ({ s with exited := .submit :: s.exited }, [])
        else none
  | .submitOne job => some (s, [.submit (.submitLoop job (s.makePendingInfo job))])
  | .submitLoop job info =>
    if s.workersRunning then some (s, [.submit (.readyLoop job info)])
    else some (s, [.submit (.resolveFailure job info s.runtimeStopStatus)])
  -- `WaitUntilSessionReadyForSubmit`
  | .readyLoop job info =>
    if s.workersRunning then
      some (s, [.lock, .recovery (.ensureLive true), .unlock, .submit (.ensured job info)])
    else some (s, [.submit (.resolveFailure job info s.runtimeStopStatus)])
  | .ensured job info =>
    match s.sessionStatus with
    | .ok => some (s, [.submit (.tryPush job info)])
    | .cooldownActive => some (s, [.wait (.cooldown (.submit job info))])
    | .peerDisconnected => some (s, [.wait (.tick (.submit job info))])
    | status => some (s, [.submit (.resolveFailure job info status)])
  -- `TryPushRequest` takes `sessionMutex_` and validates the session
  | .tryPush job info =>
    if s.session = 0 then some (s, [.submit (.admitFailed job info .peerDisconnected)])
    else some ({ s with sessionMutex := true }, [.submit (.prepare job info)])
  | .prepare job info =>
    if answer.prepared then some (s, [.submit (.put job info)])
    else
      some ({ s with sessionMutex := false },
        [.submit (.admitFailed job info .payloadTooLarge)])
  | .put job info =>
    some (s.put (s.buildPendingRequest job), [.submit (.pushRequest job info)])
  -- `PushRequestToSession`; a push may report a broken session after it stored the entry
  | .pushRequest job info =>
    if answer.pushStatus = .ok then
      some ({ s with
        sessionMutex := false
        log := .published job.call s.session :: .pushed job.call s.session :: s.log }, [])
    else if answer.stored then
      some ({ s with log := .pushed job.call s.session :: s.log },
        [.submit (.unput job info answer.pushStatus)])
    else some (s, [.submit (.unput job info answer.pushStatus)])
  | .unput job info status =>
    some ({ s.erase job.requestId with sessionMutex := false },
      [.submit (.admitFailed job info status)])
  | .admitFailed job info status => some (s, MemRpc.admitFailed job info status)
  -- `SyncActiveRequestCreditWait`
  | .creditSync job info =>
    if s.session = s.activeRequestCreditSessionId ∧ s.session ≠ 0 then
      some (s, [.submit (.creditPoll job info)])
    else if s.session ≠ 0 ∧ answer.duplicated then
      some ({ s with activeRequestCreditSessionId := s.session },
        [.submit (.creditPoll job info)])
    else
      some ({ s with activeRequestCreditSessionId := 0 },
        [.submit (.creditMissing job info)])
  | .creditMissing job info =>
    if s.session = 0 then some (s, [.submit (.submitLoop job info)])
    else
      some (s, closeLiveSessionForTransportFailure none ++ [.submit (.submitLoop job info)])
  | .creditPoll job info =>
    if s.workersRunning then
      match answer.poll with
      | .ready => some (s, [.submit (.submitLoop job info)])
      | .retry | .timeout =>
        if s.session ≠ s.activeRequestCreditSessionId then
          some (s, [.submit (.submitLoop job info)])
        else some (s, [.submit (.creditPoll job info)])
      | .failed =>
        if s.session ≠ s.activeRequestCreditSessionId then
          some (s, [.submit (.submitLoop job info)])
        else
          some (s, closeLiveSessionForTransportFailure
            (some s.activeRequestCreditSessionId) ++ [.submit (.submitLoop job info)])
    else
      some (s, closeLiveSessionForTransportFailure none ++ [.submit (.submitLoop job info)])
  | .resolveFailure job info status => some (s, failAndResolve info status none job.call)

/-! ## Waiting for the recovery state -/

/-- `RecoveryStateWaitResultLocked`. -/
def ClientLifecycleState.waitResult : ClientLifecycleState → StatusCode
  | .active | .cooldown | .recovering => .ok
  | .closed => .clientClosed
  | .noSession | .idleClosed | .uninitialized => .peerDisconnected

/-- What the waiter does with the status it waited for. -/
def Waiter.resume (status : StatusCode) : Waiter → List ClientOp
  | .submit job info =>
    if status = .ok then [.submit (.readyLoop job info)]
    else [.submit (.resolveFailure job info status)]
  | .retry _ _ => if status = .ok then [.caller .invoke] else []

/-- The submit thread waits without a deadline. -/
def Waiter.timedOut (answer : ClientAnswer) : Waiter → Bool
  | .submit _ _ => false
  | .retry _ _ => answer.expired

/-- What `WaitForRecoveryState` does. -/
def WaitOp.exec (s : RpcClient) (answer : ClientAnswer) : WaitOp → ClientResult
  | .cooldown w =>
    if ¬ s.workersRunning then some (s, w.resume s.runtimeStopStatus)
    else if s.control ≠ .opened then some (s, w.resume .clientClosed)
    else if s.lifecycle ≠ .cooldown then some (s, w.resume s.lifecycle.waitResult)
    else if s.cooldownUntilMs ≤ s.now then some (s, w.resume .ok)
    else if w.timedOut answer then some (s, w.resume .cooldownActive)
    else some (s, [.wait (.cooldownAsleep w)])
  | .cooldownAsleep w =>
    if s.lifecycle ≠ .cooldown then some (s, w.resume s.lifecycle.waitResult)
    else some (s, [.wait (.cooldown w)])
  | .tick w =>
    if ¬ s.workersRunning then some (s, w.resume s.runtimeStopStatus)
    else if s.control ≠ .opened then some (s, w.resume .clientClosed)
    else if s.lifecycle ≠ .recovering then some (s, w.resume s.lifecycle.waitResult)
    else if w.timedOut answer then some (s, w.resume .peerDisconnected)
    else some (s, [.wait (.tickAsleep w)])
  -- `Recovering` has the wait result `Ok` too
  | .tickAsleep w => some (s, w.resume s.lifecycle.waitResult)

/-! ## The response thread -/

/-- What `ResponseWorker` does. -/
def ResponseOp.exec (s : RpcClient) (answer : ClientAnswer) : ResponseOp → ClientResult
  | .run =>
    if s.workersRunning then some (s, [.response (.drain false), .response .run])
    else some ({ s with exited := .response :: s.exited }, [])
  -- `DrainResponseRing` pops under `sessionMutex_`
  | .drain drained =>
    match answer.popped with
    | some entry =>
      if s.session = 0 ∨ s.sessionMutex then none
      else some (s, [.response (.deliver s.session entry)])
    | none => if drained then some (s, []) else some (s, [.response .pollSync])
  | .deliver session .oversized => some (s, [.response (.observeDeath session)])
  | .deliver _ (.event true) => some (s, [.response (.drain true)])
  | .deliver session (.event false) =>
    some (s, [.response (.observeDeath session), .response (.drain true)])
  | .deliver _ (.reply requestId reply) =>
    some (s, [.response (.resolveCompleted requestId reply), .response (.drain true)])
  -- the id is read after the entry was popped
  | .observeDeath session => some (s, handleEngineDeath s.session s.session (some session))
  -- `ResolveCompletedRequest`
  | .resolveCompleted requestId reply =>
    match s.requestStore.find? (·.info.requestId = requestId) with
    | none => some (s, [])
    | some p =>
      if reply.status = .ok then some (s.erase requestId, [.resolve p.call reply])
      else
        some (s.erase requestId, [.lock,
          .recovery (.applyFailure p.info reply.status (some p.info.sessionId)), .unlock,
          .resolve p.call reply])
  -- `WaitUntilResponsePollReady`; without an eventfd it waits for a notification
  | .pollSync =>
    if ¬ s.workersRunning then some (s, [])
    else if s.session = s.activePollSessionId ∧ s.session ≠ 0 then some (s, [.response .poll])
    else if s.session ≠ 0 ∧ answer.duplicated then
      some ({ s with activePollSessionId := s.session }, [.response .poll])
    else some ({ s with activePollSessionId := 0 }, [.response .pollSync])
  | .poll =>
    match answer.poll with
    | .failed =>
      some ({ s with activePollSessionId := 0 },
        handleEngineDeath s.activePollSessionId s.activePollSessionId
          (some s.activePollSessionId))
    | _ => some (s, [])

/-! ## The watchdog -/

/-- What `WatchdogLoop` does. -/
def WatchdogOp.exec (s : RpcClient) (answer : ClientAnswer) : WatchdogOp → ClientResult
  | .run =>
    match answer.watchdog with
    | .pendingTimeouts => some (s, [.watchdog .pendingTimeouts, .watchdog .run])
    | .healthCheck => some (s, [.watchdog .healthObserve, .watchdog .run])
    | .idlePolicy => some (s, [.watchdog .idleStore, .watchdog .run])
    | .stop =>
      if s.watchdogStopRequested then some ({ s with exited := .watchdog :: s.exited }, [])
      else none
  | .pendingTimeouts => some (s, [.watchdog (.takeExpired s.now)])
  | .takeExpired now =>
    some ({ s with requestStore := s.requestStore.filter fun p => ¬ p.expired now },
      (s.requestStore.filter (·.expired now)).flatMap fun p =>
        failAndResolve p.info .execTimeout (some p.info.sessionId) p.call)
  | .healthObserve =>
    if s.control = .opened ∧ s.session ≠ 0 then
      some (s, [.watchdog (.healthCheck s.session)])
    else some (s, [])
  | .healthCheck observed =>
    if answer.unhealthy then
      some (s, [.lock, .recovery (.handleExternal observed ⟨observed, 0⟩ (some observed)),
        .unlock])
    else some (s, [])
  -- `MaybeRunIdlePolicy` reads the store, the queue and the session one after the other
  | .idleStore =>
    if s.control = .opened ∧ s.requestStore = [] then some (s, [.watchdog .idleQueue])
    else some (s, [])
  | .idleQueue =>
    if s.submitMutex ≠ none then none
    else if s.submitQueue = [] then some (s, [.watchdog .idleObserve])
    else some (s, [])
  | .idleObserve =>
    if s.session ≠ 0 then
      some (s, [.lock, .recovery (.handleIdle s.session), .unlock])
    else some (s, [])

/-! ## The public calls -/

/-- `ShouldRetryRecoveryStatus` of a status alone. -/
def StatusCode.retryable (status : StatusCode) : Bool :=
  status = .cooldownActive ∨ status = .peerDisconnected

/-- The calls that a thread makes in `RetryUntilRecoverySettles`. -/
def ClientThread.attempt (call : ℕ) : ClientThread → List (ℕ × ℕ)
  | .retrier k => [(k, call)]
  | _ => []

/-- A callback waits for the future of its call. -/
def ClientThread.await (call : ℕ) : ClientThread → List ClientOp
  | .retrier _ => [.caller (.retryAwait call)]
  | _ => []

/-- The request of the next call; request ids start at 1. -/
def RpcClient.nextJob (s : RpcClient) (execTimeoutMs : UInt32) : SubmitJob :=
  ⟨s.calls, UInt64.ofNat (s.calls + 1), execTimeoutMs⟩

/-- `EnqueueSubmitLocked`. -/
def RpcClient.enqueueSubmit (s : RpcClient) (execTimeoutMs : UInt32) : RpcClient :=
  { s with submitQueue := s.submitQueue ++ [s.nextJob execTimeoutMs] }

/-- A call of `InvokeAsync` has taken its request id and returns. -/
def RpcClient.callReturned (s : RpcClient) (t : ClientThread) : RpcClient :=
  { s with
    calls := s.calls + 1
    attempts := t.attempt s.calls ++ s.attempts
    submitMutex := none }

/-- What the public calls do on thread `t`. -/
def CallerOp.exec (t : ClientThread) (s : RpcClient) (answer : ClientAnswer) :
    CallerOp → ClientResult
  | .invoke =>
    if s.submitMutex ≠ none then none
    else if s.control = .opened then
      some ({ s with submitMutex := some t }, [.caller (.enqueue answer.execTimeoutMs)])
    else some ({ s with submitMutex := some t }, [.caller .reject])
  | .enqueue execTimeoutMs =>
    some ((s.enqueueSubmit execTimeoutMs).callReturned t, t.await s.calls)
  -- `RejectInvoke`
  | .reject =>
    some ((s.resolveState s.calls { status := .clientClosed }).callReturned t, t.await s.calls)
  | .requestExternalRecovery request =>
    if s.control = .opened then
      some (s, [.lock, .recovery (.handleExternal s.session request none), .unlock])
    else some (s, [])
  | .engineDied dead =>
    some (s, handleEngineDeath s.session dead (if dead = 0 then none else some dead))
  | .retryAwait call =>
    match s.future call with
    | none => none
    | some reply =>
      if reply.status = .ok then some (s, [])
      else some (s, [.caller (.retrySnapshot call reply.status)])
  -- the rounds of `RetryUntilRecoverySettles`
  | .retrySnapshot call status =>
    if status.retryable ∧ ¬ answer.expired then
      match s.lifecycle with
      | .cooldown => some (s, [.wait (.cooldown (.retry call status))])
      | .recovering => some (s, [.wait (.tick (.retry call status))])
      | _ => some (s, [])
    else some (s, [])

/-! ## Shutdown -/

/-- What `Shutdown` does once the session is closed for good. -/
def ShutdownOp.exec (s : RpcClient) : ShutdownOp → ClientResult
  | .stopRuntime => some ({ s with workersRunning := false }, [])
  | .stopSubmit =>
    if s.submitMutex ≠ none then none else some ({ s with submitStopRequested := true }, [])
  | .stopWatchdog => some ({ s with watchdogStopRequested := true }, [])
  | .join t => if t ∈ s.exited then some (s, []) else none
  | .failAllPending =>
    some ({ s with requestStore := [] }, s.requestStore.flatMap fun p =>
      failAndResolve p.info .clientClosed (some p.info.sessionId) p.call)
  | .failQueued =>
    if s.submitMutex ≠ none then none
    else
      some ({ s with submitQueue := [] },
        s.submitQueue.map fun job => .resolve job.call { status := .clientClosed })
  | .finishShutdown => some ({ s with control := .closed, shutdownReturned := true }, [])

/-- `StopThreads`, `FailOutstandingWork` and `FinishShutdown`. -/
def shutdownOps : List ShutdownOp :=
  [.stopRuntime, .stopSubmit, .stopWatchdog, .join .submit, .join .response, .join .watchdog,
    .failAllPending, .failQueued, .finishShutdown]

/-- `Shutdown` after `BeginShutdown`. -/
def shutdownProgram : List ClientOp :=
  [.lock, .recovery (.closeLive none), .recovery .enterTerminalClosed, .unlock] ++
    shutdownOps.map .shutdown

/-! ## The machine -/

/-- One operation of thread `t`. -/
def ClientOp.exec (t : ClientThread) (answer : ClientAnswer) (s : RpcClient) :
    ClientOp → ClientResult
  | .lock =>
    if s.lifecycleMutex = none then some ({ s with lifecycleMutex := some t }, []) else none
  | .unlock => some ({ s with lifecycleMutex := none }, [])
  | .resolve call reply => some (s.resolveState call reply, [])
  | .recovery o => o.exec s answer
  | .submit o => o.exec s answer
  | .wait o => o.exec s answer
  | .response o => o.exec s answer
  | .watchdog o => o.exec s answer
  | .caller o => o.exec t s answer
  | .shutdown o => o.exec s

/-- A call from outside on a thread of its own. -/
inductive ClientEntry
  | invokeAsync
  | requestExternalRecovery (request : ExternalRecoveryRequest)
  | engineDied (dead : ℕ)
  | init
  deriving DecidableEq, Repr

/-- `Init` of a client that is running only ensures its session. -/
def ClientEntry.program : ClientEntry → List ClientOp
  | .invokeAsync => [.caller .invoke]
  | .requestExternalRecovery request => [.caller (.requestExternalRecovery request)]
  | .engineDied dead => [.caller (.engineDied dead)]
  | .init => [.lock, .recovery (.ensureLive false), .unlock]

/-- A client with the operations its threads have still to execute. -/
abbrev ClientRuntime := Pool RpcClient ClientThread ClientOp

/-- One step: a thread executes its next operation, a call enters the client, or the
clock advances. -/
inductive ClientAction
  | exec (t : ClientThread) (answer : ClientAnswer)
  | call (n : ℕ) (entry : ClientEntry)
  | retry (k : ℕ)
  | shutdown
  | tick (ms : ℕ)

/-- The client after `Init`. -/
def RpcClient.initial : ClientInitMode → RpcClient
  | .eagerSession => { lifecycle := .active, session := 1, opened := 1 }
  | .lazySession => {}

/-- What the threads of a client execute after `Init`. -/
def initialOps : ClientThread → List ClientOp
  | .submit => [.submit .run]
  | .response => [.response .run]
  | .watchdog => [.watchdog .run]
  | _ => []

/-- The machine of an initialised client. -/
def rpcClient (mode : ClientInitMode) : Machine ClientRuntime ClientAction where
  init := ⟨.initial mode, initialOps⟩
  step s
    | .exec t answer => s.exec (ClientOp.exec t answer) t
    | .call n entry => s.start (.external n) entry.program
    | .retry k =>
      if s.shared.attempts.any (·.1 = k) then none
      else s.start (.retrier k) [.caller .invoke]
    | .shutdown =>
      if s.shared.control = .opened ∨ s.shared.control = .uninitialized then
        Pool.start { s with shared := { s.shared with control := .closing } } .shutdown
          shutdownProgram
      else none
    | .tick ms => some { s with shared := { s.shared with now := s.shared.now + ms } }

end MemRpc
