import MemRpc.Rpc.ClientRuntime

/-!
# What a step of the client can do

Each component changes a few fields of the shared state; `exec_frame` says which. A step
of the machine is one operation of one thread, the start of a call, or a tick
(`ClientMove`). A condition on steps is a condition on the operation that is executed
(`NextOp`).
-/

namespace MemRpc

open Concurrency RpcClient

variable {mode : ClientInitMode} {t : ClientThread} {answer : ClientAnswer}
  {s s' : RpcClient} {r r' : ClientRuntime} {a : ClientAction} {next : List ClientOp}

/-! ## What each component changes -/

theorem RecoveryOp.exec_frame {o : RecoveryOp} (h : o.exec s answer = some (s', next)) :
    s' = { s with
      lifecycle := s'.lifecycle, cooldownUntilMs := s'.cooldownUntilMs, session := s'.session,
      opened := s'.opened, sessionStatus := s'.sessionStatus,
      requestStore := s'.requestStore, log := s'.log } := by
  revert h
  fun_cases RecoveryOp.exec <;> simp only [Option.some.injEq, Prod.mk.injEq, reduceCtorEq,
    false_implies, and_imp] <;> (try rintro rfl rfl) <;> (try rfl)

theorem SubmitOp.exec_frame {o : SubmitOp} (h : o.exec s answer = some (s', next)) :
    s' = { s with
      submitQueue := s'.submitQueue, exited := s'.exited, sessionMutex := s'.sessionMutex,
      requestStore := s'.requestStore, log := s'.log,
      activeRequestCreditSessionId := s'.activeRequestCreditSessionId } := by
  revert h
  fun_cases SubmitOp.exec <;> simp only [Option.some.injEq, Prod.mk.injEq, reduceCtorEq,
    false_implies, and_imp] <;> (try rintro rfl rfl) <;> (try rfl)

theorem WaitOp.exec_frame {o : WaitOp} (h : o.exec s answer = some (s', next)) : s' = s := by
  revert h
  fun_cases WaitOp.exec <;> simp only [Option.some.injEq, Prod.mk.injEq, and_imp] <;>
    (intro h _; exact h.symm)

variable {o : ResponseOp}

theorem ResponseOp.exec_frame (h : o.exec s answer = some (s', next)) :
    s' = { s with
      requestStore := s'.requestStore, exited := s'.exited,
      activePollSessionId := s'.activePollSessionId } := by
  revert h
  fun_cases ResponseOp.exec <;> simp only [Option.some.injEq, Prod.mk.injEq, reduceCtorEq,
    false_implies, and_imp] <;> (try rintro rfl rfl) <;> (try rfl)

theorem WatchdogOp.exec_frame {o : WatchdogOp} (h : o.exec s answer = some (s', next)) :
    s' = { s with requestStore := s'.requestStore, exited := s'.exited } := by
  revert h
  fun_cases WatchdogOp.exec <;> simp only [Option.some.injEq, Prod.mk.injEq, reduceCtorEq,
    false_implies, and_imp] <;> (try rintro rfl rfl) <;> (try rfl)

theorem CallerOp.exec_frame {o : CallerOp} (h : o.exec t s answer = some (s', next)) :
    s' = { s with
      submitMutex := s'.submitMutex, submitQueue := s'.submitQueue, calls := s'.calls,
      attempts := s'.attempts, future := s'.future, log := s'.log } := by
  revert h
  fun_cases CallerOp.exec <;> simp only [Option.some.injEq, Prod.mk.injEq, reduceCtorEq,
    false_implies, and_imp] <;> (try rintro rfl rfl) <;> (try rfl)

theorem ShutdownOp.exec_frame {o : ShutdownOp} (h : o.exec s = some (s', next)) :
    s' = { s with
      workersRunning := s'.workersRunning, submitStopRequested := s'.submitStopRequested,
      watchdogStopRequested := s'.watchdogStopRequested, requestStore := s'.requestStore,
      submitQueue := s'.submitQueue, control := s'.control,
      shutdownReturned := s'.shutdownReturned } := by
  revert h
  fun_cases ShutdownOp.exec <;> simp only [Option.some.injEq, Prod.mk.injEq, reduceCtorEq,
    false_implies, and_imp] <;> (try rintro rfl rfl) <;> (try rfl)

/-! ## The functions under the lifecycle mutex -/

/-- The functions that return without doing anything when the client is closed, the
observed session was replaced, or there is nothing to do. -/
def RecoveryOp.conditional : RecoveryOp → Bool
  | .applyFailure .. | .handleIdle .. | .handleExternal .. | .handleDeath .. | .applyDecision ..
  | .closeIdle .. | .scheduleRecovery .. | .reconnect .. | .enterNoSession
  | .handlePending .keepCurrentState => true
  | _ => false

/-- What a function under the mutex does: the shared state after it, and its calls. -/
inductive RecoveryMove (s : RpcClient) (answer : ClientAnswer) :
    RecoveryOp → RpcClient → List ClientOp → Prop
  | skip {o : RecoveryOp} (h : o.conditional = true) : RecoveryMove s answer o s []
  | failureDecided {info : PendingInfo} {status : StatusCode} {cause : Option ℕ}
      (d : RecoveryDecision) (hobs : info.sessionId = s.session) :
      RecoveryMove s answer (.applyFailure info status cause) s
        [.recovery (.applyDecision d info.sessionId .failWithRecoveryPolicy cause)]
  | idleDecided {observed : ℕ} (d : RecoveryDecision) (hobs : observed = s.session) :
      RecoveryMove s answer (.handleIdle observed) s
        [.recovery (.applyDecision d observed .failWithRecoveryPolicy none)]
  | external {observed : ℕ} {request : ExternalRecoveryRequest} {cause : Option ℕ}
      (hobs : observed = s.session) :
      RecoveryMove s answer (.handleExternal observed request cause) s
        [.recovery (.scheduleRecovery observed request.delayMs .resolvePeerDisconnected cause)]
  | death {observed dead : ℕ} {cause : Option ℕ} (hobs : observed = s.session)
      (hlive : observed ≠ 0) (hdead : dead = 0 ∨ dead = observed) :
      RecoveryMove s answer (.handleDeath observed dead cause) s
        [.recovery (.closeIfMatches .death observed cause),
          .recovery (.resolveAll .crashedDuringExecution),
          .recovery (.deathDecision observed cause)]
  | deathIgnored {observed : ℕ} {cause : Option ℕ} :
      RecoveryMove s answer (.deathDecision observed cause) s [.recovery .enterNoSession]
  | deathDecided {observed : ℕ} {cause : Option ℕ} (d : RecoveryDecision) :
      RecoveryMove s answer (.deathDecision observed cause) s
        [.recovery (.applyDecision d observed .keepCurrentState cause)]
  | idleClose {d : RecoveryDecision} {observed : ℕ} {pending : PendingRequestRecoveryAction}
      {cause : Option ℕ} :
      RecoveryMove s answer (.applyDecision d observed pending cause) s
        [.recovery (.closeIdle observed cause)]
  | restart {d : RecoveryDecision} {observed : ℕ} {pending : PendingRequestRecoveryAction}
      {cause : Option ℕ} :
      RecoveryMove s answer (.applyDecision d observed pending cause) s
        [.recovery (.scheduleRecovery observed d.delayMs pending cause)]
  | closeIdle {observed : ℕ} {cause : Option ℕ} :
      RecoveryMove s answer (.closeIdle observed cause) s
        [.recovery (.closeIfMatches .idle observed cause), .recovery .enterIdleClosed]
  | schedule {observed : ℕ} {delayMs : UInt32} {pending : PendingRequestRecoveryAction}
      {cause : Option ℕ} :
      RecoveryMove s answer (.scheduleRecovery observed delayMs pending cause) s
        [.recovery (.startRecovery observed delayMs cause),
          .recovery (.closeIfMatches .recovery observed cause),
          .recovery (.handlePending pending), .recovery (.reconnect delayMs)]
  | start {observed : ℕ} {delayMs : UInt32} {cause : Option ℕ} :
      RecoveryMove s answer (.startRecovery observed delayMs cause)
        (s.startRecovery observed delayMs cause) []
  | close {reason : CloseReason} {observed : ℕ} {cause : Option ℕ}
      (hfree : s.sessionMutex = false) (hobs : s.session = observed) (hlive : observed ≠ 0) :
      RecoveryMove s answer (.closeIfMatches reason observed cause) (s.closeSession cause) []
  | stale {reason : CloseReason} {observed : ℕ} {cause : Option ℕ}
      (hobs : s.session = observed → observed = 0) :
      RecoveryMove s answer (.closeIfMatches reason observed cause) s []
  | closeLive {cause : Option ℕ} (hfree : s.sessionMutex = false) (hlive : s.session ≠ 0) :
      RecoveryMove s answer (.closeLive cause) (s.closeSession cause) []
  | noneLive {cause : Option ℕ} (hnone : s.session = 0) :
      RecoveryMove s answer (.closeLive cause) s []
  | failPending :
      RecoveryMove s answer (.handlePending .failWithRecoveryPolicy) { s with requestStore := [] }
        (s.requestStore.flatMap (failAndResolveLocked .peerDisconnected))
  | disconnectPending :
      RecoveryMove s answer (.handlePending .resolvePeerDisconnected) s
        [.recovery (.resolveAll .peerDisconnected)]
  | resolveAll {status : StatusCode} :
      RecoveryMove s answer (.resolveAll status) { s with requestStore := [] }
        (s.requestStore.map fun p => .resolve p.call { status })
  | reconnect {delayMs : UInt32} :
      RecoveryMove s answer (.reconnect delayMs) s [.recovery (.ensureLive false)]
  | ensured {reports : Bool} {status : StatusCode}
      (hstatus : status = .clientClosed ∨ status = .cooldownActive ∨ status = .ok) :
      RecoveryMove s answer (.ensureLive reports) (s.report reports status) []
  | ensureOpen {reports : Bool} (hcontrol : s.control ≠ .closing) (hnone : s.session = 0) :
      RecoveryMove s answer (.ensureLive reports) s.beginSessionOpen
        [.recovery (.openSession reports)]
  | opened {reports : Bool} (hfree : s.sessionMutex = false) :
      RecoveryMove s answer (.openSession reports)
        { s with session := s.opened + 1, opened := s.opened + 1 }
        [.recovery (.finalizeOpen reports)]
  | openRefused {reports : Bool} :
      RecoveryMove s answer (.openSession reports) s
        [.recovery (.openFailed answer.openStatus reports)]
  | finalize {reports : Bool} :
      RecoveryMove s answer (.finalizeOpen reports) ((s.enter .active).report reports .ok) []
  | openFailed {status : StatusCode} {reports : Bool} :
      RecoveryMove s answer (.openFailed status reports)
        (s.handleSessionOpenFailure.report reports status) []
  | enterNoSession : RecoveryMove s answer .enterNoSession (s.enter .noSession) []
  | enterIdleClosed : RecoveryMove s answer .enterIdleClosed (s.enter .idleClosed) []
  | enterTerminalClosed : RecoveryMove s answer .enterTerminalClosed (s.enter .closed) []

theorem RecoveryMove.of_exec {o : RecoveryOp} (h : o.exec s answer = some (s', next)) :
    RecoveryMove s answer o s' next := by
  cases o with
  | applyFailure info status cause =>
    simp only [RecoveryOp.exec] at h
    split at h
    · rename_i hguard
      split at h <;> cases h
      · exact .failureDecided _ hguard.2
      · exact .skip rfl
    · cases h
      exact .skip rfl
  | handleIdle observed =>
    simp only [RecoveryOp.exec] at h
    split at h
    · rename_i hguard
      split at h <;> cases h
      · exact .idleDecided _ hguard.2
      · exact .skip rfl
    · cases h
      exact .skip rfl
  | handleExternal observed request cause =>
    simp only [RecoveryOp.exec] at h
    split at h <;> cases h
    · rename_i hguard
      exact .external hguard.2.1
    · exact .skip rfl
  | handleDeath observed dead cause =>
    simp only [RecoveryOp.exec] at h
    split at h <;> cases h
    · rename_i hguard
      exact .death hguard.2.1 hguard.2.2.1 hguard.2.2.2
    · exact .skip rfl
  | deathDecision observed cause =>
    simp only [RecoveryOp.exec] at h
    split at h
    · split at h <;> cases h
      · exact .deathIgnored
      · exact .deathDecided _
    · cases h
      exact .deathIgnored
  | applyDecision d observed pending cause =>
    simp only [RecoveryOp.exec] at h
    split at h
    · split at h <;> cases h
      · exact .idleClose
      · exact .restart
      all_goals exact .skip rfl
    · cases h
      exact .skip rfl
  | closeIdle observed cause =>
    simp only [RecoveryOp.exec] at h
    split at h <;> cases h
    · exact .closeIdle
    · exact .skip rfl
  | scheduleRecovery observed delayMs pending cause =>
    simp only [RecoveryOp.exec] at h
    split at h <;> cases h
    · exact .schedule
    · exact .skip rfl
  | startRecovery observed delayMs cause =>
    cases h
    exact .start
  | closeIfMatches reason observed cause =>
    simp only [RecoveryOp.exec] at h
    split at h
    · cases h
    · rename_i hfree
      split at h <;> cases h
      · rename_i hguard
        exact .close (Bool.not_eq_true _ ▸ hfree) hguard.1 hguard.2
      · rename_i hguard
        exact .stale fun hobs => by_contra fun hlive => hguard ⟨hobs, hlive⟩
  | closeLive cause =>
    simp only [RecoveryOp.exec] at h
    split at h
    · cases h
    · rename_i hfree
      split at h <;> cases h
      · rename_i hlive
        exact .closeLive (Bool.not_eq_true _ ▸ hfree) hlive
      · rename_i hnone
        exact .noneLive (not_not.mp hnone)
  | handlePending pending =>
    cases pending <;> cases h
    · exact .failPending
    · exact .disconnectPending
    · exact .skip rfl
  | resolveAll status =>
    cases h
    exact .resolveAll
  | reconnect delayMs =>
    simp only [RecoveryOp.exec] at h
    split at h <;> cases h
    · exact .reconnect
    · exact .skip rfl
  | ensureLive reports =>
    simp only [RecoveryOp.exec] at h
    split at h
    · cases h
      exact .ensured (.inl rfl)
    · rename_i hcontrol
      split at h
      · cases h
        exact .ensured (.inr (.inl rfl))
      · split at h <;> cases h
        · exact .ensured (.inr (.inr rfl))
        · rename_i hnone
          exact .ensureOpen (fun hc => hcontrol (.inl hc)) (not_not.mp hnone)
  | openSession reports =>
    simp only [RecoveryOp.exec] at h
    split at h
    · cases h
    · rename_i hfree
      split at h <;> cases h
      · exact .opened (Bool.not_eq_true _ ▸ hfree)
      · exact .openRefused
  | finalizeOpen reports =>
    cases h
    exact .finalize
  | openFailed status reports =>
    cases h
    exact .openFailed
  | enterNoSession =>
    simp only [RecoveryOp.exec] at h
    split at h <;> cases h
    · exact .enterNoSession
    · exact .skip rfl
  | enterIdleClosed =>
    cases h
    exact .enterIdleClosed
  | enterTerminalClosed =>
    cases h
    exact .enterTerminalClosed

/-! ## The submit thread -/

/-- The request a point of `SubmitWorker` is about. -/
def SubmitOp.job? : SubmitOp → Option SubmitJob
  | .run => none
  | .submitOne job | .submitLoop job _ | .readyLoop job _ | .ensured job _ | .tryPush job _
  | .prepare job _ | .put job _ | .pushRequest job _ | .unput job _ _ | .admitFailed job _ _
  | .creditSync job _ | .creditMissing job _ | .creditPoll job _ | .resolveFailure job _ _ =>
    some job

/-- The points of `TryPushRequest`, which holds `sessionMutex_`. -/
def SubmitOp.pushing : SubmitOp → Bool
  | .prepare .. | .put .. | .pushRequest .. | .unput .. => true
  | _ => false

def Waiter.job? : Waiter → Option SubmitJob
  | .submit job _ => some job
  | .retry _ _ => none

def WaitOp.waiter : WaitOp → Waiter
  | .cooldown w | .cooldownAsleep w | .tick w | .tickAsleep w => w

/-- The request an operation of the submit thread is about. -/
def ClientOp.job? : ClientOp → Option SubmitJob
  | .submit o => o.job?
  | .wait o => o.waiter.job?
  | _ => none

def ClientOp.pushing : ClientOp → Bool
  | .submit o => o.pushing
  | _ => false

/-- What the submit thread does under `lifecycleMutex_` before it goes on with a request. -/
inductive Detour : List ClientOp → Prop
  | none : Detour []
  | ensureLive : Detour [.lock, .recovery (.ensureLive true), .unlock]
  | closeLive (cause : Option ℕ) : Detour (closeLiveSessionForTransportFailure cause)

/-- What `SubmitWorker` does: it takes a request, passes it on, or lets go of it. -/
inductive SubmitMove (s : RpcClient) (answer : ClientAnswer) :
    SubmitOp → RpcClient → List ClientOp → Prop
  | dequeue {job : SubmitJob} {queue : List SubmitJob} (hqueue : s.submitQueue = job :: queue) :
      SubmitMove s answer .run { s with submitQueue := queue }
        [.submit (.submitOne job), .submit .run]
  | exit (hqueue : s.submitQueue = []) :
      SubmitMove s answer .run { s with exited := .submit :: s.exited } []
  | pass {o : SubmitOp} {job : SubmitJob} {detour : List ClientOp} {op : ClientOp} (credit : ℕ)
      (ho : o.job? = some job) (hpush : o.pushing = false) (hdetour : Detour detour)
      (hop : op.job? = some job) (hpush' : op.pushing = false) :
      SubmitMove s answer o { s with activeRequestCreditSessionId := credit } (detour ++ [op])
  | enter {job : SubmitJob} {info : PendingInfo} (hlive : s.session ≠ 0) :
      SubmitMove s answer (.tryPush job info) { s with sessionMutex := true }
        [.submit (.prepare job info)]
  | prepared {job : SubmitJob} {info : PendingInfo} :
      SubmitMove s answer (.prepare job info) s [.submit (.put job info)]
  | unprepared {job : SubmitJob} {info : PendingInfo} :
      SubmitMove s answer (.prepare job info) { s with sessionMutex := false }
        [.submit (.admitFailed job info .payloadTooLarge)]
  | put {job : SubmitJob} {info : PendingInfo} :
      SubmitMove s answer (.put job info) (s.put (s.buildPendingRequest job))
        [.submit (.pushRequest job info)]
  | published {job : SubmitJob} {info : PendingInfo} :
      SubmitMove s answer (.pushRequest job info)
        { s with
          sessionMutex := false
          log := .published job.call s.session :: .pushed job.call s.session :: s.log } []
  | broke {job : SubmitJob} {info : PendingInfo} :
      SubmitMove s answer (.pushRequest job info)
        { s with log := .pushed job.call s.session :: s.log }
        [.submit (.unput job info answer.pushStatus)]
  | refused {job : SubmitJob} {info : PendingInfo} :
      SubmitMove s answer (.pushRequest job info) s
        [.submit (.unput job info answer.pushStatus)]
  | unput {job : SubmitJob} {info : PendingInfo} {status : StatusCode} :
      SubmitMove s answer (.unput job info status)
        { s.erase job.requestId with sessionMutex := false }
        [.submit (.admitFailed job info status)]
  | fail {job : SubmitJob} {info : PendingInfo} {status : StatusCode} :
      SubmitMove s answer (.resolveFailure job info status) s
        (failAndResolve info status none job.call)

variable {op : ClientOp}

/-- A request is passed on without a change of the shared state. -/
theorem SubmitMove.same {o : SubmitOp} {job : SubmitJob} {detour : List ClientOp}
    (ho : o.job? = some job) (hpush : o.pushing = false) (hdetour : Detour detour)
    (hop : op.job? = some job) (hpush' : op.pushing = false) :
    SubmitMove s answer o s (detour ++ [op]) :=
  .pass s.activeRequestCreditSessionId ho hpush hdetour hop hpush'

theorem SubmitMove.of_exec {o : SubmitOp} (h : o.exec s answer = some (s', next)) :
    SubmitMove s answer o s' next := by
  cases o with
  | run =>
    simp only [SubmitOp.exec] at h
    split at h
    · cases h
    · split at h
      · rename_i hqueue
        cases h
        exact .dequeue hqueue
      · rename_i hqueue
        split at h <;> cases h
        exact .exit hqueue
  | submitOne job =>
    cases h
    exact .same rfl rfl .none rfl rfl
  | submitLoop job info =>
    simp only [SubmitOp.exec] at h
    split at h <;> cases h <;> exact .same rfl rfl .none rfl rfl
  | readyLoop job info =>
    simp only [SubmitOp.exec] at h
    split at h <;> cases h
    · exact .same rfl rfl .ensureLive rfl rfl
    · exact .same rfl rfl .none rfl rfl
  | ensured job info =>
    simp only [SubmitOp.exec] at h
    split at h <;> cases h <;> exact .same rfl rfl .none rfl rfl
  | tryPush job info =>
    simp only [SubmitOp.exec] at h
    split at h <;> cases h
    · exact .same rfl rfl .none rfl rfl
    · rename_i hlive
      exact .enter hlive
  | prepare job info =>
    simp only [SubmitOp.exec] at h
    split at h <;> cases h
    · exact .prepared
    · exact .unprepared
  | put job info =>
    cases h
    exact .put
  | pushRequest job info =>
    simp only [SubmitOp.exec] at h
    split at h
    · cases h
      exact .published
    · split at h <;> cases h
      · exact .broke
      · exact .refused
  | unput job info status =>
    cases h
    exact .unput
  | admitFailed job info status =>
    cases status <;> cases h
    case admitFailed.peerDisconnected.refl => exact .same rfl rfl (.closeLive none) rfl rfl
    all_goals exact .same rfl rfl .none rfl rfl
  | creditSync job info =>
    simp only [SubmitOp.exec] at h
    split at h
    · cases h
      exact .same rfl rfl .none rfl rfl
    · split at h <;> cases h <;> exact .pass _ rfl rfl .none rfl rfl
  | creditMissing job info =>
    simp only [SubmitOp.exec] at h
    split at h <;> cases h
    · exact .same rfl rfl .none rfl rfl
    · exact .same rfl rfl (.closeLive none) rfl rfl
  | creditPoll job info =>
    simp only [SubmitOp.exec] at h
    split at h
    · split at h
      · cases h
        exact .same rfl rfl .none rfl rfl
      · split at h <;> cases h <;> exact .same rfl rfl .none rfl rfl
      · split at h <;> cases h <;> exact .same rfl rfl .none rfl rfl
      · split at h <;> cases h
        · exact .same rfl rfl .none rfl rfl
        · exact .same rfl rfl (.closeLive _) rfl rfl
    · cases h
      exact .same rfl rfl (.closeLive none) rfl rfl
  | resolveFailure job info status =>
    cases h
    exact .fail

theorem Waiter.resume_submit (job : SubmitJob) (info : PendingInfo) (status : StatusCode) :
    (Waiter.submit job info).resume status = [.submit (.readyLoop job info)] ∨
      (Waiter.submit job info).resume status = [.submit (.resolveFailure job info status)] := by
  by_cases h : status = .ok
  · exact .inl (if_pos h)
  · exact .inr (if_neg h)

theorem Waiter.resume_retry (call : ℕ) (st status : StatusCode) :
    (Waiter.retry call st).resume status = [.caller .invoke] ∨
      (Waiter.retry call st).resume status = [] := by
  by_cases h : status = .ok
  · exact .inl (if_pos h)
  · exact .inr (if_neg h)

/-- What waiting for the recovery state gives: the waiter sleeps, or goes on. -/
theorem WaitOp.exec_next {o : WaitOp} (h : o.exec s answer = some (s', next)) :
    (∃ o' : WaitOp, next = [.wait o'] ∧ o'.waiter = o.waiter) ∨
      ∃ status, next = o.waiter.resume status := by
  revert h
  fun_cases WaitOp.exec <;> simp only [Option.some.injEq, Prod.mk.injEq, and_imp] <;>
    rintro rfl rfl
  all_goals first | exact .inr ⟨_, rfl⟩ | exact .inl ⟨_, rfl, rfl⟩

/-! ## The response thread -/

/-- What `ResponseWorker` does. -/
inductive ReceiveMove (s : RpcClient) : ResponseOp → RpcClient → List ClientOp → Prop
  | run : ReceiveMove s .run s [.response (.drain false), .response .run]
  | exit : ReceiveMove s .run { s with exited := .response :: s.exited } []
  | pass {o : ResponseOp} {l : List ResponseOp} (poll : ℕ) (ho : o ≠ .run) (hl : .run ∉ l) :
      ReceiveMove s o { s with activePollSessionId := poll } (l.map .response)
  | badEntry {session : ℕ} :
      ReceiveMove s (.observeDeath session) s
        (handleEngineDeath s.session s.session (some session))
  | pollFailed {session : ℕ} :
      ReceiveMove s .poll { s with activePollSessionId := 0 }
        (handleEngineDeath session session (some session))
  | take {requestId : UInt64} {reply : RpcReply} {p : PendingRequest}
      (hfind : s.requestStore.find? (·.info.requestId = requestId) = some p)
      (hreply : reply.status = .ok) :
      ReceiveMove s (.resolveCompleted requestId reply) (s.erase requestId)
        [.resolve p.call reply]
  | takeFailed {requestId : UInt64} {reply : RpcReply} {p : PendingRequest}
      (hfind : s.requestStore.find? (·.info.requestId = requestId) = some p)
      (hreply : reply.status ≠ .ok) :
      ReceiveMove s (.resolveCompleted requestId reply) (s.erase requestId)
        [.lock, .recovery (.applyFailure p.info reply.status (some p.info.sessionId)), .unlock,
          .resolve p.call reply]

theorem ReceiveMove.same (l : List ResponseOp) (ho : o ≠ .run)
    (hl : .run ∉ l) : ReceiveMove s o s (l.map .response) :=
  .pass s.activePollSessionId ho hl

theorem ReceiveMove.of_exec (h : o.exec s answer = some (s', next)) :
    ReceiveMove s o s' next := by
  cases o with
  | run =>
    simp only [ResponseOp.exec] at h
    split at h <;> cases h
    · exact .run
    · exact .exit
  | drain drained =>
    simp only [ResponseOp.exec] at h
    split at h
    · rename_i entry hentry
      split at h <;> cases h
      exact .same [.deliver s.session entry] (by simp) (by simp)
    · split at h <;> cases h
      · exact .same [] (by simp) (by simp)
      · exact .same [.pollSync] (by simp) (by simp)
  | deliver session entry =>
    match entry with
    | .oversized =>
      cases h
      exact .same [.observeDeath session] (by simp) (by simp)
    | .event true =>
      cases h
      exact .same [.drain true] (by simp) (by simp)
    | .event false =>
      cases h
      exact .same [.observeDeath session, .drain true] (by simp) (by simp)
    | .reply requestId reply =>
      cases h
      exact .same [.resolveCompleted requestId reply, .drain true] (by simp) (by simp)
  | observeDeath session =>
    cases h
    exact .badEntry
  | resolveCompleted requestId reply =>
    simp only [ResponseOp.exec] at h
    split at h
    · cases h
      exact .same [] (by simp) (by simp)
    · rename_i p hfind
      split at h <;> cases h
      · rename_i hreply
        exact .take hfind hreply
      · rename_i hreply
        exact .takeFailed hfind hreply
  | pollSync =>
    simp only [ResponseOp.exec] at h
    split at h
    · cases h
      exact .same [] (by simp) (by simp)
    · split at h
      · cases h
        exact .same [.poll] (by simp) (by simp)
      · split at h <;> cases h
        · exact .pass (l := [.poll]) _ (by simp) (by simp)
        · exact .pass (l := [.pollSync]) _ (by simp) (by simp)
  | poll =>
    simp only [ResponseOp.exec] at h
    split at h <;> cases h
    · exact .pollFailed
    · exact .same [] (by simp) (by simp)

/-! ## The watchdog -/

/-- What `WatchdogLoop` does. -/
inductive WatchdogMove (s : RpcClient) : WatchdogOp → RpcClient → List ClientOp → Prop
  | run {o : WatchdogOp} (ho : o ≠ .run) : WatchdogMove s .run s [.watchdog o, .watchdog .run]
  | exit : WatchdogMove s .run { s with exited := .watchdog :: s.exited } []
  | pass {o : WatchdogOp} {l : List WatchdogOp} (ho : o ≠ .run) (hl : .run ∉ l) :
      WatchdogMove s o s (l.map .watchdog)
  | takeExpired {now : ℕ} :
      WatchdogMove s (.takeExpired now)
        { s with requestStore := s.requestStore.filter fun p => ¬ p.expired now }
        ((s.requestStore.filter (·.expired now)).flatMap fun p =>
          failAndResolve p.info .execTimeout (some p.info.sessionId) p.call)
  | unhealthy {observed : ℕ} :
      WatchdogMove s (.healthCheck observed) s
        [.lock, .recovery (.handleExternal observed ⟨observed, 0⟩ (some observed)), .unlock]
  | idle : WatchdogMove s .idleObserve s [.lock, .recovery (.handleIdle s.session), .unlock]

theorem WatchdogMove.of_exec {o : WatchdogOp} (h : o.exec s answer = some (s', next)) :
    WatchdogMove s o s' next := by
  cases o with
  | run =>
    simp only [WatchdogOp.exec] at h
    split at h
    · cases h
      exact .run (by simp)
    · cases h
      exact .run (by simp)
    · cases h
      exact .run (by simp)
    · split at h <;> cases h
      exact .exit
  | pendingTimeouts =>
    cases h
    exact .pass (l := [.takeExpired s.now]) (by simp) (by simp)
  | takeExpired now =>
    cases h
    exact .takeExpired
  | healthObserve =>
    simp only [WatchdogOp.exec] at h
    split at h <;> cases h
    · exact .pass (l := [.healthCheck s.session]) (by simp) (by simp)
    · exact .pass (l := []) (by simp) (by simp)
  | healthCheck observed =>
    simp only [WatchdogOp.exec] at h
    split at h <;> cases h
    · exact .unhealthy
    · exact .pass (l := []) (by simp) (by simp)
  | idleStore =>
    simp only [WatchdogOp.exec] at h
    split at h <;> cases h
    · exact .pass (l := [.idleQueue]) (by simp) (by simp)
    · exact .pass (l := []) (by simp) (by simp)
  | idleQueue =>
    simp only [WatchdogOp.exec] at h
    split at h
    · cases h
    · split at h <;> cases h
      · exact .pass (l := [.idleObserve]) (by simp) (by simp)
      · exact .pass (l := []) (by simp) (by simp)
  | idleObserve =>
    simp only [WatchdogOp.exec] at h
    split at h <;> cases h
    · exact .idle
    · exact .pass (l := []) (by simp) (by simp)

/-! ## The public calls -/

/-- What the public calls do. -/
inductive CallMove (t : ClientThread) (s : RpcClient) :
    CallerOp → RpcClient → List ClientOp → Prop
  | skip {o : CallerOp} : CallMove t s o s []
  | accept {execTimeoutMs : UInt32} (hfree : s.submitMutex = none) (hopen : s.control = .opened) :
      CallMove t s .invoke { s with submitMutex := some t } [.caller (.enqueue execTimeoutMs)]
  | refuse (hfree : s.submitMutex = none) (hclosed : s.control ≠ .opened) :
      CallMove t s .invoke { s with submitMutex := some t } [.caller .reject]
  | enqueue {execTimeoutMs : UInt32} :
      CallMove t s (.enqueue execTimeoutMs)
        ((s.enqueueSubmit execTimeoutMs).callReturned t) (t.await s.calls)
  | reject :
      CallMove t s .reject
        ((s.resolveState s.calls { status := .clientClosed }).callReturned t) (t.await s.calls)
  | external {request : ExternalRecoveryRequest} :
      CallMove t s (.requestExternalRecovery request) s
        [.lock, .recovery (.handleExternal s.session request none), .unlock]
  | engineDied {dead : ℕ} :
      CallMove t s (.engineDied dead) s
        (handleEngineDeath s.session dead (if dead = 0 then none else some dead))
  | ready {call : ℕ} {reply : RpcReply} (hready : s.future call = some reply) :
      CallMove t s (.retryAwait call) s [.caller (.retrySnapshot call reply.status)]
  | wait {call : ℕ} {status : StatusCode} {o : WaitOp} (hstatus : status.retryable = true)
      (ho : o.waiter = .retry call status) :
      CallMove t s (.retrySnapshot call status) s [.wait o]

theorem CallMove.of_exec {o : CallerOp} (h : o.exec t s answer = some (s', next)) :
    CallMove t s o s' next := by
  cases o with
  | invoke =>
    simp only [CallerOp.exec] at h
    split at h
    · cases h
    · rename_i hfree
      split at h <;> cases h
      · rename_i hopen
        exact .accept (not_not.mp hfree) hopen
      · rename_i hclosed
        exact .refuse (not_not.mp hfree) hclosed
  | enqueue execTimeoutMs =>
    cases h
    exact .enqueue
  | reject =>
    cases h
    exact .reject
  | requestExternalRecovery request =>
    simp only [CallerOp.exec] at h
    split at h <;> cases h
    · exact .external
    · exact .skip
  | engineDied dead =>
    cases h
    exact .engineDied
  | retryAwait call =>
    simp only [CallerOp.exec] at h
    split at h
    · cases h
    · rename_i reply hready
      split at h <;> cases h
      · exact .skip
      · exact .ready hready
  | retrySnapshot call status =>
    simp only [CallerOp.exec] at h
    split at h
    · rename_i hretry
      split at h <;> cases h
      · exact .wait hretry.1 rfl
      · exact .wait hretry.1 rfl
      · exact .skip
    · cases h
      exact .skip

/-! ## Shutdown -/

/-- What `Shutdown` does once the session is closed for good. -/
inductive ShutdownMove (s : RpcClient) : ShutdownOp → RpcClient → List ClientOp → Prop
  | stopRuntime : ShutdownMove s .stopRuntime { s with workersRunning := false } []
  | stopSubmit : ShutdownMove s .stopSubmit { s with submitStopRequested := true } []
  | stopWatchdog : ShutdownMove s .stopWatchdog { s with watchdogStopRequested := true } []
  | join {t : ClientThread} (hexited : t ∈ s.exited) : ShutdownMove s (.join t) s []
  | failAllPending :
      ShutdownMove s .failAllPending { s with requestStore := [] }
        (s.requestStore.flatMap fun p =>
          failAndResolve p.info .clientClosed (some p.info.sessionId) p.call)
  | failQueued (hfree : s.submitMutex = none) :
      ShutdownMove s .failQueued { s with submitQueue := [] }
        (s.submitQueue.map fun job => .resolve job.call { status := .clientClosed })
  | finish :
      ShutdownMove s .finishShutdown { s with control := .closed, shutdownReturned := true } []

theorem ShutdownMove.of_exec {o : ShutdownOp} (h : o.exec s = some (s', next)) :
    ShutdownMove s o s' next := by
  cases o with
  | stopRuntime =>
    cases h
    exact .stopRuntime
  | stopSubmit =>
    simp only [ShutdownOp.exec] at h
    split at h <;> cases h
    exact .stopSubmit
  | stopWatchdog =>
    cases h
    exact .stopWatchdog
  | join t =>
    simp only [ShutdownOp.exec] at h
    split at h <;> cases h
    rename_i hexited
    exact .join hexited
  | failAllPending =>
    cases h
    exact .failAllPending
  | failQueued =>
    simp only [ShutdownOp.exec] at h
    split at h <;> cases h
    rename_i hfree
    exact .failQueued (not_not.mp hfree)
  | finishShutdown =>
    cases h
    exact .finish

/-! ## The lifecycle mutex -/

theorem ClientOp.lock_exec (h : ClientOp.lock.exec t answer s = some (s', next)) :
    s.lifecycleMutex = none ∧ s'.lifecycleMutex = some t ∧ next = [] := by
  simp only [ClientOp.exec] at h
  split at h <;> cases h
  rename_i hfree
  exact ⟨hfree, rfl, rfl⟩

theorem ClientOp.unlock_exec (h : ClientOp.unlock.exec t answer s = some (s', next)) :
    s'.lifecycleMutex = none ∧ next = [] := by
  cases h
  exact ⟨rfl, rfl⟩

/-! ## What an operation leaves alone -/

/-- The fields of the shared state that only some components change. -/
structure Framed (s s' : RpcClient) (op : ClientOp) : Prop where
  control : (∀ o, op ≠ .shutdown o) → s'.control = s.control
  shutdownReturned : (∀ o, op ≠ .shutdown o) → s'.shutdownReturned = s.shutdownReturned
  lifecycleMutex : op ≠ .lock → op ≠ .unlock → s'.lifecycleMutex = s.lifecycleMutex
  session : (∀ o, op ≠ .recovery o) → s'.session = s.session
  sessionStatus : (∀ o, op ≠ .recovery o) → s'.sessionStatus = s.sessionStatus
  sessionMutex : (∀ o, op ≠ .submit o) → s'.sessionMutex = s.sessionMutex
  submitMutex : (∀ o, op ≠ .caller o) → s'.submitMutex = s.submitMutex
  calls : (∀ o, op ≠ .caller o) → s'.calls = s.calls
  attempts : (∀ o, op ≠ .caller o) → s'.attempts = s.attempts
  future : (∀ o, op ≠ .caller o) → (∀ n reply, op ≠ .resolve n reply) → s'.future = s.future
  submitQueue : (∀ o, op ≠ .submit o) → (∀ o, op ≠ .caller o) → (∀ o, op ≠ .shutdown o) →
    s'.submitQueue = s.submitQueue
  exited : (∀ o, op ≠ .submit o) → (∀ o, op ≠ .response o) → (∀ o, op ≠ .watchdog o) →
    s'.exited = s.exited

theorem ClientOp.framed (h : op.exec t answer s = some (s', next)) :
    Framed s s' op := by
  cases op with
  | lock =>
    simp only [ClientOp.exec] at h
    split at h <;> cases h
    constructor <;> intros <;> first | rfl | contradiction
  | unlock | resolve call reply =>
    cases h
    constructor <;> intros <;> first | rfl | contradiction | (simp at *)
  | recovery o =>
    rw [RecoveryOp.exec_frame h]
    constructor <;> intros <;> first | rfl | (simp at *)
  | submit o =>
    rw [SubmitOp.exec_frame h]
    constructor <;> intros <;> first | rfl | (simp at *)
  | wait o =>
    rw [WaitOp.exec_frame h]
    constructor <;> intros <;> rfl
  | response o =>
    rw [ResponseOp.exec_frame h]
    constructor <;> intros <;> first | rfl | (simp at *)
  | watchdog o =>
    rw [WatchdogOp.exec_frame h]
    constructor <;> intros <;> first | rfl | (simp at *)
  | caller o =>
    rw [CallerOp.exec_frame h]
    constructor <;> intros <;> first | rfl | (simp at *)
  | shutdown o =>
    rw [ShutdownOp.exec_frame h]
    constructor <;> intros <;> first | rfl | (simp at *)

/-! ## The pending store -/

theorem RecoveryMove.store {o : RecoveryOp} (hm : RecoveryMove s answer o s' next) :
    s'.requestStore ⊆ s.requestStore := by
  cases hm with
  | failPending | resolveAll => exact List.nil_subset _
  | _ => exact List.Subset.refl _

theorem SubmitMove.store {o : SubmitOp} (hm : SubmitMove s answer o s' next) :
    s'.requestStore ⊆ s.requestStore ∨
      ∃ job info, o = .put job info ∧ s' = s.put (s.buildPendingRequest job) := by
  cases hm with
  | put => exact .inr ⟨_, _, rfl, rfl⟩
  | unput => exact .inl (List.filter_subset_self _)
  | _ => exact .inl (List.Subset.refl _)

theorem ReceiveMove.store (hm : ReceiveMove s o s' next) :
    s'.requestStore ⊆ s.requestStore := by
  cases hm with
  | take | takeFailed => exact List.filter_subset_self _
  | _ => exact List.Subset.refl _

theorem WatchdogMove.store {o : WatchdogOp} (hm : WatchdogMove s o s' next) :
    s'.requestStore ⊆ s.requestStore := by
  cases hm with
  | takeExpired => exact List.filter_subset_self _
  | _ => exact List.Subset.refl _

theorem ShutdownMove.store {o : ShutdownOp} (hm : ShutdownMove s o s' next) :
    s'.requestStore ⊆ s.requestStore := by
  cases hm with
  | failAllPending => exact List.nil_subset _
  | _ => exact List.Subset.refl _

/-- Requests enter the store by `Put` only. -/
theorem ClientOp.store (h : op.exec t answer s = some (s', next)) :
    s'.requestStore ⊆ s.requestStore ∨
      ∃ job info, op = .submit (.put job info) ∧ s' = s.put (s.buildPendingRequest job) := by
  cases op with
  | lock =>
    simp only [ClientOp.exec] at h
    split at h <;> cases h
    exact .inl (List.Subset.refl _)
  | unlock | resolve call reply =>
    cases h
    exact .inl (List.Subset.refl _)
  | recovery o => exact .inl (RecoveryMove.of_exec h).store
  | submit o =>
    refine (SubmitMove.of_exec h).store.imp_right ?_
    rintro ⟨job, info, rfl, hs⟩
    exact ⟨job, info, rfl, hs⟩
  | wait o => exact .inl (WaitOp.exec_frame h ▸ List.Subset.refl _)
  | response o => exact .inl (ReceiveMove.of_exec h).store
  | watchdog o => exact .inl (WatchdogMove.of_exec h).store
  | caller o =>
    rw [CallerOp.exec_frame h]
    exact .inl (List.Subset.refl _)
  | shutdown o => exact .inl (ShutdownMove.of_exec h).store

/-- Once `Shutdown` has begun, the client does not open again. -/
theorem ClientOp.control (h : op.exec t answer s = some (s', next)) :
    s'.control = s.control ∨ s'.control = .closed ∧ op = .shutdown .finishShutdown := by
  cases op with
  | shutdown o =>
    cases ShutdownMove.of_exec h with
    | finish => exact .inr ⟨rfl, rfl⟩
    | _ => exact .inl rfl
  | _ => exact .inl ((framed h).control nofun)

/-! ## The log -/

/-- The call an event is about. -/
def ClientEvent.call? : ClientEvent → Option ℕ
  | .pushed call _ | .published call _ | .resolved call _ => some call
  | .restarted .. | .closed .. => none

/-- What executing an operation adds to the log. -/
inductive Logged (s s' : RpcClient) : ClientOp → List ClientOp → Prop
  | nothing {op : ClientOp} {next : List ClientOp} (hlog : s'.log = s.log) : Logged s s' op next
  | session {o : RecoveryOp} {next : List ClientOp} {e : ClientEvent} (he : e.call? = none)
      (hlog : s'.log = e :: s.log) : Logged s s' (.recovery o) next
  | resolved {op : ClientOp} {next : List ClientOp} {n : ℕ} {reply : RpcReply}
      (hop : op = .resolve n reply ∨
        op = .caller .reject ∧ n = s.calls ∧ reply = { status := .clientClosed })
      (hlog : s'.log = .resolved n reply :: s.log) : Logged s s' op next
  | pushed {job : SubmitJob} {info : PendingInfo} {next : List ClientOp}
      (hlog : s'.log = .pushed job.call s.session :: s.log) :
      Logged s s' (.submit (.pushRequest job info)) next
  | published {job : SubmitJob} {info : PendingInfo} (hqueue : s'.submitQueue = s.submitQueue)
      (hlog : s'.log =
        .published job.call s.session :: .pushed job.call s.session :: s.log) :
      Logged s s' (.submit (.pushRequest job info)) []

theorem RpcClient.log_resolveState (s : RpcClient) (call : ℕ) (reply : RpcReply) :
    (s.resolveState call reply).log = s.log ∨
      (s.resolveState call reply).log = .resolved call reply :: s.log := by
  unfold resolveState
  split
  · exact .inl rfl
  · exact .inr rfl

theorem ClientOp.logged (h : op.exec t answer s = some (s', next)) :
    Logged s s' op next := by
  cases op with
  | lock =>
    simp only [ClientOp.exec] at h
    split at h <;> cases h
    exact .nothing rfl
  | unlock =>
    cases h
    exact .nothing rfl
  | resolve call reply =>
    cases h
    exact (s.log_resolveState call reply).elim .nothing (.resolved (.inl rfl))
  | recovery o =>
    cases RecoveryMove.of_exec h with
    | start | close | closeLive => exact .session rfl rfl
    | _ => exact .nothing rfl
  | submit o =>
    cases SubmitMove.of_exec h with
    | published => exact .published rfl rfl
    | broke => exact .pushed rfl
    | _ => exact .nothing rfl
  | wait o => exact .nothing (by rw [WaitOp.exec_frame h])
  | response o => exact .nothing (by rw [ResponseOp.exec_frame h])
  | watchdog o => exact .nothing (by rw [WatchdogOp.exec_frame h])
  | caller o =>
    cases CallMove.of_exec h with
    | reject =>
      rcases s.log_resolveState s.calls { status := .clientClosed } with hlog | hlog
      · exact .nothing hlog
      · exact .resolved (.inr ⟨rfl, rfl, rfl⟩) hlog
    | _ => exact .nothing rfl
  | shutdown o => exact .nothing (by rw [ShutdownOp.exec_frame h])

/-- Events are not forgotten. -/
theorem ClientOp.log (h : op.exec t answer s = some (s', next)) :
    s.log ⊆ s'.log := by
  cases ClientOp.logged h with
  | nothing hlog => exact hlog ▸ List.Subset.refl _
  | session he hlog | resolved hop hlog | pushed hlog => exact hlog ▸ List.subset_cons_self _ _
  | published hqueue hlog =>
    exact hlog ▸ List.Subset.trans (List.subset_cons_self _ _) (List.subset_cons_self _ _)

/-! ## Steps of the machine -/

/-- A step of the machine. -/
inductive ClientMove (r r' : ClientRuntime) : ClientAction → Prop
  | exec {t : ClientThread} {answer : ClientAnswer} {op : ClientOp} {rest next : List ClientOp}
      (hops : r.ops t = op :: rest)
      (hexec : op.exec t answer r.shared = some (r'.shared, next))
      (hops' : r'.ops = Function.update r.ops t (next ++ rest)) : ClientMove r r' (.exec t answer)
  | call {n : ℕ} {entry : ClientEntry} (hidle : r.ops (.external n) = [])
      (hshared : r'.shared = r.shared)
      (hops' : r'.ops = Function.update r.ops (.external n) entry.program) :
      ClientMove r r' (.call n entry)
  | retry {k : ℕ} (hnew : ∀ p ∈ r.shared.attempts, p.1 ≠ k) (hidle : r.ops (.retrier k) = [])
      (hshared : r'.shared = r.shared)
      (hops' : r'.ops = Function.update r.ops (.retrier k) [.caller .invoke]) :
      ClientMove r r' (.retry k)
  | shutdown (hcontrol : r.shared.control = .opened ∨ r.shared.control = .uninitialized)
      (hidle : r.ops .shutdown = [])
      (hshared : r'.shared = { r.shared with control := .closing })
      (hops' : r'.ops = Function.update r.ops .shutdown shutdownProgram) :
      ClientMove r r' .shutdown
  | tick {ms : ℕ} (hshared : r'.shared = { r.shared with now := r.shared.now + ms })
      (hops' : r'.ops = r.ops) : ClientMove r r' (.tick ms)

theorem ClientMove.of_step (hs : (rpcClient mode).step r a = some r') : ClientMove r r' a := by
  cases a with
  | exec t answer =>
    obtain ⟨op, rest, next, hops, hexec, hops'⟩ := Pool.exec_eq_some hs
    exact .exec hops hexec hops'
  | call n entry =>
    obtain ⟨hidle, rfl⟩ := Pool.start_eq_some hs
    exact .call hidle rfl rfl
  | retry k =>
    simp only [rpcClient, Option.ite_none_left_eq_some] at hs
    obtain ⟨hnew, hstart⟩ := hs
    obtain ⟨hidle, rfl⟩ := Pool.start_eq_some hstart
    exact .retry (fun p hp hk => hnew (List.any_eq_true.mpr ⟨p, hp, decide_eq_true hk⟩))
      hidle rfl rfl
  | shutdown =>
    simp only [rpcClient, Option.ite_none_right_eq_some] at hs
    obtain ⟨hcontrol, hstart⟩ := hs
    obtain ⟨hidle, rfl⟩ := Pool.start_eq_some hstart
    exact .shutdown hcontrol hidle rfl rfl
  | tick ms =>
    obtain rfl := Option.some.inj hs
    exact .tick rfl rfl

/-- A condition on the operation that a step executes. -/
def NextOp (P : RpcClient → ClientAnswer → ClientOp → Prop) (r : ClientRuntime) :
    ClientAction → Prop
  | .exec t answer => ∀ op ∈ (r.ops t).head?, P r.shared answer op
  | _ => True

instance {P : RpcClient → ClientAnswer → ClientOp → Prop} [∀ s answer op, Decidable (P s answer op)]
    (r : ClientRuntime) (a : ClientAction) : Decidable (NextOp P r a) :=
  match a with
  | .exec t _ => inferInstanceAs (Decidable (∀ op ∈ (r.ops t).head?, _))
  | .call _ _ | .retry _ | .shutdown | .tick _ => inferInstanceAs (Decidable True)

theorem NextOp.of_ops {P : RpcClient → ClientAnswer → ClientOp → Prop}
    {rest : List ClientOp} (hok : NextOp P r (.exec t answer)) (hops : r.ops t = op :: rest) :
    P r.shared answer op :=
  hok op (by rw [hops]; rfl)

/-! ## Schedules -/

/-- A call of `InvokeAsync` from start to end. -/
def invokeSchedule (execTimeoutMs : UInt32) : List ClientAction :=
  [.call 0 .invokeAsync, .exec (.external 0) { execTimeoutMs }, .exec (.external 0) {}]

/-- The submit thread takes a request and brings it to the push, with a session that is
live. -/
def submitSchedule : List ClientAction := List.replicate 11 (.exec .submit {})

/-- A request is enqueued and published. -/
def publishSchedule : List ClientAction :=
  invokeSchedule 0 ++ submitSchedule ++ [.exec .submit {}]

end MemRpc
