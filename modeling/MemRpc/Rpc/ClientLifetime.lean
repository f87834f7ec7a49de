import MemRpc.Rpc.Sections
import MemRpc.Rpc.ClientShutdown

/-!
# A client from its construction to its end

`Init` and `Shutdown` may be called at any time and any number of times, from any thread.
`Init` looks at the API state and at `workersRunning_`, sets the lifecycle state, starts the
worker threads and opens the API in steps of their own and without `lifecycleMutex_`, so a
whole `Shutdown` fits between any two of them. This machine lets a client run from its
construction. The threads execute the operations of `ClientOp` and those of `Init`,
`Shutdown` and the bootstrap's death callback; opening a session takes two steps, since the
bootstrap channel returns a session before the client publishes its id; and a report of a
lifecycle transition is built by one step and delivered by another.

## Main definitions

* `Lifetime`: what the threads share.
* `LifetimeOp`: the operations, with what executing them does.
* `clientLifetime`: the machine.
* `LifetimeMove`, `LifetimeStep`: what an operation and a step can do.
-/

namespace MemRpc

open Concurrency RpcClient

/-! ## Reports of transitions -/

/-- `struct RecoveryEventReport`. -/
structure RecoveryEventReport where
  previousState : ClientLifecycleState
  state : ClientLifecycleState
  recoveryPending : Bool
  cooldownDelayMs : UInt32
  cooldownRemainingMs : UInt32
  sessionId : ℕ
  monotonicMs : ℕ
  deriving DecidableEq, Repr

/-- `BuildTransitionReportLocked`, in the state after the transition. -/
def RpcClient.buildTransitionReport (s : RpcClient) (previousState : ClientLifecycleState)
    (cooldownDelayMs : UInt32) (currentSessionId : ℕ) : RecoveryEventReport where
  previousState := previousState
  state := s.lifecycle
  recoveryPending := s.recoveryPending
  cooldownDelayMs := cooldownDelayMs
  cooldownRemainingMs := UInt32.ofNat (s.cooldownUntilMs - s.now)
  sessionId := currentSessionId
  monotonicMs := s.now

/-- The functions that call `TransitionLifecycle`, with the delay and the session id they
report. -/
def RecoveryOp.transition (s : RpcClient) : RecoveryOp → Option (UInt32 × ℕ)
  | .startRecovery observed delayMs _ => some (delayMs, observed)
  -- `BeginSessionOpen`
  | .ensureLive _ =>
    if s.control = .closing ∨ s.control = .closed ∨ s.now < s.cooldownUntilMs ∨ s.session ≠ 0 ∨
        s.lifecycle = .recovering ∨ s.lifecycle = .uninitialized then none
    else some (0, s.session)
  | .openFailed _ _ => if s.recoveryPending then some (0, s.session) else none
  | .enterNoSession => if s.control = .opened then some (0, s.session) else none
  | .finalizeOpen _ | .enterIdleClosed | .enterTerminalClosed => some (0, s.session)
  | _ => none

/-- The report of a function that takes the client from `s` to `s'`. -/
def RecoveryOp.reports (s s' : RpcClient) (o : RecoveryOp) : List RecoveryEventReport :=
  match o.transition s with
  | some (delayMs, sessionId) => [s'.buildTransitionReport s.lifecycle delayMs sessionId]
  | none => []

/-- What `EnsureLiveSessionLocked` returns, once it does. -/
def RecoveryOp.ensured (s : RpcClient) : RecoveryOp → Option StatusCode
  | .ensureLive _ =>
    if s.control = .closing ∨ s.control = .closed then some .clientClosed
    else if s.now < s.cooldownUntilMs then some .cooldownActive
    else if s.session ≠ 0 then some .ok
    else none
  | .finalizeOpen _ => some .ok
  | .openFailed status _ => some status
  | _ => none

/-! ## The state -/

/-- A client with what the threads share beyond `RpcClient`. -/
structure Lifetime where
  client : RpcClient :=
    { control := .uninitialized, lifecycle := .uninitialized, workersRunning := false }
  /-- The session that the bootstrap channel has returned and that is not yet published. -/
  opening : Option ℕ := none
  /-- The result of each thread's last `EnsureLiveSession`. -/
  ensured : ClientThread → StatusCode := fun _ => .ok
  /-- The worker threads that have been started and not yet joined. -/
  joinable : List ClientThread := []
  /-- Those of them that have not begun to run. -/
  created : List ClientThread := []
  /-- A recovery event callback is installed. -/
  callback : Bool := true
  /-- The reports delivered to the callback, in order. -/
  reports : List RecoveryEventReport := []
  /-- The state that `Init` has set. -/
  initialised : Option ClientLifecycleState := none
  /-- `EnterTerminalClosed` came before `Init` had set the state. -/
  overtaken : Bool := false
  /-- The threads whose `Init` is between its look at `workersRunning_` and the end of
  `StartThreads`. -/
  starting : List ClientThread := []
  /-- How often `OpenSession` of the bootstrap channel was called. -/
  opens : ℕ := 0
  /-- The sessions whose death callback has returned. -/
  returnedDeaths : List ℕ := []

/-- Whether `Shutdown` has begun. -/
def Lifetime.ending (s : Lifetime) : Prop :=
  s.client.control = .closing ∨ s.client.control = .closed

instance (s : Lifetime) : Decidable s.ending :=
  inferInstanceAs (Decidable (_ ∨ _))

/-- A thread has been started and has not returned from its loop. -/
def Lifetime.running (s : Lifetime) (w : ClientThread) : Prop :=
  w ∈ s.joinable ∧ w ∉ s.client.exited

instance (s : Lifetime) (w : ClientThread) : Decidable (s.running w) :=
  inferInstanceAs (Decidable (_ ∧ _))

/-! ## Operations -/

/-- One operation of a thread over the life of a client. -/
inductive LifetimeOp
  | client (o : ClientOp)
  -- `SessionTransport::OpenSession` after the bootstrap channel has returned
  | attach (reports : Bool) (session : ℕ)
  -- `DispatchRecoveryEvent`
  | deliver (report : RecoveryEventReport)
  -- `Init`: its look at the API state, at `workersRunning_`, and what it does then
  | initTerminal (mode : ClientInitMode)
  | initWorkers (mode : ClientInitMode)
  | prepareForInitOpen (mode : ClientInitMode)
  | startRuntime
  | spawn (w : ClientThread)
  | threadsStarted
  | initEnsured
  | finishInit
  -- `Shutdown`, as far as it is not in `ShutdownOp`
  | beginShutdown
  | clearCallbacks
  | stopRuntime
  | join (w : ClientThread)
  -- the death callback of the bootstrap channel returns
  | deathReturned (dead : ℕ)
  deriving DecidableEq, Repr

/-- `EnsureLiveSession`. -/
def ensureLiveSession : List LifetimeOp :=
  [.client .lock, .client (.recovery (.ensureLive false)), .client .unlock]

/-- `Init` once it has found no workers running. -/
def initProgram (mode : ClientInitMode) : List LifetimeOp :=
  [.prepareForInitOpen mode, .startRuntime, .threadsStarted] ++
    match mode with
    | .eagerSession => ensureLiveSession ++ [.initEnsured]
    | .lazySession => [.finishInit]

/-- The section of `Shutdown` under `lifecycleMutex_`. -/
def closeSection : List LifetimeOp :=
  [.client .lock, .client (.recovery (.closeLive none)),
    .client (.recovery .enterTerminalClosed), .client .unlock]

/-- `Shutdown` after its section. -/
def shutdownTail : List LifetimeOp :=
  [.clearCallbacks, .stopRuntime, .client (.shutdown .failAllPending),
    .client (.shutdown .failQueued), .client (.shutdown .finishShutdown)]

/-- `StopThreads` after `StopRuntime`. -/
def stopThreads : List LifetimeOp :=
  [.client (.shutdown .stopSubmit), .client (.shutdown .stopWatchdog), .join .submit,
    .join .response, .join .watchdog]

/-- What `PrepareForInitOpen` is called with. -/
def ClientInitMode.initialState : ClientInitMode → ClientLifecycleState
  | .lazySession => .idleClosed
  | .eagerSession => .uninitialized

/-- What executing an operation gives. -/
abbrev LifetimeResult := Option (Lifetime × List LifetimeOp)

/-- `OpenSession` of the bootstrap channel. -/
def Lifetime.bootstrapOpen (s : Lifetime) (status : StatusCode) (reports : Bool) :
    Lifetime × List LifetimeOp :=
  if status = .ok then
    ({ s with
        client := { s.client with opened := s.client.opened + 1 }
        opening := some (s.client.opened + 1)
        opens := s.opens + 1 },
      [.attach reports (s.client.opened + 1)])
  else ({ s with opens := s.opens + 1 }, [.client (.recovery (.openFailed status reports))])

/-- A function under the mutex, with the reports of the transitions it makes. -/
def Lifetime.recover (s : Lifetime) (t : ClientThread) (answer : ClientAnswer) (o : RecoveryOp) :
    LifetimeResult :=
  (o.exec s.client answer).map fun r =>
    ({ s with
        client := r.1
        ensured := match o.ensured s.client with
          | some status => Function.update s.ensured t status
          | none => s.ensured
        overtaken := if o = .enterTerminalClosed then s.initialised.isNone else s.overtaken },
      (if s.callback then (o.reports s.client r.1).map .deliver else []) ++ r.2.map .client)

/-- Any other operation of the client. -/
def Lifetime.execute (s : Lifetime) (t : ClientThread) (answer : ClientAnswer) (o : ClientOp) :
    LifetimeResult :=
  (o.exec t answer s.client).map fun r => ({ s with client := r.1 }, r.2.map .client)

/-- One operation of thread `t`. -/
def LifetimeOp.exec (t : ClientThread) (answer : ClientAnswer) (s : Lifetime) :
    LifetimeOp → LifetimeResult
  | .client (.recovery (.openSession reports)) =>
    some (s.bootstrapOpen answer.openStatus reports)
  | .client (.recovery o) => s.recover t answer o
  | .client o => s.execute t answer o
  | .attach reports session =>
    if s.client.sessionMutex then none
    else if answer.openStatus = .ok then
      some ({ s with client := { s.client with session := session }, opening := none },
        [.client (.recovery (.finalizeOpen reports))])
    else
      some ({ s with opening := none },
        [.client (.recovery (.openFailed answer.openStatus reports))])
  | .deliver report => some ({ s with reports := s.reports ++ [report] }, [])
  -- `IsApiTerminal`
  | .initTerminal mode =>
    if s.client.control = .closed then some (s, []) else some (s, [.initWorkers mode])
  | .initWorkers mode =>
    if s.client.workersRunning then
      match mode with
      | .eagerSession => some (s, ensureLiveSession)
      | .lazySession => some (s, [])
    else some ({ s with starting := t :: s.starting }, initProgram mode)
  | .prepareForInitOpen mode =>
    some ({ s with
      client := { s.client with lifecycle := mode.initialState, cooldownUntilMs := 0 }
      initialised := some mode.initialState }, [])
  -- under `runtimeMutex_`; it takes `submitMutex_` inside
  | .startRuntime =>
    if s.client.workersRunning then some (s, [])
    else if s.client.submitMutex ≠ none then none
    else
      some ({ s with client := { s.client with
        workersRunning := true
        submitStopRequested := false
        watchdogStopRequested := false } },
        [.spawn .submit, .spawn .response, .spawn .watchdog])
  -- a `std::thread` that is joinable cannot be assigned to
  | .spawn w =>
    if w ∈ s.joinable then none
    else
      some ({ s with
        client := { s.client with exited := s.client.exited.filter (· ≠ w) }
        joinable := w :: s.joinable
        created := w :: s.created }, [])
  | .threadsStarted => some ({ s with starting := s.starting.erase t }, [])
  -- an `Init` whose session could not be opened shuts the client down
  | .initEnsured =>
    if s.ensured t = .ok then some (s, [.finishInit]) else some (s, [.beginShutdown])
  | .finishInit =>
    if s.client.control = .uninitialized then
      some ({ s with client := { s.client with control := .opened } }, [])
    else some (s, [])
  | .beginShutdown =>
    if s.ending then some (s, [])
    else
      some ({ s with client := { s.client with control := .closing } },
        closeSection ++ shutdownTail)
  | .clearCallbacks => some ({ s with callback := false }, [])
  | .stopRuntime =>
    if s.client.workersRunning then
      some ({ s with client := { s.client with workersRunning := false } }, stopThreads)
    else some (s, [])
  | .join w =>
    if w ∉ s.joinable then some (s, [])
    else if w ∈ s.client.exited then
      some ({ s with joinable := s.joinable.filter (· ≠ w) }, [])
    else none
  | .deathReturned dead => some ({ s with returnedDeaths := dead :: s.returnedDeaths }, [])

/-! ## The machine -/

/-- A call from outside on a thread of its own. -/
inductive LifetimeEntry
  | invokeAsync
  | requestExternalRecovery (request : ExternalRecoveryRequest)
  | engineDied (dead : ℕ)
  | init (mode : ClientInitMode)
  | shutdown
  deriving DecidableEq, Repr

def LifetimeEntry.program : LifetimeEntry → List LifetimeOp
  | .invokeAsync => [.client (.caller .invoke)]
  | .requestExternalRecovery request => [.client (.caller (.requestExternalRecovery request))]
  | .engineDied dead => [.client (.caller (.engineDied dead)), .deathReturned dead]
  | .init mode => [.initTerminal mode]
  | .shutdown => [.beginShutdown]

/-- The bootstrap channel reports the death of a session that it has returned; zero is a
notice without an id. -/
def LifetimeEntry.enabled (s : Lifetime) : LifetimeEntry → Bool
  | .engineDied dead => dead ≤ s.client.opened
  | _ => true

/-- A client with the operations its threads have still to execute. -/
abbrev LifetimeRuntime := Pool Lifetime ClientThread LifetimeOp

/-- One step: a thread executes its next operation, a call enters the client, a started
thread begins to run, or the clock advances. -/
inductive LifetimeAction
  | exec (t : ClientThread) (answer : ClientAnswer)
  | call (n : ℕ) (entry : LifetimeEntry)
  | retry (k : ℕ)
  | run (w : ClientThread)
  | tick (ms : ℕ)

/-- The machine of a client from its construction. -/
def clientLifetime : Machine LifetimeRuntime LifetimeAction where
  init := ⟨{}, fun _ => []⟩
  step r
    | .exec t answer => r.exec (LifetimeOp.exec t answer) t
    | .call n entry =>
      if entry.enabled r.shared then r.start (.external n) entry.program else none
    | .retry k =>
      if r.shared.client.attempts.any (·.1 = k) then none
      else r.start (.retrier k) [.client (.caller .invoke)]
    | .run w =>
      if w ∈ r.shared.created then
        Pool.start { r with shared := { r.shared with
          created := r.shared.created.filter (· ≠ w) } } w ((initialOps w).map .client)
      else none
    | .tick ms =>
      some { r with shared := { r.shared with
        client := { r.shared.client with now := r.shared.client.now + ms } } }

variable {t u : ClientThread} {answer : ClientAnswer} {s s' : Lifetime}
  {r r' : LifetimeRuntime} {a : LifetimeAction} {op : LifetimeOp} {ops next rest : List LifetimeOp}

/-! ## What the operations do -/

/-- The deliveries that a function under the mutex leaves behind. -/
def Lifetime.deliveries (s : Lifetime) (o : RecoveryOp) (c : RpcClient) : List LifetimeOp :=
  if s.callback then (o.reports s.client c).map .deliver else []

/-- What an operation does: the shared state after it, and what it leaves to do. -/
inductive LifetimeMove (t : ClientThread) (answer : ClientAnswer) (s : Lifetime) :
    LifetimeOp → Lifetime → List LifetimeOp → Prop
  | bootstrap {reports : Bool} :
      LifetimeMove t answer s (.client (.recovery (.openSession reports)))
        { s with
          client := { s.client with opened := s.client.opened + 1 }
          opening := some (s.client.opened + 1)
          opens := s.opens + 1 }
        [.attach reports (s.client.opened + 1)]
  | refused {reports : Bool} :
      LifetimeMove t answer s (.client (.recovery (.openSession reports)))
        { s with opens := s.opens + 1 }
        [.client (.recovery (.openFailed answer.openStatus reports))]
  | recovery {o : RecoveryOp} {c : RpcClient} {next : List ClientOp}
      {ensured : ClientThread → StatusCode} {overtaken : Bool}
      (ho : ∀ reports, o ≠ .openSession reports) (h : o.exec s.client answer = some (c, next))
      (hovertaken : overtaken =
        if o = .enterTerminalClosed then s.initialised.isNone else s.overtaken) :
      LifetimeMove t answer s (.client (.recovery o)) { s with client := c, ensured, overtaken }
        (s.deliveries o c ++ next.map .client)
  | other {o : ClientOp} {c : RpcClient} {next : List ClientOp} (ho : ∀ o', o ≠ .recovery o')
      (h : o.exec t answer s.client = some (c, next)) :
      LifetimeMove t answer s (.client o) { s with client := c } (next.map .client)
  | attached {reports : Bool} {session : ℕ} :
      LifetimeMove t answer s (.attach reports session)
        { s with client := { s.client with session := session }, opening := none }
        [.client (.recovery (.finalizeOpen reports))]
  | attachFailed {reports : Bool} {session : ℕ} :
      LifetimeMove t answer s (.attach reports session) { s with opening := none }
        [.client (.recovery (.openFailed answer.openStatus reports))]
  | deliver {report : RecoveryEventReport} :
      LifetimeMove t answer s (.deliver report) { s with reports := s.reports ++ [report] } []
  | initRefused {mode : ClientInitMode} : LifetimeMove t answer s (.initTerminal mode) s []
  | initAdmitted {mode : ClientInitMode} :
      LifetimeMove t answer s (.initTerminal mode) s [.initWorkers mode]
  | initAgain {mode : ClientInitMode} {l : List LifetimeOp}
      (hrunning : s.client.workersRunning = true) (hl : l = [] ∨ l = ensureLiveSession) :
      LifetimeMove t answer s (.initWorkers mode) s l
  | initFirst {mode : ClientInitMode} (hrunning : s.client.workersRunning = false) :
      LifetimeMove t answer s (.initWorkers mode) { s with starting := t :: s.starting }
        (initProgram mode)
  | prepare {mode : ClientInitMode} :
      LifetimeMove t answer s (.prepareForInitOpen mode)
        { s with
          client := { s.client with lifecycle := mode.initialState, cooldownUntilMs := 0 }
          initialised := some mode.initialState } []
  | startedBefore (hrunning : s.client.workersRunning = true) :
      LifetimeMove t answer s .startRuntime s []
  | startRuntime (hrunning : s.client.workersRunning = false) :
      LifetimeMove t answer s .startRuntime
        { s with client := { s.client with
          workersRunning := true
          submitStopRequested := false
          watchdogStopRequested := false } }
        [.spawn .submit, .spawn .response, .spawn .watchdog]
  | spawn {w : ClientThread} (hw : w ∉ s.joinable) :
      LifetimeMove t answer s (.spawn w)
        { s with
          client := { s.client with exited := s.client.exited.filter (· ≠ w) }
          joinable := w :: s.joinable
          created := w :: s.created } []
  | threadsStarted :
      LifetimeMove t answer s .threadsStarted { s with starting := s.starting.erase t } []
  | initEnsured : LifetimeMove t answer s .initEnsured s [.finishInit]
  | initFailed : LifetimeMove t answer s .initEnsured s [.beginShutdown]
  | finishInit (hcontrol : s.client.control = .uninitialized) :
      LifetimeMove t answer s .finishInit
        { s with client := { s.client with control := .opened } } []
  | initLate : LifetimeMove t answer s .finishInit s []
  | endingBefore (hending : s.ending) : LifetimeMove t answer s .beginShutdown s []
  | beginShutdown (hending : ¬ s.ending) :
      LifetimeMove t answer s .beginShutdown
        { s with client := { s.client with control := .closing } } (closeSection ++ shutdownTail)
  | clearCallbacks : LifetimeMove t answer s .clearCallbacks { s with callback := false } []
  | stoppedBefore (hrunning : s.client.workersRunning = false) :
      LifetimeMove t answer s .stopRuntime s []
  | stopRuntime (hrunning : s.client.workersRunning = true) :
      LifetimeMove t answer s .stopRuntime
        { s with client := { s.client with workersRunning := false } } stopThreads
  | joinedBefore {w : ClientThread} (hw : w ∉ s.joinable) : LifetimeMove t answer s (.join w) s []
  | join {w : ClientThread} (hw : w ∈ s.client.exited) :
      LifetimeMove t answer s (.join w) { s with joinable := s.joinable.filter (· ≠ w) } []
  | deathReturned {dead : ℕ} :
      LifetimeMove t answer s (.deathReturned dead)
        { s with returnedDeaths := dead :: s.returnedDeaths } []

theorem LifetimeMove.of_recover {o : RecoveryOp} (ho : ∀ reports, o ≠ .openSession reports)
    (h : s.recover t answer o = some (s', next)) :
    LifetimeMove t answer s (.client (.recovery o)) s' next := by
  obtain ⟨⟨c, next⟩, hexec, heq⟩ := Option.map_eq_some_iff.mp h
  cases heq
  exact .recovery ho hexec rfl

theorem LifetimeMove.of_execute {o : ClientOp} (ho : ∀ o', o ≠ .recovery o')
    (h : s.execute t answer o = some (s', next)) : LifetimeMove t answer s (.client o) s' next := by
  obtain ⟨⟨c, next⟩, hexec, heq⟩ := Option.map_eq_some_iff.mp h
  cases heq
  exact .other ho hexec

theorem LifetimeMove.of_client {o : ClientOp} (h : (LifetimeOp.client o).exec t answer s =
    some (s', next)) : LifetimeMove t answer s (.client o) s' next := by
  cases o with
  | recovery o =>
    cases o with
    | openSession reports =>
      have hopen : s.bootstrapOpen answer.openStatus reports = (s', next) := Option.some.inj h
      unfold Lifetime.bootstrapOpen at hopen
      split at hopen <;> cases hopen
      · exact .bootstrap
      · exact .refused
    | _ => exact .of_recover (by simp) h
  | _ => exact .of_execute (by simp) h

theorem LifetimeMove.of_exec (h : op.exec t answer s = some (s', next)) :
    LifetimeMove t answer s op s' next := by
  cases op with
  | client o => exact .of_client h
  | attach reports session =>
    simp only [LifetimeOp.exec] at h
    split at h
    · cases h
    · split at h <;> cases h
      · exact .attached
      · exact .attachFailed
  | deliver report =>
    cases h
    exact .deliver
  | initTerminal mode =>
    simp only [LifetimeOp.exec] at h
    split at h <;> cases h
    · exact .initRefused
    · exact .initAdmitted
  | initWorkers mode =>
    simp only [LifetimeOp.exec] at h
    split at h
    · rename_i hrunning
      cases mode <;> cases h
      · exact .initAgain hrunning (.inr rfl)
      · exact .initAgain hrunning (.inl rfl)
    · rename_i hrunning
      cases h
      exact .initFirst (Bool.eq_false_of_not_eq_true hrunning)
  | prepareForInitOpen mode =>
    cases h
    exact .prepare
  | startRuntime =>
    simp only [LifetimeOp.exec] at h
    split at h
    · rename_i hrunning
      cases h
      exact .startedBefore hrunning
    · rename_i hrunning
      split at h <;> cases h
      exact .startRuntime (Bool.eq_false_of_not_eq_true hrunning)
  | spawn w =>
    simp only [LifetimeOp.exec] at h
    split at h <;> cases h
    rename_i hw
    exact .spawn hw
  | threadsStarted =>
    cases h
    exact .threadsStarted
  | initEnsured =>
    simp only [LifetimeOp.exec] at h
    split at h <;> cases h
    · exact .initEnsured
    · exact .initFailed
  | finishInit =>
    simp only [LifetimeOp.exec] at h
    split at h <;> cases h
    · rename_i hcontrol
      exact .finishInit hcontrol
    · exact .initLate
  | beginShutdown =>
    simp only [LifetimeOp.exec] at h
    split at h <;> cases h
    · rename_i hending
      exact .endingBefore hending
    · rename_i hending
      exact .beginShutdown hending
  | clearCallbacks =>
    cases h
    exact .clearCallbacks
  | stopRuntime =>
    simp only [LifetimeOp.exec] at h
    split at h <;> cases h
    · rename_i hrunning
      exact .stopRuntime hrunning
    · rename_i hrunning
      exact .stoppedBefore (Bool.eq_false_of_not_eq_true hrunning)
  | join w =>
    simp only [LifetimeOp.exec] at h
    split at h
    · rename_i hw
      cases h
      exact .joinedBefore hw
    · split at h <;> cases h
      rename_i hw
      exact .join hw
  | deathReturned dead =>
    cases h
    exact .deathReturned

/-- The programs that threads are given. -/
inductive Starts (s : Lifetime) : ClientThread → List LifetimeOp → Prop
  | call {n : ℕ} {entry : LifetimeEntry} (henabled : entry.enabled s = true) :
      Starts s (.external n) entry.program
  | retry {k : ℕ} : Starts s (.retrier k) [.client (.caller .invoke)]
  | run {w : ClientThread} (hw : w ∈ s.created) : Starts s w ((initialOps w).map .client)

/-- A step of the machine. -/
inductive LifetimeStep (r r' : LifetimeRuntime) : LifetimeAction → Prop
  | exec {t : ClientThread} {answer : ClientAnswer} {op : LifetimeOp}
      {rest next : List LifetimeOp} (hops : r.ops t = op :: rest)
      (hmove : LifetimeMove t answer r.shared op r'.shared next)
      (hops' : r'.ops = Function.update r.ops t (next ++ rest)) : LifetimeStep r r' (.exec t answer)
  | start {a : LifetimeAction} {t : ClientThread} {program : List LifetimeOp}
      {created : List ClientThread} (hidle : r.ops t = []) (hprogram : Starts r.shared t program)
      (hcreated : created ⊆ r.shared.created) (hshared : r'.shared = { r.shared with created })
      (hops' : r'.ops = Function.update r.ops t program) : LifetimeStep r r' a
  | tick {ms : ℕ} (hshared : r'.shared = { r.shared with
        client := { r.shared.client with now := r.shared.client.now + ms } })
      (hops' : r'.ops = r.ops) : LifetimeStep r r' (.tick ms)

theorem LifetimeStep.of_step (hs : clientLifetime.step r a = some r') : LifetimeStep r r' a := by
  cases a with
  | exec t answer =>
    obtain ⟨op, rest, next, hops, hexec, hops'⟩ := Pool.exec_eq_some hs
    exact .exec hops (.of_exec hexec) hops'
  | call n entry =>
    simp only [clientLifetime, Option.ite_none_right_eq_some] at hs
    obtain ⟨henabled, hstart⟩ := hs
    obtain ⟨hidle, rfl⟩ := Pool.start_eq_some hstart
    exact .start hidle (.call henabled) (List.Subset.refl _) rfl rfl
  | retry k =>
    simp only [clientLifetime, Option.ite_none_left_eq_some] at hs
    obtain ⟨hidle, rfl⟩ := Pool.start_eq_some hs.2
    exact .start hidle .retry (List.Subset.refl _) rfl rfl
  | run w =>
    simp only [clientLifetime, Option.ite_none_right_eq_some] at hs
    obtain ⟨hw, hstart⟩ := hs
    obtain ⟨hidle, rfl⟩ := Pool.start_eq_some hstart
    exact .start hidle (.run hw) (List.filter_subset_self _) rfl rfl
  | tick ms =>
    obtain rfl := Option.some.inj hs
    exact .tick rfl rfl

/-- A condition on the operation that a thread executes. -/
def NextLifetimeOp (P : Lifetime → ClientThread → LifetimeOp → Prop) (r : LifetimeRuntime) :
    LifetimeAction → Prop
  | .exec t _ => ∀ op ∈ (r.ops t).head?, P r.shared t op
  | _ => True

instance {P : Lifetime → ClientThread → LifetimeOp → Prop} [∀ s t op, Decidable (P s t op)]
    (r : LifetimeRuntime) (a : LifetimeAction) : Decidable (NextLifetimeOp P r a) :=
  match a with
  | .exec t _ => inferInstanceAs (Decidable (∀ op ∈ (r.ops t).head?, _))
  | .call _ _ | .retry _ | .run _ | .tick _ => inferInstanceAs (Decidable True)

theorem NextLifetimeOp.of_ops {P : Lifetime → ClientThread → LifetimeOp → Prop}
    (hok : NextLifetimeOp P r (.exec t answer)) (hops : r.ops t = op :: rest) :
    P r.shared t op :=
  hok op (by rw [hops]; rfl)

/-- The thread of call `n` executes its next `k` operations. -/
def executes (n k : ℕ) : List LifetimeAction := List.replicate k (.exec (.external n) {})

end MemRpc
