import MemRpc.Lib.Machine
import MemRpc.Core.SessionHost

/-!
# The session service of the engine

`EngineSessionService` creates the session host and the server on first use and hands out the
session of the host. `OpenSession` does so in two critical sections of `initMutex_`:
`EnsureInitialized`, and the section that asks the host. Between the two another caller can
close the service, and a third one can initialise it again. When that initialisation fails in
`EnsureSession`, the new host stays behind without a server, and the resumed `OpenSession`
takes it for an initialised one.

Any number of callers run `OpenSession`, `InvokeAnyCall` and `CloseSession`. A critical section
is one step, so `initMutex_` is free in every state. Each operation of a host and of the server
may fail on any call, and the id of a new session is any number. A host and a server have one
owner, the service or the `CloseSession` that moved them out, so they are values here.

## Main definitions

* `SessionHost`: the session of an `IServerSessionHost`, and its operations.
* `SessionService`: the service with its callers.
* `sessionService`: the machine.
* `SessionService.EnsuresApart`: no host is left behind while an `OpenSession` is half way.
-/

namespace MemRpc

open Concurrency

/-- What the calls of a step are answered. -/
structure HostReplies where
  ensureSession : StatusCode := .ok
  /-- The id that `GenerateSessionId` returns if a session is created. -/
  sessionId : UInt64 := 0
  /-- `serverHandles` can duplicate the handles. -/
  serverHandles : Bool := true
  /-- What stands in the way of `RpcServer::Start`. -/
  start : StatusCode := .ok
  /-- Whether `OpenSession` can duplicate the handles. -/
  duplicate : StatusCode := .ok
  closeSession : StatusCode := .ok
  deriving DecidableEq, Repr

/-- An `IServerSessionHost`: the session it has created. -/
structure SessionHost where
  session : Option UInt64 := none
  deriving DecidableEq, Repr

namespace SessionHost

variable (host : SessionHost) (r : HostReplies)

/-- `EnsureSession`. -/
def ensureSession : StatusCode × SessionHost :=
  if r.ensureSession = .ok then (.ok, ⟨some (host.session.getD r.sessionId)⟩)
  else (r.ensureSession, host)

/-- `serverHandles`, by the session they belong to. -/
def serverHandles : Option UInt64 := if r.serverHandles then host.session else none

/-- `OpenSession`. -/
def openSession : Except StatusCode UInt64 × SessionHost :=
  match host.ensureSession r with
  | (.ok, host') =>
    if r.duplicate = .ok then
      match host'.session with
      | some id => (.ok id, host')
      | none => (.error .engineInternalError, host')
    else (.error r.duplicate, host')
  | (status, host') => (.error status, host')

/-- `CloseSession`. -/
def closeSession : SessionHost := if r.closeSession = .ok then ⟨none⟩ else host

variable {host r}

theorem ensureSession_ok {host' : SessionHost} (h : host.ensureSession r = (.ok, host')) :
    host'.session = some (host.session.getD r.sessionId) := by
  unfold ensureSession at h
  split at h
  · cases h
    rfl
  · next hfailed => exact absurd (congrArg Prod.fst h) hfailed

/-- A host that has a session hands it out and keeps it. -/
theorem openSession_of_session {id id' : UInt64} {host' : SessionHost}
    (hid : host.session = some id) (h : host.openSession r = (.ok id', host')) :
    id' = id ∧ host'.session = some id := by
  unfold openSession at h
  split at h
  · next host₁ he =>
      have hsession := ensureSession_ok he
      rw [hid, Option.getD_some] at hsession
      rw [hsession] at h
      split at h
      · cases h
        exact ⟨rfl, hsession⟩
      · cases h
  · cases h

/-- A failed `OpenSession` does not take the session away. -/
theorem session_openSession_of_session {id : UInt64} (hid : host.session = some id) :
    (host.openSession r).2.session = some id := by
  have hensure : (host.ensureSession r).2.session = some id := by
    unfold ensureSession
    split
    · simp [hid]
    · exact hid
  unfold openSession
  split
  · next he =>
      rw [he] at hensure
      rw [hensure]
      split <;> exact hensure
  · next he =>
      rw [he] at hensure
      exact hensure

/-! ### The shared memory host -/

/-- The session of a `SharedMemorySessionHost`. -/
def ofShared {abi : Abi} (host : SharedMemorySessionHost abi) : SessionHost :=
  ⟨host.handles.map (·.sessionId)⟩

/-- The answers that a `SharedMemorySessionHost` gives when its configuration is all that can
be wrong. -/
def repliesOf {abi : Abi} (host : SharedMemorySessionHost abi) (sessionId : UInt64) :
    HostReplies where
  ensureSession := (host.ensureInitialized sessionId).1
  sessionId := sessionId

theorem ensureSession_ofShared {abi : Abi} (host : SharedMemorySessionHost abi)
    (sessionId : UInt64) :
    (ofShared host).ensureSession (repliesOf host sessionId) =
      ((host.ensureInitialized sessionId).1, ofShared (host.ensureInitialized sessionId).2) := by
  unfold ensureSession repliesOf SharedMemorySessionHost.ensureInitialized
  by_cases hsome : host.handles.isSome
  · obtain ⟨handles, hhandles⟩ := Option.isSome_iff_exists.mp hsome
    simp [ofShared, hhandles]
  · have hnone : host.handles = none := by simpa using hsome
    by_cases hvalid : host.config.hasValidConfig = true
    · simp [ofShared, hnone, hvalid]
    · simp [ofShared, hnone, hvalid]

theorem closeSession_ofShared {abi : Abi} (host : SharedMemorySessionHost abi)
    (sessionId : UInt64) :
    (ofShared host).closeSession (repliesOf host sessionId) = ofShared host.closeSession := rfl

end SessionHost

/-- An `RpcServer`, by the session it is attached to. -/
structure AttachedServer where
  session : UInt64
  running : Bool
  deriving DecidableEq, Repr

/-- `RpcServer::Stop`. -/
def AttachedServer.stop (server : AttachedServer) : AttachedServer :=
  { server with running := false }

/-- `RpcServer::Start` on handles, which `Attach` rejects if they could not be duplicated. -/
def startServer (handles : Option UInt64) (r : HostReplies) : Except StatusCode AttachedServer :=
  if r.start = .ok then
    match handles with
    | some session => .ok ⟨session, true⟩
    | none => .error .invalidArgument
  else .error r.start

theorem startServer_ok {handles : Option UInt64} {r : HostReplies} {server : AttachedServer}
    (h : startServer handles r = .ok server) :
    ∃ session, handles = some session ∧ server = ⟨session, true⟩ := by
  unfold startServer at h
  split at h
  · split at h
    · next session =>
        cases h
        exact ⟨session, rfl, rfl⟩
    · cases h
  · cases h

theorem startServer_error {handles : Option UInt64} {r : HostReplies} {status : StatusCode}
    (h : startServer handles r = .error status) : status ≠ .ok := by
  unfold startServer at h
  split at h
  · split at h
    · cases h
    · cases h
      decide
  · next hstart =>
      cases h
      exact hstart

/-- The public calls. -/
inductive ServiceCall
  | openSession
  | invokeAnyCall
  | closeSession
  deriving DecidableEq, Repr

/-- Where a caller is: before `EnsureInitialized`, between the two sections of `OpenSession`,
or at one of the four stages of `CloseSession`. -/
inductive ServicePc
  | idle
  | ensuring (call : ServiceCall)
  | opening
  | close
  | stopServer (rpcServer : Option AttachedServer) (sessionHost : Option SessionHost)
  | closeHost (rpcServer : Option AttachedServer) (sessionHost : Option SessionHost)
  | closeDone (rpcServer : Option AttachedServer) (sessionHost : Option SessionHost)
  deriving DecidableEq, Repr

/-- The first point of a call. -/
def ServiceCall.entry : ServiceCall → ServicePc
  | .closeSession => .close
  | call => .ensuring call

/-- An `OpenSession` that returned `Ok`: the id in the handles, and `rpcServer_` when the host
handed them out. -/
structure HandedOut where
  session : UInt64
  rpcServer : Option AttachedServer
  deriving DecidableEq, Repr

/-- The members of `EngineSessionService` and its `N` callers. -/
structure SessionService (N : ℕ) where
  sessionHost : Option SessionHost := none
  rpcServer : Option AttachedServer := none
  initialized : Bool := false
  closing : Bool := false
  sessionId : UInt64 := 0
  eventPublisherRunning : Bool := false
  callers : Fin N → ServicePc := fun _ => .idle
  handedOut : List HandedOut := []

/-- A caller makes a call, or takes its next step. -/
inductive ServiceAction (N : ℕ)
  | call (n : Fin N) (call : ServiceCall)
  | step (n : Fin N) (replies : HostReplies)
  deriving DecidableEq, Repr

namespace SessionService

variable {N : ℕ} (s : SessionService N) (n : Fin N) (r : HostReplies)

/-- The caller goes on at `pc`. -/
def goto (pc : ServicePc) : SessionService N := { s with callers := Function.update s.callers n pc }

/-- `EnsureInitialized`. -/
def ensureInitialized : StatusCode × SessionService N :=
  if s.closing then (.peerDisconnected, s)
  else if s.initialized then (.ok, s)
  else
    match (s.sessionHost.getD {}).ensureSession r with
    | (.ok, host) =>
      match startServer (host.serverHandles r) r with
      | .ok server =>
        (.ok,
          { s with sessionHost := some host, rpcServer := some server, initialized := true })
      | .error status => (status, { s with sessionHost := none, rpcServer := none })
    | (status, host) => (status, { s with sessionHost := some host })

/-- The second section of `OpenSession`. -/
def openSession : SessionService N :=
  match s.sessionHost with
  | none => s
  | some host =>
    match host.openSession r with
    | (.ok id, host') =>
      { s with
        sessionHost := some host'
        sessionId := id
        eventPublisherRunning := true
        handedOut := s.handedOut ++ [⟨id, s.rpcServer⟩] }
    | (.error _, host') => { s with sessionHost := some host' }

/-- The first section of `CloseSession`, and where it goes on. -/
def closeSession : ServicePc × SessionService N :=
  if s.closing || !s.initialized then (.idle, s)
  else
    (.stopServer s.rpcServer s.sessionHost,
      { s with
        sessionHost := none
        rpcServer := none
        initialized := false
        closing := true
        sessionId := 0
        eventPublisherRunning := false })

/-- Where a caller goes on after `EnsureInitialized`. -/
def afterEnsure (call : ServiceCall) (status : StatusCode) : ServicePc :=
  if call = .openSession ∧ status = .ok then .opening else .idle

/-- The next step of a caller. -/
def callerStep : Option (SessionService N) :=
  match s.callers n with
  | .idle => none
  | .ensuring call =>
    let (status, s') := s.ensureInitialized r
    some (s'.goto n (afterEnsure call status))
  | .opening => some ((s.openSession r).goto n .idle)
  | .close =>
    let (pc, s') := s.closeSession
    some (s'.goto n pc)
  | .stopServer rpcServer sessionHost =>
    some (s.goto n (.closeHost (rpcServer.map AttachedServer.stop) sessionHost))
  | .closeHost rpcServer sessionHost =>
    some (s.goto n (.closeDone rpcServer (sessionHost.map (·.closeSession r))))
  | .closeDone .. => some { (s.goto n .idle) with closing := false }

/-- A step of one caller. -/
def step : ServiceAction N → Option (SessionService N)
  | .call n call => if s.callers n = .idle then some (s.goto n call.entry) else none
  | .step n r => s.callerStep n r

end SessionService

/-- The service with the host that the constructor is given, if any, and `N` callers. -/
def sessionService (N : ℕ) (host : Option SessionHost) :
    Machine (SessionService N) (ServiceAction N) where
  init := { sessionHost := host }
  step := SessionService.step

namespace SessionService

variable {N : ℕ} {host : Option SessionHost} {s s' : SessionService N} {n : Fin N} {r : HostReplies}

/-! ## The condition -/

/-- The caller is about to run `EnsureSession`, and it is going to fail. -/
def ensureFails (s : SessionService N) (n : Fin N) (r : HostReplies) : Bool :=
  s.callers n matches .ensuring _ && !s.closing && !s.initialized && r.ensureSession != .ok

/-- `EnsureSession` does not fail while an `OpenSession` is between its two sections. -/
def EnsuresApart (s : SessionService N) : ServiceAction N → Prop
  | .call .. => True
  | .step n r => s.ensureFails n r = true → ∀ m, s.callers m ≠ .opening

instance (s : SessionService N) (a : ServiceAction N) : Decidable (s.EnsuresApart a) := by
  unfold EnsuresApart
  split <;> infer_instance

/-! ## The invariant -/

/-- The host has the session `id` and the server runs on it. -/
structure Serving (s : SessionService N) (id : UInt64) : Prop where
  host : ∃ host, s.sessionHost = some host ∧ host.session = some id
  server : s.rpcServer = some ⟨id, true⟩

/-- A host without a server is never seen by a caller that has passed `EnsureInitialized`. -/
structure Inv (s : SessionService N) : Prop where
  serving : s.initialized = true → ∃ id, s.Serving id ∧ (s.sessionId = 0 ∨ s.sessionId = id)
  unserved : s.initialized = false → s.sessionId = 0
  apart : s.initialized = false → s.sessionHost ≠ none → ∀ m, s.callers m ≠ .opening
  handedOut : ∀ o ∈ s.handedOut, o.rpcServer = some ⟨o.session, true⟩

/-- A caller that moves to another point than the second section of `OpenSession`. -/
theorem Inv.goto {pc : ServicePc} (H : Inv s) (hpc : pc ≠ .opening) : Inv (s.goto n pc) where
  __ := H
  serving := fun hinit => by
    obtain ⟨id, hserving, hid⟩ := H.serving hinit
    exact ⟨id, ⟨hserving.host, hserving.server⟩, hid⟩
  apart := fun hinit hhost m => by
    by_cases hm : m = n
    · subst hm
      simpa [SessionService.goto] using hpc
    · simpa [SessionService.goto, Function.update_of_ne hm] using H.apart hinit hhost m

/-- A caller that has found the service initialised may move anywhere. -/
theorem Inv.goto_of_initialized {pc : ServicePc} (H : Inv s) (hinit : s.initialized = true) :
    Inv (s.goto n pc) where
  __ := H
  serving := fun hinit => by
    obtain ⟨id, hserving, hid⟩ := H.serving hinit
    exact ⟨id, ⟨hserving.host, hserving.server⟩, hid⟩
  apart := fun hnot => absurd (hinit.symm.trans hnot) (by decide)

/-- `EnsureInitialized` leaves a service that is initialised if it returned `Ok`, and a host
without a server only if `EnsureSession` failed. -/
theorem Inv.ensureInitialized {call : ServiceCall} (H : Inv s)
    (hcaller : s.callers n = .ensuring call)
    (hok : s.ensureFails n r = true → ∀ m, s.callers m ≠ .opening) :
    Inv (s.ensureInitialized r).2 ∧
      ((s.ensureInitialized r).1 = .ok → (s.ensureInitialized r).2.initialized = true) := by
  unfold SessionService.ensureInitialized
  split
  · exact ⟨H, by simp⟩
  · next hopen =>
      split
      · next hinit => exact ⟨H, fun _ => hinit⟩
      · next hinit =>
          have hfalse : s.initialized = false := by simpa using hinit
          split
          · next host he =>
              split
              · next server hstart =>
                  obtain ⟨id, hhandles, rfl⟩ := startServer_ok hstart
                  have hsession : host.session = some id := by
                    unfold SessionHost.serverHandles at hhandles
                    split at hhandles
                    · exact hhandles
                    · cases hhandles
                  refine ⟨⟨fun _ => ?_, nofun, nofun, H.handedOut⟩, fun _ => rfl⟩
                  exact ⟨id, ⟨⟨host, rfl, hsession⟩, rfl⟩, .inl (H.unserved hfalse)⟩
              · next status hstart =>
                  refine ⟨⟨fun hinit => absurd hinit (by simp [hfalse]), H.unserved,
                    fun _ hhost => absurd rfl hhost, H.handedOut⟩, fun hstatus => ?_⟩
                  exact absurd hstatus (startServer_error hstart)
          · next status host hne he =>
              have hstatus : status ≠ .ok := fun hstatus => hne hstatus
              have hreply : r.ensureSession ≠ .ok := by
                intro hreply
                unfold SessionHost.ensureSession at he
                rw [if_pos hreply, Prod.mk.injEq] at he
                exact hstatus he.1.symm
              have hnone := hok (by
                simp only [ensureFails, hcaller, hfalse]
                simpa [hreply] using hopen)
              refine ⟨⟨fun hinit => absurd hinit (by simp [hfalse]), H.unserved, fun _ _ => hnone,
                H.handedOut⟩, fun hok => absurd hok hstatus⟩

/-- The second section of `OpenSession`. -/
theorem Inv.openSession (H : Inv s) (hcaller : s.callers n = .opening) : Inv (s.openSession r) := by
  unfold SessionService.openSession
  split
  · exact H
  · next host hhost =>
      -- the host that the caller finds is one with a server
      have hinit : s.initialized = true := by
        by_contra hinit
        have hfalse : s.initialized = false := by simpa using hinit
        exact H.apart hfalse (by simp [hhost]) n hcaller
      obtain ⟨id, hserving, hid⟩ := H.serving hinit
      obtain ⟨host', hhost', hsession⟩ := hserving.host
      obtain rfl : host = host' := Option.some.inj (hhost.symm.trans hhost')
      split
      · next id' host' he =>
          obtain ⟨rfl, hsession'⟩ := SessionHost.openSession_of_session hsession he
          refine ⟨fun _ => ⟨id', ⟨⟨host', rfl, hsession'⟩, hserving.server⟩, .inr rfl⟩,
            fun hnot => absurd (hinit.symm.trans hnot) (by decide),
            fun hnot => absurd (hinit.symm.trans hnot) (by decide), fun o ho => ?_⟩
          rcases List.mem_append.mp ho with ho | ho
          · exact H.handedOut o ho
          · obtain rfl := List.mem_singleton.mp ho
            exact hserving.server
      · next status host' he =>
          have hsession' : host'.session = some id := by
            simpa [he] using SessionHost.session_openSession_of_session hsession (r := r)
          exact ⟨fun _ => ⟨id, ⟨⟨host', rfl, hsession'⟩, hserving.server⟩, hid⟩,
            fun hnot => absurd (hinit.symm.trans hnot) (by decide),
            fun hnot => absurd (hinit.symm.trans hnot) (by decide), H.handedOut⟩

/-- The first section of `CloseSession` leaves neither a host nor a session id. -/
theorem Inv.closeSession (H : Inv s) : Inv s.closeSession.2 := by
  unfold SessionService.closeSession
  split
  · exact H
  · exact ⟨nofun, fun _ => rfl, fun _ hhost => absurd rfl hhost, H.handedOut⟩

theorem closeSession_pc_ne : s.closeSession.1 ≠ .opening := by
  unfold SessionService.closeSession
  split <;> simp

theorem afterEnsure_ne {call : ServiceCall} {status : StatusCode} (h : status ≠ .ok) :
    afterEnsure call status ≠ .opening := by
  simp [afterEnsure, h]

/-- A step of a caller. -/
theorem Inv.callerStep (H : Inv s) (hok : s.ensureFails n r = true → ∀ m, s.callers m ≠ .opening)
    (hs : s.callerStep n r = some s') : Inv s' := by
  unfold SessionService.callerStep at hs
  split at hs
  · cases hs
  · next call hcaller =>
      cases hs
      obtain ⟨H', hinit⟩ := H.ensureInitialized hcaller hok
      by_cases hstatus : (s.ensureInitialized r).1 = .ok
      · exact H'.goto_of_initialized (hinit hstatus)
      · exact H'.goto (afterEnsure_ne hstatus)
  · next hcaller =>
      cases hs
      exact (H.openSession hcaller).goto (by simp)
  · cases hs
    exact H.closeSession.goto closeSession_pc_ne
  · cases hs
    exact H.goto (by simp)
  · cases hs
    exact H.goto (by simp)
  · cases hs
    have H' : Inv (s.goto n .idle) := H.goto (by simp)
    exact ⟨fun hinit => by
      obtain ⟨id, hserving, hid⟩ := H'.serving hinit
      exact ⟨id, ⟨hserving.host, hserving.server⟩, hid⟩, H'.unserved, H'.apart, H'.handedOut⟩

theorem Inv.of_reach (h : (sessionService N host).Reach EnsuresApart s) : Inv s := by
  have hinit : Inv (sessionService N host).init :=
    ⟨fun hinit => absurd hinit (by simp [sessionService]), fun _ => rfl,
      fun _ _ _ => by simp [sessionService], fun _ ho => absurd ho (by simp [sessionService])⟩
  refine h.invariant (I := Inv) hinit fun s a s' H hok hs => ?_
  cases a with
  | call n call =>
    obtain ⟨-, rfl⟩ : s.callers n = .idle ∧ s.goto n call.entry = s' := by
      simpa [sessionService, SessionService.step] using hs
    exact H.goto (by cases call <;> simp [ServiceCall.entry])
  | step n r => exact H.callerStep hok hs

end SessionService

/-! ## A served session has a server -/

/-- As long as `EnsureSession` does not fail while an `OpenSession` is between its two critical
sections, the service is initialised and its server runs on the session whenever it has a
session id, and every `OpenSession` that returned `Ok` handed out a session that the server was
running on. -/
theorem served_of_reach {N : ℕ} {host : Option SessionHost} {s : SessionService N}
    (h : (sessionService N host).Reach SessionService.EnsuresApart s) :
    (s.sessionId ≠ 0 → s.initialized = true ∧ s.rpcServer = some ⟨s.sessionId, true⟩) ∧
      ∀ o ∈ s.handedOut, o.rpcServer = some ⟨o.session, true⟩ := by
  have H := SessionService.Inv.of_reach h
  refine ⟨fun hid => ?_, H.handedOut⟩
  cases hinit : s.initialized with
  | false => exact absurd (H.unserved hinit) hid
  | true =>
    obtain ⟨id, hserving, hzero | rfl⟩ := H.serving hinit
    · exact absurd hzero hid
    · exact ⟨rfl, hserving.server⟩

/-- A session is opened and closed; a later `InvokeAnyCall` fails to create one, and the next
`OpenSession` succeeds. -/
def reopenRun {N : ℕ} (a b : Fin N) : List (ServiceAction N) :=
  [.call a .openSession, .step a { sessionId := 7 }, .step a {}, .call b .closeSession, .step b {},
    .step b {}, .step b {}, .step b {}, .call b .invokeAnyCall,
    .step b { ensureSession := .engineInternalError }, .call a .openSession,
    .step a { sessionId := 9 }, .step a {}]

theorem served_reopen :
    ∃ s, (sessionService 2 none).Reach SessionService.EnsuresApart s ∧ s.sessionId = 9 ∧
      (s.sessionId ≠ 0 → s.initialized = true ∧ s.rpcServer = some ⟨s.sessionId, true⟩) ∧
      ∀ o ∈ s.handedOut, o.rpcServer = some ⟨o.session, true⟩ := by
  obtain ⟨s, hreach, hid⟩ :=
    (sessionService 2 none).exists_reachOk SessionService.EnsuresApart (reopenRun 0 1)
    (P := fun s => s.sessionId = 9) (by decide +kernel)
  exact ⟨s, hreach, hid, served_of_reach hreach⟩

/-- Caller `a` has passed `EnsureInitialized`; `b` closes the service; `c` fails to create a
session, and `a` goes on. -/
def abandonedHostRun {N : ℕ} (a b c : Fin N) : List (ServiceAction N) :=
  [.call a .openSession, .step a { sessionId := 7 }, .call b .closeSession, .step b {}, .step b {},
    .step b {}, .step b {}, .call c .openSession, .step c { ensureSession := .engineInternalError },
    .step a { sessionId := 9 }]

theorem not_served_of_abandonedHost :
    ∃ s, (sessionService 3 none).Reach Machine.Always s ∧ s.sessionId ≠ 0 ∧
      s.initialized = false ∧ s.rpcServer = none ∧ s.handedOut = [⟨s.sessionId, none⟩] := by
  exact (sessionService 3 none).exists_reach (abandonedHostRun 0 1 2) (by decide +kernel)

end MemRpc
