import MemRpc.Lib.ListSet
import MemRpc.Ves.SessionService

/-!
# The engine configuration

The first valid request to open a session fixes the engines of the service until it is stopped,
and later requests have to name the same ones. The list of a request is sorted and freed of
duplicates before it is compared, so only the set that it denotes counts
(`engines_fixed_by_first`).

`VirusExecutorService::OpenSession` configures the engines first and opens the session then. When
it is the second that fails, the configuration stays, and requests for other engines are refused
although there has never been a session.

## Main definitions

* `EngineConfig`, with `configureEngines` and `resetEngines`.
* `engineSet`: the set of engines that a request denotes.
* `VirusExecutorService.openSession`.

## Main results

* `engines_fixed_by_first`.
* `engines_kept_by_failed_open`.
-/

namespace MemRpc

open ListSet

/-! ## Requests -/

/-- `VES_OPEN_SESSION_REQUEST_VERSION`. -/
def vesOpenSessionRequestVersion : UInt32 := 1

/-- `VES_OPEN_SESSION_MAX_ENGINE_KINDS`. -/
def vesOpenSessionMaxEngineKinds : ℕ := 32

/-- `enum class VesEngineKind`. -/
inductive VesEngineKind
  | scan
  deriving DecidableEq, Repr

def VesEngineKind.toUInt32 : VesEngineKind → UInt32
  | .scan => 1

/-- `struct VesOpenSessionRequest`. -/
structure VesOpenSessionRequest where
  version : UInt32 := vesOpenSessionRequestVersion
  engineKinds : List UInt32 := []
  deriving DecidableEq, Repr

/-- `IsValidVesOpenSessionRequest`. -/
def isValidVesOpenSessionRequest (request : VesOpenSessionRequest) : Bool :=
  if request.version ≠ vesOpenSessionRequestVersion ∨
      vesOpenSessionMaxEngineKinds < request.engineKinds.length then false
  else request.engineKinds.all (· != 0)

/-- `NormalizeVesEngineKinds`. -/
def normalizeVesEngineKinds (engineKinds : List UInt32) : List UInt32 :=
  sortUnique (· ≤ ·) engineKinds

/-- `ResolveEngineKinds`. -/
def resolveEngineKinds (request : VesOpenSessionRequest) : List UInt32 :=
  match normalizeVesEngineKinds request.engineKinds with
  | [] => [VesEngineKind.scan.toUInt32]
  | engineKinds => engineKinds

/-- The engines that a request denotes: those in its list, or `Scan`. -/
def engineSet (request : VesOpenSessionRequest) : Finset UInt32 :=
  if request.engineKinds = [] then {VesEngineKind.scan.toUInt32} else request.engineKinds.toFinset

theorem mem_resolveEngineKinds {request : VesOpenSessionRequest} {engineKind : UInt32} :
    engineKind ∈ resolveEngineKinds request ↔ engineKind ∈ engineSet request := by
  unfold resolveEngineKinds engineSet
  split
  · next hnil =>
      have hempty : request.engineKinds = [] := by
        rw [List.eq_nil_iff_forall_not_mem]
        intro kind hmem
        rw [← mem_sortUnique (· ≤ ·), ← normalizeVesEngineKinds, hnil] at hmem
        cases hmem
      simp [hempty]
  · next hne =>
      have hnonempty : request.engineKinds ≠ [] := by
        intro hempty
        exact hne (by rw [hempty]; rfl)
      rw [if_neg hnonempty, List.mem_toFinset, normalizeVesEngineKinds, mem_sortUnique]

theorem toFinset_resolveEngineKinds (request : VesOpenSessionRequest) :
    (resolveEngineKinds request).toFinset = engineSet request := by
  ext engineKind
  rw [List.mem_toFinset, mem_resolveEngineKinds]

/-- The list that a request is resolved to is in the form that depends on the set only. -/
theorem sortUnique_resolveEngineKinds (request : VesOpenSessionRequest) :
    ∃ kinds, resolveEngineKinds request = sortUnique (· ≤ ·) kinds := by
  unfold resolveEngineKinds
  split
  · exact ⟨[VesEngineKind.scan.toUInt32], rfl⟩
  · exact ⟨request.engineKinds, rfl⟩

/-- Requests are resolved to the same list exactly if they denote the same set. -/
theorem resolveEngineKinds_eq_iff {request request' : VesOpenSessionRequest} :
    resolveEngineKinds request = resolveEngineKinds request' ↔
      engineSet request = engineSet request' := by
  constructor
  · intro h
    rw [← toFinset_resolveEngineKinds, h, toFinset_resolveEngineKinds]
  · intro h
    obtain ⟨kinds, hkinds⟩ := sortUnique_resolveEngineKinds request
    obtain ⟨kinds', hkinds'⟩ := sortUnique_resolveEngineKinds request'
    rw [hkinds, hkinds', sortUnique_eq_iff]
    intro kind
    rw [← mem_sortUnique (· ≤ ·), ← hkinds, mem_resolveEngineKinds, h, ← mem_resolveEngineKinds,
      hkinds', mem_sortUnique]

/-! ## The configuration -/

/-- The members of `VesEngineService` under `engineConfigMutex_`. -/
structure EngineConfig where
  enginesConfigured : Bool := false
  configuredEngineKinds : List UInt32 := []
  deriving DecidableEq, Repr

namespace EngineConfig

/-- `ConfigureEngines`. -/
def configureEngines (s : EngineConfig) (request : VesOpenSessionRequest) :
    StatusCode × EngineConfig :=
  if !isValidVesOpenSessionRequest request then (.invalidArgument, s)
  else
    let resolvedEngineKinds := resolveEngineKinds request
    if !s.enginesConfigured then (.ok, ⟨true, resolvedEngineKinds⟩)
    else if s.configuredEngineKinds ≠ resolvedEngineKinds then (.invalidArgument, s)
    else (.ok, s)

/-- `ResetEngines`. -/
def resetEngines (_ : EngineConfig) : EngineConfig := {}

end EngineConfig

/-- A call of `ConfigureEngines` or `ResetEngines`. -/
inductive EngineCall
  | configureEngines (request : VesOpenSessionRequest)
  | resetEngines
  deriving DecidableEq, Repr

/-- The configuration after a call. -/
def EngineConfig.call (s : EngineConfig) : EngineCall → EngineConfig
  | .configureEngines request => (s.configureEngines request).2
  | .resetEngines => s.resetEngines

/-- The configuration after some calls, from the construction on. -/
def engineConfigAfter (calls : List EngineCall) : EngineConfig := calls.foldl .call {}

/-- The requests since the last reset, with one more call. -/
def EngineCall.follow (requests : List VesOpenSessionRequest) :
    EngineCall → List VesOpenSessionRequest
  | .configureEngines request => requests ++ [request]
  | .resetEngines => []

/-- The requests since the last reset, in the order of the calls. -/
def requestsSinceReset (calls : List EngineCall) : List VesOpenSessionRequest :=
  calls.foldl EngineCall.follow []

/-- The first valid request since the last reset. -/
def firstValidRequest (calls : List EngineCall) : Option VesOpenSessionRequest :=
  (requestsSinceReset calls).find? isValidVesOpenSessionRequest

/-- The configuration that a request fixes. -/
def EngineConfig.fixedBy : Option VesOpenSessionRequest → EngineConfig
  | none => {}
  | some request => ⟨true, resolveEngineKinds request⟩

namespace EngineConfig

variable {first : Option VesOpenSessionRequest} {request : VesOpenSessionRequest}

theorem configureEngines_of_invalid (s : EngineConfig)
    (h : isValidVesOpenSessionRequest request = false) :
    s.configureEngines request = (.invalidArgument, s) := by
  simp [configureEngines, h]

/-- A valid request fixes the configuration if there is none, and is compared with it by the
sets. -/
theorem configureEngines_fixedBy (first : Option VesOpenSessionRequest)
    (h : isValidVesOpenSessionRequest request = true) :
    (fixedBy first).configureEngines request =
      (if ∀ r ∈ first, engineSet request = engineSet r then .ok else .invalidArgument,
        fixedBy (first.or (some request))) := by
  cases first with
  | none => simp [configureEngines, h, fixedBy]
  | some r =>
    have hcompare : resolveEngineKinds r = resolveEngineKinds request ↔
        engineSet request = engineSet r := by
      rw [resolveEngineKinds_eq_iff, eq_comm]
    by_cases hset : engineSet request = engineSet r
    · simp [configureEngines, h, fixedBy, hcompare, hset]
    · simp [configureEngines, h, fixedBy, hcompare, hset]

end EngineConfig

theorem firstValidRequest_concat (calls : List EngineCall) (call : EngineCall) :
    firstValidRequest (calls ++ [call]) =
      match call with
      | .configureEngines request =>
        (firstValidRequest calls).or
          (if isValidVesOpenSessionRequest request then some request else none)
      | .resetEngines => none := by
  have hcalls : requestsSinceReset (calls ++ [call]) = call.follow (requestsSinceReset calls) :=
    List.foldl_concat ..
  rw [firstValidRequest, hcalls]
  cases call with
  | configureEngines request =>
    rw [EngineCall.follow, List.find?_append, List.find?_singleton, ← firstValidRequest]
  | resetEngines => rfl

/-- After any calls, the configuration is the one that the first valid request since the last
reset has fixed. -/
theorem engineConfigAfter_eq (calls : List EngineCall) :
    engineConfigAfter calls = .fixedBy (firstValidRequest calls) := by
  induction calls using List.reverseRecOn with
  | nil => rfl
  | append_singleton calls call ih =>
    have hcall : engineConfigAfter (calls ++ [call]) = (engineConfigAfter calls).call call :=
      List.foldl_concat ..
    rw [hcall, ih, firstValidRequest_concat]
    cases call with
    | resetEngines => rfl
    | configureEngines request =>
      cases hvalid : isValidVesOpenSessionRequest request with
      | false =>
        simp [EngineConfig.call, EngineConfig.configureEngines_of_invalid _ hvalid, hvalid]
      | true => simp [EngineConfig.call, EngineConfig.configureEngines_fixedBy _ hvalid, hvalid]

/-- The first valid request since the last reset fixes the engines. A later one is accepted
exactly if it is valid and denotes the same set, and one that is not accepted changes nothing. -/
theorem engines_fixed_by_first (calls : List EngineCall) :
    (engineConfigAfter calls).enginesConfigured = (firstValidRequest calls).isSome ∧
    (engineConfigAfter calls).configuredEngineKinds.toFinset =
      (firstValidRequest calls).elim ∅ engineSet ∧
    ∀ request,
      (((engineConfigAfter calls).configureEngines request).1 = .ok ↔
        isValidVesOpenSessionRequest request = true ∧
          ∀ first ∈ firstValidRequest calls, engineSet request = engineSet first) ∧
      (((engineConfigAfter calls).configureEngines request).1 = .ok ∧
          firstValidRequest calls = none ∨
        ((engineConfigAfter calls).configureEngines request).2 = engineConfigAfter calls) := by
  rw [engineConfigAfter_eq]
  refine ⟨?_, ?_, fun request => ?_⟩
  · cases firstValidRequest calls <;> rfl
  · cases firstValidRequest calls with
    | none => rfl
    | some first => exact toFinset_resolveEngineKinds first
  · cases hvalid : isValidVesOpenSessionRequest request with
    | false => simp [EngineConfig.configureEngines_of_invalid _ hvalid]
    | true =>
      rw [EngineConfig.configureEngines_fixedBy _ hvalid]
      refine ⟨?_, ?_⟩
      · simp
      · cases hfirst : firstValidRequest calls with
        | none => exact .inl ⟨by simp, rfl⟩
        | some first => exact .inr rfl

/-- Two lists of the same set are accepted, in whatever order, and another set is not. -/
theorem engines_fixed_by_first_scan :
    ((engineConfigAfter [.configureEngines { engineKinds := [99, 1, 99] }]).configureEngines
        { engineKinds := [1, 99] }).1 = .ok ∧
      ((engineConfigAfter [.configureEngines { engineKinds := [99, 1, 99] }]).configureEngines
        { engineKinds := [] }).1 ≠ .ok := by
  have h := engines_fixed_by_first [.configureEngines { engineKinds := [99, 1, 99] }]
  refine ⟨(h.2.2 _).1.mpr ?_, fun hok => ?_⟩
  · decide +kernel
  · have hrefused := (h.2.2 _).1.mp hok
    revert hrefused
    decide +kernel

/-! ## Opening a session -/

/-- What the second section of `EngineSessionService::OpenSession` returns. -/
def SessionService.openSessionStatus {N : ℕ} (s : SessionService N) (r : HostReplies) :
    StatusCode :=
  match s.sessionHost with
  | none => .invalidArgument
  | some host =>
    match (host.openSession r).1 with
    | .ok _ => .ok
    | .error status => status

/-- The members of `VirusExecutorService` that `OpenSession` uses. -/
structure VirusExecutorService (N : ℕ) where
  stopping : Bool := false
  service : EngineConfig := {}
  sessionService : Option (SessionService N) := none

/-- What the calls in `EngineSessionService::OpenSession` are answered, and what other callers do to
the session service between its two sections. -/
structure OpenAnswers (N : ℕ) where
  ensure : HostReplies := {}
  between : SessionService N → SessionService N := id
  opening : HostReplies := {}

namespace VirusExecutorService

variable {N : ℕ} (s : VirusExecutorService N)

/-- `OnStart`. -/
def onStart : VirusExecutorService N := { s with stopping := false, sessionService := some {} }

/-- `OpenSession`. -/
def openSession (answers : OpenAnswers N) (request : VesOpenSessionRequest) :
    StatusCode × VirusExecutorService N :=
  if s.stopping then (.peerDisconnected, s)
  else
    let (configStatus, service) := s.service.configureEngines request
    if configStatus ≠ .ok then (configStatus, { s with service })
    else
      match s.sessionService with
      | none => (.invalidArgument, { s with service })
      | some sessionService =>
        let (initStatus, initialized) := sessionService.ensureInitialized answers.ensure
        if initStatus ≠ .ok then
          (initStatus, { s with service, sessionService := some initialized })
        else
          let found := answers.between initialized
          (found.openSessionStatus answers.opening,
            { s with service, sessionService := some (found.openSession answers.opening) })

/-- `OpenSession` changes the configuration only as `ConfigureEngines` does, and not at all when
the service is stopping. -/
theorem openSession_service (answers : OpenAnswers N) (request : VesOpenSessionRequest) :
    (s.openSession answers request).2.service =
      if s.stopping then s.service else (s.service.configureEngines request).2 := by
  unfold openSession
  cases hconfig : s.service.configureEngines request with
  | mk configStatus service =>
    -- on each way out the new configuration is kept
    split
    · rfl
    dsimp only
    split
    · rfl
    split
    · rfl
    · split <;> rfl

/-- The request does not fix the configuration: it is refused before, or the engines are
configured already. -/
def Settled (request : VesOpenSessionRequest) : Prop :=
  s.stopping = true ∨ s.service.enginesConfigured = true ∨
    isValidVesOpenSessionRequest request = false

end VirusExecutorService

/-- Configured engines stay as they are. -/
theorem EngineConfig.configureEngines_of_configured {s : EngineConfig}
    (h : s.enginesConfigured = true) (request : VesOpenSessionRequest) :
    (s.configureEngines request).2 = s := by
  unfold configureEngines
  split
  · rfl
  · simp only [h, Bool.not_true, Bool.false_eq_true, if_false]
    split <;> rfl

/-- The host cannot duplicate the handles of the session for the client. -/
def noHandles (N : ℕ) : OpenAnswers N := { opening := { duplicate := .engineInternalError } }

/-- Without handles for the client, `OpenSession` fails in every state. -/
theorem VirusExecutorService.openSession_noHandles {N : ℕ} (s : VirusExecutorService N)
    (request : VesOpenSessionRequest) : (s.openSession (noHandles N) request).1 ≠ .ok := by
  have hopening : ∀ found : SessionService N,
      found.openSessionStatus (noHandles N).opening ≠ .ok := by
    intro found
    unfold SessionService.openSessionStatus
    split
    · decide
    · simp [noHandles, SessionHost.openSession, SessionHost.ensureSession]
  unfold openSession
  split
  · nofun
  rcases s.service.configureEngines request with ⟨configStatus, service⟩
  dsimp only
  split
  · next hconfig => exact hconfig
  split
  · nofun
  · split
    · next hinit => exact hinit
    · exact hopening _

/-- A request that is the one to fix the configuration changes it. -/
theorem VirusExecutorService.openSession_service_ne {N : ℕ} {s : VirusExecutorService N}
    {request : VesOpenSessionRequest} (h : ¬ s.Settled request) (answers : OpenAnswers N) :
    (s.openSession answers request).2.service ≠ s.service := by
  simp only [Settled, not_or, Bool.not_eq_true, Bool.not_eq_false] at h
  obtain ⟨hstopping, hconfigured, hvalid⟩ := h
  rw [s.openSession_service, hstopping]
  intro hsame
  have hflag := congrArg EngineConfig.enginesConfigured hsame
  simp [EngineConfig.configureEngines, hvalid, hconfigured] at hflag

/-- A failed `OpenSession`, however it fails, leaves the configuration as it was and every later
request is answered as without it, exactly if it is not the one to fix the configuration. -/
theorem engines_kept_by_failed_open {N : ℕ} (s : VirusExecutorService N)
    (request : VesOpenSessionRequest) :
    (∀ answers : OpenAnswers N, (s.openSession answers request).1 ≠ .ok →
      (s.openSession answers request).2.service = s.service ∧
      ∀ (calls : List EngineCall) (later : VesOpenSessionRequest),
        ((calls.foldl .call (s.openSession answers request).2.service).configureEngines later).1 =
          ((calls.foldl .call s.service).configureEngines later).1) ↔ s.Settled request := by
  constructor
  · intro hkept
    by_contra hnew
    have hsame := (hkept (noHandles N) (s.openSession_noHandles request)).1
    exact VirusExecutorService.openSession_service_ne hnew _ hsame
  · intro hsettled answers _
    have hkept : (s.openSession answers request).2.service = s.service := by
      rw [s.openSession_service]
      split
      · rfl
      · next hstopping =>
          rcases hsettled with hstop | hconfigured | hinvalid
          · exact absurd hstop hstopping
          · exact EngineConfig.configureEngines_of_configured hconfigured request
          · rw [EngineConfig.configureEngines_of_invalid _ hinvalid]
    refine ⟨hkept, fun calls later => ?_⟩
    rw [hkept]

/-- The host cannot create a session. -/
def noSession : OpenAnswers 0 := { ensure := { ensureSession := .engineInternalError } }

/-- A service that is configured for `Scan` refuses other engines and remains as it is. -/
theorem engines_kept_by_failed_open_scan :
    ((⟨false, ⟨true, [1]⟩, some {}⟩ : VirusExecutorService 0).openSession noSession
        { engineKinds := [99] }).1 = .invalidArgument ∧
      ((⟨false, ⟨true, [1]⟩, some {}⟩ : VirusExecutorService 0).openSession noSession
        { engineKinds := [99] }).2.service = ⟨true, [1]⟩ := by
  have hfailed : ((⟨false, ⟨true, [1]⟩, some {}⟩ : VirusExecutorService 0).openSession noSession
      { engineKinds := [99] }).1 = .invalidArgument := by decide +kernel
  refine ⟨hfailed, ((engines_kept_by_failed_open _ _).mpr (.inr (.inl rfl)) _ ?_).1⟩
  rw [hfailed]
  decide

/-- The first request after the start asks for other engines than `Scan`, and the host cannot create
a session. The request fails, but from then on a request for `Scan` is refused, which would have
been accepted before. -/
theorem engines_fixed_by_failed_open :
    (({} : VirusExecutorService 0).onStart.openSession noSession { engineKinds := [99] }).1 =
        .engineInternalError ∧
      (({} : VirusExecutorService 0).onStart.openSession noSession
        { engineKinds := [99] }).2.service = ⟨true, [99]⟩ ∧
      ((({} : VirusExecutorService 0).onStart.openSession noSession
        { engineKinds := [99] }).2.openSession {} {}).1 = .invalidArgument ∧
      (({} : VirusExecutorService 0).onStart.openSession {} {}).1 = .ok := by
  decide +kernel

end MemRpc
