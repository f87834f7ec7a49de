import MemRpc.Core.HeaderTamper

/-!
# The host and the attacher of a session

`SharedMemorySessionHost` creates the shared memory of a session from a configuration, and
`Session::Attach` validates the memory it is handed before it uses it. Both test the payload
limits by the same predicate. The ring sizes are tested by the attacher only: a ring of size
0, or with more than `MAX_RING_ENTRIES` entries, is created without complaint and can never be
attached to.

Opening the shared memory object, sizing and mapping it, the robust mutex and the eventfds
are system calls, and none of them fails here. The session id is what `GenerateSessionId`
returned.

## Main definitions

* `SharedMemorySessionHost`: a host whose memory, once created, is that of its configuration.
* `SharedMemorySessionHost.openSession`.

## Main results

* `attach_openSession_iff`.
-/

namespace MemRpc

/-- `struct SharedMemorySessionConfig`. -/
structure SharedMemorySessionConfig where
  highRingSize : UInt32 := 8
  normalRingSize : UInt32 := 8
  responseRingSize : UInt32 := 8
  maxRequestBytes : UInt32 := UInt32.ofNat requestInlinePayloadBytes
  maxResponseBytes : UInt32 := UInt32.ofNat responseInlinePayloadBytes
  shmName : String := ""
  deriving DecidableEq, Repr

/-- A shared memory object: its size and the header in it. -/
structure SharedMemory where
  fileSize : ℕ
  header : SharedMemoryHeader

/-- `BootstrapHandles`, with the object that `shmFd` refers to. -/
structure SessionHandles where
  memory : SharedMemory
  protocolVersion : UInt32
  sessionId : UInt64

namespace SharedMemorySessionConfig

variable (config : SharedMemorySessionConfig)

/-- `HasValidConfig`. -/
def hasValidConfig : Bool :=
  config.maxRequestBytes != 0 && config.maxResponseBytes != 0 &&
    hasAlignedPayloadSizes config.maxRequestBytes config.maxResponseBytes &&
    decide (config.maxRequestBytes ≤ UInt32.ofNat requestInlinePayloadBytes) &&
    decide (config.maxResponseBytes ≤ UInt32.ofNat responseInlinePayloadBytes)

/-- The configuration that `BuildLayout` passes to `ComputeLayout`. -/
def layoutConfig : LayoutConfig :=
  ⟨config.highRingSize, config.normalRingSize, config.responseRingSize, config.maxRequestBytes,
    config.maxResponseBytes⟩

/-- `PopulateHeader` over memory that was zeroed. -/
def populateHeader : SharedMemoryHeader where
  magic := sharedMemoryMagic
  version := MemRpc.protocolVersion
  config := config.layoutConfig
  ring q := { capacity := config.layoutConfig.ringSize q }

/-- `InitializeSharedMemory`; the size is a `size_t`. -/
def initializeSharedMemory (abi : Abi) : SharedMemory where
  fileSize := (computeLayout abi config.layoutConfig).totalSize % 2 ^ 64
  header := config.populateHeader

/-- Every ring size is one that `ValidateLayoutConfig` accepts. -/
def RingSizesValid : Prop := ∀ q, validRingSize (config.layoutConfig.ringSize q) = true

end SharedMemorySessionConfig

/-- `SharedMemorySessionHost::Impl`. The handles are there while `initialized` is set. -/
structure SharedMemorySessionHost (abi : Abi) where
  config : SharedMemorySessionConfig
  handles : Option SessionHandles := none
  memory_eq : ∀ h ∈ handles, h.memory = config.initializeSharedMemory abi := by simp
  config_valid : ∀ h ∈ handles, config.hasValidConfig = true := by simp

namespace SharedMemorySessionHost

variable {abi : Abi}

/-- `EnsureInitialized` with `FinalizeInitializedSession`: the status, and the host after it. -/
def ensureInitialized (host : SharedMemorySessionHost abi) (sessionId : UInt64) :
    StatusCode × SharedMemorySessionHost abi :=
  if host.handles.isSome then (.ok, host)
  else if hvalid : host.config.hasValidConfig = true then
    (.ok,
      { host with
        handles := some ⟨host.config.initializeSharedMemory abi, protocolVersion, sessionId⟩
        memory_eq := by simp
        config_valid := by simp [hvalid] })
  else (.invalidArgument, host)

/-- `SharedMemorySessionHost::OpenSession`: the duplicated handles if the status is `Ok`. -/
def openSession (host : SharedMemorySessionHost abi) (sessionId : UInt64) :
    Except StatusCode SessionHandles × SharedMemorySessionHost abi :=
  let (status, host') := host.ensureInitialized sessionId
  match host'.handles with
  | some handles => (if status = .ok then .ok handles else .error status, host')
  | none => (.error status, host')

/-- `SharedMemorySessionHost::CloseSession`. -/
def closeSession (host : SharedMemorySessionHost abi) : SharedMemorySessionHost abi :=
  { config := host.config }

/-- What `OpenSession` hands out. -/
theorem openSession_ok {host host' : SharedMemorySessionHost abi} {sessionId : UInt64}
    {handles : SessionHandles} (h : host.openSession sessionId = (.ok handles, host')) :
    handles.memory = host.config.initializeSharedMemory abi ∧
      host.config.hasValidConfig = true := by
  have hconfig : (host.ensureInitialized sessionId).2.config = host.config := by
    unfold ensureInitialized
    split
    · rfl
    · split <;> rfl
  rw [← hconfig]
  unfold openSession at h
  generalize host.ensureInitialized sessionId = r at h
  obtain ⟨status, host₁⟩ := r
  cases hhandles : host₁.handles with
  | none => simp [hhandles] at h
  | some handles₁ =>
    simp only [hhandles, Prod.mk.injEq] at h
    obtain ⟨h, -⟩ := h
    split at h
    · cases h
      exact ⟨host₁.memory_eq _ hhandles, host₁.config_valid _ hhandles⟩
    · cases h

end SharedMemorySessionHost

/-! ## Attaching to what the host created -/

theorem fileSize_initializeSharedMemory (abi : Abi) (config : SharedMemorySessionConfig) :
    (config.initializeSharedMemory abi).fileSize =
      (computeLayout abi config.layoutConfig).totalSize :=
  Nat.mod_eq_of_lt (computeLayout_lt abi _)

/-- The cursors of a new session are empty rings of the configured size. -/
theorem validateRingCursor_populateHeader (config : SharedMemorySessionConfig) (q : QueueKind) :
    validateRingCursor (config.populateHeader.ring q) (config.layoutConfig.ringSize q) =
      validRingSize (config.layoutConfig.ringSize q) := by
  have hempty : ¬ (0 : UInt32) > config.layoutConfig.ringSize q := by
    simp [UInt32.lt_iff_toNat_lt]
  simp [validateRingCursor, SharedMemorySessionConfig.populateHeader, ringCount, hempty]

/-- The header that the host writes and the size that it gives to the object pass all tests of
the attacher but those of the ring sizes. -/
theorem attach_initializeSharedMemory (abi : Abi) (config : SharedMemorySessionConfig)
    (hvalid : config.hasValidConfig = true) :
    (∃ session, attach abi (config.initializeSharedMemory abi).header
      (config.initializeSharedMemory abi).fileSize = .ok session) ↔ config.RingSizesValid := by
  have hheader : abi.headerBytes ≤ (computeLayout abi config.layoutConfig).totalSize := by
    obtain ⟨hoffset, hend⟩ := computeLayout_ring_le abi config.layoutConfig .highRequest
    omega
  have hpayload : hasAlignedPayloadSizes config.layoutConfig.maxRequestBytes
      config.layoutConfig.maxResponseBytes = true := by
    simp only [SharedMemorySessionConfig.hasValidConfig, Bool.and_eq_true] at hvalid
    exact hvalid.1.1.2
  rw [fileSize_initializeSharedMemory]
  constructor
  · rintro ⟨session, hattach⟩ q
    obtain ⟨hconfig, -, hsize⟩ := attach_ok hattach q
    rw [hconfig] at hsize
    exact hsize
  · intro hrings
    have hlayout : validateLayoutConfig abi config.layoutConfig
        (computeLayout abi config.layoutConfig).totalSize = true := by
      simp only [validateLayoutConfig, Bool.and_eq_true, decide_eq_true_eq]
      exact ⟨⟨⟨⟨⟨hrings .highRequest, hrings .normalRequest⟩, hrings .response⟩, hpayload⟩,
        hheader⟩, le_rfl⟩
    have hcursor : ∀ q, validateRingCursor (config.populateHeader.ring q)
        (config.layoutConfig.ringSize q) = true := fun q =>
      (validateRingCursor_populateHeader config q).trans (hrings q)
    refine ⟨⟨config.layoutConfig, computeLayout abi config.layoutConfig⟩, ?_⟩
    rw [attach, if_neg (Nat.not_lt.mpr hheader), if_neg (by
      simp [SharedMemorySessionConfig.initializeSharedMemory,
        SharedMemorySessionConfig.populateHeader])]
    refine if_pos ?_
    simp only [Bool.and_eq_true]
    exact ⟨⟨⟨hlayout, hcursor .highRequest⟩, hcursor .normalRequest⟩, hcursor .response⟩

/-- **Host and attacher agree on exactly the configurations with valid ring sizes.** If
`OpenSession` returns `Ok`, attaching as the server to the handles succeeds just when every
ring has between 1 and `MAX_RING_ENTRIES` entries. -/
theorem attach_openSession_iff {abi : Abi} {host host' : SharedMemorySessionHost abi}
    {sessionId : UInt64} {handles : SessionHandles}
    (hopen : host.openSession sessionId = (.ok handles, host')) :
    (∃ session, attach abi handles.memory.header handles.memory.fileSize = .ok session) ↔
      host.config.RingSizesValid := by
  obtain ⟨hmemory, hvalid⟩ := SharedMemorySessionHost.openSession_ok hopen
  rw [hmemory]
  exact attach_initializeSharedMemory abi host.config hvalid

/-- A new host with a high ring of the given size, and the defaults otherwise. -/
def hostWithHighRing (size : UInt32) : SharedMemorySessionHost abi64 where
  config := { highRingSize := size }

theorem attach_openSession_default :
    ∃ handles host', (hostWithHighRing 8).openSession 7 = (.ok handles, host') ∧
      ∃ session, attach abi64 handles.memory.header handles.memory.fileSize = .ok session := by
  have hopen : (hostWithHighRing 8).openSession 7 = (.ok _, _) := rfl
  refine ⟨_, _, hopen, (attach_openSession_iff hopen).mpr ?_⟩
  intro q
  cases q <;> decide

/-- A ring without entries: `OpenSession` returns `Ok`, and attaching to the session it hands
out fails. So does a ring with one entry more than `MAX_RING_ENTRIES`. -/
theorem not_attach_of_invalidRingSize :
    (∃ handles host', (hostWithHighRing 0).openSession 7 = (.ok handles, host') ∧
      attach abi64 handles.memory.header handles.memory.fileSize = .error .protocolMismatch) ∧
    ∃ handles host', (hostWithHighRing 1048577).openSession 7 = (.ok handles, host') ∧
      attach abi64 handles.memory.header handles.memory.fileSize = .error .protocolMismatch :=
  ⟨⟨_, _, rfl, by decide +kernel⟩, ⟨_, _, rfl, by decide +kernel⟩⟩

end MemRpc
