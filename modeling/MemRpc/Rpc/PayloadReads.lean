import MemRpc.Core.FilePayload

/-!
# Reads of peer-controlled payloads

The three places that read the payload of an entry the peer has written: the server's
`ProcessEntry`, the client's `DrainResponseRing` with the delivery it calls, and the scan
of `MarkSessionBroken`. The first two compare the declared size with the payload array
before they read. `RemovePendingFilePayloadsFromRing` hands the declared size to the
envelope decoder as it is.

An entry is its fields and its payload array; `beyond` is the memory behind the array,
whatever it holds.

## Main definitions

* `processEntryReads`, `drainResponseReads`, `sweepRequestReads`, `sweepResponseReads`:
  the payload reads of each path.
* `Overlong`: the entries on which the scan leaves the array.
-/

namespace MemRpc

/-- The memory from the first byte of a payload array on. -/
def payloadMemory {n : ℕ} (payload : Vector UInt8 n) (beyond : ℕ → UInt8) (i : ℕ) : UInt8 :=
  payload[i]?.getD (beyond i)

theorem payloadMemory_of_lt {n : ℕ} (payload : Vector UInt8 n) (beyond beyond' : ℕ → UInt8)
    {i : ℕ} (hi : i < n) : payloadMemory payload beyond i = payloadMemory payload beyond' i := by
  simp [payloadMemory, hi]

/-- What the outside world answers: the files, the registered handlers, the pending store
and the event callback. -/
structure PayloadEnv where
  files : FilePayloadRef → Option (List UInt8)
  removed : FilePayloadRef → Bool
  /-- `MaxRequestBytes` of the session. -/
  maxRequestBytes : UInt32
  registered : Bool
  pending : Bool
  callback : Bool

/-- The checks of `ProcessEntry` on the declared payload, with the status of the reply to
an entry that fails them. -/
def invalidTransport (maxRequestBytes : UInt32) (e : RequestRingEntry) : Option StatusCode :=
  let tooLarge := maxRequestBytes < e.payloadSize ∨
    requestInlinePayloadBytes < e.payloadSize.toNat
  let invalidInlinePayload := e.payloadKind = payloadKindInline ∧ tooLarge
  let invalidFilePayloadRef := e.payloadKind = payloadKindFileRef ∧ (e.payloadSize = 0 ∨ tooLarge)
  let unknownPayloadKind := e.payloadKind ≠ payloadKindInline ∧ e.payloadKind ≠ payloadKindFileRef
  if invalidInlinePayload ∨ invalidFilePayloadRef ∨ unknownPayloadKind then
    some (if unknownPayloadKind then .protocolMismatch else .payloadTooLarge)
  else none

/-- `ProcessEntry` up to the call of the handler: the checks, then the payload. -/
def processEntryReads (env : PayloadEnv) (e : RequestRingEntry) (beyond : ℕ → UInt8) :
    List PayloadRead :=
  if (invalidTransport env.maxRequestBytes e).isSome then []
  else if env.registered = false then []
  else
    (resolveFilePayloadFromTransport env.files (payloadMemory e.payload beyond)
      e.payloadSize.toNat e.payloadKind).2

/-- `ResolveEntryPayload`. -/
def resolveEntryPayloadReads (env : PayloadEnv) (e : ResponseRingEntry) (beyond : ℕ → UInt8) :
    List PayloadRead :=
  if responseInlinePayloadBytes < e.resultSize.toNat then []
  else if e.payloadKind = payloadKindInline then [⟨0, e.resultSize.toNat⟩]
  else if e.payloadKind = payloadKindFileRef then
    (resolveFilePayloadFromTransport env.files (payloadMemory e.payload beyond)
      e.resultSize.toNat e.payloadKind).2
  else []

/-- `DiscardEntryPayloadIfPresent`, which makes no check of its own. -/
def discardEntryPayloadReads (env : PayloadEnv) (e : ResponseRingEntry) (beyond : ℕ → UInt8) :
    List PayloadRead :=
  if e.payloadKind ≠ payloadKindFileRef then []
  else
    (removeFilePayloadFromTransport env.removed (payloadMemory e.payload beyond)
      e.resultSize.toNat e.payloadKind).2

/-- `DrainResponseRing` with one popped entry: `DeliverEvent` or
`ResolveCompletedRequest`. -/
def drainResponseReads (env : PayloadEnv) (e : ResponseRingEntry) (beyond : ℕ → UInt8) :
    List PayloadRead :=
  if responseInlinePayloadBytes < e.resultSize.toNat then []
  else
    let wanted := if e.messageKind = messageKindEvent then env.callback else env.pending
    if wanted then resolveEntryPayloadReads env e beyond else discardEntryPayloadReads env e beyond

/-- `RemovePendingFilePayloadsFromRing` at one request entry. -/
def sweepRequestReads (env : PayloadEnv) (e : RequestRingEntry) (beyond : ℕ → UInt8) :
    List PayloadRead :=
  (removeFilePayloadFromTransport env.removed (payloadMemory e.payload beyond)
    e.payloadSize.toNat e.payloadKind).2

/-- `RemovePendingFilePayloadsFromRing` at one response entry. -/
def sweepResponseReads (env : PayloadEnv) (e : ResponseRingEntry) (beyond : ℕ → UInt8) :
    List PayloadRead :=
  (removeFilePayloadFromTransport env.removed (payloadMemory e.payload beyond)
    e.resultSize.toNat e.payloadKind).2

/-! ## The paths that check first -/

/-- An entry that passes the checks declares no more than its payload array holds. -/
theorem payloadSize_le_of_invalidTransport {maxRequestBytes : UInt32} {e : RequestRingEntry}
    (h : invalidTransport maxRequestBytes e = none) :
    e.payloadSize.toNat ≤ requestInlinePayloadBytes := by
  by_contra hlarge
  rw [invalidTransport, ite_eq_right_iff] at h
  refine Option.some_ne_none _ (h ?_)
  by_cases hinline : e.payloadKind = payloadKindInline
  · exact .inl ⟨hinline, .inr (not_le.mp hlarge)⟩
  · by_cases hfile : e.payloadKind = payloadKindFileRef
    · exact .inr (.inl ⟨hfile, .inr (.inr (not_le.mp hlarge))⟩)
    · exact .inr (.inr ⟨hinline, hfile⟩)

theorem processEntry_inside (env : PayloadEnv) (e : RequestRingEntry) (beyond : ℕ → UInt8) :
    Inside requestInlinePayloadBytes (processEntryReads env e beyond) := by
  rw [processEntryReads]
  split
  · exact inside_nil _
  · rename_i hvalid
    split
    · exact inside_nil _
    · exact resolve_inside (by decide)
        (payloadSize_le_of_invalidTransport (Option.not_isSome_iff_eq_none.mp hvalid)) _ _ _

theorem resolveEntryPayload_inside (env : PayloadEnv) (e : ResponseRingEntry)
    (beyond : ℕ → UInt8) :
    Inside responseInlinePayloadBytes (resolveEntryPayloadReads env e beyond) := by
  rw [resolveEntryPayloadReads]
  split
  · exact inside_nil _
  · rename_i hsize
    split
    · simpa [PayloadRead.stop] using hsize
    · split
      · exact resolve_inside (by decide) (not_lt.mp hsize) _ _ _
      · exact inside_nil _

/-- The delivery functions are called only after the size check of the drain. -/
theorem drainResponse_inside (env : PayloadEnv) (e : ResponseRingEntry) (beyond : ℕ → UInt8) :
    Inside responseInlinePayloadBytes (drainResponseReads env e beyond) := by
  rw [drainResponseReads]
  split
  · exact inside_nil _
  · rename_i hsize
    have hdiscard : Inside responseInlinePayloadBytes (discardEntryPayloadReads env e beyond) := by
      rw [discardEntryPayloadReads]
      split
      · exact inside_nil _
      · exact remove_inside (by decide) (not_lt.mp hsize) _ _ _
    generalize (if e.messageKind = messageKindEvent then env.callback else env.pending) = wanted
    cases wanted with
    | false => exact hdiscard
    | true => exact resolveEntryPayload_inside env e beyond

/-! ## The path that does not -/

/-- A file reference whose path ends behind the payload array and inside the declared
size. -/
def RequestRingEntry.Overlong (e : RequestRingEntry) : Prop :=
  e.payloadKind = payloadKindFileRef ∧
    EnvelopeBeyond requestInlinePayloadBytes (payloadMemory e.payload fun _ => 0)
      e.payloadSize.toNat

/-- The same of a response entry. -/
def ResponseRingEntry.Overlong (e : ResponseRingEntry) : Prop :=
  e.payloadKind = payloadKindFileRef ∧
    EnvelopeBeyond responseInlinePayloadBytes (payloadMemory e.payload fun _ => 0)
      e.resultSize.toNat

/-- The scan at an entry with an array of `n` bytes; what lies behind it does not matter. -/
theorem remove_payload_inside_iff {n : ℕ} (hn : 16 ≤ n) (removed : FilePayloadRef → Bool)
    (payload : Vector UInt8 n) (beyond : ℕ → UInt8) (size : ℕ) (payloadKind : UInt8) :
    Inside n (removeFilePayloadFromTransport removed (payloadMemory payload beyond) size
        payloadKind).2 ↔
      ¬ (payloadKind = payloadKindFileRef ∧
        EnvelopeBeyond n (payloadMemory payload fun _ => 0) size) := by
  rw [remove_inside_iff hn, envelopeBeyond_congr]
  intro i hi
  exact payloadMemory_of_lt _ _ _ (hi.trans_le hn)

theorem sweepRequest_inside_iff (env : PayloadEnv) (e : RequestRingEntry) (beyond : ℕ → UInt8) :
    Inside requestInlinePayloadBytes (sweepRequestReads env e beyond) ↔ ¬ e.Overlong :=
  remove_payload_inside_iff (by decide) _ _ _ _ _

theorem sweepResponse_inside_iff (env : PayloadEnv) (e : ResponseRingEntry)
    (beyond : ℕ → UInt8) :
    Inside responseInlinePayloadBytes (sweepResponseReads env e beyond) ↔ ¬ e.Overlong :=
  remove_payload_inside_iff (by decide) _ _ _ _ _

/-- The server, the client and the scan read inside the payload arrays of a request and a
response entry exactly when neither is overlong. -/
theorem payloadReads_inside_iff (env : PayloadEnv) (request : RequestRingEntry)
    (response : ResponseRingEntry) (beyond : ℕ → UInt8) :
    (Inside requestInlinePayloadBytes (processEntryReads env request beyond) ∧
        Inside requestInlinePayloadBytes (sweepRequestReads env request beyond) ∧
        Inside responseInlinePayloadBytes (drainResponseReads env response beyond) ∧
        Inside responseInlinePayloadBytes (sweepResponseReads env response beyond)) ↔
      ¬ request.Overlong ∧ ¬ response.Overlong := by
  rw [sweepRequest_inside_iff, sweepResponse_inside_iff]
  constructor
  · rintro ⟨-, hrequest, -, hresponse⟩
    exact ⟨hrequest, hresponse⟩
  · rintro ⟨hrequest, hresponse⟩
    exact ⟨processEntry_inside env request beyond, hrequest,
      drainResponse_inside env response beyond, hresponse⟩

/-! ## A path of 8157 bytes -/

/-- The four words of an envelope: magic, version 1, size 0, and a path of 8157 bytes. -/
def overlongBytes : List UInt8 :=
  [0x31, 0x50, 0x46, 0x56, 1, 0, 0, 0, 0, 0, 0, 0, 0xdd, 0x1f, 0, 0]

/-- A request that declares 9000 bytes of payload. -/
def overlongRequest : RequestRingEntry where
  payloadKind := payloadKindFileRef
  payloadSize := 9000
  payload := Vector.ofFn fun i => overlongBytes.getD i 0

/-- A server with a handler and no payload files. -/
def plainEnv : PayloadEnv where
  files _ := none
  removed _ := false
  maxRequestBytes := UInt32.ofNat requestInlinePayloadBytes
  registered := true
  pending := true
  callback := true

theorem not_inside_overlong :
    ¬ Inside requestInlinePayloadBytes (sweepRequestReads plainEnv overlongRequest fun _ => 0) := by
  have hbytes : ∀ i < 16, payloadMemory overlongRequest.payload (fun _ => 0) i =
      overlongBytes.getD i 0 := by
    intro i hi
    have hlt : i < requestInlinePayloadBytes := hi.trans (by decide)
    simp [payloadMemory, overlongRequest, hlt]
  rw [sweepRequest_inside_iff, not_not]
  refine ⟨rfl, ?_⟩
  rw [envelopeBeyond_congr hbytes]
  decide

end MemRpc
