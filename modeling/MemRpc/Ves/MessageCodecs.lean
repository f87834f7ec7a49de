import MemRpc.Core.CodecTraits
import MemRpc.Ves.EngineConfig

/-!
# The messages of the executor and of the test kit

Most messages have one or two fields. Only the list of engine kinds of a request to open a session
needs a loop, behind a count that is limited.

## Main definitions

* `CodecTraits.initReply` and the codecs of the other messages.

## Main results

* `byteCodec_roundTrip`: what was written is read back, and so is every message.
-/

namespace MemRpc.Codec

structure InitReply where
  code : Int32 := 0
  deriving DecidableEq

structure ScanTask where
  path : List UInt8 := []
  deriving DecidableEq

structure ScanFileReply where
  code : Int32 := 0
  threatLevel : Int32 := 0
  deriving DecidableEq

structure EchoRequest where
  text : List UInt8 := []
  deriving DecidableEq

structure EchoReply where
  text : List UInt8 := []
  deriving DecidableEq

structure AddRequest where
  lhs : Int32 := 0
  rhs : Int32 := 0
  deriving DecidableEq

structure AddReply where
  sum : Int32 := 0
  deriving DecidableEq

structure SleepRequest where
  delayMs : UInt32 := 0
  deriving DecidableEq

structure SleepReply where
  status : Int32 := 0
  deriving DecidableEq

namespace CodecTraits

open Decoder

def initReply : CodecTraits InitReply := ofInt32 InitReply.code InitReply.mk

def scanTask : CodecTraits ScanTask := ofString ScanTask.path ScanTask.mk

def scanFileReply : CodecTraits ScanFileReply where
  fields reply := [.int32 reply.code, .int32 reply.threatLevel]
  decoder := do
    let code ← ofRead ByteReader.readInt32
    let threatLevel ← ofRead ByteReader.readInt32
    return { code, threatLevel }

/-- The loop over the engine kinds. -/
def engineKinds : ℕ → Decoder (List UInt32)
  | 0 => pure []
  | engineCount + 1 => do
      let engineKind ← ofRead ByteReader.readUint32
      let rest ← engineKinds engineCount
      return engineKind :: rest

def vesOpenSessionRequest : CodecTraits VesOpenSessionRequest where
  fields request :=
    .uint32 request.version :: .uint32 (UInt32.ofNat request.engineKinds.length) ::
      request.engineKinds.map .uint32
  decoder := do
    let version ← ofRead ByteReader.readUint32
    let engineCount ← ofRead ByteReader.readUint32
    if vesOpenSessionMaxEngineKinds < engineCount.toNat then failure
    else
      let engineKinds ← engineKinds engineCount.toNat
      return { version, engineKinds }

def echoRequest : CodecTraits EchoRequest := ofString EchoRequest.text EchoRequest.mk

def echoReply : CodecTraits EchoReply := ofString EchoReply.text EchoReply.mk

def addRequest : CodecTraits AddRequest where
  fields request := [.int32 request.lhs, .int32 request.rhs]
  decoder := do
    let lhs ← ofRead ByteReader.readInt32
    let rhs ← ofRead ByteReader.readInt32
    return { lhs, rhs }

def addReply : CodecTraits AddReply := ofInt32 AddReply.sum AddReply.mk

def sleepRequest : CodecTraits SleepRequest where
  fields request := [.uint32 request.delayMs]
  decoder := do return { delayMs := ← ofRead ByteReader.readUint32 }

def sleepReply : CodecTraits SleepReply := ofInt32 SleepReply.status SleepReply.mk

/-! ## Round trips -/

theorem matches_scanFileReply (reply : ScanFileReply) : scanFileReply.Matches reply where
  inRange := by simp [scanFileReply, WriteOp.InRange]
  nonempty := List.cons_ne_nil _ _
  decodes :=
    (decodes_int32 reply.code).bind ((decodes_int32 reply.threatLevel).bind (decodes_pure reply))

theorem matches_addRequest (request : AddRequest) : addRequest.Matches request where
  inRange := by simp [addRequest, WriteOp.InRange]
  nonempty := List.cons_ne_nil _ _
  decodes :=
    (decodes_int32 request.lhs).bind ((decodes_int32 request.rhs).bind (decodes_pure request))

theorem matches_sleepRequest (request : SleepRequest) : sleepRequest.Matches request where
  inRange := by simp [sleepRequest, WriteOp.InRange]
  nonempty := List.cons_ne_nil _ _
  decodes := (decodes_uint32 request.delayMs).bind (decodes_pure request)

theorem decodes_engineKinds (kinds : List UInt32) :
    (engineKinds kinds.length).Decodes (encodeAll (kinds.map .uint32)) kinds := by
  induction kinds with
  | nil => exact decodes_pure []
  | cons kind kinds ih => exact (decodes_uint32 kind).bind (ih.bind_pure (kind :: ·))

theorem matches_vesOpenSessionRequest {request : VesOpenSessionRequest}
    (h : isValidVesOpenSessionRequest request = true) :
    vesOpenSessionRequest.Matches request := by
  have hcount : request.engineKinds.length ≤ vesOpenSessionMaxEngineKinds := by
    unfold isValidVesOpenSessionRequest at h
    split at h
    · cases h
    · next hlimits => exact not_lt.mp fun hlt => hlimits (.inr hlt)
  have hlength : (UInt32.ofNat request.engineKinds.length).toNat = request.engineKinds.length :=
    UInt32.toNat_ofNat_of_lt' (lt_of_le_of_lt hcount (by decide))
  refine ⟨?_, List.cons_ne_nil _ _, ?_⟩
  · simp [vesOpenSessionRequest, WriteOp.InRange]
  · refine (decodes_uint32 request.version).bind ((decodes_uint32 _).bind ?_)
    rw [hlength, if_neg (not_lt.mpr hcount)]
    exact (decodes_engineKinds request.engineKinds).bind_pure (VesOpenSessionRequest.mk _)

end CodecTraits

open CodecTraits

/-- What a sequence of writes has written, the matching sequence of reads returns, with copies or
with views, whatever follows. So every message is decoded from its encoding. -/
theorem byteCodec_roundTrip :
    (∀ ops : List WriteOp, (∀ op ∈ ops, op.InRange) →
      ∃ w, ops.foldlM ByteWriter.write {} = some w ∧
        ∀ (emptyIsNull : Bool) (buffer : ByteBuffer) (rest : List UInt8) (reads : List ReadOp),
          buffer.bytes = w.bytes ++ rest → reads.map ReadOp.owning = ops.map WriteOp.read →
          ((ByteReader.ofVector emptyIsNull buffer).outcomes buffer reads).map Prod.fst =
              ops.map (some ·.value) ∧
            ((ByteReader.ofVector emptyIsNull buffer).after reads).offset = w.bytes.length) ∧
    initReply.RoundTrips (fun _ => True) ∧
    scanTask.RoundTrips (·.path.length < 2 ^ 32) ∧
    scanFileReply.RoundTrips (fun _ => True) ∧
    vesOpenSessionRequest.RoundTrips (isValidVesOpenSessionRequest · = true) ∧
    echoRequest.RoundTrips (·.text.length < 2 ^ 32) ∧
    echoReply.RoundTrips (·.text.length < 2 ^ 32) ∧
    addRequest.RoundTrips (fun _ => True) ∧
    addReply.RoundTrips (fun _ => True) ∧
    sleepRequest.RoundTrips (fun _ => True) ∧
    sleepReply.RoundTrips (fun _ => True) := by
  refine ⟨fun ops hops => ⟨_, ByteWriter.foldlM_write_eq hops {}, ?_⟩,
    roundTrips_of_matches fun value _ => matches_ofInt32 (fun _ => rfl) value,
    roundTrips_of_matches fun _ hlength => matches_ofString (fun _ => rfl) hlength,
    roundTrips_of_matches fun value _ => matches_scanFileReply value,
    roundTrips_of_matches fun _ hvalid => matches_vesOpenSessionRequest hvalid,
    roundTrips_of_matches fun _ hlength => matches_ofString (fun _ => rfl) hlength,
    roundTrips_of_matches fun _ hlength => matches_ofString (fun _ => rfl) hlength,
    roundTrips_of_matches fun value _ => matches_addRequest value,
    roundTrips_of_matches fun value _ => matches_ofInt32 (fun _ => rfl) value,
    roundTrips_of_matches fun value _ => matches_sleepRequest value,
    roundTrips_of_matches fun value _ => matches_ofInt32 (fun _ => rfl) value⟩
  intro emptyIsNull buffer rest reads hbytes hreads
  exact ByteReader.read_written emptyIsNull hops hbytes hreads

/-- A word, a string and a blob, with one byte behind them. -/
theorem byteCodec_roundTrip_three :
    ∃ w, [WriteOp.uint32 7, .string [104, 105], .bytes [1]].foldlM ByteWriter.write {} = some w ∧
      ∀ buffer : ByteBuffer, buffer.bytes = w.bytes ++ [9] →
        ((ByteReader.ofVector true buffer).outcomes buffer
            [.uint32, .stringView, .bytes 1]).map Prod.fst =
          [some (.uint32 7), some (.bytes [104, 105]), some (.bytes [1])] := by
  obtain ⟨w, hw, hread⟩ := byteCodec_roundTrip.1 [.uint32 7, .string [104, 105], .bytes [1]]
    (by simp [WriteOp.InRange])
  exact ⟨w, hw, fun buffer hbytes => (hread true buffer [9] _ hbytes rfl).1⟩

end MemRpc.Codec
