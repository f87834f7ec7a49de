import Mathlib.Tactic

/-!
# Protocol types

The enumerations of `types.h`, `session.h` and `runtime_utils.h`, and the fixed-size ring
entries of `protocol.h`. An entry occupies `ringEntryBytes` bytes of shared memory: an unpadded
header followed by its inline payload array, whose length is a type-level
constant here as it is in the source.
-/

namespace MemRpc

/-- `enum class Priority`. -/
inductive Priority
  | normal
  | high
  deriving DecidableEq, Repr, Inhabited

/-- `enum class StatusCode`, in the order of its numeric values. -/
inductive StatusCode
  | ok
  | queueFull
  | queueTimeout
  | execTimeout
  | peerDisconnected
  | protocolMismatch
  | engineInternalError
  | invalidArgument
  | crashedDuringExecution
  | cooldownActive
  | clientClosed
  | payloadTooLarge
  deriving DecidableEq, Repr, Inhabited

/-- `enum class QueueKind`: the three rings of a session. -/
inductive QueueKind
  | highRequest
  | normalRequest
  | response
  deriving DecidableEq, Repr, Inhabited

/-- `Session::SessionState`, the shared state word. -/
inductive SessionState
  | alive
  | broken
  deriving DecidableEq, Repr, Inhabited

/-- `struct RpcReply`. -/
structure RpcReply where
  status : StatusCode := .ok
  payload : List UInt8 := []
  deriving DecidableEq, Repr

/-- `enum class PollEventFdResult`. -/
inductive PollEventFdResult
  | ready
  | timeout
  | retry
  | failed
  deriving DecidableEq, Repr

/-- The request ring a call of the given priority is pushed to. -/
def Priority.queue : Priority → QueueKind
  | .high => .highRequest
  | .normal => .normalRequest

def ringEntryBytes : ℕ := 8192

/-- `RequestRingEntry::INLINE_PAYLOAD_BYTES`: what a 20-byte header leaves. -/
def requestInlinePayloadBytes : ℕ := ringEntryBytes - (8 + 4 + 2 + 1 + 1 + 4)

/-- `ResponseRingEntry::INLINE_PAYLOAD_BYTES`: what a 31-byte header leaves. -/
def responseInlinePayloadBytes : ℕ := ringEntryBytes - (8 + 4 + 4 + 4 + 4 + 4 + 2 + 1)

/-- `ResponseMessageKind`, kept as the raw 16-bit word the peer writes. -/
def messageKindReply : UInt16 := 0
def messageKindEvent : UInt16 := 1

def payloadKindInline : UInt8 := 0
def payloadKindFileRef : UInt8 := 1

structure RequestRingEntry where
  requestId : UInt64 := 0
  execTimeoutMs : UInt32 := 0
  opcode : UInt16 := 0
  priority : UInt8 := 0
  payloadKind : UInt8 := payloadKindInline
  payloadSize : UInt32 := 0
  payload : Vector UInt8 requestInlinePayloadBytes := Vector.replicate _ 0
  deriving DecidableEq

structure ResponseRingEntry where
  requestId : UInt64 := 0
  statusCode : UInt32 := 0
  eventDomain : UInt32 := 0
  eventType : UInt32 := 0
  flags : UInt32 := 0
  resultSize : UInt32 := 0
  messageKind : UInt16 := messageKindReply
  payloadKind : UInt8 := payloadKindInline
  payload : Vector UInt8 responseInlinePayloadBytes := Vector.replicate _ 0
  deriving DecidableEq

/-- Entries that differ in their request id are different entries. -/
instance : Nontrivial RequestRingEntry :=
  ⟨⟨{ requestId := 1 }, { requestId := 2 }, fun h =>
    absurd (congrArg RequestRingEntry.requestId h) (by decide)⟩⟩

instance : Nontrivial ResponseRingEntry :=
  ⟨⟨{ requestId := 1 }, { requestId := 2 }, fun h =>
    absurd (congrArg ResponseRingEntry.requestId h) (by decide)⟩⟩

end MemRpc
