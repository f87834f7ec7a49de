import MemRpc.Core.Spsc
import MemRpc.Rpc.PayloadTransport
import MemRpc.Rpc.RequestPath

/-!
# The data of a call, there and back

Any number of calls of one session on their way: `TryPushRequest` prepares the payload and
pushes an entry, `ProcessEntry` resolves the payload and calls the handler,
`WriteResponse` prepares the payload of the reply and pushes an entry,
`ResolveCompletedRequest` resolves that payload and settles the future. The calls take
these steps in any order among each other, and they share the files. The session is
alive and has the default payload limits. A call keeps its entry between push and pop; that
the entry popped from a ring is that entry is what `receiveCall_of_popped` and
`resolveCompletedRequest_of_popped` add. The pending store is modelled elsewhere.

What the file system has to do for this: a name that `MakeFilePayloadPath` makes is not in
use (`FaultFree`). The invariant gives each call at most one file of its own, with the
payload on its way.

## Main definitions

* `CallPhase`: how far a call has come, and what handler and future have got.
* `callTransfer`: the machine.
* `CallTransfer.Faithful`: handlers get what was called, futures what was answered.
-/

namespace MemRpc

open Concurrency

/-! ## The functions of the two sides -/

/-- `struct RpcCall`. -/
structure RpcCall where
  opcode : UInt16 := 0
  priority : Priority := .normal
  execTimeoutMs : UInt32 := 30000
  payload : List UInt8 := []
  deriving DecidableEq, Repr

/-- `struct RpcServerCall`. -/
structure RpcServerCall where
  opcode : UInt16 := 0
  /-- A `Priority`, which is a byte: a cast may give one that has no name. -/
  priority : UInt8 := Priority.normal.toUInt8
  execTimeoutMs : UInt32 := 0
  payload : List UInt8 := []
  deriving DecidableEq, Repr

/-- `DEFAULT_MAX_REQUEST_BYTES`. -/
def defaultMaxRequestBytes : UInt32 := UInt32.ofNat requestInlinePayloadBytes

/-- `DEFAULT_MAX_RESPONSE_BYTES`. -/
def defaultMaxResponseBytes : UInt32 := UInt32.ofNat responseInlinePayloadBytes

/-- `PrepareRequestPayloadForTransport`. -/
def prepareRequest (files : PayloadFiles) (stamp : FileStamp) (call : RpcCall) :
    Option TransportPayload × PayloadFiles :=
  prepareFilePayloadForTransport files stamp call.payload
    (min defaultMaxRequestBytes.toNat requestInlinePayloadBytes)

/-- `BuildRequestEntry`. -/
def buildRequestEntry (requestId : UInt64) (call : RpcCall) (p : TransportPayload) :
    RequestRingEntry where
  requestId := requestId
  execTimeoutMs := call.execTimeoutMs
  opcode := call.opcode
  priority := call.priority.toUInt8
  payloadSize := UInt32.ofNat p.bytes.length
  payloadKind := p.payloadKind
  payload := payloadArray _ p.bytes

/-- `RemoveFilePayloadFromTransport` of `PushRequestToSession`, on the payload it has
prepared. -/
def discardTransport (files : PayloadFiles) (p : TransportPayload) : PayloadFiles :=
  if p.payloadKind = payloadKindFileRef then
    match (decodeFilePayloadEnvelope (fun i => p.bytes[i]?.getD 0) p.bytes.length).1 with
    | none => files
    | some ref => (removeFilePayload files ref).2
  else files

/-- `BuildServerCall`. -/
def buildServerCall (e : RequestRingEntry) (payload : List UInt8) : RpcServerCall where
  opcode := e.opcode
  priority :=
    (if e.priority = Priority.high.toUInt8 then Priority.high else Priority.normal).toUInt8
  execTimeoutMs := e.execTimeoutMs
  payload := payload

/-- `ProcessEntry` up to the call of the handler, if there is one: what it receives. -/
def receiveCall (registered : UInt16 → Bool) (beyond : ℕ → UInt8) (files : PayloadFiles)
    (e : RequestRingEntry) : Option RpcServerCall × PayloadFiles :=
  if (invalidTransport defaultMaxRequestBytes e).isSome || !registered e.opcode then (none, files)
  else
    let resolved := resolveTransport files (payloadMemory e.payload beyond) e.payloadSize.toNat
      e.payloadKind
    (resolved.1.map (buildServerCall e), resolved.2)

/-- What `ProcessEntry` hands to `WriteResponse`; the handler has answered `answer` to the
call it received, if any. -/
def processReply (registered : UInt16 → Bool) (e : RequestRingEntry)
    (received : Option RpcServerCall) (answer : RpcReply) : RpcReply :=
  match invalidTransport defaultMaxRequestBytes e with
  | some status => { status }
  | none => invokeHandler registered e received.isSome answer

/-- `WriteResponse` up to the completion queue. -/
def writeResponse (files : PayloadFiles) (stamp : FileStamp) (e : RequestRingEntry)
    (reply : RpcReply) : ResponseRingEntry × PayloadFiles :=
  let prepared := prepareFilePayloadForTransport files stamp reply.payload
    (min defaultMaxResponseBytes.toNat responseInlinePayloadBytes)
  (buildReplyEntry e (transportReply reply prepared.1), prepared.2)

/-- `ResolveEntryPayload`. -/
def resolveEntryPayload (beyond : ℕ → UInt8) (files : PayloadFiles) (e : ResponseRingEntry) :
    Except StatusCode (List UInt8) × PayloadFiles :=
  if responseInlinePayloadBytes < e.resultSize.toNat then (.error .protocolMismatch, files)
  else if e.payloadKind = payloadKindInline then
    (.ok ((List.range e.resultSize.toNat).map (payloadMemory e.payload beyond)), files)
  else if e.payloadKind = payloadKindFileRef then
    let resolved := resolveTransport files (payloadMemory e.payload beyond) e.resultSize.toNat
      e.payloadKind
    (match resolved.1 with
      | some payload => .ok payload
      | none => .error .peerDisconnected, resolved.2)
  else (.error .protocolMismatch, files)

/-- `static_cast<StatusCode>` of a status word: its lowest byte, where that has a name. -/
def StatusCode.ofUInt32 (w : UInt32) : Option StatusCode :=
  [.ok, .queueFull, .queueTimeout, .execTimeout, .peerDisconnected, .protocolMismatch,
    .engineInternalError, .invalidArgument, .crashedDuringExecution, .cooldownActive,
    .clientClosed, .payloadTooLarge][w.toUInt8.toNat]?

/-- The reply that `ResolveCompletedRequest` settles the future with. -/
def resolveCompletedRequest (beyond : ℕ → UInt8) (files : PayloadFiles) (e : ResponseRingEntry) :
    Option RpcReply × PayloadFiles :=
  match resolveEntryPayload beyond files e with
  | (.ok payload, files') =>
    ((StatusCode.ofUInt32 e.statusCode).map fun status => ⟨status, payload⟩, files')
  | (.error status, files') => (some { status }, files')

/-! ## The machine -/

/-- How far a call has come. `received` is what the handler was called with, if it was, and
`answer` what it answered. -/
inductive CallPhase
  | idle
  | refused (call : RpcCall) (status : StatusCode)
  | queued (call : RpcCall) (entry : RequestRingEntry)
  | replied (call : RpcCall) (entry : RequestRingEntry) (received : Option RpcServerCall)
      (answer reply : RpcReply)
  | written (call : RpcCall) (received : Option RpcServerCall) (answer : RpcReply)
      (entry : ResponseRingEntry)
  | resolved (call : RpcCall) (received : Option RpcServerCall) (answer : RpcReply)
      (result : Option RpcReply)

/-- The calls of a session and the payload files. -/
structure CallTransfer where
  files : PayloadFiles
  phase : ℕ → CallPhase := fun _ => .idle

namespace CallTransfer

def setPhase (s : CallTransfer) (n : ℕ) (phase : CallPhase) (files : PayloadFiles) :
    CallTransfer :=
  { files, phase := Function.update s.phase n phase }

end CallTransfer

/-- The steps of the calls. `full` answers for the request ring, `stamp` for the clock. -/
inductive TransferAction
  | tryPushRequest (n : ℕ) (call : RpcCall) (stamp : FileStamp) (full : Bool)
  | processEntry (n : ℕ) (answer : RpcReply)
  | writeResponse (n : ℕ) (stamp : FileStamp)
  | resolveCompletedRequest (n : ℕ)

/-- The calls of one session; handlers exist for the `registered` opcodes. The directory may
hold other files. -/
def callTransfer (registered : UInt16 → Bool) (beyond : ℕ → UInt8) (files : PayloadFiles) :
    Machine CallTransfer TransferAction where
  init := { files }
  step s
    | .tryPushRequest n call stamp full =>
      match s.phase n with
      | .idle =>
        match prepareRequest s.files stamp call with
        | (none, files') => some (s.setPhase n (.refused call .payloadTooLarge) files')
        | (some p, files') =>
          -- `QueueFull`: the call stays in the submit queue
          if full then some (s.setPhase n .idle (discardTransport files' p))
          else
            some (s.setPhase n
              (.queued call (buildRequestEntry (UInt64.ofNat (n + 1)) call p)) files')
      | _ => none
    | .processEntry n answer =>
      match s.phase n with
      | .queued call e =>
        let received := receiveCall registered beyond s.files e
        some (s.setPhase n (.replied call e received.1 answer
          (processReply registered e received.1 answer)) received.2)
      | _ => none
    | .writeResponse n stamp =>
      match s.phase n with
      | .replied call e received answer reply =>
        let response := writeResponse s.files stamp e reply
        some (s.setPhase n (.written call received answer response.1) response.2)
      | _ => none
    | .resolveCompletedRequest n =>
      match s.phase n with
      | .written call received answer e =>
        let result := resolveCompletedRequest beyond s.files e
        some (s.setPhase n (.resolved call received answer result.1) result.2)
      | _ => none

/-- A name for a payload file is not in use. -/
def FaultFree (s : CallTransfer) : TransferAction → Prop
  | .tryPushRequest _ _ stamp _ | .writeResponse _ stamp =>
    s.files (makeFilePayloadPath stamp) = none
  | _ => True

/-! ## What has to hold -/

/-- The call as the handler should see it. -/
def RpcCall.toServerCall (call : RpcCall) : RpcServerCall where
  opcode := call.opcode
  priority := call.priority.toUInt8
  execTimeoutMs := call.execTimeoutMs
  payload := call.payload

/-- The reply as the future should see it. -/
def RpcReply.delivered (reply : RpcReply) : RpcReply :=
  if reply.payload.length ≤ maxFilePayloadBytes then reply else { status := .payloadTooLarge }

/-- A handler has got exactly what was called, a future exactly what the handler answered,
and a call is refused only for its size. -/
def CallPhase.Faithful (registered : UInt16 → Bool) : CallPhase → Prop
  | .idle | .queued _ _ => True
  | .refused call status =>
    maxFilePayloadBytes < call.payload.length ∧ status = .payloadTooLarge
  | .replied call _ received answer reply =>
    registered call.opcode → received = some call.toServerCall ∧ reply = answer
  | .written call received _ _ => registered call.opcode → received = some call.toServerCall
  | .resolved call received answer result =>
    registered call.opcode → received = some call.toServerCall ∧ result = some answer.delivered

/-- All calls are faithful. -/
def CallTransfer.Faithful (registered : UInt16 → Bool) (s : CallTransfer) : Prop :=
  ∀ n, (s.phase n).Faithful registered

/-! ## One payload -/

theorem startsWith_payloadArray {n : ℕ} {bytes : List UInt8} (beyond : ℕ → UInt8)
    (hle : bytes.length ≤ n) : StartsWith (payloadMemory (payloadArray n bytes) beyond) bytes := by
  intro i hi
  have hn : i < n := by omega
  simp [payloadMemory, payloadArray, hn, hi]

/-- A length up to that of a payload array survives the cast to a word. -/
theorem toNat_size {length : ℕ} (hle : length ≤ requestInlinePayloadBytes) :
    (UInt32.ofNat length).toNat = length := by
  have hbytes : requestInlinePayloadBytes = 8172 := rfl
  have hword : UInt32.size = 4294967296 := rfl
  exact UInt32.toNat_ofNat_of_lt' (by omega)

variable {file : Option (List UInt8)} {files : PayloadFiles} {p : TransportPayload}

variable {path : List UInt8}

/-- Removing a prepared payload touches its own file only. -/
theorem Transported.discard {payload : List UInt8}
    (h : Transported files payload file p)
    (hne : file ≠ some path) : discardTransport files p path = files path := by
  have hbytes : StartsWith (fun i => p.bytes[i]?.getD 0) p.bytes := by
    intro i hi
    simp [hi]
  cases h with
  | inline =>
    have hkinds : payloadKindInline ≠ payloadKindFileRef := by decide
    simp [discardTransport, hkinds]
  | file stamp hsize hfile =>
    simp only [discardTransport, if_true, decode_envelope stamp _ hbytes, removeFilePayload,
      if_neg (not_refused hsize)]
    exact Function.update_of_ne (fun h => hne (congrArg some h.symm)) _ _

theorem toNat_defaultMaxRequestBytes :
    defaultMaxRequestBytes.toNat = requestInlinePayloadBytes := by decide

/-- The entry of a request that is carried passes the checks of `ProcessEntry`. -/
theorem Transported.invalidTransport {payload : List UInt8} (h : Transported files payload file p)
    {maxRequestBytes : UInt32} (hmax : p.bytes.length ≤ maxRequestBytes.toNat)
    (hle : p.bytes.length ≤ requestInlinePayloadBytes) (requestId : UInt64) (call : RpcCall) :
    invalidTransport maxRequestBytes (buildRequestEntry requestId call p) = none := by
  have hkinds : payloadKindInline ≠ payloadKindFileRef := by decide
  have hfits : ¬ (maxRequestBytes < UInt32.ofNat p.bytes.length ∨
      requestInlinePayloadBytes < (UInt32.ofNat p.bytes.length).toNat) := by
    rw [UInt32.lt_iff_toNat_lt, toNat_size hle]
    omega
  have hpos : p.payloadKind = payloadKindFileRef → UInt32.ofNat p.bytes.length ≠ 0 := by
    intro hkind hzero
    have hlength : p.bytes.length = 0 := by rw [← toNat_size hle, hzero]; rfl
    cases h with
    | inline => exact hkinds hkind
    | file stamp hsize hfile => simp [length_encodeFilePayloadEnvelope] at hlength
  have hkind : p.payloadKind = payloadKindInline ∨ p.payloadKind = payloadKindFileRef := by
    cases h with
    | inline => exact .inl rfl
    | file stamp hsize hfile => exact .inr rfl
  rw [MemRpc.invalidTransport]
  refine if_neg ?_
  rintro (⟨-, hlarge⟩ | ⟨hfile, hzero | hlarge⟩ | ⟨hinline, hfile⟩)
  · exact hfits hlarge
  · exact hpos hfile hzero
  · exact hfits hlarge
  · exact hkind.elim hinline hfile

variable {registered : UInt16 → Bool}

/-- The handler of a carried request receives the call. -/
theorem Transported.receiveCall {call : RpcCall} (h : Transported files call.payload file p)
    (hle : p.bytes.length ≤ requestInlinePayloadBytes)
    (hreg : registered call.opcode) (beyond : ℕ → UInt8) (requestId : UInt64) :
    (receiveCall registered beyond files (buildRequestEntry requestId call p)).1 =
      some call.toServerCall := by
  have hpriority : (if call.priority.toUInt8 = Priority.high.toUInt8 then Priority.high
      else .normal) = call.priority := by
    cases call.priority <;> rfl
  have hresolve := (h.resolve (startsWith_payloadArray beyond hle)).1
  have hvalid := h.invalidTransport (hle.trans_eq toNat_defaultMaxRequestBytes.symm) hle
  simp only [MemRpc.receiveCall, hvalid, Option.isSome_none, Bool.false_or]
  simp only [buildRequestEntry, hreg, Bool.not_true, toNat_size hle, hresolve]
  simp [buildServerCall, hpriority, RpcCall.toServerCall]

/-- `ProcessEntry` removes no file but the one of the entry. -/
theorem Transported.receiveCall_files {call : RpcCall} (h : Transported files call.payload file p)
    (hle : p.bytes.length ≤ requestInlinePayloadBytes) (registered : UInt16 → Bool)
    (beyond : ℕ → UInt8) (requestId : UInt64) (hne : file ≠ some path) :
    (MemRpc.receiveCall registered beyond files (buildRequestEntry requestId call p)).2 path =
      files path := by
  have hresolve := (h.resolve (startsWith_payloadArray beyond hle)).2 path hne
  rw [MemRpc.receiveCall]
  split
  · rfl
  · simpa only [buildRequestEntry, toNat_size hle] using hresolve

theorem StatusCode.ofUInt32_toUInt32 (status : StatusCode) :
    StatusCode.ofUInt32 status.toUInt32 = some status := by
  cases status <;> rfl

/-- The future of a carried reply gets the reply. -/
theorem Transported.resolveCompletedRequest {reply : RpcReply}
    (h : Transported files reply.payload file p)
    (hle : p.bytes.length ≤ responseInlinePayloadBytes) (beyond : ℕ → UInt8)
    (e : RequestRingEntry) :
    (resolveCompletedRequest beyond files (buildReplyEntry e (transportReply reply (some p)))).1 =
        some reply ∧
      ∀ path, file ≠ some path →
        (MemRpc.resolveCompletedRequest beyond files
          (buildReplyEntry e (transportReply reply (some p)))).2 path = files path := by
  have hkinds : payloadKindFileRef ≠ payloadKindInline := by decide
  have hsize : (UInt32.ofNat p.bytes.length).toNat = p.bytes.length := by
    refine toNat_size (hle.trans ?_)
    decide
  have hbytes : StartsWith (payloadMemory (payloadArray _ p.bytes) beyond) p.bytes :=
    startsWith_payloadArray beyond hle
  have hpayload : (resolveEntryPayload beyond files
      (buildReplyEntry e (transportReply reply (some p)))).1 = .ok reply.payload ∧
        ∀ path, file ≠ some path → (resolveEntryPayload beyond files
          (buildReplyEntry e (transportReply reply (some p)))).2 path = files path := by
    obtain ⟨hresolve, hframe⟩ := h.resolve hbytes
    simp only [resolveEntryPayload, buildReplyEntry, transportReply, hsize,
      if_neg (Nat.not_lt.mpr hle)]
    cases h with
    | inline =>
      simp only [if_true]
      exact ⟨congrArg Except.ok hbytes.map_range, fun _ _ => trivial⟩
    | file stamp hsize hfile =>
      simp only [if_neg hkinds, if_true, hresolve]
      exact ⟨trivial, hframe⟩
  rw [MemRpc.resolveCompletedRequest]
  rcases hresult : resolveEntryPayload beyond files
    (buildReplyEntry e (transportReply reply (some p))) with ⟨result, files'⟩
  rw [hresult] at hpayload
  obtain ⟨rfl, hframe⟩ := hpayload
  simp only [buildReplyEntry, transportReply, StatusCode.ofUInt32_toUInt32]
  exact ⟨rfl, hframe⟩

/-- The future of a reply that was too large gets `PayloadTooLarge`. -/
theorem resolveCompletedRequest_tooLarge (beyond : ℕ → UInt8) (files : PayloadFiles)
    (e : RequestRingEntry) (reply : RpcReply) :
    resolveCompletedRequest beyond files (buildReplyEntry e (transportReply reply none)) =
      (some { status := .payloadTooLarge }, files) := by
  rfl

/-! ## All calls -/

/-- Where a call is, its entry carries its payload; `file` is the file it owns. -/
def CallPhase.Valid (registered : UInt16 → Bool) (files : PayloadFiles)
    (file : Option (List UInt8)) : CallPhase → Prop
  | .queued call e =>
    ∃ requestId p, e = buildRequestEntry requestId call p ∧
      Transported files call.payload file p ∧ p.bytes.length ≤ requestInlinePayloadBytes
  | .written call received answer e =>
    (registered call.opcode → received = some call.toServerCall) ∧
    ∃ request reply, (registered call.opcode → reply = answer) ∧
      (maxFilePayloadBytes < reply.payload.length ∧ file = none ∧
          e = buildReplyEntry request (transportReply reply none) ∨
        reply.payload.length ≤ maxFilePayloadBytes ∧
          ∃ p, e = buildReplyEntry request (transportReply reply (some p)) ∧
            Transported files reply.payload file p ∧ p.bytes.length ≤ responseInlinePayloadBytes)
  | phase => file = none ∧ phase.Faithful registered

variable {phase : CallPhase}

theorem CallPhase.Valid.faithful (h : phase.Valid registered files file) :
    phase.Faithful registered := by
  cases phase with
  | queued => trivial
  | written => exact h.1
  | idle | refused | replied | resolved => exact h.2

/-- The file a call owns exists. -/
theorem CallPhase.Valid.used (h : phase.Valid registered files (some path)) :
    files path ≠ none := by
  have hcarried : ∀ {payload p}, Transported files payload (some path) p → files path ≠ none := by
    rintro payload p ⟨⟩
    simp_all
  cases phase with
  | queued =>
    obtain ⟨-, p, -, hp, -⟩ := h
    exact hcarried hp
  | written =>
    obtain ⟨-, _, _, -, ⟨-, hfile, -⟩ | ⟨-, p, -, hp, -⟩⟩ := h
    · cases hfile
    · exact hcarried hp
  | idle | refused | replied | resolved => cases h.1

/-- Changes of other files do not matter. -/
theorem CallPhase.Valid.frame {files files' : PayloadFiles}
    (h : phase.Valid registered files file)
    (hfiles : ∀ path ∈ file, files' path = files path) : phase.Valid registered files' file := by
  cases phase with
  | queued =>
    obtain ⟨requestId, p, he, hp, hle⟩ := h
    exact ⟨requestId, p, he, hp.frame hfiles, hle⟩
  | written =>
    obtain ⟨hreceived, request, reply, hreply, hlarge | ⟨hsize, p, he, hp, hle⟩⟩ := h
    · exact ⟨hreceived, request, reply, hreply, .inl hlarge⟩
    · exact ⟨hreceived, request, reply, hreply, .inr ⟨hsize, p, he, hp.frame hfiles, hle⟩⟩
  | idle | refused | replied | resolved => exact h

/-- Each call owns at most one file, and no two calls own the same. -/
def CallTransfer.Inv (registered : UInt16 → Bool) (s : CallTransfer) : Prop :=
  ∃ file : ℕ → Option (List UInt8),
    (∀ n m path, file n = some path → file m = some path → n = m) ∧
      ∀ n, (s.phase n).Valid registered s.files (file n)

namespace CallTransfer

variable {registered : UInt16 → Bool} {beyond : ℕ → UInt8} {s s' : CallTransfer}

/-- A step of one call may create a file at an unused path and remove the file of the
call. -/
theorem Inv.setPhase (H : s.Inv registered) {n : ℕ} {files' : PayloadFiles}
    (h : ∀ file, (s.phase n).Valid registered s.files file →
      ∃ file', phase.Valid registered files' file' ∧ (∀ path ∈ file', s.files path = none) ∧
        ∀ path, file ≠ some path → s.files path ≠ none → files' path = s.files path) :
    (s.setPhase n phase files').Inv registered := by
  obtain ⟨file, hinj, hvalid⟩ := H
  obtain ⟨file', hvalid', hfresh, hframe⟩ := h (file n) (hvalid n)
  have hused : ∀ m path, file m = some path → s.files path ≠ none := by
    intro m path hm
    have hm' := hvalid m
    rw [hm] at hm'
    exact hm'.used
  refine ⟨Function.update file n file', ?_, ?_⟩
  · -- the new path was not in use, so it is nobody's
    have hother : ∀ m path, m ≠ n → file m = some path → file' ≠ some path := by
      intro m path _ hm hnew
      exact hused m path hm (hfresh path hnew)
    intro i j path hi hj
    by_cases hin : i = n <;> by_cases hjn : j = n
    · rw [hin, hjn]
    · subst hin
      rw [Function.update_self] at hi
      rw [Function.update_of_ne hjn] at hj
      exact absurd hi (hother j path hjn hj)
    · subst hjn
      rw [Function.update_self] at hj
      rw [Function.update_of_ne hin] at hi
      exact absurd hj (hother i path hin hi)
    · rw [Function.update_of_ne hin] at hi
      rw [Function.update_of_ne hjn] at hj
      exact hinj i j path hi hj
  · intro m
    by_cases hm : m = n
    · subst hm
      simpa [CallTransfer.setPhase] using hvalid'
    · simp only [CallTransfer.setPhase, Function.update_of_ne hm]
      refine (hvalid m).frame ?_
      intro path hpath
      refine hframe path ?_ (hused m path hpath)
      intro hn
      exact hm (hinj m n path hpath hn)

variable {files : PayloadFiles} {n : ℕ}

/-- `TryPushRequest`: the entry carries the payload, or nothing is left of the attempt. -/
theorem Inv.tryPushRequest (H : s.Inv registered) {call : RpcCall} {stamp : FileStamp}
    {full : Bool} (hunused : s.files (makeFilePayloadPath stamp) = none)
    (hs : (callTransfer registered beyond files).step s (.tryPushRequest n call stamp full) =
      some s') : s'.Inv registered := by
  have hlimit : min defaultMaxRequestBytes.toNat requestInlinePayloadBytes =
      requestInlinePayloadBytes := by decide
  simp only [callTransfer] at hs
  split at hs
  · rename_i hidle
    by_cases hsize : call.payload.length ≤ maxFilePayloadBytes
    · obtain ⟨p, file', files', hp, hcarried, hle, hname, hframe⟩ :=
        transported_prepare requestInlinePayloadBytes (by decide) hsize hunused
      have hfresh : ∀ path ∈ file', s.files path = none := by
        intro path hpath
        rw [hname path hpath, hunused]
      simp only [prepareRequest, hlimit, hp] at hs
      cases full with
      | true =>
        cases hs
        refine H.setPhase fun file _ => ⟨none, ⟨rfl, trivial⟩, nofun, ?_⟩
        intro path _ hused
        have hne : file' ≠ some path := fun h => hused (hfresh path h)
        rw [hcarried.discard hne]
        exact hframe path hne
      | false =>
        cases hs
        exact H.setPhase fun file _ => ⟨file', ⟨_, p, rfl, hcarried, hle⟩, hfresh,
          fun path _ hused => hframe path fun h => hused (hfresh path h)⟩
    · rw [not_le] at hsize
      have hp := prepare_of_lt s.files stamp requestInlinePayloadBytes (by decide) hsize
      simp only [prepareRequest, hlimit, hp] at hs
      cases hs
      exact H.setPhase fun file _ => ⟨none, ⟨rfl, hsize, rfl⟩, nofun, fun _ _ _ => rfl⟩
  · cases hs

/-- `ProcessEntry`: a registered handler receives the call, and the file is gone. -/
theorem Inv.processEntry (H : s.Inv registered) {answer : RpcReply}
    (hs : (callTransfer registered beyond files).step s (.processEntry n answer) = some s') :
    s'.Inv registered := by
  simp only [callTransfer] at hs
  split at hs
  · rename_i call e hqueued
    cases hs
    refine H.setPhase fun file hvalid => ?_
    rw [hqueued] at hvalid
    obtain ⟨requestId, p, rfl, hcarried, hle⟩ := hvalid
    refine ⟨none, ⟨rfl, ?_⟩, nofun, ?_⟩
    · intro hreg
      have hreceived := hcarried.receiveCall hle hreg beyond requestId
      have hopcode : registered (buildRequestEntry requestId call p).opcode = true := hreg
      have hvalid := hcarried.invalidTransport (hle.trans_eq toNat_defaultMaxRequestBytes.symm) hle
      refine ⟨hreceived, ?_⟩
      rw [processReply, hvalid, hreceived]
      simp [invokeHandler, hopcode]
    · intro path hne _
      exact hcarried.receiveCall_files hle registered beyond requestId hne
  · cases hs

/-- `WriteResponse`: the entry carries the reply, or says that it is too large. -/
theorem Inv.writeResponse (H : s.Inv registered) {stamp : FileStamp}
    (hunused : s.files (makeFilePayloadPath stamp) = none)
    (hs : (callTransfer registered beyond files).step s (.writeResponse n stamp) = some s') :
    s'.Inv registered := by
  have hlimit : min defaultMaxResponseBytes.toNat responseInlinePayloadBytes =
      responseInlinePayloadBytes := by decide
  simp only [callTransfer] at hs
  split at hs
  · rename_i call e received answer reply hreplied
    cases hs
    refine H.setPhase fun file hvalid => ?_
    rw [hreplied] at hvalid
    obtain ⟨-, hfaithful⟩ := hvalid
    by_cases hsize : reply.payload.length ≤ maxFilePayloadBytes
    · obtain ⟨p, file', files', hp, hcarried, hle, hname, hframe⟩ :=
        transported_prepare responseInlinePayloadBytes (by decide) hsize hunused
      have hfresh : ∀ path ∈ file', s.files path = none := by
        intro path hpath
        rw [hname path hpath, hunused]
      simp only [MemRpc.writeResponse, hlimit, hp]
      exact ⟨file', ⟨fun hreg => (hfaithful hreg).1, e, reply, fun hreg => (hfaithful hreg).2,
        .inr ⟨hsize, p, rfl, hcarried, hle⟩⟩, hfresh,
        fun path _ hused => hframe path fun h => hused (hfresh path h)⟩
    · rw [not_le] at hsize
      have hp := prepare_of_lt s.files stamp responseInlinePayloadBytes (by decide) hsize
      simp only [MemRpc.writeResponse, hlimit, hp]
      exact ⟨none, ⟨fun hreg => (hfaithful hreg).1, e, reply, fun hreg => (hfaithful hreg).2,
        .inl ⟨hsize, rfl, rfl⟩⟩, nofun, fun _ _ _ => trivial⟩
  · cases hs

/-- `ResolveCompletedRequest`: the future gets the reply, and the file is gone. -/
theorem Inv.resolveCompletedRequest (H : s.Inv registered)
    (hs : (callTransfer registered beyond files).step s (.resolveCompletedRequest n) = some s') :
    s'.Inv registered := by
  simp only [callTransfer] at hs
  split at hs
  · rename_i call received answer e hwritten
    cases hs
    refine H.setPhase fun file hvalid => ?_
    rw [hwritten] at hvalid
    obtain ⟨hreceived, request, reply, hreply, hresponse⟩ := hvalid
    rcases hresponse with ⟨hlarge, rfl, rfl⟩ | ⟨hsize, p, rfl, hcarried, hle⟩
    · rw [resolveCompletedRequest_tooLarge]
      refine ⟨none, ⟨rfl, fun hreg => ⟨hreceived hreg, ?_⟩⟩, nofun, fun _ _ _ => rfl⟩
      rw [RpcReply.delivered, ← hreply hreg, if_neg (Nat.not_le.mpr hlarge)]
    · obtain ⟨hresult, hframe⟩ := hcarried.resolveCompletedRequest hle beyond request
      refine ⟨none, ⟨rfl, fun hreg => ⟨hreceived hreg, ?_⟩⟩, nofun, fun path hne _ =>
        hframe path hne⟩
      rw [hresult, RpcReply.delivered, ← hreply hreg, if_pos hsize]
  · cases hs

theorem Inv.of_reach (h : (callTransfer registered beyond files).Reach FaultFree s) :
    s.Inv registered := by
  refine h.invariant ⟨fun _ => none, nofun, fun _ => ⟨rfl, trivial⟩⟩ ?_
  intro s a s' H hok hs
  cases a with
  | tryPushRequest n call stamp full => exact H.tryPushRequest hok hs
  | processEntry n answer => exact H.processEntry hs
  | writeResponse n stamp => exact H.writeResponse hok hs
  | resolveCompletedRequest n => exact H.resolveCompletedRequest hs

end CallTransfer

/-- A call and an answer that both need a file. -/
def largeCall : RpcCall where
  opcode := 7
  priority := .high
  execTimeoutMs := 250
  payload := List.replicate 9000 1

def largeAnswer : RpcReply where
  status := .invalidArgument
  payload := List.replicate 9000 2

/-- A server with all handlers and an empty directory. -/
def transferRun : Machine CallTransfer TransferAction :=
  callTransfer (fun _ => true) (fun _ => 0) fun _ => none

section

variable {registered : UInt16 → Bool} {beyond : ℕ → UInt8} {files : PayloadFiles}
  {s : CallTransfer} {n k : ℕ} {call : RpcCall} {capacity : UInt32}

/-- A call whose entry is the `k`-th pushed to a request ring is what the handler receives from
the `k`-th entry that the server pops there. -/
theorem receiveCall_of_popped (h : (callTransfer registered beyond files).Reach FaultFree s)
    {entry e : RequestRingEntry} (hqueued : s.phase n = .queued call entry)
    (hreg : registered call.opcode) (hdvd : capacity.toNat ∣ 2 ^ 32) {m : ℕ → RequestRingEntry}
    {ring : Spsc RequestRingEntry} (hring : (spsc capacity m).Reach Machine.Always ring)
    (hpushed : ring.pushed[k]? = some entry) (hpopped : ring.popped[k]? = some e) :
    (receiveCall registered beyond s.files e).1 = some call.toServerCall := by
  obtain rfl : e = entry :=
    Option.some.inj ((Spsc.getElem?_pushed hdvd hring hpopped).symm.trans hpushed)
  obtain ⟨file, -, hvalid⟩ := CallTransfer.Inv.of_reach h
  have hcall := hvalid n
  rw [hqueued] at hcall
  obtain ⟨requestId, p, rfl, hcarried, hle⟩ := hcall
  exact hcarried.receiveCall hle hreg beyond requestId

/-- The same for the reply and the response ring: the future gets the answer of the handler. -/
theorem resolveCompletedRequest_of_popped
    (h : (callTransfer registered beyond files).Reach FaultFree s)
    {received : Option RpcServerCall} {answer : RpcReply} {entry e : ResponseRingEntry}
    (hwritten : s.phase n = .written call received answer entry)
    (hreg : registered call.opcode) (hdvd : capacity.toNat ∣ 2 ^ 32) {m : ℕ → ResponseRingEntry}
    {ring : Spsc ResponseRingEntry} (hring : (spsc capacity m).Reach Machine.Always ring)
    (hpushed : ring.pushed[k]? = some entry) (hpopped : ring.popped[k]? = some e) :
    (resolveCompletedRequest beyond s.files e).1 = some answer.delivered := by
  obtain rfl : e = entry :=
    Option.some.inj ((Spsc.getElem?_pushed hdvd hring hpopped).symm.trans hpushed)
  obtain ⟨file, -, hvalid⟩ := CallTransfer.Inv.of_reach h
  have hreply := hvalid n
  rw [hwritten] at hreply
  obtain ⟨-, request, reply, hsame, ⟨hlarge, -, rfl⟩ | ⟨hsize, p, rfl, hcarried, hle⟩⟩ := hreply
  · rw [resolveCompletedRequest_tooLarge, RpcReply.delivered, ← hsame hreg,
      if_neg (Nat.not_le.mpr hlarge)]
  · rw [(hcarried.resolveCompletedRequest hle beyond request).1, RpcReply.delivered, ← hsame hreg,
      if_pos hsize]

end

end MemRpc
