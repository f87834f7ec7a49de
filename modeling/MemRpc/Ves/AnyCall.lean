import MemRpc.Lib.Wire
import MemRpc.Rpc.CallFidelity

/-!
# The two ways to a handler

A handler of the virus executor is registered twice: with the `RpcServer`, which calls it for an
entry of a request ring, and for `AnyCall`, the command of the control socket that takes the
calls the rings are not used for. `VesControlProxy::AnyCall` sends a header with the opcode,
the priority, the timeout and the payload size in front of the payload. The stub decodes it, and
`VirusExecutorService::AnyCall` builds the `RpcServerCall`, but without the timeout.

Sockets and files do not fail. A name of a payload file that is used once is not used again.

## Main definitions

* `encodeAnyCallWire`, `decodeAnyCallRequest`: the two ends of the control socket.
* `VesService.anyCall`: the call that a handler gets from the service.
* `anyCallReceived`, `ringReceived`: what a handler receives on the two ways.
-/

namespace MemRpc

/-- `struct VesAnyCallRequest`. -/
structure VesAnyCallRequest where
  opcode : UInt16 := 0
  priority : UInt16 := Priority.normal.toUInt8.toUInt16
  timeoutMs : UInt32 := 0
  payload : List UInt8 := []
  deriving DecidableEq, Repr

/-- `EncodeAnyCallWire`: `AnyCallRequestHeader`, which has no padding, and the payload. -/
def encodeAnyCallWire (request : VesAnyCallRequest) : List UInt8 :=
  Wire.leBytes 2 request.opcode.toNat ++ Wire.leBytes 2 request.priority.toNat ++
    Wire.leBytes 4 request.timeoutMs.toNat ++ Wire.leBytes 4 request.payload.length ++
    request.payload

/-- `SendCommand`. -/
def sendCommand (cmd : UInt8) (payload : List UInt8) : List UInt8 := cmd :: Wire.frame payload

/-- What `AcceptLoop` of the service socket reads from a connection. -/
def acceptCommand : List UInt8 → Option (UInt8 × List UInt8)
  | [] => none
  | cmd :: stream => (Wire.unframe (2 ^ 32 - 1) stream).map (cmd, ·)

/-- `DecodeAnyCallRequest`. -/
def decodeAnyCallRequest (data : List UInt8) : Option VesAnyCallRequest :=
  if data.length < 12 then none
  else if data.length ≠ 12 + Wire.field 8 4 data then none
  else some {
    opcode := UInt16.ofNat (Wire.field 0 2 data)
    priority := UInt16.ofNat (Wire.field 2 2 data)
    timeoutMs := UInt32.ofNat (Wire.field 4 4 data)
    payload := Wire.slice 12 (Wire.field 8 4 data) data }

/-- The service: what `AnyCall` tests before it calls a handler, and what `EnsureInitialized`
of the session service returns. -/
structure VesService where
  stopping : Bool := false
  initialized : Bool := true
  sessionService : Bool := true
  ensureInitialized : StatusCode := .ok
  deriving DecidableEq, Repr

/-- `VirusExecutorService::AnyCall` and `InvokeAnyCallHandler`: the call that a registered
handler gets. -/
def VesService.anyCall (service : VesService) (registered : UInt16 → Bool)
    (request : VesAnyCallRequest) : Option RpcServerCall :=
  if service.stopping || !service.initialized || !service.sessionService then none
  else
    -- the cast keeps the lower byte, and the other fields keep their defaults
    let call : RpcServerCall :=
      { opcode := request.opcode
        priority := request.priority.toUInt8
        payload := request.payload }
    if service.ensureInitialized ≠ .ok then none
    else if registered call.opcode then some call else none

/-- `VesControlProxy::AnyCall`, the service socket and `HandleAnyCall` of the stub. -/
def anyCallReceived (service : VesService) (registered : UInt16 → Bool)
    (request : VesAnyCallRequest) : Option RpcServerCall := do
  let (cmd, data) ← acceptCommand (sendCommand 4 (encodeAnyCallWire request))
  if cmd ≠ 4 then none
  else service.anyCall registered (← decodeAnyCallRequest data)

/-- A call through a request ring: `PrepareRequestPayloadForTransport`, `BuildRequestEntry` and
`ProcessEntry`. -/
def ringReceived (registered : UInt16 → Bool) (beyond : ℕ → UInt8) (files : PayloadFiles)
    (stamp : FileStamp) (requestId : UInt64) (call : RpcCall) : Option RpcServerCall :=
  match prepareRequest files stamp call with
  | (none, _) => none
  | (some p, files) => (receiveCall registered beyond files (buildRequestEntry requestId call p)).1

/-- The same call for the control socket. -/
def RpcCall.toAnyCallRequest (call : RpcCall) : VesAnyCallRequest where
  opcode := call.opcode
  priority := call.priority.toUInt8.toUInt16
  timeoutMs := call.execTimeoutMs
  payload := call.payload

/-! ## The control socket -/

theorem length_encodeAnyCallWire (request : VesAnyCallRequest) :
    (encodeAnyCallWire request).length = 12 + request.payload.length := by
  simp [encodeAnyCallWire]
  omega

/-- A request is read as it was written. -/
theorem decodeAnyCallRequest_of_encode {request : VesAnyCallRequest} {data : List UInt8}
    (hsize : request.payload.length < 2 ^ 32) (h : encodeAnyCallWire request = data) :
    decodeAnyCallRequest data = some request := by
  have hdata : data = Wire.leBytes 2 request.opcode.toNat ++
      Wire.leBytes 2 request.priority.toNat ++ Wire.leBytes 4 request.timeoutMs.toNat ++
      Wire.leBytes 4 request.payload.length ++ request.payload := h.symm
  have hlength : data.length = 12 + request.payload.length := by
    rw [← h, length_encodeAnyCallWire]
  have hopcode : Wire.field 0 2 data = request.opcode.toNat :=
    Wire.field_of_eq_append (show data = [] ++ Wire.leBytes 2 _ ++
      (Wire.leBytes 2 request.priority.toNat ++ Wire.leBytes 4 request.timeoutMs.toNat ++
        Wire.leBytes 4 request.payload.length ++ request.payload) by simp [hdata]) rfl
      request.opcode.toNat_lt
  have hpriority : Wire.field 2 2 data = request.priority.toNat :=
    Wire.field_of_eq_append (show data = Wire.leBytes 2 request.opcode.toNat ++
      Wire.leBytes 2 _ ++ (Wire.leBytes 4 request.timeoutMs.toNat ++
        Wire.leBytes 4 request.payload.length ++ request.payload) by simp [hdata]) rfl
      request.priority.toNat_lt
  have htimeout : Wire.field 4 4 data = request.timeoutMs.toNat :=
    Wire.field_of_eq_append (show data = (Wire.leBytes 2 request.opcode.toNat ++
      Wire.leBytes 2 request.priority.toNat) ++ Wire.leBytes 4 _ ++
        (Wire.leBytes 4 request.payload.length ++ request.payload) by simp [hdata]) rfl
      request.timeoutMs.toNat_lt
  have hplen : Wire.field 8 4 data = request.payload.length :=
    Wire.field_of_eq_append hdata rfl hsize
  have hpayload : Wire.slice 12 request.payload.length data = request.payload :=
    Wire.slice_of_eq_append (hdata.trans (List.append_nil _).symm) rfl rfl
  unfold decodeAnyCallRequest
  rw [hplen, if_neg (by omega), if_neg (not_not.mpr hlength), hopcode, hpriority, htimeout,
    hpayload, UInt16.ofNat_toNat, UInt16.ofNat_toNat, UInt32.ofNat_toNat]

theorem acceptCommand_sendCommand {cmd : UInt8} {data : List UInt8} (h : data.length < 2 ^ 32) :
    acceptCommand (sendCommand cmd data) = some (cmd, data) := by
  rw [sendCommand, acceptCommand, Wire.unframe_frame h, if_neg (by omega)]
  rfl

/-- A service that serves `AnyCall`. -/
structure VesService.Serving (service : VesService) : Prop where
  stopping : service.stopping = false
  initialized : service.initialized = true
  sessionService : service.sessionService = true
  ensureInitialized : service.ensureInitialized = .ok

variable {service : VesService} {registered : UInt16 → Bool} {call : RpcCall}

/-- The handler receives the call of the control socket, without its timeout. -/
theorem anyCallReceived_eq (hservice : service.Serving) (hreg : registered call.opcode)
    (hsize : call.payload.length ≤ maxFilePayloadBytes) :
    anyCallReceived service registered call.toAnyCallRequest =
      some { call.toServerCall with execTimeoutMs := 0 } := by
  have hbytes : maxFilePayloadBytes = 134217728 := rfl
  have hwire : (encodeAnyCallWire call.toAnyCallRequest).length < 2 ^ 32 := by
    rw [length_encodeAnyCallWire]
    show 12 + call.payload.length < _
    omega
  have hdecode : decodeAnyCallRequest (encodeAnyCallWire call.toAnyCallRequest) =
      some call.toAnyCallRequest :=
    decodeAnyCallRequest_of_encode (show call.payload.length < _ by omega) rfl
  have hcall : service.anyCall registered call.toAnyCallRequest =
      some { call.toServerCall with execTimeoutMs := 0 } := by
    simp [VesService.anyCall, hservice.stopping, hservice.initialized, hservice.sessionService,
      hservice.ensureInitialized, RpcCall.toAnyCallRequest, RpcCall.toServerCall, hreg]
  simp [anyCallReceived, acceptCommand_sendCommand hwire, hdecode, hcall]

/-- The handler receives the call of a request ring. -/
theorem ringReceived_eq {files : PayloadFiles} {stamp : FileStamp} (beyond : ℕ → UInt8)
    (requestId : UInt64) (hreg : registered call.opcode)
    (hsize : call.payload.length ≤ maxFilePayloadBytes)
    (hunused : files (makeFilePayloadPath stamp) = none) :
    ringReceived registered beyond files stamp requestId call = some call.toServerCall := by
  have hlimit : min defaultMaxRequestBytes.toNat requestInlinePayloadBytes =
      requestInlinePayloadBytes := by decide
  obtain ⟨p, file, files', hp, hcarried, hle, -, -⟩ :=
    transported_prepare requestInlinePayloadBytes (by decide) hsize hunused
  simp only [ringReceived, prepareRequest, hlimit, hp]
  exact hcarried.receiveCall hle hreg beyond requestId

/-- A handler receives the call through a ring, and the same on both ways exactly if the call
has no timeout. -/
theorem anyCallReceived_eq_ringReceived {files : PayloadFiles} {stamp : FileStamp}
    (beyond : ℕ → UInt8) (requestId : UInt64) (hservice : service.Serving)
    (hreg : registered call.opcode) (hsize : call.payload.length ≤ maxFilePayloadBytes)
    (hunused : files (makeFilePayloadPath stamp) = none) :
    (anyCallReceived service registered call.toAnyCallRequest =
        ringReceived registered beyond files stamp requestId call ↔ call.execTimeoutMs = 0) ∧
      ringReceived registered beyond files stamp requestId call = some call.toServerCall := by
  rw [anyCallReceived_eq hservice hreg hsize, ringReceived_eq beyond requestId hreg hsize hunused]
  simp [RpcCall.toServerCall, eq_comm]

/-- A call with a high priority and a payload that is too long for a ring entry. -/
theorem anyCallReceived_eq_ringReceived_file :
    ∃ call : RpcCall, call.priority = .high ∧ requestInlinePayloadBytes < call.payload.length ∧
      anyCallReceived {} (fun _ => true) call.toAnyCallRequest =
        ringReceived (fun _ => true) (fun _ => 0) (fun _ => none) ⟨1, 0, 0⟩ 1 call ∧
      ringReceived (fun _ => true) (fun _ => 0) (fun _ => none) ⟨1, 0, 0⟩ 1 call =
        some call.toServerCall := by
  let call : RpcCall :=
    { opcode := 7, priority := .high, execTimeoutMs := 0, payload := List.replicate 9000 1 }
  have hlength : call.payload.length = 9000 := List.length_replicate
  have hsize : call.payload.length ≤ maxFilePayloadBytes := by rw [hlength]; decide
  refine ⟨call, rfl, by rw [hlength]; decide, ?_, ?_⟩
  · exact (anyCallReceived_eq_ringReceived _ _ ⟨rfl, rfl, rfl, rfl⟩ rfl hsize rfl).1.mpr rfl
  · exact ringReceived_eq _ _ rfl hsize rfl

/-- With a timeout of 250 milliseconds the handler that is called through the ring sees it, and
the one that is called through the control socket sees none. -/
theorem not_anyCallReceived_eq_of_timeout :
    anyCallReceived {} (fun _ => true)
        (RpcCall.toAnyCallRequest { opcode := 7, execTimeoutMs := 250, payload := [1] }) =
      some { opcode := 7, execTimeoutMs := 0, payload := [1] } ∧
    ringReceived (fun _ => true) (fun _ => 0) (fun _ => none) ⟨1, 0, 0⟩ 1
        { opcode := 7, execTimeoutMs := 250, payload := [1] } =
      some { opcode := 7, execTimeoutMs := 250, payload := [1] } := by
  refine ⟨?_, ?_⟩
  · exact anyCallReceived_eq ⟨rfl, rfl, rfl, rfl⟩ rfl (by decide)
  · exact ringReceived_eq _ _ rfl (by decide) rfl

end MemRpc
