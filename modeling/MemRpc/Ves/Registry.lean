import MemRpc.Lib.Wire

/-!
# The service registry

`RegistryClient` sends one request a connection to `RegistryServer` and reads one response. Both
are encoded with a two-byte payload length and travel behind a four-byte length that the
receiver limits to 64 KiB. The client returns the payload of the response, or the one-byte text
`"\x01"` if anything failed, so a service whose path is that text cannot be told from a
failure.

The sockets do not fail, and the calls are made one after another. The unload callback ends a
process and leaves the services alone.

## Main definitions

* `encodeRegistryRequest`, `decodeRegistryRequest` and the same for responses: the codecs.
* `Services.processRequest`, `Services.handleClient`: the server.
* `Services.sendRequest`, `Services.getServicePath`, `Services.registerService`,
  `Services.unloadService`: the client, with the services of the server as the state.
* `Services.calls`: a sequence of calls, with what each of them returned.
* `lastRegistered`: what a map would answer after the calls.
-/

namespace MemRpc

/-! ## The codecs -/

/-- `enum class RegistryOp`. Any byte can be cast to it. -/
inductive RegistryOp
  | register
  | get
  | load
  | unload
  | other (value : UInt8)
  deriving DecidableEq, Repr

/-- The value of an enumerator. -/
def RegistryOp.toUInt8 : RegistryOp → UInt8
  | .register => 1
  | .get => 2
  | .load => 3
  | .unload => 4
  | .other value => value

/-- `static_cast<RegistryOp>`. -/
def RegistryOp.ofUInt8 (value : UInt8) : RegistryOp :=
  if value = 1 then .register
  else if value = 2 then .get
  else if value = 3 then .load
  else if value = 4 then .unload
  else .other value

/-- `struct RegistryRequest`. -/
structure RegistryRequest where
  op : RegistryOp
  saId : Int32
  payload : List UInt8
  deriving DecidableEq, Repr

/-- `struct RegistryResponse`. -/
structure RegistryResponse where
  errCode : Int32 := 0
  payload : List UInt8 := []
  deriving DecidableEq, Repr

/-- `EncodeRegistryRequest`. -/
def encodeRegistryRequest (req : RegistryRequest) : Option (List UInt8) :=
  if 0xFFFF < req.payload.length then none
  else some (req.op.toUInt8 :: Wire.leBytes 4 req.saId.toUInt32.toNat ++
    Wire.leBytes 2 req.payload.length ++ req.payload)

/-- `DecodeRegistryRequest`. -/
def decodeRegistryRequest (data : List UInt8) : Option RegistryRequest :=
  if data.length < 7 then none
  else
    let plen := Wire.field 5 2 data
    if data.length < 7 + plen then none
    else some {
      op := .ofUInt8 (data.headD 0)
      saId := (UInt32.ofNat (Wire.field 1 4 data)).toInt32
      payload := Wire.slice 7 plen data }

/-- `EncodeRegistryResponse`. -/
def encodeRegistryResponse (resp : RegistryResponse) : Option (List UInt8) :=
  if 0xFFFF < resp.payload.length then none
  else some (Wire.leBytes 4 resp.errCode.toUInt32.toNat ++
    Wire.leBytes 2 resp.payload.length ++ resp.payload)

/-- `DecodeRegistryResponse`. -/
def decodeRegistryResponse (data : List UInt8) : Option RegistryResponse :=
  if data.length < 6 then none
  else
    let plen := Wire.field 4 2 data
    if data.length < 6 + plen then none
    else some {
      errCode := (UInt32.ofNat (Wire.field 0 4 data)).toInt32
      payload := Wire.slice 6 plen data }

/-- `SendMessage`: the bytes that are sent. -/
def sendMessage (message : List UInt8) : List UInt8 := Wire.frame message

/-- `RecvMessage`. -/
def recvMessage (stream : List UInt8) : Option (List UInt8) := Wire.unframe (64 * 1024) stream

/-! ## The server -/

/-- `services_`. -/
abbrev Services := Int32 → Option (List UInt8)

/-- What the server finds outside: the sockets that accept a connection, and `load_cb_`, which
may register services. -/
structure RegistryHooks where
  isReachableServiceSocket : List UInt8 → Bool
  loadCb : Option (Int32 → Services → Bool × Services)

namespace Services

variable (hooks : RegistryHooks)

/-- `PopulateServiceResponse`. -/
def populateServiceResponse (services : Services) (saId : Int32) : Option RegistryResponse :=
  (services saId).map fun servicePath => { errCode := 0, payload := servicePath }

/-- `TryLoadService`. -/
def tryLoadService (services : Services) (saId : Int32) : Bool × Services :=
  match hooks.loadCb with
  | none => (false, services)
  | some loadCb => loadCb saId services

/-- `HandleLoadRequest`. -/
def handleLoadRequest (services : Services) (saId : Int32) : RegistryResponse × Services :=
  let failed : RegistryResponse := { errCode := -1 }
  let (found, services) :=
    match services saId with
    | none => (false, services)
    | some servicePath =>
      if hooks.isReachableServiceSocket servicePath then (true, services)
      else (false, Function.update services saId none)
  let (found, services) := if found then (true, services) else tryLoadService hooks services saId
  if found then ((populateServiceResponse services saId).getD failed, services)
  else (failed, services)

/-- `ProcessRequest`. -/
def processRequest (services : Services) (req : RegistryRequest) : RegistryResponse × Services :=
  match req.op with
  | .register => ({}, Function.update services req.saId (some req.payload))
  | .get => ((populateServiceResponse services req.saId).getD { errCode := -1 }, services)
  | .load => handleLoadRequest hooks services req.saId
  | .unload => ({}, Function.update services req.saId none)
  | .other _ => ({}, services)

/-- `HandleClient`: what is sent back on the connection. -/
def handleClient (services : Services) (stream : List UInt8) : List UInt8 × Services :=
  match (recvMessage stream).bind decodeRegistryRequest with
  | none => ([], services)
  | some req =>
    let (resp, services) := processRequest hooks services req
    match encodeRegistryResponse resp with
    | none => ([], services)
    | some message => (sendMessage message, services)

/-! ## The client -/

/-- `REGISTRY_REQUEST_FAILED`. -/
def registryRequestFailed : List UInt8 := [1]

/-- `RecvRegistryResponseMessage` and `DecodeRegistryResponsePayload`. -/
def receivePayload (stream : List UInt8) : Option (List UInt8) := do
  let message ← recvMessage stream
  let resp ← decodeRegistryResponse message
  if resp.errCode ≠ 0 then none else some resp.payload

/-- `RegistryClient::SendRequest`. -/
def sendRequest (services : Services) (op : RegistryOp) (saId : Int32) (payload : List UInt8) :
    List UInt8 × Services :=
  match encodeRegistryRequest { op, saId, payload } with
  | none => (registryRequestFailed, services)
  | some message =>
    let (stream, services) := handleClient hooks services (sendMessage message)
    ((receivePayload stream).getD registryRequestFailed, services)

/-- `RegistryClient::GetServicePath`. -/
def getServicePath (services : Services) (saId : Int32) : List UInt8 × Services :=
  let (r, services) := sendRequest hooks services .get saId []
  (if r = registryRequestFailed then [] else r, services)

/-- `RegistryClient::UnloadService`. -/
def unloadService (services : Services) (saId : Int32) : Bool × Services :=
  let (r, services) := sendRequest hooks services .unload saId []
  (r ≠ registryRequestFailed, services)

/-- `RegistryClient::RegisterService`. -/
def registerService (services : Services) (saId : Int32) (serviceSocketPath : List UInt8) :
    Bool × Services :=
  let (r, services) := sendRequest hooks services .register saId serviceSocketPath
  (r ≠ registryRequestFailed, services)

end Services

/-- A call of the client. -/
inductive RegistryCall
  | register (saId : Int32) (path : List UInt8)
  | unload (saId : Int32)
  | get (saId : Int32)
  deriving DecidableEq, Repr

/-- What a call returned. -/
inductive RegistryResult
  | done (ok : Bool)
  | path (path : List UInt8)
  deriving DecidableEq, Repr

namespace Services

/-- One call of the client. -/
def call (hooks : RegistryHooks) (services : Services) :
    RegistryCall → RegistryResult × Services
  | .register saId path => (registerService hooks services saId path).map .done id
  | .unload saId => (unloadService hooks services saId).map .done id
  | .get saId => (getServicePath hooks services saId).map .path id

/-- The calls one after another, from a server without services: the log, the latest call
first, and the services. -/
def calls (hooks : RegistryHooks) :
    List RegistryCall → List (RegistryCall × RegistryResult) × Services :=
  List.foldl (fun acc c =>
    let (result, services) := call hooks acc.2 c
    ((c, result) :: acc.1, services)) ([], fun _ => none)

end Services

/-- The path of the last `RegisterService` for an id that returned true, unless a successful
`UnloadService` came after it. The latest call of the log is the first. -/
def lastRegistered (saId : Int32) : List (RegistryCall × RegistryResult) → Option (List UInt8)
  | [] => none
  | (.register id path, .done true) :: log =>
    if id = saId then some path else lastRegistered saId log
  | (.unload id, .done true) :: log => if id = saId then none else lastRegistered saId log
  | _ :: log => lastRegistered saId log

/-! ## What arrives -/

theorem toInt32_ofNat_toNat (x : Int32) : (UInt32.ofNat x.toUInt32.toNat).toInt32 = x := by
  rw [UInt32.ofNat_toNat]
  rfl

variable {message : List UInt8}

/-- A request adds seven bytes to its payload. -/
theorem length_of_encodeRegistryRequest {req : RegistryRequest}
    (h : encodeRegistryRequest req = some message) :
    req.payload.length ≤ 0xFFFF ∧ message.length = 7 + req.payload.length := by
  obtain ⟨hle, hmessage⟩ := Option.ite_none_left_eq_some.mp h |>.imp_right Option.some.inj
  refine ⟨not_lt.mp hle, ?_⟩
  simp [← hmessage]
  omega

variable {resp : RegistryResponse}

/-- A response adds six. -/
theorem length_of_encodeRegistryResponse (h : encodeRegistryResponse resp = some message) :
    resp.payload.length ≤ 0xFFFF ∧ message.length = 6 + resp.payload.length := by
  obtain ⟨hle, hmessage⟩ := Option.ite_none_left_eq_some.mp h |>.imp_right Option.some.inj
  refine ⟨not_lt.mp hle, ?_⟩
  simp [← hmessage]
  omega

/-- A request is read as it was written. -/
theorem decode_of_encodeRegistryRequest {req : RegistryRequest} {data : List UInt8}
    (hop : .ofUInt8 req.op.toUInt8 = req.op) (h : encodeRegistryRequest req = some data) :
    decodeRegistryRequest data = some req := by
  obtain ⟨hle, hlength⟩ := length_of_encodeRegistryRequest h
  obtain ⟨-, hdata⟩ := Option.ite_none_left_eq_some.mp h |>.imp_right Option.some.inj
  have hhead : data.headD 0 = req.op.toUInt8 := by simp [← hdata]
  have hsaId : Wire.field 1 4 data = req.saId.toUInt32.toNat :=
    Wire.field_of_eq_append (show data = [req.op.toUInt8] ++ Wire.leBytes 4 _ ++
      (Wire.leBytes 2 req.payload.length ++ req.payload) by simp [← hdata]) rfl
      (req.saId.toUInt32.toNat_lt.trans_le (by norm_num))
  have hplen : Wire.field 5 2 data = req.payload.length :=
    Wire.field_of_eq_append hdata.symm rfl (by norm_num; omega)
  have hpayload : Wire.slice 7 req.payload.length data = req.payload :=
    Wire.slice_of_eq_append (hdata.symm.trans (List.append_nil _).symm) rfl rfl
  unfold decodeRegistryRequest
  rw [if_neg (by omega)]
  simp only [hplen, hpayload, hsaId, hhead, hop, toInt32_ofNat_toNat]
  rw [if_neg (by omega)]

/-- A response is read as it was written. -/
theorem decode_of_encodeRegistryResponse {data : List UInt8}
    (h : encodeRegistryResponse resp = some data) : decodeRegistryResponse data = some resp := by
  obtain ⟨hle, hlength⟩ := length_of_encodeRegistryResponse h
  obtain ⟨-, hdata⟩ := Option.ite_none_left_eq_some.mp h |>.imp_right Option.some.inj
  have hcode : Wire.field 0 4 data = resp.errCode.toUInt32.toNat :=
    Wire.field_of_eq_append (show data = [] ++ Wire.leBytes 4 _ ++
      (Wire.leBytes 2 resp.payload.length ++ resp.payload) by simp [← hdata]) rfl
      (resp.errCode.toUInt32.toNat_lt.trans_le (by norm_num))
  have hplen : Wire.field 4 2 data = resp.payload.length :=
    Wire.field_of_eq_append hdata.symm rfl (by norm_num; omega)
  have hpayload : Wire.slice 6 resp.payload.length data = resp.payload :=
    Wire.slice_of_eq_append (hdata.symm.trans (List.append_nil _).symm) rfl rfl
  unfold decodeRegistryResponse
  rw [if_neg (by omega)]
  simp only [hplen, hpayload, hcode, toInt32_ofNat_toNat]
  rw [if_neg (by omega)]

/-- A message arrives unless it is longer than the limit of the receiver. -/
theorem recvMessage_sendMessage (h : message.length < 2 ^ 32) :
    recvMessage (sendMessage message) =
      if 64 * 1024 < message.length then none else some message :=
  Wire.unframe_frame h

namespace Services

variable {hooks : RegistryHooks} {services : Services}

/-- The client reads the payload of a response that fits into a message. -/
theorem receivePayload_of_encode (h : encodeRegistryResponse resp = some message)
    (hfits : message.length ≤ 64 * 1024) :
    receivePayload (sendMessage message) =
      if resp.errCode ≠ 0 then none else some resp.payload := by
  have hrecv : recvMessage (sendMessage message) = some message := by
    rw [recvMessage_sendMessage (by omega), if_neg (by omega)]
  simp only [receivePayload, hrecv, decode_of_encodeRegistryResponse h, Option.bind_eq_bind,
    Option.bind_some]

/-- A request that is too long for its codec or for the limit of the server changes nothing. -/
theorem sendRequest_of_lt (op : RegistryOp) (saId : Int32) {payload : List UInt8}
    (h : 65529 < payload.length) :
    sendRequest hooks services op saId payload = (registryRequestFailed, services) := by
  unfold sendRequest
  cases hreq : encodeRegistryRequest ⟨op, saId, payload⟩ with
  | none => rfl
  | some message =>
    obtain ⟨hle, hlength⟩ := length_of_encodeRegistryRequest hreq
    dsimp only at hle hlength
    have hrecv : recvMessage (sendMessage message) = none := by
      rw [recvMessage_sendMessage (by omega), if_pos (by omega)]
    have hclient : handleClient hooks services (sendMessage message) = ([], services) := by
      simp only [handleClient, hrecv, Option.bind_none]
    simp only [hclient]
    rfl

/-- The server receives every other request. If its response is short as well, the client
gets the payload. -/
theorem sendRequest_of_le {op : RegistryOp} {saId : Int32} {payload : List UInt8}
    {services' : Services} (hop : .ofUInt8 op.toUInt8 = op) (h : payload.length ≤ 65529)
    (hprocess : processRequest hooks services ⟨op, saId, payload⟩ = (resp, services'))
    (hfits : resp.payload.length ≤ 65529) :
    sendRequest hooks services op saId payload =
      (if resp.errCode ≠ 0 then registryRequestFailed else resp.payload, services') := by
  obtain ⟨message, hreq⟩ : ∃ message, encodeRegistryRequest ⟨op, saId, payload⟩ = some message :=
    ⟨_, if_neg (not_lt.mpr (h.trans (by norm_num)))⟩
  have hlength : message.length = 7 + payload.length := (length_of_encodeRegistryRequest hreq).2
  have hrecv : recvMessage (sendMessage message) = some message := by
    rw [recvMessage_sendMessage (by omega), if_neg (by omega)]
  obtain ⟨answer, hresp⟩ : ∃ answer, encodeRegistryResponse resp = some answer :=
    ⟨_, if_neg (not_lt.mpr (hfits.trans (by norm_num)))⟩
  have hanswer := (length_of_encodeRegistryResponse hresp).2
  have hclient : handleClient hooks services (sendMessage message) =
      (sendMessage answer, services') := by
    simp only [handleClient, hrecv, Option.bind_some,
      decode_of_encodeRegistryRequest hop hreq, hprocess, hresp]
  simp only [sendRequest, hreq, hclient, receivePayload_of_encode hresp (by omega)]
  split <;> rfl

/-- A path is registered unless it is too long for a request. -/
theorem registerService_eq (saId : Int32) (path : List UInt8) :
    registerService hooks services saId path =
      if path.length ≤ 65529 then (true, Function.update services saId (some path))
      else (false, services) := by
  unfold registerService
  by_cases h : path.length ≤ 65529
  · rw [sendRequest_of_le rfl h rfl (Nat.zero_le _), if_pos h]
    rfl
  · rw [sendRequest_of_lt _ _ (not_le.mp h), if_neg h]
    rfl

theorem unloadService_eq (saId : Int32) :
    unloadService hooks services saId = (true, Function.update services saId none) := by
  unfold unloadService
  rw [sendRequest_of_le rfl (Nat.zero_le _) rfl (Nat.zero_le _)]
  rfl

/-- The path of a service, except for the one that stands for a failure. -/
theorem getServicePath_eq {saId : Int32}
    (hfits : ∀ path ∈ services saId, path.length ≤ 65529) :
    getServicePath hooks services saId =
      (if services saId = some registryRequestFailed then [] else (services saId).getD [],
        services) := by
  unfold getServicePath
  cases hpath : services saId with
  | none =>
    have hprocess : processRequest hooks services ⟨.get, saId, []⟩ =
        ({ errCode := -1 }, services) := by
      simp [processRequest, populateServiceResponse, hpath]
    rw [sendRequest_of_le rfl (Nat.zero_le _) hprocess (Nat.zero_le _)]
    rfl
  | some path =>
    have hprocess : processRequest hooks services ⟨.get, saId, []⟩ =
        ({ errCode := 0, payload := path }, services) := by
      simp [processRequest, populateServiceResponse, hpath]
    rw [sendRequest_of_le rfl (Nat.zero_le _) hprocess (hfits path hpath)]
    simp

/-! ## Sequences of calls -/

/-- The services are those of the log, and each of them fits into a response. -/
structure Agrees (log : List (RegistryCall × RegistryResult)) (services : Services) : Prop where
  lookup : ∀ saId, services saId = lastRegistered saId log
  fits : ∀ saId, ∀ path ∈ services saId, path.length ≤ 65529

namespace Agrees

variable {log : List (RegistryCall × RegistryResult)}

/-- A call that sets one service, and is so understood by the log. -/
theorem update (H : Agrees log services) {id : Int32} {path : Option (List UInt8)}
    {entry : RegistryCall × RegistryResult} (hfits : ∀ p ∈ path, p.length ≤ 65529)
    (hentry : ∀ saId, lastRegistered saId (entry :: log) =
      if id = saId then path else lastRegistered saId log) :
    Agrees (entry :: log) (Function.update services id path) where
  lookup saId := by
    rw [hentry, Function.update_apply, H.lookup]
    simp only [eq_comm]
  fits saId p hp := by
    rw [Function.update_apply] at hp
    split at hp
    · exact hfits p hp
    · exact H.fits saId p hp

/-- A call that changes nothing. -/
theorem skip (H : Agrees log services) {entry : RegistryCall × RegistryResult}
    (hentry : ∀ saId, lastRegistered saId (entry :: log) = lastRegistered saId log) :
    Agrees (entry :: log) services where
  lookup saId := by rw [hentry, H.lookup]
  fits := H.fits

theorem call (H : Agrees log services) (c : RegistryCall) :
    Agrees ((c, (call hooks services c).1) :: log) (call hooks services c).2 := by
  cases c with
  | register id path =>
    simp only [Services.call, registerService_eq]
    by_cases h : path.length ≤ 65529
    · rw [if_pos h]
      exact H.update (by simpa using h) fun _ => rfl
    · rw [if_neg h]
      exact H.skip fun _ => rfl
  | unload id =>
    simp only [Services.call, unloadService_eq]
    exact H.update (by simp) fun _ => rfl
  | get id =>
    simp only [Services.call, getServicePath_eq (H.fits id)]
    exact H.skip fun _ => rfl

/-- The induction over the calls. -/
theorem of_calls (cs : List RegistryCall) : Agrees (calls hooks cs).1 (calls hooks cs).2 := by
  induction cs using List.reverseRecOn with
  | nil => exact ⟨fun _ => rfl, fun _ _ h => nomatch h⟩
  | append_singleton cs c ih =>
    simp only [calls, List.foldl_append, List.foldl_cons, List.foldl_nil]
    exact ih.call c

end Agrees

end Services

open Services

/-- After any sequence of calls, `GetServicePath` answers as a map would exactly if the last path
registered for the id is not the one-byte text `"\x01"`. -/
theorem getServicePath_eq_lastRegistered (hooks : RegistryHooks) (cs : List RegistryCall)
    (saId : Int32) :
    (getServicePath hooks (calls hooks cs).2 saId).1 =
        (lastRegistered saId (calls hooks cs).1).getD [] ↔
      lastRegistered saId (calls hooks cs).1 ≠ some registryRequestFailed := by
  have H := @Agrees.of_calls hooks cs
  rw [getServicePath_eq (H.fits saId), H.lookup saId]
  by_cases hfailed : lastRegistered saId (calls hooks cs).1 = some registryRequestFailed
  · simp [hfailed, registryRequestFailed]
  · simp [hfailed]

/-- A registry without callbacks. -/
def noHooks : RegistryHooks where
  isReachableServiceSocket _ := true
  loadCb := none

/-- A path is replaced, and another service is unloaded. -/
theorem getServicePath_eq_lastRegistered_replaced :
    (getServicePath noHooks (calls noHooks [.register 7 [47, 97], .register 8 [47],
      .register 7 [47, 98], .unload 8]).2 7).1 = [47, 98] := by
  rw [(getServicePath_eq_lastRegistered noHooks _ 7).mpr (by decide +kernel)]
  decide +kernel

/-- `RegisterService` returns true for the path `"\x01"`, and `GetServicePath` answers that
there is no such service. -/
theorem not_getServicePath_eq_of_sentinel :
    (calls noHooks [.register 7 [1]]).1 = [(.register 7 [1], .done true)] ∧
      lastRegistered 7 (calls noHooks [.register 7 [1]]).1 = some [1] ∧
      (getServicePath noHooks (calls noHooks [.register 7 [1]]).2 7).1 = [] := by
  decide +kernel

end MemRpc
