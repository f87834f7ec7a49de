import MemRpc.Ves.AnyCall

/-!
# The formats of `AnyCall`

A request on the control socket and its reply are a header and a payload, and the header declares
the size of the payload. Each end of the socket has a definition of the headers of its own, and
the fields are copied by `memcpy`.

A request is accepted exactly if it was encoded. For a reply this depends on the status word: it
has 32 bits, of which the conversion to `StatusCode` keeps eight. A reply whose status word is 256
is taken for `Ok`, and no reply is encoded so.

## Main definitions

* `encodeAnyCallReply`, `decodeAnyCallWire`: the reply at the stub and at the proxy.
* `ReadAsEncoded`: the proxy accepts exactly what the stub encodes.

## Main results

* `anyCallRequest_format`, `anyCallReply_format`.
-/

namespace MemRpc

/-! ## Requests -/

variable {data : List UInt8}

/-- What is accepted is the encoding of the request that is returned. -/
theorem encodeAnyCallWire_of_decode {request : VesAnyCallRequest}
    (h : decodeAnyCallRequest data = some request) :
    request.payload.length < 2 ^ 32 ∧ encodeAnyCallWire request = data := by
  unfold decodeAnyCallRequest at h
  split at h
  · cases h
  split at h
  · cases h
  rename_i hheader hsize
  have hlength : data.length = 12 + Wire.field 8 4 data := not_not.mp hsize
  cases h
  have hopcode : (UInt16.ofNat (Wire.field 0 2 data)).toNat = Wire.field 0 2 data :=
    UInt16.toNat_ofNat_of_lt' (Wire.field_lt 0 2 data)
  have hpriority : (UInt16.ofNat (Wire.field 2 2 data)).toNat = Wire.field 2 2 data :=
    UInt16.toNat_ofNat_of_lt' (Wire.field_lt 2 2 data)
  have htimeout : (UInt32.ofNat (Wire.field 4 4 data)).toNat = Wire.field 4 4 data :=
    UInt32.toNat_ofNat_of_lt' (Wire.field_lt 4 4 data)
  have hpayload : (Wire.slice 12 (Wire.field 8 4 data) data).length = Wire.field 8 4 data :=
    Wire.length_slice (by omega)
  refine ⟨?_, ?_⟩
  · rw [hpayload]
    exact Wire.field_lt 8 4 data
  · -- the five parts are slices of the data, one behind the other
    simp only [encodeAnyCallWire, hopcode, hpriority, htimeout, hpayload]
    rw [Wire.leBytes_field (by omega), Wire.leBytes_field (by omega),
      Wire.leBytes_field (by omega), Wire.leBytes_field (by omega), Wire.slice_append_slice,
      Wire.slice_append_slice, Wire.slice_append_slice, Wire.slice_append_slice]
    conv_rhs => rw [← Wire.slice_zero_length data, hlength]

/-- The stub decodes what the proxy encodes, and accepts nothing else. -/
theorem anyCallRequest_format :
    (∀ request : VesAnyCallRequest, request.payload.length < 2 ^ 32 →
      decodeAnyCallRequest (encodeAnyCallWire request) = some request) ∧
    ∀ data : List UInt8,
      ((decodeAnyCallRequest data).isSome ↔
        ∃ request : VesAnyCallRequest,
          request.payload.length < 2 ^ 32 ∧ encodeAnyCallWire request = data) ∧
      ∀ request, decodeAnyCallRequest data = some request → encodeAnyCallWire request = data := by
  refine ⟨fun request hsize => decodeAnyCallRequest_of_encode hsize rfl, fun data => ⟨?_, ?_⟩⟩
  · rw [Option.isSome_iff_exists]
    constructor
    · rintro ⟨request, hdecode⟩
      exact ⟨request, encodeAnyCallWire_of_decode hdecode⟩
    · rintro ⟨request, hsize, hencode⟩
      exact ⟨request, decodeAnyCallRequest_of_encode hsize hencode⟩
  · intro request hdecode
    exact (encodeAnyCallWire_of_decode hdecode).2

/-- A request with a payload of three bytes is read back, and the same bytes with one more are not
a request. -/
theorem anyCallRequest_format_scan :
    decodeAnyCallRequest
          (encodeAnyCallWire { opcode := 7, timeoutMs := 250, payload := [1, 2, 3] }) =
        some { opcode := 7, timeoutMs := 250, payload := [1, 2, 3] } ∧
      decodeAnyCallRequest
          (encodeAnyCallWire { opcode := 7, timeoutMs := 250, payload := [1, 2, 3] } ++ [0]) =
        none :=
  ⟨anyCallRequest_format.1 _ (by decide), by decide +kernel⟩

/-! ## Replies -/

/-- `struct VesAnyCallReply`. A value of type `StatusCode` is a byte, with or without a name. -/
structure VesAnyCallReply where
  status : UInt8 := 0
  payload : List UInt8 := []
  deriving DecidableEq, Repr

/-- The byte of a status with a name. -/
def StatusCode.toUInt8 (status : StatusCode) : UInt8 := status.toUInt32.toUInt8

/-- `EncodeAnyCallReply`: `AnyCallReplyHeader` and the payload. -/
def encodeAnyCallReply (reply : VesAnyCallReply) : List UInt8 :=
  Wire.leBytes 4 reply.status.toUInt32.toNat ++ Wire.leBytes 4 reply.payload.length ++
    reply.payload

/-- `replyHeader.status`. -/
def anyCallStatusWord (data : List UInt8) : UInt32 := UInt32.ofNat (Wire.field 0 4 data)

/-- `DecodeAnyCallWire`. -/
def decodeAnyCallWire (data : List UInt8) : Except StatusCode VesAnyCallReply :=
  if data.length < 8 then .error .protocolMismatch
  else if data.length ≠ 8 + Wire.field 4 4 data then .error .protocolMismatch
  else .ok {
    status := (anyCallStatusWord data).toUInt8
    payload := Wire.slice 8 (Wire.field 4 4 data) data }

/-- The status word of an encoded reply is a byte. -/
theorem anyCallStatusWord_encode (reply : VesAnyCallReply) :
    anyCallStatusWord (encodeAnyCallReply reply) = reply.status.toUInt32 := by
  have hfield : Wire.field 0 4 (encodeAnyCallReply reply) = reply.status.toUInt32.toNat :=
    Wire.field_of_eq_append (show encodeAnyCallReply reply = [] ++ Wire.leBytes 4 _ ++
      (Wire.leBytes 4 reply.payload.length ++ reply.payload) by simp [encodeAnyCallReply]) rfl
      reply.status.toUInt32.toNat_lt
  rw [anyCallStatusWord, hfield, UInt32.ofNat_toNat]

variable {reply : VesAnyCallReply}

/-- A reply is read as it was written. -/
theorem decodeAnyCallWire_of_encode (hsize : reply.payload.length < 2 ^ 32)
    (h : encodeAnyCallReply reply = data) :
    decodeAnyCallWire data = .ok reply := by
  have hdata : data = Wire.leBytes 4 reply.status.toUInt32.toNat ++
      Wire.leBytes 4 reply.payload.length ++ reply.payload := h.symm
  have hlength : data.length = 8 + reply.payload.length := by
    simp only [hdata, List.length_append, Wire.length_leBytes]
  have hstatus : anyCallStatusWord data = reply.status.toUInt32 := by
    rw [← h, anyCallStatusWord_encode]
  have hplen : Wire.field 4 4 data = reply.payload.length :=
    Wire.field_of_eq_append hdata rfl hsize
  have hpayload : Wire.slice 8 reply.payload.length data = reply.payload :=
    Wire.slice_of_eq_append (hdata.trans (List.append_nil _).symm) rfl rfl
  unfold decodeAnyCallWire
  rw [hplen, if_neg (by omega), if_neg (not_not.mpr hlength), hstatus, hpayload,
    UInt8.toUInt8_toUInt32]

/-- A status word of one byte comes back from the conversion to `StatusCode`. -/
theorem toUInt32_toUInt8_of_lt {word : UInt32} (h : word < 256) : word.toUInt8.toUInt32 = word := by
  apply UInt32.toNat_inj.mp
  rw [UInt8.toNat_toUInt32, UInt32.toNat_toUInt8]
  exact Nat.mod_eq_of_lt (UInt32.lt_iff_toNat_lt.mp h)

/-- What is accepted with a status word of one byte is the encoding of the reply that is
returned. -/
theorem encodeAnyCallReply_of_decode (hword : anyCallStatusWord data < 256)
    (h : decodeAnyCallWire data = .ok reply) :
    reply.payload.length < 2 ^ 32 ∧ encodeAnyCallReply reply = data := by
  unfold decodeAnyCallWire at h
  split at h
  · cases h
  split at h
  · cases h
  rename_i hheader hsize
  have hlength : data.length = 8 + Wire.field 4 4 data := not_not.mp hsize
  cases h
  have hstatus : (anyCallStatusWord data).toNat = Wire.field 0 4 data :=
    UInt32.toNat_ofNat_of_lt' (Wire.field_lt 0 4 data)
  have hpayload : (Wire.slice 8 (Wire.field 4 4 data) data).length = Wire.field 4 4 data :=
    Wire.length_slice (by omega)
  refine ⟨?_, ?_⟩
  · rw [hpayload]
    exact Wire.field_lt 4 4 data
  · simp only [encodeAnyCallReply, toUInt32_toUInt8_of_lt hword, hstatus, hpayload]
    rw [Wire.leBytes_field (by omega), Wire.leBytes_field (by omega), Wire.slice_append_slice,
      Wire.slice_append_slice]
    conv_rhs => rw [← Wire.slice_zero_length data, hlength]

/-- The status of an accepted reply is the lowest byte of its status word. -/
theorem status_of_decodeAnyCallWire (h : decodeAnyCallWire data = .ok reply) :
    reply.status = (anyCallStatusWord data).toUInt8 := by
  unfold decodeAnyCallWire at h
  split at h
  · cases h
  split at h
  · cases h
  cases h
  rfl

/-- A status word of one byte is converted to a status with a name exactly if it is the number of
that status. -/
theorem StatusCode.toUInt8_eq_iff {word : UInt32} (h : word < 256) (status : StatusCode) :
    word.toUInt8 = status.toUInt8 ↔ word = status.toUInt32 := by
  constructor
  · intro hbyte
    have hword := toUInt32_toUInt8_of_lt h
    rw [hbyte] at hword
    rw [← hword]
    cases status <;> rfl
  · intro hword
    rw [hword, StatusCode.toUInt8]

/-- The status word of an encoded reply is below 256. -/
theorem anyCallStatusWord_encode_lt (reply : VesAnyCallReply) :
    anyCallStatusWord (encodeAnyCallReply reply) < 256 := by
  rw [anyCallStatusWord_encode, UInt32.lt_iff_toNat_lt, UInt8.toNat_toUInt32]
  exact reply.status.toNat_lt

/-- The proxy takes a byte string for a reply exactly if the stub encodes that reply so, and it
returns a status with a name exactly if the status word is its number. -/
structure ReadAsEncoded (data : List UInt8) : Prop where
  accepts : (∃ reply, decodeAnyCallWire data = .ok reply) ↔
    ∃ reply : VesAnyCallReply, reply.payload.length < 2 ^ 32 ∧ encodeAnyCallReply reply = data
  encodes : ∀ reply, decodeAnyCallWire data = .ok reply → encodeAnyCallReply reply = data
  named : ∀ reply, decodeAnyCallWire data = .ok reply → ∀ status : StatusCode,
    reply.status = status.toUInt8 ↔ anyCallStatusWord data = status.toUInt32

theorem readAsEncoded_of_lt (hword : anyCallStatusWord data < 256) :
    ReadAsEncoded data where
  accepts := by
    constructor
    · rintro ⟨reply, hdecode⟩
      exact ⟨reply, encodeAnyCallReply_of_decode hword hdecode⟩
    · rintro ⟨reply, hsize, hencode⟩
      exact ⟨reply, decodeAnyCallWire_of_encode hsize hencode⟩
  encodes reply hdecode := (encodeAnyCallReply_of_decode hword hdecode).2
  named reply hdecode status := by
    rw [status_of_decodeAnyCallWire hdecode]
    exact StatusCode.toUInt8_eq_iff hword status

/-- What the proxy refuses is the encoding of no reply. -/
theorem readAsEncoded_of_refused (hrefused : ∀ reply, decodeAnyCallWire data ≠ .ok reply) :
    ReadAsEncoded data where
  accepts := by
    constructor
    · rintro ⟨reply, hdecode⟩
      exact absurd hdecode (hrefused reply)
    · rintro ⟨reply, hsize, hencode⟩
      exact ⟨reply, decodeAnyCallWire_of_encode hsize hencode⟩
  encodes reply hdecode := absurd hdecode (hrefused reply)
  named reply hdecode := absurd hdecode (hrefused reply)

/-- The proxy decodes what the stub encodes. It reads a byte string as it was encoded exactly if
the status word is a byte or the size check refuses the string before the conversion. -/
theorem anyCallReply_format (data : List UInt8) :
    (∀ reply : VesAnyCallReply, reply.payload.length < 2 ^ 32 →
      decodeAnyCallWire (encodeAnyCallReply reply) = .ok reply) ∧
    (ReadAsEncoded data ↔ anyCallStatusWord data < 256 ∨ data.length < 8 ∨
      data.length ≠ 8 + Wire.field 4 4 data) := by
  refine ⟨fun reply hsize => decodeAnyCallWire_of_encode hsize rfl, ?_, ?_⟩
  · intro hread
    by_contra hother
    simp only [not_or, ne_eq, not_not] at hother
    obtain ⟨hword, hheader, hsize⟩ := hother
    -- the string is accepted, so a reply is encoded so, and its word is a byte
    have hencode := hread.encodes _
      (show decodeAnyCallWire data = .ok _ by
        rw [decodeAnyCallWire, if_neg hheader, if_neg (not_not.mpr hsize)])
    have hlt := anyCallStatusWord_encode_lt ⟨(anyCallStatusWord data).toUInt8,
      Wire.slice 8 (Wire.field 4 4 data) data⟩
    rw [hencode] at hlt
    exact hword hlt
  · rintro (hword | hheader | hsize)
    · exact readAsEncoded_of_lt hword
    · refine readAsEncoded_of_refused fun reply => ?_
      rw [decodeAnyCallWire, if_pos hheader]
      nofun
    · refine readAsEncoded_of_refused fun reply => ?_
      rw [decodeAnyCallWire, if_pos hsize, ite_self]
      nofun

/-- A reply with the status `QueueFull` and two bytes is read as it was encoded. So is a string of
four bytes with the status word 256: it is too short for a reply. -/
theorem anyCallReply_format_queueFull :
    decodeAnyCallWire [1, 0, 0, 0, 2, 0, 0, 0, 5, 6] = .ok ⟨StatusCode.queueFull.toUInt8, [5, 6]⟩ ∧
      encodeAnyCallReply ⟨StatusCode.queueFull.toUInt8, [5, 6]⟩ =
        [1, 0, 0, 0, 2, 0, 0, 0, 5, 6] ∧ ReadAsEncoded [0, 1, 0, 0] := by
  have hdecode : decodeAnyCallWire [1, 0, 0, 0, 2, 0, 0, 0, 5, 6] =
      .ok ⟨StatusCode.queueFull.toUInt8, [5, 6]⟩ := by decide +kernel
  refine ⟨hdecode, ?_, ?_⟩
  · exact ((anyCallReply_format _).2.mpr (.inl (by decide +kernel))).encodes _ hdecode
  · exact (anyCallReply_format _).2.mpr (.inr (.inl (by decide)))

/-- A reply whose status word is 256 is accepted with the status `Ok`, and it is the encoding of
no reply. -/
theorem anyCallReply_not_encoded :
    decodeAnyCallWire [0, 1, 0, 0, 0, 0, 0, 0] = .ok ⟨StatusCode.ok.toUInt8, []⟩ ∧
      ∀ reply, encodeAnyCallReply reply ≠ [0, 1, 0, 0, 0, 0, 0, 0] := by
  refine ⟨by decide +kernel, fun reply hencode => ?_⟩
  have hlt := anyCallStatusWord_encode_lt reply
  rw [hencode] at hlt
  exact absurd hlt (by decide +kernel)

end MemRpc
