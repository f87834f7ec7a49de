import MemRpc.Lib.Transfer
import MemRpc.Ves.Registry

/-!
# Registry messages over a stream in pieces

`SendMessage` and `RecvMessage` call by call. A call of `send` or `recv` may move any part of what
it is asked to. Only the four bytes of the length are sent with a single call, which has to take
all of them, and are received with `MSG_WAITALL`.

The loops do not care where the stream is cut (`sendMessage_of_pieces`, `recvMessage_of_pieces`),
so a message of at most 64 KiB arrives. The codecs take payloads of up to 65535 bytes, with which a
message is longer than that, and the receiver refuses it.

## Main definitions

* `RegistryWire.sendMessage`, `RegistryWire.recvMessage`.

## Main results

* `registry_roundTrip`.
-/

namespace MemRpc

open Transfer

namespace RegistryWire

/-- `SendMessage`: whether it succeeds, and the bytes on the stream. The calls of `send` do as
`answers` say. -/
def sendMessage (answers : List Answer) (message : List UInt8) : Bool × List UInt8 :=
  let header := moveOnce answers (Wire.leBytes 4 message.length)
  if header.moved.length ≠ 4 then (false, header.moved)
  else
    let body := moveAll false header.rest message
    (body.done, header.moved ++ body.moved)

/-- `RecvMessage`. At the end of the stream, `recv` returns zero. -/
def recvMessage (answers : List Answer) (stream : List UInt8) : Option (List UInt8) :=
  match Wire.recvAll 4 stream with
  | none => none
  | some (size, rest) =>
    let len := Wire.leNat size
    if 64 * 1024 < len then none
    else
      let body := moveAll false answers (rest.take len)
      if body.done ∧ body.moved.length = len then some body.moved else none

/-- Every call moves something. -/
def Flows (answers : List Answer) : Prop := ∀ answer ∈ answers, ¬ answer.Ends false

/-- The first call takes all four bytes of the length. -/
def SendsLength (answers : List Answer) : Prop :=
  ∀ answer ∈ answers.head?, ∃ n ≥ 4, answer = .moved n

variable {answers : List Answer}

theorem Flows.tail (h : Flows answers) : Flows answers.tail :=
  fun answer hmem => h answer (List.mem_of_mem_tail hmem)

/-- A call that takes four bytes sends the length. -/
theorem moveOnce_of_sendsLength (h : SendsLength answers)
    {header : List UInt8} (hheader : header.length = 4) :
    moveOnce answers header = ⟨true, header, answers.tail⟩ := by
  cases answers with
  | nil => rfl
  | cons answer answers =>
    obtain ⟨n, hn, rfl⟩ := h answer rfl
    rw [moveOnce, List.take_of_length_le (by omega), List.tail_cons]

/-- In pieces or at once, the same bytes are sent. -/
theorem sendMessage_of_pieces (hflows : Flows answers)
    (hlength : SendsLength answers) (message : List UInt8) :
    sendMessage answers message = (true, MemRpc.sendMessage message) := by
  have hheader : (Wire.leBytes 4 message.length).length = 4 := Wire.length_leBytes ..
  have hdone := done_of_forall hflows.tail message
  simp only [sendMessage, moveOnce_of_sendsLength hlength hheader, hheader, ne_eq,
    not_true_eq_false, if_false, hdone, moved_of_done hdone]
  rfl

/-- In pieces or at once, the same message is received. -/
theorem recvMessage_of_pieces (hflows : Flows answers)
    (stream : List UInt8) : recvMessage answers stream = MemRpc.recvMessage stream := by
  unfold recvMessage MemRpc.recvMessage Wire.unframe
  cases Wire.recvAll 4 stream with
  | none => rfl
  | some read =>
    obtain ⟨size, rest⟩ := read
    have hdone := done_of_forall hflows (rest.take (Wire.leNat size))
    simp only [hdone, moved_of_done hdone, Option.bind_eq_bind, Option.bind_some, true_and]
    split
    · rfl
    · -- the stream ends before the message exactly if less than `len` bytes are left
      unfold Wire.recvAll
      by_cases hrest : Wire.leNat size ≤ rest.length
      · rw [if_pos (List.length_take_of_le hrest), if_pos hrest]
        rfl
      · rw [if_neg (by rw [List.length_take]; omega), if_neg hrest]
        rfl

variable {sends recvs : List Answer} {message : List UInt8}

/-- A message within the limit is received as it was sent. -/
theorem recv_sendMessage (hsends : Flows sends)
    (hlength : SendsLength sends) (hrecvs : Flows recvs) (hfits : message.length ≤ 64 * 1024) :
    (sendMessage sends message).1 = true ∧
      recvMessage recvs (sendMessage sends message).2 = some message := by
  rw [sendMessage_of_pieces hsends hlength, recvMessage_of_pieces hrecvs,
    recvMessage_sendMessage (by omega), if_neg (by omega)]
  exact ⟨rfl, rfl⟩

/-- A longer message is sent and refused. -/
theorem recvMessage_of_lt (hsends : Flows sends)
    (hlength : SendsLength sends) (hrecvs : Flows recvs)
    (hlong : 64 * 1024 < message.length) (hword : message.length < 2 ^ 32) :
    (sendMessage sends message).1 = true ∧
      recvMessage recvs (sendMessage sends message).2 = none := by
  rw [sendMessage_of_pieces hsends hlength, recvMessage_of_pieces hrecvs,
    recvMessage_sendMessage hword, if_pos hlong]
  exact ⟨rfl, rfl⟩

/-- Where every call moves something, `SendMessage` fails only at the length. -/
theorem sendsLength_of_sent (hflows : Flows answers)
    (h : (sendMessage answers message).1 = true) : SendsLength answers := by
  cases answers with
  | nil => exact fun answer hmem => nomatch hmem
  | cons answer answers =>
    have hmoves := hflows answer List.mem_cons_self
    intro answer' hmem
    obtain rfl : answer = answer' := Option.some.inj hmem
    cases answer with
    | interrupted => exact absurd rfl hmoves
    | failed => exact absurd trivial hmoves
    | moved n =>
      refine ⟨n, ?_, rfl⟩
      by_contra hshort
      have hheader : (moveOnce (.moved n :: answers)
          (Wire.leBytes 4 message.length)).moved.length ≠ 4 := by
        rw [moveOnce, List.length_take, Wire.length_leBytes]
        omega
      rw [sendMessage, if_pos hheader] at h
      cases h

/-- A message that its codec decodes arrives exactly if it is not longer than 64 KiB and its
length is sent by one call. -/
theorem arrives_iff {α : Type} {decode : List UInt8 → Option α} {x : α}
    (hsends : Flows sends) (hrecvs : Flows recvs)
    (hword : message.length < 2 ^ 32) (hdecode : decode message = some x) :
    ((sendMessage sends message).1 = true ∧
        (recvMessage recvs (sendMessage sends message).2).bind decode = some x) ↔
      message.length ≤ 64 * 1024 ∧ SendsLength sends := by
  constructor
  · rintro ⟨hsent, hreceived⟩
    have hlength := sendsLength_of_sent hsends hsent
    refine ⟨?_, hlength⟩
    by_contra hlong
    rw [(recvMessage_of_lt hsends hlength hrecvs (not_le.mp hlong) hword).2] at hreceived
    cases hreceived
  · rintro ⟨hfits, hlength⟩
    obtain ⟨hsent, hreceived⟩ := recv_sendMessage hsends hlength hrecvs hfits
    rw [hreceived]
    exact ⟨hsent, hdecode⟩

/-- A payload that the codec accepts and `RecvMessage` does not. -/
theorem request_refused (hsends : Flows sends)
    (hlength : SendsLength sends) (hrecvs : Flows recvs) (req : RegistryRequest)
    (hlong : 65529 < req.payload.length) (hle : req.payload.length ≤ 0xFFFF) :
    ∃ message, encodeRegistryRequest req = some message ∧ (sendMessage sends message).1 = true ∧
      recvMessage recvs (sendMessage sends message).2 = none := by
  obtain ⟨message, hencode⟩ : ∃ message, encodeRegistryRequest req = some message :=
    ⟨_, if_neg (not_lt.mpr hle)⟩
  have hmessage := (length_of_encodeRegistryRequest hencode).2
  exact ⟨message, hencode, recvMessage_of_lt hsends hlength hrecvs (by omega) (by omega)⟩

theorem response_refused (hsends : Flows sends)
    (hlength : SendsLength sends) (hrecvs : Flows recvs) (resp : RegistryResponse)
    (hlong : 65530 < resp.payload.length) (hle : resp.payload.length ≤ 0xFFFF) :
    ∃ message, encodeRegistryResponse resp = some message ∧ (sendMessage sends message).1 = true ∧
      recvMessage recvs (sendMessage sends message).2 = none := by
  obtain ⟨message, hencode⟩ : ∃ message, encodeRegistryResponse resp = some message :=
    ⟨_, if_neg (not_lt.mpr hle)⟩
  have hmessage := (length_of_encodeRegistryResponse hencode).2
  exact ⟨message, hencode, recvMessage_of_lt hsends hlength hrecvs (by omega) (by omega)⟩

end RegistryWire

theorem RegistryOp.ofUInt8_toUInt8_ofUInt8 (value : UInt8) :
    RegistryOp.ofUInt8 (RegistryOp.ofUInt8 value).toUInt8 = .ofUInt8 value := by
  by_cases hregister : value = 1
  · rw [hregister]
    rfl
  by_cases hget : value = 2
  · rw [hget]
    rfl
  by_cases hload : value = 3
  · rw [hload]
    rfl
  by_cases hunload : value = 4
  · rw [hunload]
    rfl
  have hother : RegistryOp.ofUInt8 value = .other value := by
    simp only [RegistryOp.ofUInt8, hregister, hget, hload, hunload, if_false]
  rw [hother, RegistryOp.toUInt8, hother]

open RegistryWire

/-- However the stream is cut, a request or a response that its codec accepts arrives exactly if
its encoding is not longer than 64 KiB and the length is sent by one call. The operation of a
request is any byte. -/
theorem registry_roundTrip {sends recvs : List Answer} (hsends : Flows sends)
    (hrecvs : Flows recvs) :
    (∀ value saId payload message,
      encodeRegistryRequest ⟨.ofUInt8 value, saId, payload⟩ = some message →
      ((RegistryWire.sendMessage sends message).1 = true ∧
          (RegistryWire.recvMessage recvs (RegistryWire.sendMessage sends message).2).bind
            decodeRegistryRequest = some ⟨.ofUInt8 value, saId, payload⟩ ↔
        message.length ≤ 64 * 1024 ∧ SendsLength sends)) ∧
    ∀ resp message, encodeRegistryResponse resp = some message →
      ((RegistryWire.sendMessage sends message).1 = true ∧
          (RegistryWire.recvMessage recvs (RegistryWire.sendMessage sends message).2).bind
            decodeRegistryResponse = some resp ↔
        message.length ≤ 64 * 1024 ∧ SendsLength sends) := by
  constructor
  · intro value saId payload message hencode
    obtain ⟨hle, hmessage⟩ := length_of_encodeRegistryRequest hencode
    have hop := RegistryOp.ofUInt8_toUInt8_ofUInt8 value
    exact arrives_iff hsends hrecvs (by omega) (decode_of_encodeRegistryRequest hop hencode)
  · intro resp message hencode
    obtain ⟨hle, hmessage⟩ := length_of_encodeRegistryResponse hencode
    exact arrives_iff hsends hrecvs (by omega) (decode_of_encodeRegistryResponse hencode)

/-- A request in four pieces, and its response received byte by byte. -/
theorem registry_roundTrip_pieces :
    let sends := [Answer.moved 4, .moved 3, .moved 1, .moved 9]
    let recvs := List.replicate 12 (Answer.moved 1)
    (RegistryWire.recvMessage recvs (RegistryWire.sendMessage sends
        [1, 7, 0, 0, 0, 2, 0, 47, 97]).2).bind decodeRegistryRequest =
      some ⟨.register, 7, [47, 97]⟩ ∧
    (RegistryWire.recvMessage recvs (RegistryWire.sendMessage sends
        [0, 0, 0, 0, 2, 0, 47, 97]).2).bind decodeRegistryResponse = some ⟨0, [47, 97]⟩ := by
  intro sends recvs
  have hsends : Flows sends := by simp [Flows, sends, Answer.Ends]
  have hlength : SendsLength sends := by simp [SendsLength, sends]
  have hrecvs : Flows recvs := by simp [Flows, recvs, Answer.Ends]
  obtain ⟨hrequest, hresponse⟩ := registry_roundTrip hsends hrecvs
  exact ⟨((hrequest 1 7 [47, 97] _ (by decide)).mpr ⟨by decide, hlength⟩).2,
    ((hresponse ⟨0, [47, 97]⟩ _ (by decide)).mpr ⟨by decide, hlength⟩).2⟩

/-- The codecs accept a payload with which the message is too long for `RecvMessage`: a request of
65530 bytes, or a response of 65531, is sent at once and refused. -/
theorem not_registry_roundTrip :
    (∃ message, encodeRegistryRequest ⟨.register, 7, List.replicate 65530 47⟩ = some message ∧
      (RegistryWire.sendMessage [] message).1 = true ∧
      RegistryWire.recvMessage [] (RegistryWire.sendMessage [] message).2 = none) ∧
    ∃ message, encodeRegistryResponse ⟨0, List.replicate 65531 47⟩ = some message ∧
      (RegistryWire.sendMessage [] message).1 = true ∧
      RegistryWire.recvMessage [] (RegistryWire.sendMessage [] message).2 = none := by
  have hflows : Flows [] := fun _ hmem => (by cases hmem)
  have hsends : SendsLength [] := fun _ hmem => (by cases hmem)
  have hrequest : (List.replicate 65530 (47 : UInt8)).length = 65530 := List.length_replicate
  have hresponse : (List.replicate 65531 (47 : UInt8)).length = 65531 := List.length_replicate
  exact ⟨request_refused hflows hsends hflows _ (by rw [hrequest]; omega) (by rw [hrequest]; omega),
    response_refused hflows hsends hflows _ (by rw [hresponse]; omega) (by rw [hresponse]; omega)⟩

/-- A `send` that takes two bytes of the length ends `SendMessage`. -/
example : RegistryWire.sendMessage [.moved 2] [47] = (false, [1, 0]) := by decide

end MemRpc
