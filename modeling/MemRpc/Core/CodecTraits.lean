import MemRpc.Core.ByteCodec

/-!
# Codecs of messages

A message is encoded field by field with a `ByteWriter` and decoded with a `ByteReader` in the same
order, up to the first read that fails.

## Main definitions

* `Decoder`: reads in sequence.
* `CodecTraits`: the codec of a message type, with `CodecTraits.RoundTrips`.

## Main results

* `CodecTraits.roundTrips_of_matches`: it suffices to compare the reads with the fields.
-/

namespace MemRpc.Codec

/-! ## Reads in sequence -/

/-- Reads one after the other, up to the first that fails. -/
abbrev Decoder := StateT ByteReader Option

namespace Decoder

variable {α β : Type}

/-- A single read. -/
def ofRead (read : ByteReader → Option α × ByteReader) : Decoder α :=
  fun r => (read r).1.map (·, (read r).2)

/-- The decoder turns `bytes` into `value`, whatever bytes follow, and stops behind them. -/
def Decodes (decoder : Decoder α) (bytes : List UInt8) (value : α) : Prop :=
  ∀ ⦃r : ByteReader⦄ ⦃buffer : ByteBuffer⦄ ⦃rest : List UInt8⦄, r.At buffer (bytes ++ rest) →
    ∃ r', decoder.run r = some (value, r') ∧ r'.At buffer rest

theorem decodes_pure (value : α) : (pure value : Decoder α).Decodes [] value :=
  fun r _ _ h => ⟨r, rfl, h⟩

theorem Decodes.bind {decoder : Decoder α} {next : α → Decoder β} {bytes bytes' : List UInt8}
    {value : α} {value' : β} (h : decoder.Decodes bytes value)
    (h' : (next value).Decodes bytes' value') :
    (decoder >>= next).Decodes (bytes ++ bytes') value' := by
  intro r buffer rest hat
  rw [List.append_assoc] at hat
  obtain ⟨r₁, hrun, hat₁⟩ := h hat
  obtain ⟨r₂, hrun', hat₂⟩ := h' hat₁
  refine ⟨r₂, ?_, hat₂⟩
  rw [StateT.run_bind, hrun]
  exact hrun'

/-- A message is put together from the last value that is read. -/
theorem Decodes.bind_pure {decoder : Decoder α} {bytes : List UInt8} {value : α}
    (h : decoder.Decodes bytes value) (make : α → β) :
    (decoder >>= fun value => pure (make value)).Decodes bytes (make value) := by
  have hbind : (decoder >>= fun value => pure (make value)).Decodes (bytes ++ []) (make value) :=
    h.bind (decodes_pure (make value))
  rwa [List.append_nil] at hbind

theorem run_ofRead {read : ByteReader → Option α × ByteReader} {r r' : ByteReader} {value : α}
    (h : read r = (some value, r')) : (ofRead read).run r = some (value, r') := by
  show (read r).1.map (·, (read r).2) = _
  rw [h]
  rfl

theorem run_bind_of_some {read : ByteReader → Option α × ByteReader} {r r' : ByteReader}
    {value : α} (h : read r = (some value, r')) (next : α → Decoder β) :
    (ofRead read >>= next).run r = (next value).run r' := by
  rw [StateT.run_bind, run_ofRead h]
  rfl

/-- The first read that fails ends the decoding. -/
theorem run_bind_of_none {read : ByteReader → Option α × ByteReader} {r r' : ByteReader}
    (h : read r = (none, r')) (next : α → Decoder β) : (ofRead read >>= next).run r = none := by
  have hread : (ofRead read).run r = none := by
    show (read r).1.map (·, (read r).2) = none
    rw [h]
    rfl
  rw [StateT.run_bind, hread]
  rfl

theorem decodes_uint32 (value : UInt32) :
    (ofRead ByteReader.readUint32).Decodes (WriteOp.encoding (.uint32 value)) value := by
  intro r buffer rest hat
  obtain ⟨hread, hbehind⟩ := ByteReader.At.readUint32_append hat
  exact ⟨_, run_ofRead hread, hbehind⟩

theorem decodes_int32 (value : Int32) :
    (ofRead ByteReader.readInt32).Decodes (WriteOp.encoding (.int32 value)) value := by
  intro r buffer rest hat
  obtain ⟨hread, hbehind⟩ := ByteReader.At.readInt32_append hat
  exact ⟨_, run_ofRead hread, hbehind⟩

theorem decodes_string {value : List UInt8} (h : value.length < 2 ^ 32) :
    (ofRead ByteReader.readString).Decodes (WriteOp.encoding (.string value)) value := by
  intro r buffer rest hat
  obtain ⟨r', hread, hbehind⟩ := ByteReader.At.readString_append h hat
  exact ⟨r', run_ofRead hread, hbehind⟩

end Decoder

/-! ## The codecs -/

/-- `CodecTraits`: the operations of `Encode` on the writer, and the reads of `Decode`. -/
structure CodecTraits (α : Type) where
  fields : α → List WriteOp
  decoder : Decoder α

namespace CodecTraits

open Decoder

variable {α : Type} (codec : CodecTraits α)

/-- `Encode`, with `AssignBytes`. -/
def encode (value : α) : Option (List UInt8) :=
  ((codec.fields value).foldlM ByteWriter.write {}).map (·.bytes)

/-- `Decode`. -/
def decode (reader : ByteReader) : Option α := (codec.decoder.run reader).map Prod.fst

/-- A message with one number. -/
def ofInt32 (get : α → Int32) (make : Int32 → α) : CodecTraits α where
  fields message := [.int32 (get message)]
  decoder := do return make (← ofRead ByteReader.readInt32)

/-- A message with one string. -/
def ofString (get : α → List UInt8) (make : List UInt8 → α) : CodecTraits α where
  fields message := [.string (get message)]
  decoder := do return make (← ofRead ByteReader.readString)

/-! ## Round trips -/

/-- A value is encoded, and decoded again from the encoding and from every vector that begins with
it. -/
def RoundTrips (valid : α → Prop) : Prop :=
  ∀ value, valid value → ∃ bytes, codec.encode value = some bytes ∧
    ∀ (emptyIsNull : Bool) (buffer : ByteBuffer) (rest : List UInt8),
      buffer.bytes = bytes ++ rest → codec.decode (.ofVector emptyIsNull buffer) = some value

/-- The fields of a value can be written, there is at least one, and the decoder reads them. -/
structure Matches (value : α) : Prop where
  inRange : ∀ op ∈ codec.fields value, op.InRange
  nonempty : codec.fields value ≠ []
  decodes : codec.decoder.Decodes (encodeAll (codec.fields value)) value

variable {codec}

theorem roundTrips_of_matches {valid : α → Prop}
    (h : ∀ value, valid value → codec.Matches value) : codec.RoundTrips valid := by
  intro value hvalid
  obtain ⟨hrange, hnonempty, hdecodes⟩ := h value hvalid
  refine ⟨encodeAll (codec.fields value), ?_, fun emptyIsNull buffer rest hbytes => ?_⟩
  · rw [encode, ByteWriter.foldlM_write_eq hrange]
    rfl
  · have hbuffer : buffer.bytes ≠ [] := by
      rw [hbytes]
      exact List.append_ne_nil_of_left_ne_nil (encodeAll_ne_nil hnonempty hrange) rest
    have hat := ByteReader.at_ofBuffer buffer
    rw [hbytes] at hat
    obtain ⟨r', hrun, -⟩ := hdecodes hat
    rw [decode, ByteReader.ofVector_eq hbuffer, hrun]
    rfl

theorem matches_ofInt32 {get : α → Int32} {make : Int32 → α}
    (h : ∀ value, make (get value) = value) (value : α) : (ofInt32 get make).Matches value where
  inRange := by simp [ofInt32, WriteOp.InRange]
  nonempty := List.cons_ne_nil _ _
  decodes := by
    have hdecodes := (decodes_int32 (get value)).bind_pure make
    rwa [h, ← encodeAll_singleton] at hdecodes

theorem matches_ofString {get : α → List UInt8} {make : List UInt8 → α}
    (h : ∀ value, make (get value) = value) {value : α} (hlength : (get value).length < 2 ^ 32) :
    (ofString get make).Matches value where
  inRange := by simpa [ofString, WriteOp.InRange] using hlength
  nonempty := List.cons_ne_nil _ _
  decodes := by
    have hdecodes := (decodes_string hlength).bind_pure make
    rwa [h, ← encodeAll_singleton] at hdecodes

end CodecTraits

end MemRpc.Codec
