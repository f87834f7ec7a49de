import MemRpc.Core.CodecTraits
import MemRpc.Rpc.PayloadTransport

/-!
# The envelope as a message

The envelope of a file payload is written with a `ByteWriter` and read with a `ByteReader`, as the
other messages are. `FilePayload` reads it from memory that goes on behind the size it is given,
because the size is not to be trusted there. Up to that size the memory is a buffer, and on a buffer
that reader and the one of `ByteCodec` do the same.

## Main definitions

* `filePayloadEnvelope`: the codec.
* `Agrees`: a reader on memory and a reader on a buffer.

## Main results

* `decodeFilePayloadEnvelope_eq`, `encode_filePayloadEnvelope`: the envelope functions are those of
  the codec.
-/

namespace MemRpc

/-! ## Words and slices of memory -/

/-- A byte of a word, by shifting and by dividing. -/
theorem toUInt8_shiftRight (w shift : UInt32) (h : shift.toNat < 32) :
    (w >>> shift).toUInt8 = UInt8.ofNat (w.toNat / 2 ^ shift.toNat) := by
  apply UInt8.toNat_inj.mp
  rw [UInt32.toNat_toUInt8, UInt32.toNat_shiftRight, UInt8.toNat_ofNat', Nat.mod_eq_of_lt h,
    Nat.shiftRight_eq_div_pow]

theorem wordBytes_eq_leBytes (w : UInt32) : wordBytes w = Wire.leBytes 4 w.toNat := by
  have hlowest : w.toUInt8 = UInt8.ofNat w.toNat := rfl
  simp only [wordBytes, Wire.leBytes, Nat.div_div_eq_div_mul, hlowest]
  rw [toUInt8_shiftRight w 8 (by decide), toUInt8_shiftRight w 16 (by decide),
    toUInt8_shiftRight w 24 (by decide)]
  rfl

variable {bytes : ℕ → UInt8}

/-- The bytes at an offset, as long as the memory is known there. -/
theorem StartsWith.slice_eq {content : List UInt8}
    (h : StartsWith bytes content) {offset n : ℕ} (hle : offset + n ≤ content.length) :
    (List.range n).map (fun i => bytes (offset + i)) = Wire.slice offset n content := by
  apply List.ext_getElem?
  intro i
  by_cases hi : i < n
  · have hbyte := h (offset + i) (by omega)
    rw [Wire.slice, List.getElem?_take_of_lt hi, List.getElem?_drop, hbyte]
    simp [hi]
  · have hlength := Wire.length_slice hle
    rw [List.getElem?_eq_none (by simpa using hi), List.getElem?_eq_none (by omega)]

/-- The word at an offset is the number with the bytes there. -/
theorem wordAt_eq (bytes : ℕ → UInt8) (offset : ℕ) :
    wordAt bytes offset =
      UInt32.ofNat (Wire.leNat ((List.range 4).map fun i => bytes (offset + i))) := by
  apply wordAt_of_wordBytes
  intro i hi
  have hlt := Wire.leNat_lt ((List.range 4).map fun i => bytes (offset + i))
  have hbytes := Wire.leBytes_leNat ((List.range 4).map fun i => bytes (offset + i))
  rw [List.length_map, List.length_range] at hlt hbytes
  rw [wordBytes_eq_leBytes, UInt32.toNat_ofNat_of_lt' hlt, hbytes]
  simp [hi]

namespace Codec

/-! ## The two readers -/

/-- A reader on memory that starts with the bytes of a buffer, and a reader on the buffer, at the
same place. -/
structure Agrees (buffer : ByteBuffer) (p : MemRpc.ByteReader) (r : ByteReader) : Prop where
  at_rest : r.At buffer (buffer.bytes.drop r.offset)
  memory : StartsWith p.bytes buffer.bytes
  size : p.size = buffer.bytes.length
  offset : p.offset = r.offset

theorem agrees_start {buffer : ByteBuffer} (h : StartsWith bytes buffer.bytes) :
    Agrees buffer { bytes, size := buffer.bytes.length } (.ofBuffer buffer) :=
  ⟨ByteReader.at_ofBuffer buffer, h, rfl, rfl⟩

namespace Agrees

variable {buffer : ByteBuffer} {p : MemRpc.ByteReader} {r : ByteReader}

/-- Both readers refuse the bytes, or both return the same ones and agree behind them. -/
theorem readBytes (h : Agrees buffer p r) (n : UInt32) :
    (p.readBytes n.toNat = none ∧ r.readBytes n = (none, r)) ∨
      ∃ data p', p.readBytes n.toNat = some (data, p') ∧ p'.bytes = p.bytes ∧
        data = (List.range n.toNat).map (fun i => p.bytes (p.offset + i)) ∧
        r.readBytes n = (some data, r.advance n) ∧ Agrees buffer p' (r.advance n) := by
  have hsum := h.at_rest.offset_add_length
  have hsize := h.size
  have hoffset := h.offset
  by_cases hle : n.toNat ≤ (buffer.bytes.drop r.offset).length
  · right
    have hinside : ¬ p.offset + n.toNat > p.size := by omega
    have hadvanced := h.at_rest.advance hle
    have hdata := h.memory.slice_eq (show p.offset + n.toNat ≤ buffer.bytes.length by omega)
    refine ⟨_, _, if_neg hinside, rfl, rfl, ?_, ?_⟩
    · rw [ByteReader.readBytes, h.at_rest.access_of_le hle, hdata, hoffset]
    · refine ⟨⟨hadvanced.bytes, hadvanced.size, hadvanced.offset_le, rfl⟩, h.memory, h.size, ?_⟩
      have hlength := buffer.length_lt
      have hadd : (r.offset + n.toNat) % 2 ^ 64 = r.offset + n.toNat :=
        Nat.mod_eq_of_lt (by omega)
      exact (congrArg (· + n.toNat) hoffset).trans hadd.symm
  · left
    refine ⟨if_pos (by omega), ?_⟩
    rw [ByteReader.readBytes, h.at_rest.access_of_lt (not_le.mp hle)]

theorem readUint32 (h : Agrees buffer p r) :
    (p.readUint32 = none ∧ r.readUint32 = (none, r)) ∨
      ∃ value p', p.readUint32 = some (value, p') ∧
        r.readUint32 = (some value, r.advance 4) ∧ Agrees buffer p' (r.advance 4) := by
  rcases h.readBytes 4 with ⟨hp, hr⟩ | ⟨data, p', hp, hbytes, hdata, hr, hagrees⟩
  · left
    have hnone : p.readBytes 4 = none := hp
    refine ⟨?_, ?_⟩
    · rw [MemRpc.ByteReader.readUint32, hnone, Option.map_none]
    · rw [ByteReader.readUint32, hr]
      rfl
  · right
    have hsome : p.readBytes 4 = some (data, p') := hp
    refine ⟨wordAt p.bytes p.offset, p', ?_, ?_, hagrees⟩
    · rw [MemRpc.ByteReader.readUint32, hsome, Option.map_some]
    · rw [ByteReader.readUint32, hr, wordAt_eq, hdata]
      rfl

/-- What the reads of a string return. -/
theorem readString (h : Agrees buffer p r) : p.readString.1 = r.readString.1 := by
  rw [MemRpc.ByteReader.readString, ByteReader.readString, ByteReader.accessPrefixed]
  rcases h.readUint32 with ⟨hp, hr⟩ | ⟨size, p', hp, hr, hagrees⟩
  · rw [hp, hr]
  · rw [hp, hr]
    dsimp only
    rcases hagrees.readBytes size with ⟨hp', hr'⟩ | ⟨data, p'', hp', -, -, hr', -⟩
    · rw [hp']
      exact (congrArg Prod.fst hr').symm
    · rw [hp']
      exact (congrArg Prod.fst hr').symm

/-- A decoder that reads a word and goes on, in both models. -/
theorem bind_readUint32 {α : Type} (h : Agrees buffer p r)
    {after : UInt32 → MemRpc.ByteReader → Option α × List PayloadRead}
    {next : UInt32 → Decoder α}
    (hnext : ∀ value p', Agrees buffer p' (r.advance 4) →
      (after value p').1 = ((next value).run (r.advance 4)).map Prod.fst) :
    (match p.readUint32 with
      | none => (none, p.reads)
      | some (value, p') => after value p').1 =
      ((Decoder.ofRead ByteReader.readUint32 >>= next).run r).map Prod.fst := by
  rcases h.readUint32 with ⟨hp, hr⟩ | ⟨value, p', hp, hr, hagrees⟩
  · rw [hp, Decoder.run_bind_of_none hr]
    rfl
  · rw [hp, Decoder.run_bind_of_some hr]
    exact hnext value p' hagrees

/-- A decoder that ends with a string. -/
theorem bind_readString {α : Type} (h : Agrees buffer p r)
    {after : List UInt8 → MemRpc.ByteReader → Option α × List PayloadRead}
    {next : List UInt8 → Decoder α}
    (hnext : ∀ value p', ∀ r', (after value p').1 = ((next value).run r').map Prod.fst) :
    (match p.readString with
      | (none, p') => (none, p'.reads)
      | (some value, p') => after value p').1 =
      ((Decoder.ofRead ByteReader.readString >>= next).run r).map Prod.fst := by
  have hvalue := h.readString
  cases hp : p.readString with
  | mk value p' =>
    cases hr : r.readString with
    | mk value' r' =>
      rw [hp, hr] at hvalue
      obtain rfl : value = value' := hvalue
      cases value with
      | none =>
        rw [Decoder.run_bind_of_none hr]
        rfl
      | some value =>
        rw [Decoder.run_bind_of_some hr]
        exact hnext value p' r'

end Agrees

/-! ## The envelope -/

/-- `EncodeFilePayloadEnvelope` and `DecodeFilePayloadEnvelope` by their writes and reads. -/
def filePayloadEnvelope : CodecTraits FilePayloadRef where
  fields ref :=
    [.uint32 filePayloadEnvelopeMagic, .uint32 filePayloadEnvelopeVersion, .uint32 ref.size,
      .string ref.path]
  decoder := do
    let magic ← Decoder.ofRead ByteReader.readUint32
    if magic ≠ filePayloadEnvelopeMagic then failure
    else
      let version ← Decoder.ofRead ByteReader.readUint32
      if version ≠ filePayloadEnvelopeVersion then failure
      else
        let size ← Decoder.ofRead ByteReader.readUint32
        let path ← Decoder.ofRead ByteReader.readString
        if path.isEmpty then failure else return { path, size }

/-- The writer produces the envelope. -/
theorem encode_filePayloadEnvelope {ref : FilePayloadRef} (h : ref.path.length < 2 ^ 32) :
    filePayloadEnvelope.encode ref = some (encodeFilePayloadEnvelope ref) := by
  have hrange : ∀ op ∈ filePayloadEnvelope.fields ref, op.InRange := by
    simpa [filePayloadEnvelope, WriteOp.InRange] using h
  have hlength : (UInt32.ofNat ref.path.length).toNat = ref.path.length :=
    UInt32.toNat_ofNat_of_lt' h
  rw [CodecTraits.encode, ByteWriter.foldlM_write_eq hrange, Option.map_some]
  simp only [encodeFilePayloadEnvelope, wordBytes_eq_leBytes, hlength, filePayloadEnvelope,
    encodeAll, List.flatMap_cons, List.flatMap_nil, WriteOp.encoding, List.nil_append,
    List.append_nil, List.append_assoc]

/-- On memory that starts with the bytes of a buffer and with the size of the buffer, the envelope
is decoded as from the buffer. -/
theorem decodeFilePayloadEnvelope_eq {buffer : ByteBuffer} (h : StartsWith bytes buffer.bytes) :
    (decodeFilePayloadEnvelope bytes buffer.bytes.length).1 =
      filePayloadEnvelope.decode (.ofBuffer buffer) := by
  rw [decodeFilePayloadEnvelope, CodecTraits.decode, filePayloadEnvelope]
  refine (agrees_start h).bind_readUint32 fun magic p₁ h₁ => ?_
  split
  · rfl
  refine h₁.bind_readUint32 fun version p₂ h₂ => ?_
  split
  · rfl
  refine h₂.bind_readUint32 fun size p₃ h₃ => h₃.bind_readString fun path p₄ r₄ => ?_
  split <;> rfl

end Codec

end MemRpc
