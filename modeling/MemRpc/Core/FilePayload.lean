import MemRpc.Core.Protocol

/-!
# The file payload envelope and what decoding it reads

`ByteReader` and the envelope functions of `file_payload.cpp`, over the memory that
starts at the payload of a ring entry. Memory goes on behind the payload array, and the
reader believes the size that it is given, so each function also returns the reads it
made. `ReadBytes` checks every read against that size and nothing else.

The four words of the envelope end at byte 16, inside every payload array. The path
behind them is as long as the peer says: `decode_inside_iff` gives exactly the inputs on
which it leaves an array of a given length.
-/

namespace MemRpc

/-- `FILE_PAYLOAD_ENVELOPE_MAGIC`. -/
def filePayloadEnvelopeMagic : UInt32 := 0x56465031

/-- `FILE_PAYLOAD_ENVELOPE_VERSION`. -/
def filePayloadEnvelopeVersion : UInt32 := 1

/-- A read of `length` bytes from `start`. -/
structure PayloadRead where
  start : ℕ
  length : ℕ
  deriving DecidableEq, Repr

def PayloadRead.stop (r : PayloadRead) : ℕ := r.start + r.length

/-- All reads end at or before `bound`. -/
def Inside (bound : ℕ) (reads : List PayloadRead) : Prop := ∀ r ∈ reads, r.stop ≤ bound

@[simp] theorem inside_nil (bound : ℕ) : Inside bound [] := by simp [Inside]

@[simp] theorem inside_cons (bound : ℕ) (r : PayloadRead) (rs : List PayloadRead) :
    Inside bound (r :: rs) ↔ r.stop ≤ bound ∧ Inside bound rs := by
  simp [Inside]

/-- The little-endian word at an offset. -/
def wordAt (bytes : ℕ → UInt8) (offset : ℕ) : UInt32 :=
  (bytes offset).toUInt32 ||| (bytes (offset + 1)).toUInt32 <<< 8 |||
    (bytes (offset + 2)).toUInt32 <<< 16 ||| (bytes (offset + 3)).toUInt32 <<< 24

theorem wordAt_congr {bytes bytes' : ℕ → UInt8} {offset : ℕ}
    (h : ∀ i < offset + 4, bytes i = bytes' i) : wordAt bytes offset = wordAt bytes' offset := by
  rw [wordAt, wordAt, h offset (by omega), h (offset + 1) (by omega), h (offset + 2) (by omega),
    h (offset + 3) (by omega)]

/-! ## ByteReader -/

/-- `class ByteReader`, with the reads it has made. -/
structure ByteReader where
  bytes : ℕ → UInt8
  size : ℕ
  offset : ℕ := 0
  reads : List PayloadRead := []

namespace ByteReader

/-- `ReadBytes`. A `uint32_t` length cannot overflow the `size_t` offset. -/
def readBytes (r : ByteReader) (n : ℕ) : Option (List UInt8 × ByteReader) :=
  if r.offset + n > r.size then none
  else
    some ((List.range n).map fun i => r.bytes (r.offset + i),
      { r with offset := r.offset + n, reads := r.reads ++ [⟨r.offset, n⟩] })

/-- `ReadUint32`. -/
def readUint32 (r : ByteReader) : Option (UInt32 × ByteReader) :=
  (r.readBytes 4).map fun (_, r') => (wordAt r.bytes r.offset, r')

/-- `ReadString`: a length and as many bytes. The length has been read when the bytes are
missing. -/
def readString (r : ByteReader) : Option (List UInt8) × ByteReader :=
  match r.readUint32 with
  | none => (none, r)
  | some (n, r') =>
    match r'.readBytes n.toNat with
    | none => (none, r')
    | some (value, r'') => (some value, r'')

end ByteReader

/-! ## The envelope -/

/-- `struct FilePayloadRef`. -/
structure FilePayloadRef where
  path : List UInt8
  size : UInt32
  deriving DecidableEq, Repr

/-- `DecodeFilePayloadEnvelope`. -/
def decodeFilePayloadEnvelope (bytes : ℕ → UInt8) (size : ℕ) :
    Option FilePayloadRef × List PayloadRead :=
  let r : ByteReader := { bytes, size }
  match r.readUint32 with
  | none => (none, r.reads)
  | some (magic, r) =>
    if magic ≠ filePayloadEnvelopeMagic then (none, r.reads)
    else
      match r.readUint32 with
      | none => (none, r.reads)
      | some (version, r) =>
        if version ≠ filePayloadEnvelopeVersion then (none, r.reads)
        else
          match r.readUint32 with
          | none => (none, r.reads)
          | some (payloadSize, r) =>
            match r.readString with
            | (none, r) => (none, r.reads)
            | (some path, r) =>
              (if path.isEmpty then none else some ⟨path, payloadSize⟩, r.reads)

/-- The envelope is accepted up to a path that ends behind `bound` and before `size`. -/
def EnvelopeBeyond (bound : ℕ) (bytes : ℕ → UInt8) (size : ℕ) : Prop :=
  wordAt bytes 0 = filePayloadEnvelopeMagic ∧ wordAt bytes 4 = filePayloadEnvelopeVersion ∧
    bound < 16 + (wordAt bytes 12).toNat ∧ 16 + (wordAt bytes 12).toNat ≤ size

instance (bound : ℕ) (bytes : ℕ → UInt8) (size : ℕ) :
    Decidable (EnvelopeBeyond bound bytes size) :=
  inferInstanceAs (Decidable (_ ∧ _ ∧ _ ∧ _))

/-- Only the four words of the envelope matter. -/
theorem envelopeBeyond_congr {bound size : ℕ} {bytes bytes' : ℕ → UInt8}
    (h : ∀ i < 16, bytes i = bytes' i) :
    EnvelopeBeyond bound bytes size ↔ EnvelopeBeyond bound bytes' size := by
  have hword : ∀ offset, offset + 4 ≤ 16 → wordAt bytes offset = wordAt bytes' offset := by
    intro offset hle
    apply wordAt_congr
    intro i hi
    exact h i (by omega)
  rw [EnvelopeBeyond, EnvelopeBeyond, hword 0 (by omega), hword 4 (by omega), hword 12 (by omega)]

namespace ByteReader

/-- The next word is missing. -/
theorem readUint32_of_lt {r : ByteReader} (h : r.size < r.offset + 4) : r.readUint32 = none := by
  simp [readUint32, readBytes, h]

/-- The next word is there. -/
theorem readUint32_of_le {r : ByteReader} (h : r.offset + 4 ≤ r.size) :
    r.readUint32 = some (wordAt r.bytes r.offset,
      { r with offset := r.offset + 4, reads := r.reads ++ [⟨r.offset, 4⟩] }) := by
  simp [readUint32, readBytes, Nat.not_lt.mpr h]

end ByteReader

/-- Decoding leaves an array that holds the four words exactly on `EnvelopeBeyond`. -/
theorem decode_inside_iff {bound : ℕ} (hbound : 16 ≤ bound) (bytes : ℕ → UInt8) (size : ℕ) :
    Inside bound (decodeFilePayloadEnvelope bytes size).2 ↔ ¬ EnvelopeBeyond bound bytes size := by
  have hshort : size < 16 + (wordAt bytes 12).toNat → ¬ EnvelopeBeyond bound bytes size := by
    intro hlt h
    have hfits := h.2.2.2
    omega
  rw [decodeFilePayloadEnvelope]
  -- one case per check of the decoder, in its order
  by_cases h4 : size < 4
  · have hnot := hshort (by omega)
    simp [ByteReader.readUint32_of_lt, h4, hnot]
  rw [ByteReader.readUint32_of_le (by simpa using h4)]
  by_cases hmagic : wordAt bytes 0 = filePayloadEnvelopeMagic
  swap
  · have hnot : ¬ EnvelopeBeyond bound bytes size := fun h => hmagic h.1
    simp [hmagic, hnot, PayloadRead.stop]
    omega
  simp only [hmagic, ne_eq, not_true_eq_false, if_false]
  by_cases h8 : size < 8
  · have hnot := hshort (by omega)
    simp [ByteReader.readUint32_of_lt, h8, hnot, PayloadRead.stop]
    omega
  rw [ByteReader.readUint32_of_le (by simpa using h8)]
  by_cases hversion : wordAt bytes 4 = filePayloadEnvelopeVersion
  swap
  · have hnot : ¬ EnvelopeBeyond bound bytes size := fun h => hversion h.2.1
    simp [hversion, hnot, PayloadRead.stop]
    omega
  simp only [zero_add, hversion, not_true_eq_false, if_false]
  by_cases h12 : size < 12
  · have hnot := hshort (by omega)
    simp [ByteReader.readUint32_of_lt, h12, hnot, PayloadRead.stop]
    omega
  rw [ByteReader.readUint32_of_le (by simpa using h12)]
  simp only [ByteReader.readString]
  by_cases h16 : size < 16
  · have hnot := hshort (by omega)
    simp [ByteReader.readUint32_of_lt, h16, hnot, PayloadRead.stop]
    omega
  rw [ByteReader.readUint32_of_le (by simpa using h16)]
  by_cases hpath : size < 16 + (wordAt bytes 12).toNat
  · have hnot := hshort hpath
    simp [ByteReader.readBytes, hpath, hnot, PayloadRead.stop]
    omega
  · simp [ByteReader.readBytes, hpath, EnvelopeBeyond, hmagic, hversion, PayloadRead.stop]
    omega

/-! ## The two uses of an envelope -/

/-- `RemoveFilePayloadFromTransport`; `removed` answers `RemoveFilePayload`. -/
def removeFilePayloadFromTransport (removed : FilePayloadRef → Bool) (bytes : ℕ → UInt8)
    (size : ℕ) (payloadKind : UInt8) : Bool × List PayloadRead :=
  if payloadKind = payloadKindInline then (true, [])
  else if payloadKind ≠ payloadKindFileRef then (false, [])
  else
    let decoded := decodeFilePayloadEnvelope bytes size
    (decoded.1.any removed, decoded.2)

/-- `ResolveFilePayloadFromTransport`; `files` answers `ReadAndRemoveFilePayload`. -/
def resolveFilePayloadFromTransport (files : FilePayloadRef → Option (List UInt8))
    (bytes : ℕ → UInt8) (size : ℕ) (payloadKind : UInt8) :
    Option (List UInt8) × List PayloadRead :=
  if payloadKind = payloadKindInline then
    if size = 0 then (some [], [])
    else (some ((List.range size).map bytes), [⟨0, size⟩])
  else if payloadKind ≠ payloadKindFileRef then (none, [])
  else
    let decoded := decodeFilePayloadEnvelope bytes size
    (decoded.1.bind files, decoded.2)

theorem remove_inside_iff {bound : ℕ} (hbound : 16 ≤ bound) (removed : FilePayloadRef → Bool)
    (bytes : ℕ → UInt8) (size : ℕ) (payloadKind : UInt8) :
    Inside bound (removeFilePayloadFromTransport removed bytes size payloadKind).2 ↔
      ¬ (payloadKind = payloadKindFileRef ∧ EnvelopeBeyond bound bytes size) := by
  have hkinds : payloadKindInline ≠ payloadKindFileRef := by decide
  rw [removeFilePayloadFromTransport]
  split
  · rename_i hinline
    simp [hinline, hkinds]
  · split
    · rename_i hother
      simp [hother]
    · rename_i hfile
      rw [decode_inside_iff hbound]
      simp [not_ne_iff.mp hfile]

/-- A size that fits the array makes both uses safe. -/
theorem resolve_inside {bound size : ℕ} (hbound : 16 ≤ bound) (hsize : size ≤ bound)
    (files : FilePayloadRef → Option (List UInt8)) (bytes : ℕ → UInt8) (payloadKind : UInt8) :
    Inside bound (resolveFilePayloadFromTransport files bytes size payloadKind).2 := by
  rw [resolveFilePayloadFromTransport]
  split
  · split
    · exact inside_nil bound
    · simpa [PayloadRead.stop] using hsize
  · split
    · exact inside_nil bound
    · rw [decode_inside_iff hbound]
      rintro ⟨-, -, hbeyond, hfits⟩
      omega

theorem remove_inside {bound size : ℕ} (hbound : 16 ≤ bound) (hsize : size ≤ bound)
    (removed : FilePayloadRef → Bool) (bytes : ℕ → UInt8) (payloadKind : UInt8) :
    Inside bound (removeFilePayloadFromTransport removed bytes size payloadKind).2 := by
  rw [remove_inside_iff hbound]
  rintro ⟨-, -, -, hbeyond, hfits⟩
  omega

end MemRpc
