import MemRpc.Lib.Wire

/-!
# Byte readers and writers

`ByteWriter` appends words, strings behind their lengths and blobs to a vector. `ByteReader` walks
over a buffer that it does not own. Before each access it compares `offset_ + size` with the size
of the buffer, in 64 bits. A string takes two accesses, and when the second one fails the length
has been consumed. For strings and blobs there is a variant that copies the bytes and one that
hands out a view.

The outputs of the reads are not null. A reader on a null pointer fails in every read.

## Main definitions

* `ByteWriter`, `WriteOp`: the writer and its operations.
* `ByteReader`, `ReadOp`: the reader and its operations.
* `ByteReader.At`: the reader is in a buffer, with the given bytes before it.

## Main results

* `byteReader_safe`: no read leaves the buffer, each succeeds if it can, and it does not matter
  which variants are used.
-/

namespace MemRpc.Codec

/-! ## The writer -/

/-- The vector of a `ByteWriter`. -/
structure ByteWriter where
  bytes : List UInt8 := []
  deriving DecidableEq, Repr

namespace ByteWriter

variable (w : ByteWriter)

/-- `WriteBytes`: the first `size` of the bytes that the pointer leads to, if it is not null. -/
def writeBytes (data : Option (List UInt8)) (size : UInt32) : Option ByteWriter :=
  match data with
  | none => if size ≠ 0 then none else some w
  | some data => some { bytes := w.bytes ++ data.take size.toNat }

/-- `WriteUint32`. -/
def writeUint32 (value : UInt32) : Option ByteWriter :=
  w.writeBytes (some (Wire.leBytes 4 value.toNat)) 4

/-- `WriteInt32`. -/
def writeInt32 (value : Int32) : Option ByteWriter :=
  w.writeBytes (some (Wire.leBytes 4 value.toUInt32.toNat)) 4

/-- `WriteString`. -/
def writeString (value : List UInt8) : Option ByteWriter := do
  let w ← w.writeUint32 (UInt32.ofNat value.length)
  w.writeBytes (some value) (UInt32.ofNat value.length)

end ByteWriter

/-- The operations of a `ByteWriter`. -/
inductive WriteOp
  | uint32 (value : UInt32)
  | int32 (value : Int32)
  | string (value : List UInt8)
  | bytes (data : List UInt8)
  deriving DecidableEq

/-- An operation, which may fail. -/
def ByteWriter.write (w : ByteWriter) : WriteOp → Option ByteWriter
  | .uint32 value => w.writeUint32 value
  | .int32 value => w.writeInt32 value
  | .string value => w.writeString value
  | .bytes data => w.writeBytes (some data) (UInt32.ofNat data.length)

namespace WriteOp

/-- The bytes that stand for a value. -/
def encoding : WriteOp → List UInt8
  | .uint32 value => Wire.leBytes 4 value.toNat
  | .int32 value => Wire.leBytes 4 value.toUInt32.toNat
  | .string value => Wire.leBytes 4 value.length ++ value
  | .bytes data => data

/-- A string or a blob whose length is a 32-bit number, and a blob that is not empty. -/
def InRange : WriteOp → Prop
  | .string value => value.length < 2 ^ 32
  | .bytes data => data ≠ [] ∧ data.length < 2 ^ 32
  | _ => True

end WriteOp

/-- The bytes of several values. -/
def encodeAll (ops : List WriteOp) : List UInt8 := ops.flatMap WriteOp.encoding

theorem WriteOp.InRange.encoding_ne_nil {op : WriteOp} (h : op.InRange) : op.encoding ≠ [] := by
  cases op with
  | bytes data => exact h.1
  | _ => exact List.cons_ne_nil _ _

theorem encodeAll_singleton (op : WriteOp) : encodeAll [op] = op.encoding :=
  List.flatMap_singleton ..

variable {ops : List WriteOp}

theorem encodeAll_ne_nil (hops : ops ≠ []) (h : ∀ op ∈ ops, op.InRange) :
    encodeAll ops ≠ [] := by
  cases ops with
  | nil => exact absurd rfl hops
  | cons op ops =>
    rw [encodeAll, List.flatMap_cons]
    exact List.append_ne_nil_of_left_ne_nil (h op List.mem_cons_self).encoding_ne_nil _

variable {data : List UInt8}

namespace ByteWriter

theorem writeBytes_length (w : ByteWriter) (h : data.length < 2 ^ 32) :
    w.writeBytes (some data) (UInt32.ofNat data.length) = some ⟨w.bytes ++ data⟩ := by
  rw [writeBytes, UInt32.toNat_ofNat_of_lt' h, List.take_length]

theorem writeUint32_eq (w : ByteWriter) (value : UInt32) :
    w.writeUint32 value = some ⟨w.bytes ++ Wire.leBytes 4 value.toNat⟩ := by
  have hlength : (Wire.leBytes 4 value.toNat).length < 2 ^ 32 := by
    rw [Wire.length_leBytes]
    decide
  exact w.writeBytes_length hlength

/-- An operation appends the bytes of its value. -/
theorem write_eq (w : ByteWriter) {op : WriteOp} (h : op.InRange) :
    w.write op = some ⟨w.bytes ++ op.encoding⟩ := by
  cases op with
  | uint32 value => exact w.writeUint32_eq value
  | int32 value => exact w.writeUint32_eq value.toUInt32
  | string value =>
    have hlength : (UInt32.ofNat value.length).toNat = value.length :=
      UInt32.toNat_ofNat_of_lt' h
    rw [write, writeString, writeUint32_eq, hlength]
    rw [Option.bind_eq_bind, Option.bind_some, writeBytes_length _ h, List.append_assoc]
    rfl
  | bytes data => exact w.writeBytes_length h.2

/-- A sequence of operations appends the bytes of its values. -/
theorem foldlM_write_eq (h : ∀ op ∈ ops, op.InRange) (w : ByteWriter) :
    ops.foldlM write w = some ⟨w.bytes ++ encodeAll ops⟩ := by
  induction ops generalizing w with
  | nil => simp [encodeAll]
  | cons op ops ih =>
    rw [List.foldlM_cons, w.write_eq (h op List.mem_cons_self), Option.bind_eq_bind,
      Option.bind_some, ih fun op hop => h op (List.mem_cons_of_mem _ hop)]
    simp [encodeAll]

end ByteWriter

/-! ## The reader -/

/-- An array of bytes. No object has more than `PTRDIFF_MAX` bytes. -/
structure ByteBuffer where
  bytes : List UInt8
  length_lt : bytes.length < 2 ^ 63

/-- The members of a `ByteReader`, with the bytes that were copied or handed out in a view. -/
structure ByteReader where
  /-- What `bytes_` points to, if it is not null. -/
  bytes : Option ByteBuffer
  size : ℕ
  offset : ℕ := 0
  touched : List ℕ := []

/-- A `ByteView` or a `std::string_view` into the buffer. -/
structure ByteView where
  offset : ℕ
  size : ℕ
  deriving DecidableEq, Repr

namespace ByteReader

/-- A reader on a buffer. -/
def ofBuffer (buffer : ByteBuffer) : ByteReader where
  bytes := some buffer
  size := buffer.bytes.length

/-- A reader on a vector or a string, whose `data()` may be null if it is empty. -/
def ofVector (emptyIsNull : Bool) (buffer : ByteBuffer) : ByteReader where
  bytes := if emptyIsNull && buffer.bytes.isEmpty then none else some buffer
  size := buffer.bytes.length

variable (r : ByteReader)

/-- `offset_ + size > size_`. -/
def exceeds (size : UInt32) : Bool := decide (r.size < (r.offset + size.toNat) % 2 ^ 64)

/-- `offset_ += size`, after the use of the bytes there. -/
def advance (size : UInt32) : ByteReader :=
  { r with
    offset := (r.offset + size.toNat) % 2 ^ 64
    touched := r.touched ++ List.range' r.offset size.toNat }

/-- What all reads do: test the pointer and the bound, and go on behind the bytes. -/
def access {α : Type} (size : UInt32) (value : ByteBuffer → α) : Option α × ByteReader :=
  match r.bytes with
  | none => (none, r)
  | some buffer => if r.exceeds size then (none, r) else (some (value buffer), r.advance size)

/-- `ReadBytes`. -/
def readBytes (size : UInt32) : Option (List UInt8) × ByteReader :=
  r.access size fun buffer => Wire.slice r.offset size.toNat buffer.bytes

/-- `ReadBytesView`. -/
def readBytesView (size : UInt32) : Option ByteView × ByteReader :=
  r.access size fun _ => ⟨r.offset, size.toNat⟩

/-- `ReadUint32`. -/
def readUint32 : Option UInt32 × ByteReader :=
  (r.readBytes 4).map (.map fun data => UInt32.ofNat (Wire.leNat data)) id

/-- `ReadInt32`. -/
def readInt32 : Option Int32 × ByteReader :=
  (r.readBytes 4).map (.map fun data => (UInt32.ofNat (Wire.leNat data)).toInt32) id

/-- What the reads of strings do: read the length, and access the bytes behind it. -/
def accessPrefixed {α : Type} (value : ByteReader → UInt32 → ByteBuffer → α) :
    Option α × ByteReader :=
  match r.readUint32 with
  | (none, r') => (none, r')
  | (some size, r') => r'.access size (value r' size)

/-- `ReadString`. -/
def readString : Option (List UInt8) × ByteReader :=
  r.accessPrefixed fun r' size buffer => Wire.slice r'.offset size.toNat buffer.bytes

/-- `ReadStringView`. -/
def readStringView : Option ByteView × ByteReader :=
  r.accessPrefixed fun r' size _ => ⟨r'.offset, size.toNat⟩

end ByteReader

/-- The operations of a `ByteReader`. -/
inductive ReadOp
  | uint32
  | int32
  | bytes (size : UInt32)
  | bytesView (size : UInt32)
  | string
  | stringView
  deriving DecidableEq, Repr

/-- What a read returns. -/
inductive ReadValue
  | uint32 (value : UInt32)
  | int32 (value : Int32)
  | bytes (value : List UInt8)
  | view (value : ByteView)
  deriving DecidableEq

/-- The bytes that a view shows in the place of the view. -/
def ReadValue.contents (buffer : ByteBuffer) : ReadValue → ReadValue
  | .view value => .bytes (Wire.slice value.offset value.size buffer.bytes)
  | value => value

/-- The variant that copies. -/
def ReadOp.owning : ReadOp → ReadOp
  | .bytesView size => .bytes size
  | .stringView => .string
  | op => op

theorem ReadOp.owning_bytesView (size : UInt32) : (bytesView size).owning = .bytes size := rfl

theorem ReadOp.owning_stringView : stringView.owning = .string := rfl

/-- How many bytes the encoding of a value takes that begins where `rest` does. -/
def ReadOp.needs (rest : List UInt8) : ReadOp → ℕ
  | .uint32 | .int32 => 4
  | .bytes size | .bytesView size => size.toNat
  | .string | .stringView => 4 + Wire.leNat (rest.take 4)

variable {α : Type}

namespace ByteReader

variable (r : ByteReader)

/-- An operation. -/
def read : ReadOp → Option ReadValue × ByteReader
  | .uint32 => r.readUint32.map (.map .uint32) id
  | .int32 => r.readInt32.map (.map .int32) id
  | .bytes size => (r.readBytes size).map (.map .bytes) id
  | .bytesView size => (r.readBytesView size).map (.map .view) id
  | .string => r.readString.map (.map .bytes) id
  | .stringView => r.readStringView.map (.map .view) id

/-- The reader after a sequence of operations. -/
def after (ops : List ReadOp) : ByteReader := ops.foldl (fun r op => (r.read op).2) r

/-- What a sequence of operations returns, and the offsets behind them. -/
def outcomes (buffer : ByteBuffer) : ByteReader → List ReadOp → List (Option ReadValue × ℕ)
  | _, [] => []
  | r, op :: ops =>
    ((r.read op).1.map (·.contents buffer), (r.read op).2.offset) ::
      outcomes buffer (r.read op).2 ops

/-! ## One access -/

/-- The reader is in a buffer, with `rest` before it. -/
structure At (r : ByteReader) (buffer : ByteBuffer) (rest : List UInt8) : Prop where
  bytes : r.bytes = some buffer
  size : r.size = buffer.bytes.length
  offset_le : r.offset ≤ buffer.bytes.length
  rest : buffer.bytes.drop r.offset = rest

theorem ofVector_eq {emptyIsNull : Bool} {buffer : ByteBuffer} (h : buffer.bytes ≠ []) :
    ofVector emptyIsNull buffer = ofBuffer buffer := by
  have hempty : buffer.bytes.isEmpty = false := List.isEmpty_eq_false_iff.mpr h
  rw [ofVector, ofBuffer, hempty, Bool.and_false]
  rfl

theorem at_ofBuffer (buffer : ByteBuffer) : (ofBuffer buffer).At buffer buffer.bytes :=
  ⟨rfl, rfl, Nat.zero_le _, List.drop_zero⟩

variable {size : UInt32}

namespace At

variable {r : ByteReader} {buffer : ByteBuffer} {rest : List UInt8} (h : r.At buffer rest)

include h

theorem offset_add_length : r.offset + rest.length = buffer.bytes.length := by
  rw [← h.rest, List.length_drop]
  have := h.offset_le
  omega

theorem slice_eq (n : ℕ) : Wire.slice r.offset n buffer.bytes = rest.take n := by
  rw [Wire.slice, h.rest]

/-- The sum does not wrap, so the bound is the number of bytes that are left. -/
theorem exceeds_eq (size : UInt32) : r.exceeds size = decide (rest.length < size.toNat) := by
  have hsum := h.offset_add_length
  have hlength := buffer.length_lt
  have hsize : size.toNat < 2 ^ 32 := size.toNat_lt
  rw [exceeds, h.size, Nat.mod_eq_of_lt (by omega), decide_eq_decide]
  omega

theorem access_of_le (hle : size.toNat ≤ rest.length)
    (value : ByteBuffer → α) : r.access size value = (some (value buffer), r.advance size) := by
  simp only [access, h.bytes, h.exceeds_eq, decide_eq_true_eq]
  rw [if_neg (not_lt.mpr hle)]

theorem access_of_lt (hlt : rest.length < size.toNat)
    (value : ByteBuffer → α) : r.access size value = (none, r) := by
  simp only [access, h.bytes, h.exceeds_eq, decide_eq_true_eq]
  rw [if_pos hlt]

theorem advance (hle : size.toNat ≤ rest.length) :
    (r.advance size).At buffer (rest.drop size.toNat) := by
  have hsum := h.offset_add_length
  have hlength := buffer.length_lt
  have hoffset : (r.advance size).offset = r.offset + size.toNat :=
    Nat.mod_eq_of_lt (by omega)
  refine ⟨h.bytes, h.size, ?_, ?_⟩
  · rw [hoffset]
    omega
  · rw [hoffset, ← h.rest, List.drop_drop]

theorem isSome_access (size : UInt32) (value : ByteBuffer → α) :
    (r.access size value).1.isSome ↔ size.toNat ≤ rest.length := by
  by_cases hle : size.toNat ≤ rest.length
  · simp [h.access_of_le hle, hle]
  · simp [h.access_of_lt (not_le.mp hle), hle]

theorem readUint32_of_le (hle : 4 ≤ rest.length) :
    r.readUint32 = (some (UInt32.ofNat (Wire.leNat (rest.take 4))), r.advance 4) := by
  rw [readUint32, readBytes, h.access_of_le (show (4 : UInt32).toNat ≤ _ from hle), h.slice_eq]
  rfl

theorem readUint32_of_lt (hlt : rest.length < 4) : r.readUint32 = (none, r) := by
  rw [readUint32, readBytes, h.access_of_lt (show _ < (4 : UInt32).toNat from hlt)]
  rfl

theorem isSome_accessPrefixed (value : ByteReader → UInt32 → ByteBuffer → α) :
    (r.accessPrefixed value).1.isSome ↔ 4 + Wire.leNat (rest.take 4) ≤ rest.length := by
  by_cases hle : 4 ≤ rest.length
  · have hfour : (rest.take 4).length = 4 := List.length_take_of_le hle
    have hlength : (UInt32.ofNat (Wire.leNat (rest.take 4))).toNat = Wire.leNat (rest.take 4) := by
      refine UInt32.toNat_ofNat_of_lt' ((Wire.leNat_lt _).trans_eq ?_)
      rw [hfour]
      decide
    have hbehind := h.advance (show (4 : UInt32).toNat ≤ _ from hle)
    rw [accessPrefixed, h.readUint32_of_le hle]
    dsimp only
    rw [hbehind.isSome_access, hlength, List.length_drop]
    show _ ≤ rest.length - 4 ↔ _
    omega
  · rw [accessPrefixed, h.readUint32_of_lt (not_le.mp hle)]
    constructor
    · intro hsome
      cases hsome
    · omega

theorem isSome_readBytes (size : UInt32) :
    (r.readBytes size).1.isSome ↔ size.toNat ≤ rest.length := h.isSome_access size _

/-- A read succeeds exactly if the bytes that are left suffice. -/
theorem isSome_read (op : ReadOp) : (r.read op).1.isSome ↔ op.needs rest ≤ rest.length := by
  cases op with
  | uint32 =>
    rw [read, Prod.map_fst, Option.isSome_map, readUint32, Prod.map_fst, Option.isSome_map]
    exact h.isSome_readBytes 4
  | int32 =>
    rw [read, Prod.map_fst, Option.isSome_map, readInt32, Prod.map_fst, Option.isSome_map]
    exact h.isSome_readBytes 4
  | bytes size =>
    rw [read, Prod.map_fst, Option.isSome_map]
    exact h.isSome_readBytes size
  | bytesView size =>
    rw [read, Prod.map_fst, Option.isSome_map]
    exact h.isSome_access size _
  | string | stringView =>
    rw [read, Prod.map_fst, Option.isSome_map]
    exact h.isSome_accessPrefixed _

end At

/-! ## Reading what was written -/

namespace At

variable {r : ByteReader} {buffer : ByteBuffer} {rest : List UInt8}

/-- An access to as many bytes as `data` has takes `data`. -/
theorem access_append (h : r.At buffer (data ++ rest)) (hsize : size.toNat = data.length)
    (value : ByteBuffer → α) :
    r.access size value = (some (value buffer), r.advance size) ∧
      Wire.slice r.offset size.toNat buffer.bytes = data ∧ (r.advance size).At buffer rest := by
  have hle : size.toNat ≤ (data ++ rest).length := by
    rw [List.length_append]
    omega
  have hadvanced := h.advance hle
  rw [hsize, List.drop_left] at hadvanced
  refine ⟨h.access_of_le hle value, ?_, hadvanced⟩
  rw [h.slice_eq, hsize, List.take_left]

theorem readBytes_append (h : r.At buffer (data ++ rest)) (hsize : size.toNat = data.length) :
    r.readBytes size = (some data, r.advance size) ∧ (r.advance size).At buffer rest := by
  obtain ⟨haccess, hslice, hadvanced⟩ := h.access_append hsize fun buffer =>
    Wire.slice r.offset size.toNat buffer.bytes
  refine ⟨?_, hadvanced⟩
  rw [readBytes, haccess, hslice]

theorem readUint32_append {value : UInt32}
    (h : r.At buffer (Wire.leBytes 4 value.toNat ++ rest)) :
    r.readUint32 = (some value, r.advance 4) ∧ (r.advance 4).At buffer rest := by
  have hsize : (4 : UInt32).toNat = (Wire.leBytes 4 value.toNat).length := by
    rw [Wire.length_leBytes]
    rfl
  have hword : Wire.leNat (Wire.leBytes 4 value.toNat) = value.toNat :=
    Wire.leNat_leBytes_of_lt value.toNat_lt
  obtain ⟨hread, hadvanced⟩ := h.readBytes_append hsize
  refine ⟨?_, hadvanced⟩
  rw [readUint32, hread, Prod.map_apply, Option.map_some, hword, UInt32.ofNat_toNat, id]

theorem readInt32_append {value : Int32}
    (h : r.At buffer (Wire.leBytes 4 value.toUInt32.toNat ++ rest)) :
    r.readInt32 = (some value, r.advance 4) ∧ (r.advance 4).At buffer rest := by
  obtain ⟨hread, hadvanced⟩ := h.readUint32_append
  refine ⟨?_, hadvanced⟩
  have hword : r.readInt32 = r.readUint32.map (.map UInt32.toInt32) id := by
    rw [readInt32, readUint32, Prod.map_map, Option.map_comp_map]
    rfl
  rw [hword, hread]
  rfl

theorem readString_append {value : List UInt8} (hvalue : value.length < 2 ^ 32)
    (h : r.At buffer (Wire.leBytes 4 value.length ++ value ++ rest)) :
    ∃ r', r.readString = (some value, r') ∧ r'.At buffer rest := by
  have hlength : (UInt32.ofNat value.length).toNat = value.length :=
    UInt32.toNat_ofNat_of_lt' hvalue
  rw [← hlength, List.append_assoc] at h
  obtain ⟨hread, hbehind⟩ := h.readUint32_append
  obtain ⟨haccess, hslice, hadvanced⟩ := hbehind.access_append hlength fun buffer =>
    Wire.slice (r.advance 4).offset (UInt32.ofNat value.length).toNat buffer.bytes
  refine ⟨_, ?_, hadvanced⟩
  rw [readString, accessPrefixed, hread]
  dsimp only
  rw [haccess, hslice]

end At

end ByteReader

namespace WriteOp

/-- The read that matches a write. -/
def read : WriteOp → ReadOp
  | .uint32 _ => .uint32
  | .int32 _ => .int32
  | .string _ => .string
  | .bytes data => .bytes (UInt32.ofNat data.length)

/-- What that read returns. -/
def value : WriteOp → ReadValue
  | .uint32 value => .uint32 value
  | .int32 value => .int32 value
  | .string value => .bytes value
  | .bytes data => .bytes data

theorem contents_value (op : WriteOp) (buffer : ByteBuffer) :
    op.value.contents buffer = op.value := by
  cases op <;> rfl

end WriteOp

namespace ByteReader

variable {r : ByteReader} {buffer : ByteBuffer} {rest : List UInt8}

/-- A value is read back, and the reader is behind it. -/
theorem At.read_encoding {op : WriteOp} (h : r.At buffer (op.encoding ++ rest))
    (hop : op.InRange) :
    ∃ r', r.read op.read = (some op.value, r') ∧ r'.At buffer rest := by
  cases op with
  | uint32 value =>
    obtain ⟨hread, hbehind⟩ := At.readUint32_append h
    exact ⟨_, by rw [WriteOp.read, ByteReader.read, hread]; rfl, hbehind⟩
  | int32 value =>
    obtain ⟨hread, hbehind⟩ := At.readInt32_append h
    exact ⟨_, by rw [WriteOp.read, ByteReader.read, hread]; rfl, hbehind⟩
  | string value =>
    obtain ⟨r', hread, hbehind⟩ := At.readString_append hop h
    exact ⟨r', by rw [WriteOp.read, ByteReader.read, hread]; rfl, hbehind⟩
  | bytes data =>
    obtain ⟨hread, hbehind⟩ := At.readBytes_append h (UInt32.toNat_ofNat_of_lt' hop.2)
    exact ⟨_, by rw [WriteOp.read, ByteReader.read]; exact congrArg _ hread, hbehind⟩

/-- A sequence of values is read back in order. -/
theorem At.read_encodeAll (h : r.At buffer (encodeAll ops ++ rest))
    (hops : ∀ op ∈ ops, op.InRange) :
    (r.outcomes buffer (ops.map WriteOp.read)).map Prod.fst = ops.map (some ·.value) ∧
      (r.after (ops.map WriteOp.read)).At buffer rest := by
  induction ops generalizing r with
  | nil => exact ⟨rfl, h⟩
  | cons op ops ih =>
    rw [encodeAll, List.flatMap_cons, ← encodeAll, List.append_assoc] at h
    obtain ⟨r', hread, hbehind⟩ := h.read_encoding (hops op List.mem_cons_self)
    obtain ⟨hvalues, hafter⟩ := ih hbehind fun op hop => hops op (List.mem_cons_of_mem _ hop)
    rw [List.map_cons, outcomes, List.map_cons, List.map_cons, after, List.foldl_cons, hread]
    refine ⟨?_, hafter⟩
    rw [hvalues, Option.map_some, op.contents_value]

/-! ## No byte outside the buffer -/

/-- The reader is in the buffer, and so is everything that it has used. -/
structure Inside (r : ByteReader) (buffer : ByteBuffer) : Prop where
  at_rest : r.At buffer (buffer.bytes.drop r.offset)
  touched : ∀ i ∈ r.touched, i < buffer.bytes.length

theorem inside_ofBuffer (buffer : ByteBuffer) : (ofBuffer buffer).Inside buffer where
  at_rest := at_ofBuffer buffer
  touched := by simp [ofBuffer]

theorem Inside.access (h : r.Inside buffer) (size : UInt32) (value : ByteBuffer → α) :
    (r.access size value).2.Inside buffer := by
  by_cases hle : size.toNat ≤ (buffer.bytes.drop r.offset).length
  · rw [h.at_rest.access_of_le hle]
    have hadvanced := h.at_rest.advance hle
    refine ⟨⟨hadvanced.bytes, hadvanced.size, hadvanced.offset_le, rfl⟩, fun i hi => ?_⟩
    rcases List.mem_append.mp hi with hold | hnew
    · exact h.touched i hold
    · have hrange := List.mem_range'_1.mp hnew
      have hsum := h.at_rest.offset_add_length
      omega
  · rw [h.at_rest.access_of_lt (not_le.mp hle)]
    exact h

theorem Inside.readBytes (h : r.Inside buffer) (size : UInt32) :
    (r.readBytes size).2.Inside buffer := h.access size _

theorem Inside.accessPrefixed (h : r.Inside buffer) (value : ByteReader → UInt32 → ByteBuffer → α) :
    (r.accessPrefixed value).2.Inside buffer := by
  have hlength : r.readUint32.2.Inside buffer := h.readBytes 4
  unfold ByteReader.accessPrefixed
  split
  · next hread => rwa [hread] at hlength
  · next hread =>
      rw [hread] at hlength
      exact hlength.access _ _

theorem Inside.read (h : r.Inside buffer) (op : ReadOp) : (r.read op).2.Inside buffer := by
  cases op with
  | uint32 | int32 => exact h.readBytes 4
  | bytes size => exact h.readBytes size
  | bytesView size => exact (h.access size _ : (r.readBytesView size).2.Inside buffer)
  | string => exact (h.accessPrefixed _ : r.readString.2.Inside buffer)
  | stringView => exact (h.accessPrefixed _ : r.readStringView.2.Inside buffer)

theorem Inside.after (h : r.Inside buffer) (ops : List ReadOp) : (r.after ops).Inside buffer := by
  induction ops generalizing r with
  | nil => exact h
  | cons op ops ih => exact ih (h.read op)

/-! ## Copies and views -/

/-- Two accesses of the same bytes differ only in what they make of them. -/
theorem access_congr {α β γ : Type} (h : r.bytes = some buffer) (size : UInt32)
    {value : ByteBuffer → α} {value' : ByteBuffer → β} {f : α → γ} {g : β → γ}
    (hvalue : f (value buffer) = g (value' buffer)) :
    (r.access size value).1.map f = (r.access size value').1.map g ∧
      (r.access size value).2 = (r.access size value').2 := by
  simp only [access, h]
  split
  · exact ⟨rfl, rfl⟩
  · exact ⟨congrArg some hvalue, rfl⟩

theorem accessPrefixed_congr {α β γ : Type} (h : r.Inside buffer)
    {value : ByteReader → UInt32 → ByteBuffer → α} {value' : ByteReader → UInt32 → ByteBuffer → β}
    {f : α → γ} {g : β → γ}
    (hvalue : ∀ r' size, f (value r' size buffer) = g (value' r' size buffer)) :
    (r.accessPrefixed value).1.map f = (r.accessPrefixed value').1.map g ∧
      (r.accessPrefixed value).2 = (r.accessPrefixed value').2 := by
  have hlength : r.readUint32.2.Inside buffer := h.readBytes 4
  unfold accessPrefixed
  split
  · exact ⟨rfl, rfl⟩
  · next hread =>
      rw [hread] at hlength
      exact access_congr hlength.at_rest.bytes _ (hvalue _ _)

/-- A variant that hands out a view shows the bytes that the other one copies, and leaves the
reader in the same place. -/
theorem Inside.read_owning (h : r.Inside buffer) (op : ReadOp) :
    (r.read op).1.map (·.contents buffer) = (r.read op.owning).1.map (·.contents buffer) ∧
      (r.read op).2 = (r.read op.owning).2 := by
  cases op with
  | bytesView size =>
    rw [ReadOp.owning_bytesView, ByteReader.read, ByteReader.read, Prod.map_fst, Prod.map_fst,
      Option.map_map, Option.map_map]
    exact access_congr h.at_rest.bytes size rfl
  | stringView =>
    rw [ReadOp.owning_stringView, ByteReader.read, ByteReader.read, Prod.map_fst, Prod.map_fst,
      Option.map_map, Option.map_map]
    exact accessPrefixed_congr h fun _ _ => rfl
  | _ => exact ⟨rfl, rfl⟩

theorem Inside.outcomes_owning (h : r.Inside buffer) (ops : List ReadOp) :
    r.outcomes buffer ops = r.outcomes buffer (ops.map ReadOp.owning) := by
  induction ops generalizing r with
  | nil => rfl
  | cons op ops ih =>
    obtain ⟨hvalue, hreader⟩ := h.read_owning op
    rw [List.map_cons, outcomes, outcomes, ih (h.read op), hvalue, hreader]

theorem Inside.after_owning (h : r.Inside buffer) (ops : List ReadOp) :
    r.after ops = r.after (ops.map ReadOp.owning) := by
  induction ops generalizing r with
  | nil => rfl
  | cons op ops ih =>
    rw [List.map_cons, ByteReader.after, List.foldl_cons, ← ByteReader.after, ih (h.read op),
      (h.read_owning op).2]
    rfl

/-- What was written is read back with copies or views, and the reader is behind it. -/
theorem read_written (emptyIsNull : Bool) (hops : ∀ op ∈ ops, op.InRange)
    (hbytes : buffer.bytes = encodeAll ops ++ rest) {reads : List ReadOp}
    (hreads : reads.map ReadOp.owning = ops.map WriteOp.read) :
    ((ofVector emptyIsNull buffer).outcomes buffer reads).map Prod.fst = ops.map (some ·.value) ∧
      ((ofVector emptyIsNull buffer).after reads).offset = (encodeAll ops).length := by
  by_cases hnil : ops = []
  · subst hnil
    have hnone : reads = [] := List.map_eq_nil_iff.mp hreads
    subst hnone
    exact ⟨rfl, rfl⟩
  · have hbuffer : buffer.bytes ≠ [] := by
      rw [hbytes]
      exact List.append_ne_nil_of_left_ne_nil (encodeAll_ne_nil hnil hops) rest
    have hinside := inside_ofBuffer buffer
    have hat := at_ofBuffer buffer
    rw [hbytes] at hat
    obtain ⟨hvalues, hafter⟩ := hat.read_encodeAll hops
    have hsum := hafter.offset_add_length
    rw [hbytes, List.length_append] at hsum
    rw [ofVector_eq hbuffer, hinside.outcomes_owning, hinside.after_owning, hreads]
    exact ⟨hvalues, by omega⟩

end ByteReader

/-- On every buffer and after every sequence of reads, the offset and all bytes that were used are
in the buffer, and the next read succeeds exactly if the bytes that are left suffice for it. With
copies in the place of views, or views in the place of copies, every read returns the same and
leaves the same offset. -/
theorem byteReader_safe (buffer : ByteBuffer) (ops : List ReadOp) :
    ((ByteReader.ofBuffer buffer).after ops).offset ≤ buffer.bytes.length ∧
    (∀ i ∈ ((ByteReader.ofBuffer buffer).after ops).touched, i < buffer.bytes.length) ∧
    (∀ op, (((ByteReader.ofBuffer buffer).after ops).read op).1.isSome ↔
      op.needs (buffer.bytes.drop ((ByteReader.ofBuffer buffer).after ops).offset) ≤
        buffer.bytes.length - ((ByteReader.ofBuffer buffer).after ops).offset) ∧
    ∀ ops', ops'.map ReadOp.owning = ops.map ReadOp.owning →
      (ByteReader.ofBuffer buffer).outcomes buffer ops' =
        (ByteReader.ofBuffer buffer).outcomes buffer ops := by
  have hstart := ByteReader.inside_ofBuffer buffer
  have hinside := hstart.after ops
  refine ⟨hinside.at_rest.offset_le, hinside.touched, fun op => ?_, fun ops' hsame => ?_⟩
  · rw [hinside.at_rest.isSome_read op, List.length_drop]
  · rw [hstart.outcomes_owning ops', hsame, ← hstart.outcomes_owning ops]

/-- A string that is too long is refused in both variants, and both leave the word behind its
length. -/
theorem byteReader_safe_refused :
    let buffer : ByteBuffer := ⟨[9, 0, 0, 0, 1, 2, 3, 4], by decide⟩
    (ByteReader.ofBuffer buffer).outcomes buffer [.stringView, .uint32] =
        (ByteReader.ofBuffer buffer).outcomes buffer [.string, .uint32] ∧
      (ByteReader.ofBuffer buffer).outcomes buffer [.string, .uint32] =
        [(none, 4), (some (.uint32 0x04030201), 8)] :=
  ⟨(byteReader_safe _ [.string, .uint32]).2.2.2 _ rfl, by decide⟩

end MemRpc.Codec
