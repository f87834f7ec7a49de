import Mathlib.Tactic

/-!
# Bytes on a wire

Numbers of a fixed width as little-endian bytes, the fields of a message by their offsets, and
messages with their length in front. A stream socket is the list of the bytes that are still
to be read from it.

## Main definitions

* `Wire.leBytes`, `Wire.leNat`: a number and its bytes.
* `Wire.slice`: the bytes at an offset, what `memcpy` takes out of a message.
* `Wire.recvAll`: as many bytes as asked for, or nothing.
* `Wire.frame`, `Wire.unframe`: a message behind its length, with a limit on the length.
-/

namespace Wire

/-! ## Numbers -/

/-- The lowest `width` bytes of a number, the lowest one first. -/
def leBytes : ℕ → ℕ → List UInt8
  | 0, _ => []
  | width + 1, n => UInt8.ofNat n :: leBytes width (n / 256)

/-- The number with the given bytes. -/
def leNat : List UInt8 → ℕ
  | [] => 0
  | b :: bytes => b.toNat + 256 * leNat bytes

@[simp] theorem length_leBytes (width n : ℕ) : (leBytes width n).length = width := by
  induction width generalizing n with
  | zero => rfl
  | succ width ih => simp [leBytes, ih]

theorem leNat_leBytes (width n : ℕ) : leNat (leBytes width n) = n % 256 ^ width := by
  induction width generalizing n with
  | zero => simp [leBytes, leNat, Nat.mod_one]
  | succ width ih =>
    rw [leBytes, leNat, ih, UInt8.toNat_ofNat', pow_succ' 256, Nat.mod_mul]

theorem leNat_leBytes_of_lt {width n : ℕ} (h : n < 256 ^ width) :
    leNat (leBytes width n) = n := by
  rw [leNat_leBytes, Nat.mod_eq_of_lt h]

theorem leNat_lt (bytes : List UInt8) : leNat bytes < 256 ^ bytes.length := by
  induction bytes with
  | nil => simp [leNat]
  | cons b bytes ih =>
    have hb : b.toNat < 256 := b.toNat_lt
    rw [leNat, List.length_cons, pow_succ']
    omega

theorem leBytes_leNat (bytes : List UInt8) : leBytes bytes.length (leNat bytes) = bytes := by
  induction bytes with
  | nil => rfl
  | cons b bytes ih =>
    have hb : b.toNat < 256 := b.toNat_lt
    have hdiv : (b.toNat + 256 * leNat bytes) / 256 = leNat bytes := by omega
    have hlow : UInt8.ofNat (b.toNat + 256 * leNat bytes) = b := by
      apply UInt8.toNat_inj.mp
      rw [UInt8.toNat_ofNat']
      omega
    rw [leNat, List.length_cons, leBytes, hdiv, hlow, ih]

/-! ## Fields -/

/-- The `n` bytes from an offset on. -/
def slice (offset n : ℕ) (data : List UInt8) : List UInt8 := (data.drop offset).take n

theorem slice_of_eq_append {data before mid after : List UInt8} {offset n : ℕ}
    (h : data = before ++ mid ++ after) (hoffset : before.length = offset)
    (hn : mid.length = n) : slice offset n data = mid := by
  subst h hoffset hn
  simp [slice]

theorem length_slice {offset n : ℕ} {data : List UInt8} (h : offset + n ≤ data.length) :
    (slice offset n data).length = n := by
  rw [slice, List.length_take, List.length_drop]
  omega

/-- Two slices with nothing between them are one. -/
theorem slice_append_slice (offset m n : ℕ) (data : List UInt8) :
    slice offset m data ++ slice (offset + m) n data = slice offset (m + n) data := by
  rw [slice, slice, slice, List.take_add, List.drop_drop]

theorem slice_zero_length (data : List UInt8) : slice 0 data.length data = data := by
  rw [slice, List.drop_zero, List.take_length]

/-- The number of a given width at an offset. -/
def field (offset width : ℕ) (data : List UInt8) : ℕ := leNat (slice offset width data)

theorem field_of_eq_append {data before after : List UInt8} {offset width n : ℕ}
    (h : data = before ++ leBytes width n ++ after) (hoffset : before.length = offset)
    (hn : n < 256 ^ width) : field offset width data = n := by
  rw [field, slice_of_eq_append h hoffset (length_leBytes _ _), leNat_leBytes_of_lt hn]

theorem field_lt (offset width : ℕ) (data : List UInt8) :
    field offset width data < 256 ^ width := by
  have hlength : (slice offset width data).length ≤ width := List.length_take_le ..
  exact (leNat_lt _).trans_le (Nat.pow_le_pow_right (by decide) hlength)

/-- A field that is inside the message consists of the bytes there. -/
theorem leBytes_field {offset width : ℕ} {data : List UInt8} (h : offset + width ≤ data.length) :
    leBytes width (field offset width data) = slice offset width data := by
  have hbytes := leBytes_leNat (slice offset width data)
  rwa [length_slice h] at hbytes

/-! ## Streams -/

/-- Read `n` bytes: what was read, and what is left. -/
def recvAll (n : ℕ) (stream : List UInt8) : Option (List UInt8 × List UInt8) :=
  if n ≤ stream.length then some (stream.take n, stream.drop n) else none

theorem recvAll_append {n : ℕ} {front : List UInt8} (back : List UInt8) (h : front.length = n) :
    recvAll n (front ++ back) = some (front, back) := by
  subst h
  simp [recvAll]

/-- A message with its length in the four bytes before it. -/
def frame (message : List UInt8) : List UInt8 := leBytes 4 message.length ++ message

/-- Read the length and the message, and refuse one that is longer than the limit. -/
def unframe (limit : ℕ) (stream : List UInt8) : Option (List UInt8) := do
  let (size, rest) ← recvAll 4 stream
  if limit < leNat size then none
  else (recvAll (leNat size) rest).map Prod.fst

theorem unframe_frame {limit : ℕ} {message : List UInt8} (h : message.length < 2 ^ 32) :
    unframe limit (frame message) =
      if limit < message.length then none else some message := by
  have hsize : leNat (leBytes 4 message.length) = message.length :=
    leNat_leBytes_of_lt (by norm_num; omega)
  have hmessage := recvAll_append [] (rfl : message.length = message.length)
  rw [List.append_nil] at hmessage
  simp only [unframe, frame, recvAll_append _ (length_leBytes 4 _), Option.bind_eq_bind,
    Option.bind_some, hsize, hmessage, Option.map_some]

end Wire
