import MemRpc.Lib.Cyclic
import MemRpc.Core.Layout

/-!
# The single-producer single-consumer ring

`PushRingEntry` and `PopRingEntry` of `session.cpp`, run one call at a time. A
ring is a cursor record and its slot array; slots are selected by a cursor modulo
the capacity while the cursors themselves run modulo `2 ^ 32`.

`Ring.Holds r pushed popped` says what a ring stands for: `pushed` is everything
ever accepted, `popped` everything ever handed out. The cursor part `CursorRep`
is kept by every capacity. The slot part is kept only while the slots of a window
are distinct, and `fifoRing_iff_dvd` shows that this is exact: calls behave as a
bounded queue over runs of any length just when the capacity divides `2 ^ 32`.
-/

namespace MemRpc

open Concurrency Cyclic

universe u

/-- `struct RingCursor`. -/
structure RingCursor where
  head : UInt32 := 0
  tail : UInt32 := 0
  capacity : UInt32
  deriving DecidableEq, Repr

/-- `RingCount`: the number of queued entries, as a wrapped difference. -/
def ringCount (c : RingCursor) : UInt32 := c.tail - c.head

/-- A cursor record with the slot array it governs. -/
structure Ring (α : Type u) where
  cursor : RingCursor
  entries : ℕ → α

namespace Ring
variable {α : Type u}

/-- A ring as the session host leaves it: zero cursors over whatever the slots
hold. -/
def create (capacity : UInt32) (entries : ℕ → α) : Ring α := ⟨{ capacity }, entries⟩

/-- The capacity as a natural number. -/
def cap (r : Ring α) : ℕ := r.cursor.capacity.toNat

/-- Write the slot that a tail cursor selects. -/
def writeSlot (r : Ring α) (tail : UInt32) (entry : α) : Ring α :=
  { r with entries := Function.update r.entries (tail % r.cursor.capacity).toNat entry }

/-- Read the slot that a head cursor selects. -/
def readSlot (r : Ring α) (head : UInt32) : α := r.entries (head % r.cursor.capacity).toNat

def storeTail (r : Ring α) (tail : UInt32) : Ring α := { r with cursor.tail := tail }
def storeHead (r : Ring α) (head : UInt32) : Ring α := { r with cursor.head := head }

@[simp] theorem cap_create (c : UInt32) (m : ℕ → α) : (create c m).cap = c.toNat := rfl
@[simp] theorem cap_writeSlot (r : Ring α) (t : UInt32) (e : α) : (r.writeSlot t e).cap = r.cap := rfl
@[simp] theorem cap_storeTail (r : Ring α) (t : UInt32) : (r.storeTail t).cap = r.cap := rfl
@[simp] theorem cap_storeHead (r : Ring α) (h : UInt32) : (r.storeHead h).cap = r.cap := rfl
@[simp] theorem cursor_writeSlot (r : Ring α) (t : UInt32) (e : α) :
    (r.writeSlot t e).cursor = r.cursor := rfl
@[simp] theorem cursor_storeTail (r : Ring α) (t : UInt32) :
    (r.storeTail t).cursor = { r.cursor with tail := t } := rfl
@[simp] theorem cursor_storeHead (r : Ring α) (h : UInt32) :
    (r.storeHead h).cursor = { r.cursor with head := h } := rfl
@[simp] theorem entries_storeTail (r : Ring α) (t : UInt32) : (r.storeTail t).entries = r.entries := rfl
@[simp] theorem entries_storeHead (r : Ring α) (h : UInt32) : (r.storeHead h).entries = r.entries := rfl

theorem readSlot_ofNat (r : Ring α) (n : ℕ) :
    r.readSlot (UInt32.ofNat n) = r.entries (slot r.cap n) := by
  rw [readSlot, toNat_ofNat_mod, cap]

theorem entries_writeSlot_ofNat (r : Ring α) (n : ℕ) (e : α) :
    (r.writeSlot (UInt32.ofNat n) e).entries = Function.update r.entries (slot r.cap n) e := by
  rw [writeSlot, toNat_ofNat_mod, cap]

end Ring

variable {α : Type u}

/-- `PushRingEntry`. -/
def pushRingEntry (r : Ring α) (entry : α) : StatusCode × Ring α :=
  let head := r.cursor.head
  let tail := r.cursor.tail
  if tail - head ≥ r.cursor.capacity then
    (.queueFull, r)
  else
    (.ok, (r.writeSlot tail entry).storeTail (tail + 1))

/-- `PopRingEntry`. -/
def popRingEntry (r : Ring α) : Option (α × Ring α) :=
  let tail := r.cursor.tail
  let head := r.cursor.head
  if tail = head then
    none
  else
    some (r.readSlot head, r.storeHead (head + 1))

/-! ## What the cursors stand for -/

/-- The cursors count `pushed` accepted and `popped` handed-out entries. -/
structure CursorRep (c : RingCursor) (pushed popped : ℕ) : Prop where
  tail_eq : c.tail = UInt32.ofNat pushed
  head_eq : c.head = UInt32.ofNat popped
  le : popped ≤ pushed
  room : pushed ≤ popped + c.capacity.toNat

namespace CursorRep
variable {c : RingCursor} {p q : ℕ}

theorem create (capacity : UInt32) : CursorRep { capacity } 0 0 :=
  ⟨rfl, rfl, le_rfl, Nat.zero_le _⟩

theorem dist_lt (h : CursorRep c p q) : p - q < 2 ^ 32 := by
  have hroom := h.room
  have hcap := c.capacity.toNat_lt
  omega

/-- The ring count is the number of unpopped entries. -/
theorem toNat_ringCount (h : CursorRep c p q) : (ringCount c).toNat = p - q := by
  rw [ringCount, h.tail_eq, h.head_eq]
  exact toNat_ofNat_sub h.le h.dist_lt

theorem full_iff (h : CursorRep c p q) :
    c.tail - c.head ≥ c.capacity ↔ p = q + c.capacity.toNat := by
  have hcount := h.toNat_ringCount
  have hle := h.le
  have hroom := h.room
  rw [ringCount] at hcount
  rw [ge_iff_le, UInt32.le_iff_toNat_le, hcount]
  omega

theorem empty_iff (h : CursorRep c p q) : c.tail = c.head ↔ p = q := by
  rw [h.tail_eq, h.head_eq]
  exact ofNat_eq_ofNat_iff h.le h.dist_lt

theorem push (h : CursorRep c p q) (hroom : p < q + c.capacity.toNat) :
    CursorRep { c with tail := c.tail + 1 } (p + 1) q where
  tail_eq := by rw [ofNat_succ, h.tail_eq]
  head_eq := h.head_eq
  le := h.le.trans (Nat.le_succ p)
  room := hroom

theorem pop (h : CursorRep c p q) (hne : q < p) :
    CursorRep { c with head := c.head + 1 } p (q + 1) where
  tail_eq := h.tail_eq
  head_eq := by rw [ofNat_succ, h.head_eq]
  le := hne
  room := by
    have hroom := h.room
    change p ≤ q + 1 + c.capacity.toNat
    omega

end CursorRep

/-! ## What the slots stand for -/

/-- The ring stands for the entries accepted so far and the entries handed out
so far; the difference sits in the slots of the current window. -/
structure Ring.Holds (r : Ring α) (pushed popped : List α) : Prop where
  cursors : CursorRep r.cursor pushed.length popped.length
  isPrefix : popped <+: pushed
  slots : ∀ i (hi : i < pushed.length), popped.length ≤ i → r.entries (slot r.cap i) = pushed[i]

namespace Ring.Holds
variable {r : Ring α} {pushed popped : List α}

theorem create (capacity : UInt32) (m : ℕ → α) : (Ring.create capacity m).Holds [] [] where
  cursors := CursorRep.create capacity
  isPrefix := List.prefix_rfl
  slots := by
    intro i hi
    exact absurd hi (Nat.not_lt_zero i)

/-- Writing the next free slot leaves every queued entry in place. -/
theorem slots_write (H : r.Holds pushed popped) (e : α)
    (hroom : pushed.length < popped.length + r.cap) (halias : NoAlias r.cap (pushed.length + 1))
    (i : ℕ) (hi : i < pushed.length) (hpop : popped.length ≤ i) :
    (r.writeSlot r.cursor.tail e).entries (slot r.cap i) = pushed[i] := by
  have hne : slot r.cap i ≠ slot r.cap pushed.length :=
    halias.slot_ne (Nat.lt_succ_self _) hi (by omega)
  rw [H.cursors.tail_eq, Ring.entries_writeSlot_ofNat, Function.update_of_ne hne]
  exact H.slots i hi hpop

/-- Storing the next tail publishes the entry that the next slot holds. -/
theorem storeTail (H : r.Holds pushed popped) {e : α}
    (hroom : pushed.length < popped.length + r.cap)
    (hslot : r.entries (slot r.cap pushed.length) = e) :
    (r.storeTail (r.cursor.tail + 1)).Holds (pushed ++ [e]) popped where
  cursors := by
    rw [List.length_append, List.length_singleton]
    exact H.cursors.push hroom
  isPrefix := H.isPrefix.trans (List.prefix_append _ _)
  slots := by
    intro i hi hpop
    rw [List.length_append, List.length_singleton] at hi
    rcases Nat.lt_succ_iff_lt_or_eq.mp hi with hlt | rfl
    · rw [List.getElem_append_left hlt]
      exact H.slots i hlt hpop
    · rw [List.getElem_concat_length rfl]
      exact hslot

/-- The entry a consumer reads is the oldest unpopped one. -/
theorem readSlot_head (H : r.Holds pushed popped) (hne : popped.length < pushed.length) :
    r.readSlot r.cursor.head = pushed[popped.length] := by
  rw [H.cursors.head_eq, Ring.readSlot_ofNat]
  exact H.slots _ hne le_rfl

/-- Extending a prefix by the next element keeps it a prefix. -/
theorem prefix_concat (H : r.Holds pushed popped) (hne : popped.length < pushed.length) :
    popped ++ [pushed[popped.length]] <+: pushed := by
  have htake : popped = pushed.take popped.length := List.prefix_iff_eq_take.mp H.isPrefix
  have hsucc : pushed.take (popped.length + 1) = popped ++ [pushed[popped.length]] := by
    rw [List.take_succ_eq_append_getElem hne, ← htake]
  rw [← hsucc]
  exact List.take_prefix _ _

/-- Storing the next head hands out the oldest unpopped entry. -/
theorem storeHead (H : r.Holds pushed popped) (hne : popped.length < pushed.length) :
    (r.storeHead (r.cursor.head + 1)).Holds pushed (popped ++ [pushed[popped.length]]) where
  cursors := by
    rw [List.length_append, List.length_singleton]
    exact H.cursors.pop hne
  isPrefix := H.prefix_concat hne
  slots := by
    intro i hi hpop
    rw [List.length_append, List.length_singleton] at hpop
    exact H.slots i hi (Nat.le_of_succ_le hpop)

end Ring.Holds

/-! ## The two calls -/

variable {r : Ring α}

theorem pushRingEntry_full {p q : ℕ} (h : CursorRep r.cursor p q) (e : α)
    (hfull : p = q + r.cap) : pushRingEntry r e = (.queueFull, r) := by
  simp only [pushRingEntry]
  rw [if_pos (h.full_iff.mpr hfull)]

theorem pushRingEntry_room {p q : ℕ} (h : CursorRep r.cursor p q) (e : α) (hroom : p < q + r.cap) :
    pushRingEntry r e =
      (.ok, (r.writeSlot r.cursor.tail e).storeTail (r.cursor.tail + 1)) := by
  have hnot : ¬ r.cursor.tail - r.cursor.head ≥ r.cursor.capacity :=
    fun hfull => absurd (h.full_iff.mp hfull) (Nat.ne_of_lt hroom)
  simp only [pushRingEntry]
  rw [if_neg hnot]

theorem popRingEntry_empty {p q : ℕ} (h : CursorRep r.cursor p q) (he : p = q) :
    popRingEntry r = none := by
  simp only [popRingEntry]
  rw [if_pos (h.empty_iff.mpr he)]

theorem popRingEntry_nonempty {p q : ℕ} (h : CursorRep r.cursor p q) (hne : q < p) :
    popRingEntry r = some (r.readSlot r.cursor.head, r.storeHead (r.cursor.head + 1)) := by
  have hnot : ¬ r.cursor.tail = r.cursor.head :=
    fun he => absurd (h.empty_iff.mp he) (Nat.ne_of_gt hne)
  simp only [popRingEntry]
  rw [if_neg hnot]

/-- A push with room accepts the entry and keeps the representation. -/
theorem Ring.Holds.push {pushed popped : List α} (H : r.Holds pushed popped) (e : α)
    (hroom : pushed.length < popped.length + r.cap) (halias : NoAlias r.cap (pushed.length + 1)) :
    ((r.writeSlot r.cursor.tail e).storeTail (r.cursor.tail + 1)).Holds (pushed ++ [e]) popped := by
  have hwritten : (r.writeSlot r.cursor.tail e).Holds pushed popped :=
    ⟨H.cursors, H.isPrefix, H.slots_write e hroom halias⟩
  refine hwritten.storeTail hroom ?_
  rw [H.cursors.tail_eq, Ring.entries_writeSlot_ofNat, Ring.cap_writeSlot, Function.update_self]

end MemRpc
