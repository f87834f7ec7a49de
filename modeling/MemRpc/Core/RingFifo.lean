import MemRpc.Core.Ring

/-!
# Which capacities make the ring a queue

A sequence of calls on one ring is executed from zero cursors, recording what was
accepted and what was handed out. `FifoRing` is the queue specification over all
such sequences, of any length, so also those in which the cursors wrap.

The counting half of the specification holds for every capacity. The order of the
entries survives the wrap of the cursors exactly for the capacities that divide
`2 ^ 32`: for the others `wrapOps` drives the ring to the wrap and overwrites an
entry that is still queued.
-/

namespace MemRpc

open Concurrency Cyclic

universe u

variable {α : Type u}

/-- One call on a ring. -/
inductive RingOp (α : Type u)
  | push (entry : α)
  | pop

/-- A ring with the history of the calls made on it. -/
structure RingRun (α : Type u) where
  ring : Ring α
  accepted : List α := []
  popped : List α := []

variable {t : RingRun α}

namespace RingRun

/-- Make one call: record an accepted entry or a popped one. -/
def exec (t : RingRun α) : RingOp α → RingRun α
  | .push entry =>
    match pushRingEntry t.ring entry with
    | (.ok, r) => { t with ring := r, accepted := t.accepted ++ [entry] }
    | (_, r) => { t with ring := r }
  | .pop =>
    match popRingEntry t.ring with
    | some (entry, r) => { t with ring := r, popped := t.popped ++ [entry] }
    | none => t

/-- Make a sequence of calls on a fresh ring over the slots `m`. -/
def start (capacity : UInt32) (m : ℕ → α) (ops : List (RingOp α)) : RingRun α :=
  ops.foldl exec { ring := Ring.create capacity m }

/-- The counts of the history are what the cursors represent. -/
def Counts (t : RingRun α) : Prop :=
  CursorRep t.ring.cursor t.accepted.length t.popped.length

theorem exec_push_full (h : t.Counts) (e : α)
    (hfull : t.accepted.length = t.popped.length + t.ring.cap) : t.exec (.push e) = t := by
  simp only [exec, pushRingEntry_full h e hfull]

theorem exec_push_room (h : t.Counts) (e : α)
    (hroom : t.accepted.length < t.popped.length + t.ring.cap) :
    t.exec (.push e) =
      { t with
        ring := (t.ring.writeSlot t.ring.cursor.tail e).storeTail (t.ring.cursor.tail + 1)
        accepted := t.accepted ++ [e] } := by
  simp only [exec, pushRingEntry_room h e hroom]

theorem exec_pop_empty (h : t.Counts)
    (he : t.accepted.length = t.popped.length) : t.exec .pop = t := by
  simp only [exec, popRingEntry_empty h he]

theorem exec_pop_nonempty (h : t.Counts) (hne : t.popped.length < t.accepted.length) :
    t.exec .pop =
      { t with
        ring := t.ring.storeHead (t.ring.cursor.head + 1)
        popped := t.popped ++ [t.ring.readSlot t.ring.cursor.head] } := by
  simp only [exec, popRingEntry_nonempty h hne]

/-- Every call is one of the four outcomes; the counts and the capacity are kept
by all of them. -/
theorem Counts.exec (h : t.Counts) (op : RingOp α) :
    (t.exec op).Counts ∧ (t.exec op).ring.cap = t.ring.cap := by
  cases op with
  | push e =>
    rcases h.room.lt_or_eq with hroom | hfull
    · rw [exec_push_room h e hroom]
      refine ⟨?_, rfl⟩
      rw [Counts, List.length_append, List.length_singleton]
      exact CursorRep.push h hroom
    · rw [exec_push_full h e hfull]
      exact ⟨h, rfl⟩
  | pop =>
    rcases h.le.lt_or_eq with hne | he
    · rw [exec_pop_nonempty h hne]
      refine ⟨?_, rfl⟩
      rw [Counts, List.length_append, List.length_singleton]
      exact CursorRep.pop h hne
    · rw [exec_pop_empty h he.symm]
      exact ⟨h, rfl⟩

theorem Counts.foldl (h : t.Counts) (ops : List (RingOp α)) :
    (ops.foldl RingRun.exec t).Counts ∧ (ops.foldl RingRun.exec t).ring.cap = t.ring.cap := by
  induction ops generalizing t with
  | nil => exact ⟨h, rfl⟩
  | cons op ops ih =>
    obtain ⟨hcounts, hcap⟩ := h.exec op
    obtain ⟨hrest, hrestcap⟩ := ih hcounts
    exact ⟨hrest, hrestcap.trans hcap⟩

theorem counts_start (capacity : UInt32) (m : ℕ → α) (ops : List (RingOp α)) :
    (start capacity m ops).Counts ∧ (start capacity m ops).ring.cap = capacity.toNat :=
  Counts.foldl (t := { ring := Ring.create capacity m }) (CursorRep.create capacity) ops

/-- One call keeps the representation while the window does not alias. -/
theorem holds_exec (H : t.ring.Holds t.accepted t.popped)
    (hdvd : t.ring.cap ∣ 2 ^ 32) (op : RingOp α) :
    (t.exec op).ring.Holds (t.exec op).accepted (t.exec op).popped := by
  cases op with
  | push e =>
    rcases H.cursors.room.lt_or_eq with hroom | hfull
    · rw [exec_push_room H.cursors e hroom]
      exact H.push e hroom (Or.inl hdvd)
    · rw [exec_push_full H.cursors e hfull]
      exact H
  | pop =>
    rcases H.cursors.le.lt_or_eq with hne | he
    · rw [exec_pop_nonempty H.cursors hne, H.readSlot_head hne]
      exact H.storeHead hne
    · rw [exec_pop_empty H.cursors he.symm]
      exact H

theorem holds_foldl (H : t.ring.Holds t.accepted t.popped)
    (hdvd : t.ring.cap ∣ 2 ^ 32) (ops : List (RingOp α)) :
    (ops.foldl exec t).ring.Holds (ops.foldl exec t).accepted (ops.foldl exec t).popped := by
  induction ops generalizing t with
  | nil => exact H
  | cons op ops ih =>
    have hcap := (Counts.exec (t := t) H.cursors op).2
    exact ih (holds_exec H hdvd op) (hcap ▸ hdvd)

end RingRun

/-- The queue specification of one capacity: over every sequence of calls, what
is handed out is a prefix of what was accepted, a push is refused exactly on a
full ring and a pop exactly on an empty one. -/
structure FifoRing (α : Type u) (capacity : UInt32) : Prop where
  popped_prefix : ∀ (m : ℕ → α) (ops : List (RingOp α)),
    (RingRun.start capacity m ops).popped <+: (RingRun.start capacity m ops).accepted
  push_status : ∀ (m : ℕ → α) (ops : List (RingOp α)) (e : α),
    (pushRingEntry (RingRun.start capacity m ops).ring e).1 =
      if (RingRun.start capacity m ops).accepted.length =
          (RingRun.start capacity m ops).popped.length + capacity.toNat
      then .queueFull else .ok
  pop_none_iff : ∀ (m : ℕ → α) (ops : List (RingOp α)),
    popRingEntry (RingRun.start capacity m ops).ring = none ↔
      (RingRun.start capacity m ops).accepted.length =
        (RingRun.start capacity m ops).popped.length

variable {capacity : UInt32}

/-- A capacity that divides `2 ^ 32` makes the ring a queue. -/
theorem fifoRing_of_dvd (hdvd : capacity.toNat ∣ 2 ^ 32) :
    FifoRing α capacity where
  popped_prefix := by
    intro m ops
    have H := RingRun.holds_foldl (t := { ring := Ring.create capacity m })
      (Ring.Holds.create capacity m) hdvd ops
    exact H.isPrefix
  push_status := by
    intro m ops e
    obtain ⟨hcounts, hcap⟩ := RingRun.counts_start capacity m ops
    split
    · rename_i hfull
      rw [pushRingEntry_full hcounts e (by rw [hcap]; exact hfull)]
    · rename_i hnot
      have hroom := hcounts.room
      change _ ≤ _ + (RingRun.start capacity m ops).ring.cap at hroom
      rw [pushRingEntry_room hcounts e (by omega)]
  pop_none_iff := by
    intro m ops
    obtain ⟨hcounts, -⟩ := RingRun.counts_start capacity m ops
    constructor
    · intro hnone
      by_contra hne
      rw [popRingEntry_nonempty hcounts (lt_of_le_of_ne hcounts.le (Ne.symm hne))] at hnone
      exact absurd hnone (Option.some_ne_none _)
    · intro he
      exact popRingEntry_empty hcounts he

/-! ## The wrap of a capacity that does not divide `2 ^ 32` -/

namespace RingRun

/-- A push and a pop, `n` times: both cursors move by `n`. -/
def cycles (a : α) : ℕ → List (RingOp α)
  | 0 => []
  | n + 1 => .push a :: .pop :: cycles a n

theorem cycles_lengths (a : α) (h : t.Counts) (hcap : 0 < t.ring.cap)
    (he : t.accepted.length = t.popped.length) (n : ℕ) :
    ((cycles a n).foldl exec t).accepted.length = t.accepted.length + n ∧
      ((cycles a n).foldl exec t).popped.length = t.popped.length + n := by
  induction n generalizing t with
  | zero => simp [cycles]
  | succ n ih =>
    have hroom : t.accepted.length < t.popped.length + t.ring.cap := by omega
    obtain ⟨hpush, hpushcap⟩ := h.exec (.push a)
    obtain ⟨hpop, hpopcap⟩ := hpush.exec .pop
    have hafter := exec_push_room h a hroom
    have hlen : (t.exec (.push a)).accepted.length = t.accepted.length + 1 := by
      rw [hafter]
      simp
    have hlen' : (t.exec (.push a)).popped.length = t.popped.length := by rw [hafter]
    have hpopped := exec_pop_nonempty hpush (by omega)
    have hacc : ((t.exec (.push a)).exec .pop).accepted.length = t.accepted.length + 1 := by
      rw [hpopped]
      exact hlen
    have hout : ((t.exec (.push a)).exec .pop).popped.length = t.popped.length + 1 := by
      rw [hpopped]
      simp [hlen']
    have hrest := ih hpop (by omega) (by omega)
    simp only [cycles, List.foldl_cons]
    omega

/-- Consecutive pushes that fit append their entries in order. -/
theorem pushes_accepted (a : α) (h : t.Counts) (n : ℕ)
    (hfit : t.accepted.length + n ≤ t.popped.length + t.ring.cap) :
    ((List.replicate n (.push a)).foldl exec t).accepted = t.accepted ++ List.replicate n a ∧
      ((List.replicate n (.push a)).foldl exec t).popped = t.popped := by
  induction n generalizing t with
  | zero => simp
  | succ n ih =>
    obtain ⟨hpush, hpushcap⟩ := h.exec (.push a)
    have hafter := exec_push_room h a (by omega)
    have hacc : (t.exec (.push a)).accepted = t.accepted ++ [a] := by rw [hafter]
    have hout : (t.exec (.push a)).popped = t.popped := by rw [hafter]
    have hrest := ih hpush (by rw [hacc, hout, hpushcap, List.length_append]; simp; omega)
    rw [List.replicate_succ, List.foldl_cons, hrest.1, hrest.2, hacc, hout]
    simp [List.replicate_succ]

/-- Move both cursors to `n`, then queue `b` and `r` copies of `a` behind it. -/
def wrapOps (n r : ℕ) (a b : α) : List (RingOp α) :=
  cycles a n ++ .push b :: (List.replicate (r - 1) (.push a) ++ [.push a])

/-- When items `n` and `n + r` share a slot of one window, `wrapOps` leaves `a` in
the slot of `b`, and `b` is the next entry to be handed out. -/
theorem wrapOps_overwrites (capacity : UInt32) {n r : ℕ} (hrpos : 0 < r)
    (hrlt : r < capacity.toNat) (hslot : slot capacity.toNat (n + r) = slot capacity.toNat n)
    (m : ℕ → α) (a b : α) :
    let t := start capacity m (wrapOps n r a b)
    t.accepted[n]? = some b ∧ t.popped.length = n ∧
      t.popped.length < t.accepted.length ∧ t.ring.readSlot t.ring.cursor.head = a := by
  intro t
  have ht : t = ((List.replicate (r - 1) (.push a)).foldl exec
      ((start capacity m (cycles a n)).exec (.push b))).exec (.push a) := by
    simp only [t, start, wrapOps, List.foldl_append, List.foldl_cons, List.foldl_nil]
  obtain ⟨h₀, hcap₀⟩ := counts_start capacity m (cycles a n)
  have hlen : (start capacity m (cycles a n)).accepted.length = n ∧
      (start capacity m (cycles a n)).popped.length = n := by
    simpa [start] using cycles_lengths a (t := { ring := Ring.create capacity m })
      (CursorRep.create capacity) (hrpos.trans hrlt) rfl n
  generalize start capacity m (cycles a n) = t₀ at h₀ hcap₀ hlen ht
  -- `b` is accepted behind the `n` cycled entries
  have hb := exec_push_room h₀ b (by omega)
  obtain ⟨h₁, hcap₁⟩ := h₀.exec (.push b)
  have hacc₁ : (t₀.exec (.push b)).accepted = t₀.accepted ++ [b] := by rw [hb]
  have hpop₁ : (t₀.exec (.push b)).popped = t₀.popped := by rw [hb]
  generalize t₀.exec (.push b) = t₁ at h₁ hcap₁ hacc₁ hpop₁ ht
  have hlen₁ : t₁.accepted.length = n + 1 := by simp [hacc₁, hlen.1]
  -- all copies but the last one stay clear of its slot
  obtain ⟨hacc₂, hpop₂⟩ := pushes_accepted a h₁ (r - 1) (by rw [hpop₁]; omega)
  obtain ⟨h₂, hcap₂⟩ := h₁.foldl (List.replicate (r - 1) (.push a))
  generalize (List.replicate (r - 1) (.push a)).foldl exec t₁ = t₂ at hacc₂ hpop₂ h₂ hcap₂ ht
  have hlen₂ : t₂.accepted.length = n + r := by
    simp only [hacc₂, List.length_append, hlen₁, List.length_replicate]
    omega
  have hcap : t₂.ring.cap = capacity.toNat := by omega
  have hlast := exec_push_room h₂ a (by rw [hpop₂, hpop₁]; omega)
  rw [hlast] at ht
  have hhead : t₂.ring.cursor.head = UInt32.ofNat n := by
    rw [h₂.head_eq, hpop₂, hpop₁, hlen.2]
  have htail : t₂.ring.cursor.tail = UInt32.ofNat (n + r) := by rw [h₂.tail_eq, hlen₂]
  refine ⟨?_, ?_, ?_, ?_⟩
  · simp only [ht, hacc₂, hacc₁, List.append_assoc]
    rw [List.getElem?_append_right (by omega), hlen.1]
    simp
  · simp only [ht, hpop₂, hpop₁, hlen.2]
  · simp only [ht, hpop₂, hpop₁, List.length_append, List.length_singleton]
    omega
  · simp only [ht, Ring.cursor_storeTail, Ring.cursor_writeSlot, hhead, htail]
    rw [Ring.readSlot_ofNat, Ring.entries_storeTail, Ring.entries_writeSlot_ofNat,
      Ring.cap_storeTail, Ring.cap_writeSlot, hcap, hslot, Function.update_self]

end RingRun

/-- Two items of one window that share a slot break the order of the entries. -/
theorem not_fifoRing_of_slot_eq [Nontrivial α] {n r : ℕ} (hrpos : 0 < r)
    (hrlt : r < capacity.toNat) (hslot : slot capacity.toNat (n + r) = slot capacity.toNat n) :
    ¬ FifoRing α capacity := by
  intro hfifo
  obtain ⟨a, b, hab⟩ := exists_pair_ne α
  obtain ⟨hb, hlen, hne, hread⟩ :=
    RingRun.wrapOps_overwrites capacity hrpos hrlt hslot (fun _ => a) a b
  have hcounts := (RingRun.counts_start capacity (fun _ => a) (RingRun.wrapOps n r a b)).1
  have hpre := hfifo.popped_prefix (fun _ => a) (RingRun.wrapOps n r a b ++ [.pop])
  have hstep : RingRun.start capacity (fun _ => a) (RingRun.wrapOps n r a b ++ [.pop]) =
      (RingRun.start capacity (fun _ => a) (RingRun.wrapOps n r a b)).exec .pop := by
    simp only [RingRun.start, List.foldl_append, List.foldl_cons, List.foldl_nil]
  rw [hstep, RingRun.exec_pop_nonempty hcounts hne, hread] at hpre
  -- entry number `n` was accepted as `b` and handed out as `a`
  obtain ⟨rest, hrest⟩ := hpre
  rw [← hrest, List.append_assoc, List.getElem?_append_right (by omega), hlen] at hb
  simp only [Nat.sub_self, List.singleton_append, List.getElem?_cons_zero,
    Option.some.injEq] at hb
  exact hab hb

/-- A capacity that does not divide `2 ^ 32` hands out a wrong entry when the
cursors wrap. -/
theorem not_fifoRing_of_not_dvd [Nontrivial α] (hpos : 0 < capacity.toNat)
    (hndvd : ¬ capacity.toNat ∣ 2 ^ 32) : ¬ FifoRing α capacity := by
  have hrpos : 0 < 2 ^ 32 % capacity.toNat :=
    Nat.pos_of_ne_zero fun h => hndvd (Nat.dvd_of_mod_eq_zero h)
  exact not_fifoRing_of_slot_eq hrpos (Nat.mod_lt _ hpos) (slot_wrap_eq hpos hndvd)

/-- Both instantiations of the ring templates are queues for exactly the accepted
capacities that divide `2 ^ 32`. -/
theorem fifoRing_iff_dvd (c : RingCapacity) :
    (FifoRing RequestRingEntry c.size ∧ FifoRing ResponseRingEntry c.size) ↔
      c.size.toNat ∣ 2 ^ 32 := by
  constructor
  · rintro ⟨hreq, -⟩
    by_contra hndvd
    exact not_fifoRing_of_not_dvd c.pos hndvd hreq
  · intro hdvd
    exact ⟨fifoRing_of_dvd hdvd, fifoRing_of_dvd hdvd⟩

/-- Capacity 3 is accepted and is not a queue. -/
theorem not_fifoRing_three :
    validRingSize 3 = true ∧ ¬ FifoRing RequestRingEntry 3 :=
  ⟨by decide, not_fifoRing_of_not_dvd (by decide) (by decide)⟩

end MemRpc
