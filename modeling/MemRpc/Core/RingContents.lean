import MemRpc.Core.RingSteps

/-!
# What every queued entry satisfies

`SharedRing` says which entry each slot holds and needs distinct slots for it. A
property of all queued entries needs less. Whatever slot a push overwrites, it writes an
entry that has the property, so `RingAll P` is kept by every capacity and over runs of
any length, the wrap of the cursors included.

## Main definitions

* `RingAll P`: every queued entry, and every entry in the hands of a call, satisfies `P`.
-/

namespace MemRpc

open Concurrency Cyclic

universe u

variable {α : Type u} {P Q : α → Prop}

/-- The ring counts `p` pushes and `q` pops, and `P` holds of all that is queued and of
what the calls under way carry. -/
structure RingAll (P : α → Prop) (r : Ring α) (p q : ℕ) (producer : Option (PushPc α))
    (consumer : Option (PopPc α)) : Prop where
  counts : SharedCount r.cursor p q producer consumer
  window : ∀ i, q ≤ i → i < p → P (r.entries (slot r.cap i))
  carried : ∀ pc ∈ producer, P pc.entry
  written : ∀ e tail, producer = some (.storeTail e tail) → P (r.entries (slot r.cap p))
  read : ∀ e head, consumer = some (.storeHead e head) → P e

namespace RingAll
variable {r r' : Ring α} {p q : ℕ} {producer : Option (PushPc α)} {consumer : Option (PopPc α)}

theorem create (P : α → Prop) (capacity : UInt32) (m : ℕ → α) :
    RingAll P (Ring.create capacity m) 0 0 none none where
  counts := SharedCount.create capacity
  window i _ hi := absurd hi (Nat.not_lt_zero i)
  carried := by simp
  written := by simp
  read := by simp

theorem mono (H : RingAll P r p q producer consumer) (hPQ : ∀ e, P e → Q e) :
    RingAll Q r p q producer consumer where
  counts := H.counts
  window i hq hp := hPQ _ (H.window i hq hp)
  carried pc hpc := hPQ _ (H.carried pc hpc)
  written e tail h := hPQ _ (H.written e tail h)
  read e head h := hPQ _ (H.read e head h)

/-- Nothing is known, and nothing need be, about the entries of an empty ring. -/
theorem of_empty (H : RingAll P r p q none consumer) (hempty : r.cursor.tail = r.cursor.head) :
    RingAll Q r p q none consumer := by
  have hpq : p = q := H.counts.cursors.empty_iff.mp hempty
  refine ⟨H.counts, ?_, by simp, by simp, ?_⟩
  · intro i hq hp
    omega
  · intro e head hcons
    have hne := (H.counts.consumer_counts _ hcons).2
    omega

theorem beginPush (H : RingAll P r p q none consumer) {e : α} (he : P e) :
    RingAll P r p q (some (.loadHead e)) consumer where
  counts := H.counts.beginPush e
  window := H.window
  carried := by simpa [PushPc.entry] using he
  written := by simp
  read := H.read

theorem beginPop (H : RingAll P r p q producer none) :
    RingAll P r p q producer (some .loadTail) :=
  ⟨H.counts.beginPop, H.window, H.carried, H.written, by simp⟩

theorem endPush (H : RingAll P r p q producer consumer) : RingAll P r p q none consumer :=
  ⟨H.counts.endPush, H.window, by simp, by simp, H.read⟩

theorem endPop (H : RingAll P r p q producer consumer) : RingAll P r p q producer none :=
  ⟨H.counts.endPop, H.window, H.carried, H.written, by simp⟩

/-- A slot write may hit a queued entry; it replaces it by one that satisfies `P`. -/
theorem push_running {pc pc' : PushPc α} (H : RingAll P r p q (some pc) consumer)
    (hs : pushStep r pc = (r', .running pc')) : RingAll P r' p q (some pc') consumer := by
  have hcounts := H.counts.push_running hs
  have hentry : P pc.entry := H.carried pc rfl
  have hcarried : ∀ pc'' ∈ some pc', P pc''.entry := by
    rintro _ ⟨⟩
    rw [(pushStep_running hs).2]
    exact hentry
  cases PushMove.of_pushStep hs with
  | loadHead | loadTail => exact ⟨hcounts, H.window, hcarried, by simp, H.read⟩
  | writeSlot e tail =>
    obtain ⟨rfl, -⟩ := H.counts.producer_counts _ rfl
    have hslots : ∀ i, slot r.cap i = slot r.cap p ∨ P (r.entries (slot r.cap i)) →
        P ((r.writeSlot r.cursor.tail e).entries (slot r.cap i)) := by
      intro i hi
      rw [H.counts.cursors.tail_eq, Ring.entries_writeSlot_ofNat]
      by_cases heq : slot r.cap i = slot r.cap p
      · rw [heq, Function.update_self]
        exact hentry
      · rw [Function.update_of_ne heq]
        exact hi.resolve_left heq
    refine ⟨hcounts, ?_, hcarried, ?_, H.read⟩
    · intro i hq hp
      exact hslots i (.inr (H.window i hq hp))
    · intro e' tail' _
      exact hslots p (.inl rfl)

theorem push_ok {pc : PushPc α} (H : RingAll P r p q (some pc) consumer)
    (hs : pushStep r pc = (r', .returned .ok)) : RingAll P r' (p + 1) q none consumer := by
  have hcounts := H.counts.push_ok hs
  rcases pushStep_returned hs with ⟨hst, -⟩ | ⟨-, e, tail, rfl, rfl⟩
  · simp at hst
  · refine ⟨hcounts, ?_, by simp, by simp, H.read⟩
    intro i hq hp
    rcases Nat.lt_succ_iff_lt_or_eq.mp hp with hlt | rfl
    · exact H.window i hq hlt
    · exact H.written e tail rfl

theorem pop_running {pc pc' : PopPc α} (H : RingAll P r p q producer (some pc))
    (hs : popStep r pc = (r', .running pc')) : RingAll P r' p q producer (some pc') := by
  have hcounts := H.counts.pop_running hs
  obtain ⟨rfl, hmove⟩ := PopMove.of_popStep hs
  refine ⟨hcounts, H.window, H.carried, H.written, ?_⟩
  rintro e head ⟨⟩
  cases hmove
  obtain ⟨rfl, hne⟩ := H.counts.consumer_counts _ rfl
  rw [H.counts.cursors.head_eq, Ring.readSlot_ofNat]
  exact H.window q le_rfl hne

theorem pop_some {pc : PopPc α} {e : α} (H : RingAll P r p q producer (some pc))
    (hs : popStep r pc = (r', .returned (some e))) :
    RingAll P r' p (q + 1) producer none ∧ P e := by
  have hcounts := H.counts.pop_some hs
  rcases popStep_returned hs with ⟨hres, -⟩ | ⟨e', head, hres, rfl, rfl⟩
  · simp at hres
  · obtain rfl : e = e' := by simpa using hres
    refine ⟨⟨hcounts, ?_, H.carried, H.written, by simp⟩, H.read e head rfl⟩
    intro i hq hp
    exact H.window i (Nat.le_of_succ_le hq) hp

end RingAll

end MemRpc
