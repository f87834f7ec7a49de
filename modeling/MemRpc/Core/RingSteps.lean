import MemRpc.Core.Ring

/-!
# The ring calls, one shared access at a time

`PushRingEntry` and `PopRingEntry` touch the shared ring four times each. `PushPc`
and `PopPc` are the points between these accesses, together with the values the
caller holds in registers; `pushStep` and `popStep` perform the next access. A call
that is not interrupted is the call of `MemRpc.Core.Ring`.

`SharedRing r pushed popped producer consumer` extends `Ring.Holds` to the middle of
calls. The difficulty is that each side works with a stale copy of the other's
cursor. A stale copy is always safe: the head a producer read can only have grown
since, and so can the tail a consumer read.

## Main definitions

* `pushStep`, `popStep`: the next access of a call.
* `SharedCount`: what cursors and stale copies count, for every capacity.
* `SharedRing`: what the slots hold as well, while the window does not alias.
* `RingInvariant`: what a system with a ring needs of either.
-/

namespace MemRpc

open Concurrency Cyclic

universe u v w

variable {α : Type u}

/-- A call after one of its steps. -/
inductive Progress (π : Type u) (ρ : Type v)
  | running (pc : π)
  | returned (result : ρ)
  deriving DecidableEq, Repr

/-- The points of `PushRingEntry`. -/
inductive PushPc (α : Type u)
  | loadHead (entry : α)
  | loadTail (entry : α) (head : UInt32)
  | writeSlot (entry : α) (tail : UInt32)
  | storeTail (entry : α) (tail : UInt32)
  deriving DecidableEq, Repr

/-- The points of `PopRingEntry`. -/
inductive PopPc (α : Type u)
  | loadTail
  | loadHead (tail : UInt32)
  | readSlot (head : UInt32)
  | storeHead (entry : α) (head : UInt32)
  deriving DecidableEq, Repr

/-- The entry a push carries. -/
def PushPc.entry : PushPc α → α
  | .loadHead e | .loadTail e _ | .writeSlot e _ | .storeTail e _ => e

/-- The next shared access of a push. -/
def pushStep (r : Ring α) : PushPc α → Ring α × Progress (PushPc α) StatusCode
  | .loadHead entry => (r, .running (.loadTail entry r.cursor.head))
  | .loadTail entry head =>
    let tail := r.cursor.tail
    if tail - head ≥ r.cursor.capacity then
      (r, .returned .queueFull)
    else
      (r, .running (.writeSlot entry tail))
  | .writeSlot entry tail => (r.writeSlot tail entry, .running (.storeTail entry tail))
  | .storeTail _ tail => (r.storeTail (tail + 1), .returned .ok)

/-- The next shared access of a pop. -/
def popStep (r : Ring α) : PopPc α → Ring α × Progress (PopPc α) (Option α)
  | .loadTail => (r, .running (.loadHead r.cursor.tail))
  | .loadHead tail =>
    let head := r.cursor.head
    if tail = head then
      (r, .returned none)
    else
      (r, .running (.readSlot head))
  | .readSlot head => (r, .running (.storeHead (r.readSlot head) head))
  | .storeHead entry head => (r.storeHead (head + 1), .returned (some entry))

/-- A pop under way is going to take an entry, if the ring holds one. -/
def PopPc.takes (c : RingCursor) : PopPc α → Bool
  | .loadHead tail => tail != c.head
  | .loadTail | .readSlot _ | .storeHead _ _ => true

/-- Whether a pop takes an entry does not depend on the tail. -/
theorem PopPc.takes_congr {c c' : RingCursor} (h : c.head = c'.head) (pc : PopPc α) :
    pc.takes c = pc.takes c' := by
  cases pc <;> simp [takes, h]

/-- Run the remaining steps of a call with nobody else moving. -/
def runAlone {σ : Type u} {π : Type v} {ρ : Type w} (step : σ → π → σ × Progress π ρ) :
    ℕ → σ → π → Option (σ × ρ)
  | 0, _, _ => none
  | fuel + 1, s, pc =>
    match step s pc with
    | (s', .running pc') => runAlone step fuel s' pc'
    | (s', .returned result) => some (s', result)

/-- An undisturbed push is `pushRingEntry`. -/
theorem runAlone_pushStep (r : Ring α) (e : α) :
    runAlone pushStep 4 r (.loadHead e) =
      some ((pushRingEntry r e).2, (pushRingEntry r e).1) := by
  by_cases hfull : r.cursor.tail - r.cursor.head ≥ r.cursor.capacity
  · simp [runAlone, pushStep, pushRingEntry, hfull]
  · simp [runAlone, pushStep, pushRingEntry, hfull]

/-- An undisturbed pop is `popRingEntry`. -/
theorem runAlone_popStep (r : Ring α) :
    runAlone popStep 4 r .loadTail =
      some (((popRingEntry r).map Prod.snd).getD r, (popRingEntry r).map Prod.fst) := by
  by_cases hempty : r.cursor.tail = r.cursor.head
  · simp [runAlone, popStep, popRingEntry, hempty]
  · simp [runAlone, popStep, popRingEntry, hempty]

/-! ## Counting through stale copies -/

/-- What a producer in the middle of a push knows about the counts. -/
def PushPc.Counts (c : RingCursor) (p q : ℕ) : PushPc α → Prop
  | .loadHead _ => True
  | .loadTail _ head =>
    ∃ old ≤ q, head = UInt32.ofNat old ∧ p ≤ old + c.capacity.toNat
  | .writeSlot _ tail | .storeTail _ tail => tail = c.tail ∧ p < q + c.capacity.toNat

/-- What a consumer in the middle of a pop knows about the counts. -/
def PopPc.Counts (c : RingCursor) (p q : ℕ) : PopPc α → Prop
  | .loadTail => True
  | .loadHead tail => ∃ old, q ≤ old ∧ old ≤ p ∧ tail = UInt32.ofNat old
  | .readSlot head | .storeHead _ head => head = c.head ∧ q < p

/-- The cursors count `p` pushes and `q` pops, and so do the copies of both
sides. -/
structure SharedCount (c : RingCursor) (p q : ℕ) (producer : Option (PushPc α))
    (consumer : Option (PopPc α)) : Prop where
  cursors : CursorRep c p q
  producer_counts : ∀ pc ∈ producer, pc.Counts c p q
  consumer_counts : ∀ pc ∈ consumer, pc.Counts c p q

/-- A producer's copy survives a pop. -/
theorem PushPc.Counts.pop {c : RingCursor} {p q : ℕ} {pc : PushPc α} (h : pc.Counts c p q)
    (head : UInt32) : pc.Counts { c with head := head } p (q + 1) := by
  cases pc with
  | loadHead e => trivial
  | loadTail e hd =>
    obtain ⟨old, hle, hcopy, hroom⟩ := h
    exact ⟨old, Nat.le_succ_of_le hle, hcopy, hroom⟩
  | writeSlot | storeTail => exact ⟨h.1, h.2.trans_le (by simp)⟩

/-- A consumer's copy survives a push. -/
theorem PopPc.Counts.push {c : RingCursor} {p q : ℕ} {pc : PopPc α} (h : pc.Counts c p q)
    (tail : UInt32) : pc.Counts { c with tail := tail } (p + 1) q := by
  cases pc with
  | loadTail => trivial
  | loadHead t =>
    obtain ⟨old, hle, hp, hcopy⟩ := h
    exact ⟨old, hle, Nat.le_succ_of_le hp, hcopy⟩
  | readSlot | storeHead => exact ⟨h.1, Nat.lt_succ_of_lt h.2⟩

variable {r r' : Ring α}

/-- A push returns only from its full check, which leaves the ring alone, or from
its tail store. -/
theorem pushStep_returned {pc : PushPc α} {status : StatusCode}
    (hs : pushStep r pc = (r', .returned status)) :
    (status = .queueFull ∧ r' = r ∧
        ∃ e head, pc = .loadTail e head ∧ r.cursor.tail - head ≥ r.cursor.capacity) ∨
      (status = .ok ∧ ∃ e tail, pc = .storeTail e tail ∧ r' = r.storeTail (tail + 1)) := by
  cases pc with
  | loadHead e => simp [pushStep] at hs
  | loadTail e head =>
    by_cases hfull : r.cursor.tail - head ≥ r.cursor.capacity
    · simp only [pushStep, if_pos hfull, Prod.mk.injEq, Progress.returned.injEq] at hs
      exact .inl ⟨hs.2.symm, hs.1.symm, e, head, rfl, hfull⟩
    · simp [pushStep, if_neg hfull] at hs
  | writeSlot e tail => simp [pushStep] at hs
  | storeTail e tail =>
    simp only [pushStep, Prod.mk.injEq, Progress.returned.injEq] at hs
    exact .inr ⟨hs.2.symm, e, tail, rfl, hs.1.symm⟩

/-- A pop returns only from its empty check, which leaves the ring alone, or from
its head store. -/
theorem popStep_returned {pc : PopPc α} {result : Option α}
    (hs : popStep r pc = (r', .returned result)) :
    (result = none ∧ r' = r ∧ ∃ tail, pc = .loadHead tail ∧ tail = r.cursor.head) ∨
      ∃ e head, result = some e ∧ pc = .storeHead e head ∧ r' = r.storeHead (head + 1) := by
  cases pc with
  | loadTail => simp [popStep] at hs
  | loadHead tail =>
    by_cases hempty : tail = r.cursor.head
    · simp only [popStep, if_pos hempty, Prod.mk.injEq, Progress.returned.injEq] at hs
      exact .inl ⟨hs.2.symm, hs.1.symm, tail, rfl, hempty⟩
    · simp [popStep, if_neg hempty] at hs
  | readSlot head => simp [popStep] at hs
  | storeHead e head =>
    simp only [popStep, Prod.mk.injEq, Progress.returned.injEq] at hs
    exact .inr ⟨e, head, hs.2.symm, rfl, hs.1.symm⟩

/-- The accesses of a push before it returns. -/
inductive PushMove (r : Ring α) : PushPc α → Ring α → PushPc α → Prop
  | loadHead (e : α) : PushMove r (.loadHead e) r (.loadTail e r.cursor.head)
  | loadTail (e : α) (head : UInt32) (hroom : ¬ r.cursor.tail - head ≥ r.cursor.capacity) :
      PushMove r (.loadTail e head) r (.writeSlot e r.cursor.tail)
  | writeSlot (e : α) (tail : UInt32) :
      PushMove r (.writeSlot e tail) (r.writeSlot tail e) (.storeTail e tail)

theorem PushMove.of_pushStep {pc pc' : PushPc α}
    (hs : pushStep r pc = (r', .running pc')) : PushMove r pc r' pc' := by
  cases pc with
  | loadHead e =>
    cases hs
    exact .loadHead e
  | loadTail e head =>
    by_cases hfull : r.cursor.tail - head ≥ r.cursor.capacity
    · simp [pushStep, if_pos hfull] at hs
    · simp only [pushStep, if_neg hfull, Prod.mk.injEq, Progress.running.injEq] at hs
      obtain ⟨rfl, rfl⟩ := hs
      exact .loadTail e head hfull
  | writeSlot e tail =>
    cases hs
    exact .writeSlot e tail
  | storeTail e tail => cases hs

/-- The accesses of a pop before it returns; they leave the ring alone. -/
inductive PopMove (r : Ring α) : PopPc α → PopPc α → Prop
  | loadTail : PopMove r .loadTail (.loadHead r.cursor.tail)
  | loadHead (tail : UInt32) (hne : tail ≠ r.cursor.head) :
      PopMove r (.loadHead tail) (.readSlot r.cursor.head)
  | readSlot (head : UInt32) :
      PopMove r (.readSlot head) (.storeHead (r.readSlot head) head)

variable {pc pc' : PopPc α}

theorem PopMove.of_popStep (hs : popStep r pc = (r', .running pc')) :
    r' = r ∧ PopMove r pc pc' := by
  cases pc with
  | loadTail =>
    cases hs
    exact ⟨rfl, .loadTail⟩
  | loadHead tail =>
    by_cases hempty : tail = r.cursor.head
    · simp [popStep, if_pos hempty] at hs
    · simp only [popStep, if_neg hempty, Prod.mk.injEq, Progress.running.injEq] at hs
      obtain ⟨rfl, rfl⟩ := hs
      exact ⟨rfl, .loadHead tail hempty⟩
  | readSlot head =>
    cases hs
    exact ⟨rfl, .readSlot head⟩
  | storeHead e head => cases hs

/-- A pop that goes on is going to take an entry. -/
theorem PopMove.takes {r : Ring α} (h : PopMove r pc pc') :
    pc.takes r.cursor = true := by
  cases h with
  | loadHead tail hne => simpa [PopPc.takes] using hne
  | loadTail | readSlot => rfl

/-- A push that goes on has not moved the cursors. -/
theorem pushStep_running {pc pc' : PushPc α}
    (hs : pushStep r pc = (r', .running pc')) : r'.cursor = r.cursor ∧ pc'.entry = pc.entry := by
  cases PushMove.of_pushStep hs <;> exact ⟨rfl, rfl⟩

/-- A pop that goes on has not touched the ring. -/
theorem popStep_running (hs : popStep r pc = (r', .running pc')) : r' = r :=
  (PopMove.of_popStep hs).1

theorem capacity_pushStep (r : Ring α) (pc : PushPc α) :
    (pushStep r pc).1.cursor.capacity = r.cursor.capacity := by
  cases pc with
  | loadTail e head => simp only [pushStep]; split <;> rfl
  | _ => rfl

theorem capacity_popStep (r : Ring α) (pc : PopPc α) :
    (popStep r pc).1.cursor.capacity = r.cursor.capacity := by
  cases pc with
  | loadHead tail => simp only [popStep]; split <;> rfl
  | _ => rfl

/-- A consumer does not move the tail. -/
theorem tail_popStep (r : Ring α) (pc : PopPc α) :
    (popStep r pc).1.cursor.tail = r.cursor.tail := by
  cases pc with
  | loadHead tail => simp only [popStep]; split <;> rfl
  | _ => rfl

/-- The full check of a push is exact for the head it read. -/
theorem CursorRep.copy_full_iff {c : RingCursor} {p q old : ℕ} (h : CursorRep c p q)
    (hle : old ≤ q) (hroom : p ≤ old + c.capacity.toNat) :
    c.tail - UInt32.ofNat old ≥ c.capacity ↔ p = old + c.capacity.toNat := by
  have hstale : CursorRep { c with head := UInt32.ofNat old } p old :=
    ⟨h.tail_eq, rfl, hle.trans h.le, hroom⟩
  exact hstale.full_iff

/-- The empty check of a pop is exact for the tail it read. -/
theorem CursorRep.copy_empty_iff {c : RingCursor} {p q old : ℕ} (h : CursorRep c p q)
    (hle : q ≤ old) (hp : old ≤ p) : UInt32.ofNat old = c.head ↔ old = q := by
  have hroom := h.room
  have hstale : CursorRep { c with tail := UInt32.ofNat old } old q :=
    ⟨rfl, h.head_eq, hle, hp.trans hroom⟩
  exact hstale.empty_iff

namespace SharedCount
variable {r r' : Ring α} {c : RingCursor} {p q : ℕ} {producer : Option (PushPc α)}
  {consumer : Option (PopPc α)}

theorem create (capacity : UInt32) : SharedCount (α := α) { capacity } 0 0 none none where
  cursors := CursorRep.create capacity
  producer_counts := by simp
  consumer_counts := by simp

theorem beginPush (H : SharedCount c p q none consumer) (e : α) :
    SharedCount c p q (some (.loadHead e)) consumer where
  __ := H
  producer_counts := by simp [PushPc.Counts]

theorem beginPop (H : SharedCount c p q producer none) :
    SharedCount c p q producer (some .loadTail) where
  __ := H
  consumer_counts := by simp [PopPc.Counts]

/-- A producer may leave at any point. -/
theorem endPush (H : SharedCount c p q producer consumer) : SharedCount c p q none consumer where
  __ := H
  producer_counts := by simp

/-- A consumer may leave at any point. -/
theorem endPop (H : SharedCount c p q producer consumer) : SharedCount c p q producer none where
  __ := H
  consumer_counts := by simp

theorem push_running {pc pc' : PushPc α} (H : SharedCount r.cursor p q (some pc) consumer)
    (hs : pushStep r pc = (r', .running pc')) :
    SharedCount r'.cursor p q (some pc') consumer := by
  have hcursor := (pushStep_running hs).1
  have hpc : pc.Counts r.cursor p q := H.producer_counts pc rfl
  refine ⟨hcursor ▸ H.cursors, ?_, hcursor ▸ H.consumer_counts⟩
  rintro _ ⟨⟩
  rw [hcursor]
  cases PushMove.of_pushStep hs with
  | loadHead e => exact ⟨q, le_rfl, H.cursors.head_eq, H.cursors.room⟩
  | loadTail e head hfull =>
    obtain ⟨old, hle, rfl, hroom⟩ := hpc
    rw [H.cursors.copy_full_iff hle hroom] at hfull
    exact ⟨rfl, by omega⟩
  | writeSlot e tail => exact hpc

theorem push_ok {pc : PushPc α} (H : SharedCount r.cursor p q (some pc) consumer)
    (hs : pushStep r pc = (r', .returned .ok)) :
    SharedCount r'.cursor (p + 1) q none consumer := by
  rcases pushStep_returned hs with ⟨hst, -⟩ | ⟨-, e, tail, rfl, rfl⟩
  · simp at hst
  · obtain ⟨rfl, hroom⟩ := H.producer_counts _ rfl
    exact ⟨H.cursors.push hroom, by simp, fun pc hpc => (H.consumer_counts pc hpc).push _⟩

theorem pop_running (H : SharedCount r.cursor p q producer (some pc))
    (hs : popStep r pc = (r', .running pc')) :
    SharedCount r'.cursor p q producer (some pc') := by
  obtain ⟨rfl, hmove⟩ := PopMove.of_popStep hs
  have hpc : pc.Counts r'.cursor p q := H.consumer_counts pc rfl
  refine ⟨H.cursors, H.producer_counts, ?_⟩
  rintro _ ⟨⟩
  cases hmove with
  | loadTail => exact ⟨p, H.cursors.le, le_rfl, H.cursors.tail_eq⟩
  | loadHead tail hempty =>
    obtain ⟨old, hle, hp, rfl⟩ := hpc
    rw [ne_eq, H.cursors.copy_empty_iff hle hp] at hempty
    exact ⟨rfl, by omega⟩
  | readSlot head => exact hpc

theorem pop_some {pc : PopPc α} {e : α} (H : SharedCount r.cursor p q producer (some pc))
    (hs : popStep r pc = (r', .returned (some e))) :
    SharedCount r'.cursor p (q + 1) producer none := by
  rcases popStep_returned hs with ⟨hres, -⟩ | ⟨e', head, -, rfl, rfl⟩
  · simp at hres
  · obtain ⟨rfl, hne⟩ := H.consumer_counts _ rfl
    exact ⟨H.cursors.pop hne, fun pc hpc => (H.producer_counts pc hpc).pop _, by simp⟩

end SharedCount

/-! ## The slots in the middle of calls -/

/-- The ring stands for the histories `pushed` and `popped` with a push and a pop
under way: a written but unpublished slot holds the entry of its push, and an
entry read but not yet released is the oldest unpopped one. -/
structure SharedRing (r : Ring α) (pushed popped : List α) (producer : Option (PushPc α))
    (consumer : Option (PopPc α)) : Prop where
  holds : r.Holds pushed popped
  counts : SharedCount r.cursor pushed.length popped.length producer consumer
  written : ∀ e tail, producer = some (.storeTail e tail) →
    r.entries (slot r.cap pushed.length) = e
  read : ∀ e head, consumer = some (.storeHead e head) → pushed[popped.length]? = some e

namespace SharedRing
variable {r r' : Ring α} {pushed popped : List α} {producer : Option (PushPc α)}
  {consumer : Option (PopPc α)}

theorem create (capacity : UInt32) (m : ℕ → α) :
    SharedRing (Ring.create capacity m) [] [] none none where
  holds := Ring.Holds.create capacity m
  counts := SharedCount.create capacity
  written := by simp
  read := by simp

theorem beginPush (H : SharedRing r pushed popped none consumer) (e : α) :
    SharedRing r pushed popped (some (.loadHead e)) consumer :=
  ⟨H.holds, H.counts.beginPush e, by simp, H.read⟩

theorem beginPop (H : SharedRing r pushed popped producer none) :
    SharedRing r pushed popped producer (some .loadTail) :=
  ⟨H.holds, H.counts.beginPop, H.written, by simp⟩

theorem endPush (H : SharedRing r pushed popped producer consumer) :
    SharedRing r pushed popped none consumer :=
  ⟨H.holds, H.counts.endPush, by simp, H.read⟩

theorem endPop (H : SharedRing r pushed popped producer consumer) :
    SharedRing r pushed popped producer none :=
  ⟨H.holds, H.counts.endPop, H.written, by simp⟩

/-- The slot write is the only running step that needs distinct slots. -/
theorem push_running {pc pc' : PushPc α} (H : SharedRing r pushed popped (some pc) consumer)
    (halias : ∀ e tail, pc = .writeSlot e tail → NoAlias r.cap (pushed.length + 1))
    (hs : pushStep r pc = (r', .running pc')) :
    SharedRing r' pushed popped (some pc') consumer := by
  have hcounts := H.counts.push_running hs
  cases PushMove.of_pushStep hs with
  | loadHead | loadTail => exact ⟨H.holds, hcounts, by simp, H.read⟩
  | writeSlot e tail =>
    obtain ⟨rfl, hroom⟩ := H.counts.producer_counts _ rfl
    have hslots := H.holds.slots_write e hroom (halias e _ rfl)
    refine ⟨⟨H.holds.cursors, H.holds.isPrefix, hslots⟩, hcounts, ?_, H.read⟩
    intro e' tail' heq
    simp only [Option.some.injEq, PushPc.storeTail.injEq] at heq
    rw [H.holds.cursors.tail_eq, Ring.entries_writeSlot_ofNat, Ring.cap_writeSlot,
      Function.update_self]
    exact heq.1

theorem push_ok {pc : PushPc α} (H : SharedRing r pushed popped (some pc) consumer)
    (hs : pushStep r pc = (r', .returned .ok)) :
    SharedRing r' (pushed ++ [pc.entry]) popped none consumer := by
  have hcounts := H.counts.push_ok hs
  rcases pushStep_returned hs with ⟨hst, -⟩ | ⟨-, e, tail, rfl, rfl⟩
  · simp at hst
  · obtain ⟨rfl, hroom⟩ := H.counts.producer_counts _ rfl
    refine ⟨H.holds.storeTail hroom (H.written e _ rfl), ?_, by simp, ?_⟩
    · rw [List.length_append, List.length_singleton]
      exact hcounts
    · intro e' head hcons
      have hread := H.read e' head hcons
      have hlt := (List.getElem?_eq_some_iff.mp hread).1
      rw [List.getElem?_append_left hlt]
      exact hread

theorem pop_running (H : SharedRing r pushed popped producer (some pc))
    (hs : popStep r pc = (r', .running pc')) :
    SharedRing r' pushed popped producer (some pc') := by
  have hcounts := H.counts.pop_running hs
  obtain ⟨rfl, hmove⟩ := PopMove.of_popStep hs
  refine ⟨H.holds, hcounts, H.written, ?_⟩
  rintro e head ⟨⟩
  cases hmove
  obtain ⟨rfl, hne⟩ := H.counts.consumer_counts _ rfl
  rw [H.holds.readSlot_head hne, List.getElem?_eq_getElem hne]

theorem pop_some {pc : PopPc α} {e : α} (H : SharedRing r pushed popped producer (some pc))
    (hs : popStep r pc = (r', .returned (some e))) :
    SharedRing r' pushed (popped ++ [e]) producer none ∧ pushed[popped.length]? = some e := by
  have hcounts := H.counts.pop_some hs
  rcases popStep_returned hs with ⟨hres, -⟩ | ⟨e', head, hres, rfl, rfl⟩
  · simp at hres
  · obtain rfl : e = e' := by simpa using hres
    obtain ⟨rfl, hne⟩ := H.counts.consumer_counts _ rfl
    have hread := H.read e _ rfl
    have he : pushed[popped.length] = e := (List.getElem?_eq_some_iff.mp hread).2
    refine ⟨⟨he ▸ H.holds.storeHead hne, ?_, H.written, by simp⟩, hread⟩
    rw [List.length_append, List.length_singleton]
    exact hcounts

end SharedRing

/-! ## Ring relations of larger systems

A system that contains a ring moves it only by the steps above. `RingInvariant R`
collects what a relation between a ring, its histories and the two calls under way
has to satisfy so that the system keeps it; both readings of a shared ring do. -/

/-- `R` is kept by all steps of both calls, where `guard` holds of the push steps. -/
structure RingInvariant
    (R : Ring α → List α → List α → Option (PushPc α) → Option (PopPc α) → Prop)
    (guard : Ring α → List α → PushPc α → Prop) : Prop where
  create : ∀ capacity m, R (Ring.create capacity m) [] [] none none
  beginPush : ∀ {r pushed popped consumer} (e : α), R r pushed popped none consumer →
    R r pushed popped (some (.loadHead e)) consumer
  beginPop : ∀ {r pushed popped producer}, R r pushed popped producer none →
    R r pushed popped producer (some .loadTail)
  endPush : ∀ {r pushed popped producer consumer}, R r pushed popped producer consumer →
    R r pushed popped none consumer
  endPop : ∀ {r pushed popped producer consumer}, R r pushed popped producer consumer →
    R r pushed popped producer none
  push_running : ∀ {r r' pushed popped consumer pc pc'}, R r pushed popped (some pc) consumer →
    guard r pushed pc → pushStep r pc = (r', .running pc') →
    R r' pushed popped (some pc') consumer
  push_ok : ∀ {r r' pushed popped consumer pc}, R r pushed popped (some pc) consumer →
    pushStep r pc = (r', .returned .ok) → R r' (pushed ++ [pc.entry]) popped none consumer
  pop_running : ∀ {r r' pushed popped producer pc pc'}, R r pushed popped producer (some pc) →
    popStep r pc = (r', .running pc') → R r' pushed popped producer (some pc')
  pop_some : ∀ {r r' pushed popped producer pc e}, R r pushed popped producer (some pc) →
    popStep r pc = (r', .returned (some e)) → R r' pushed (popped ++ [e]) producer none

/-- The counting part of a shared ring, over histories. -/
def RingCounts (r : Ring α) (pushed popped : List α) (producer : Option (PushPc α))
    (consumer : Option (PopPc α)) : Prop :=
  SharedCount r.cursor pushed.length popped.length producer consumer

/-- A push step never needs a guard to be counted. -/
def NoGuard (_ : Ring α) (_ : List α) (_ : PushPc α) : Prop := True

/-- A slot write needs distinct slots in the current window. -/
def SlotGuard (r : Ring α) (pushed : List α) (pc : PushPc α) : Prop :=
  ∀ e tail, pc = .writeSlot e tail → NoAlias r.cap (pushed.length + 1)

instance (r : Ring α) (pushed : List α) : (pc : PushPc α) → Decidable (SlotGuard r pushed pc)
  | .loadHead _ => .isTrue (by simp [SlotGuard])
  | .loadTail _ _ => .isTrue (by simp [SlotGuard])
  | .writeSlot e tail =>
    decidable_of_iff (NoAlias r.cap (pushed.length + 1))
      ⟨fun h _ _ _ => h, fun h => h e tail rfl⟩
  | .storeTail _ _ => .isTrue (by simp [SlotGuard])

theorem ringCounts_invariant : RingInvariant (RingCounts (α := α)) NoGuard where
  create capacity m := SharedCount.create capacity
  beginPush e H := SharedCount.beginPush H e
  beginPop H := SharedCount.beginPop H
  endPush H := SharedCount.endPush H
  endPop H := SharedCount.endPop H
  push_running H _ hs := SharedCount.push_running H hs
  push_ok H hs := by
    rw [RingCounts, List.length_append, List.length_singleton]
    exact SharedCount.push_ok H hs
  pop_running H hs := SharedCount.pop_running H hs
  pop_some H hs := by
    rw [RingCounts, List.length_append, List.length_singleton]
    exact SharedCount.pop_some H hs

theorem sharedRing_invariant : RingInvariant (SharedRing (α := α)) SlotGuard where
  create := SharedRing.create
  beginPush e H := H.beginPush e
  beginPop H := H.beginPop
  endPush H := H.endPush
  endPop H := H.endPop
  push_running H hguard hs := H.push_running hguard hs
  push_ok H hs := H.push_ok hs
  pop_running H hs := H.pop_running hs
  pop_some H hs := (H.pop_some hs).1

end MemRpc
