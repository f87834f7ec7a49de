import MemRpc.Lib.Machine
import MemRpc.Core.RingSteps

/-!
# One producer and one consumer on a shared ring

The system of a ring, one thread that pushes and one thread that pops, with every
shared access a step of its own. A schedule fixes the interleaving; calls start and
end at any time and a run may be long enough for the cursors to wrap.

The purpose of the ring is `boundedQueue`, a list that accepts an entry while it is
shorter than the capacity. For a capacity that divides `2 ^ 32` the system refines
it: entries enter the queue at the tail store and leave it at the head store.
-/

namespace MemRpc

open Concurrency Cyclic

universe u

variable {α : Type u}

/-! ## The abstract queue -/

/-- What can happen to a queue. -/
inductive QueueOp (α : Type u)
  | enqueue (entry : α)
  | dequeue

/-- A first-in first-out queue of at most `cap` entries. -/
def boundedQueue (α : Type u) (cap : ℕ) : Machine (List α) (QueueOp α) where
  init := []
  step queue
    | .enqueue entry => if queue.length < cap then some (queue ++ [entry]) else none
    | .dequeue =>
      match queue with
      | [] => none
      | _ :: rest => some rest

theorem boundedQueue_length_le {cap : ℕ} {queue : List α}
    (h : (boundedQueue α cap).Reach Machine.Always queue) : queue.length ≤ cap := by
  refine Machine.Reach.invariant (I := fun l => l.length ≤ cap) (Nat.zero_le cap) ?_ h
  intro l a l' hl _ hs
  cases a with
  | enqueue e =>
    by_cases hroom : l.length < cap
    · simp only [boundedQueue, if_pos hroom, Option.some.injEq] at hs
      rw [← hs, List.length_append, List.length_singleton]
      exact hroom
    · simp [boundedQueue, if_neg hroom] at hs
  | dequeue =>
    cases l with
    | nil => simp [boundedQueue] at hs
    | cons x xs =>
      simp only [boundedQueue, Option.some.injEq] at hs
      rw [← hs]
      exact (Nat.le_succ _).trans hl

/-! ## The shared ring -/

/-- The ring, the two threads, and what they have done so far. -/
structure Spsc (α : Type u) where
  ring : Ring α
  producer : Option (PushPc α) := none
  consumer : Option (PopPc α) := none
  pushed : List α := []
  popped : List α := []
  /-- The slot reads made so far. -/
  reads : ℕ := 0

/-- Who moves: a thread that is outside a call enters one, a thread inside a call
makes its next access. -/
inductive SpscAction (α : Type u)
  | beginPush (entry : α)
  | producer
  | beginPop
  | consumer

namespace Spsc

/-- The producer's next access. -/
def produce (s : Spsc α) (pc : PushPc α) : Spsc α :=
  match pushStep s.ring pc with
  | (r, .running pc') => { s with ring := r, producer := some pc' }
  | (r, .returned .ok) =>
    { s with ring := r, producer := none, pushed := s.pushed ++ [pc.entry] }
  | (r, .returned _) => { s with ring := r, producer := none }

/-- A slot read counts once. -/
def readsAfter (reads : ℕ) : PopPc α → ℕ
  | .readSlot _ => reads + 1
  | _ => reads

/-- The consumer's next access. -/
def consume (s : Spsc α) (pc : PopPc α) : Spsc α :=
  match popStep s.ring pc with
  | (r, .running pc') =>
    { s with ring := r, consumer := some pc', reads := readsAfter s.reads pc }
  | (r, .returned (some entry)) =>
    { s with ring := r, consumer := none, popped := s.popped ++ [entry] }
  | (r, .returned none) => { s with ring := r, consumer := none }

end Spsc

/-- The interleavings of one producer and one consumer over the slots `m`. -/
def spsc (capacity : UInt32) (m : ℕ → α) : Machine (Spsc α) (SpscAction α) where
  init := { ring := Ring.create capacity m }
  step s
    | .beginPush entry =>
      match s.producer with
      | none => some { s with producer := some (.loadHead entry) }
      | some _ => none
    | .producer => s.producer.map s.produce
    | .beginPop =>
      match s.consumer with
      | none => some { s with consumer := some .loadTail }
      | some _ => none
    | .consumer => s.consumer.map s.consume

namespace Spsc

/-- The slot reads run ahead of the pops by the entry in the consumer's hands. -/
def ReadsRep (s : Spsc α) : Prop :=
  match s.consumer with
  | some (.storeHead _ _) => s.reads = s.popped.length + 1
  | _ => s.reads = s.popped.length

/-- The invariant of every interleaving. -/
structure Inv (capacity : UInt32) (s : Spsc α) : Prop where
  shared : SharedRing s.ring s.pushed s.popped s.producer s.consumer
  capacity_eq : s.ring.cursor.capacity = capacity
  reads_rep : s.ReadsRep

variable {capacity : UInt32} {s s' : Spsc α}

theorem Inv.cap_eq (H : s.Inv capacity) : s.ring.cap = capacity.toNat :=
  congrArg UInt32.toNat H.capacity_eq

theorem inv_init (capacity : UInt32) (m : ℕ → α) : (spsc capacity m).init.Inv capacity :=
  ⟨SharedRing.create capacity m, rfl, rfl⟩

/-- A producer step keeps the invariant. -/
theorem Inv.produce (H : s.Inv capacity) (hdvd : capacity.toNat ∣ 2 ^ 32) {pc : PushPc α}
    (hpc : s.producer = some pc) : (s.produce pc).Inv capacity := by
  have hshared := H.shared
  have hcap := capacity_pushStep s.ring pc
  rw [hpc] at hshared
  simp only [Spsc.produce]
  rcases hs : pushStep s.ring pc with ⟨r, pc' | status⟩
  · rw [hs] at hcap
    have halias : NoAlias s.ring.cap (s.pushed.length + 1) := Or.inl (H.cap_eq ▸ hdvd)
    exact ⟨hshared.push_running (fun _ _ _ => halias) hs, hcap.trans H.capacity_eq, H.reads_rep⟩
  · rw [hs] at hcap
    rcases pushStep_returned hs with ⟨rfl, rfl, -⟩ | ⟨rfl, -⟩
    · exact ⟨hshared.endPush, H.capacity_eq, H.reads_rep⟩
    · exact ⟨hshared.push_ok hs, hcap.trans H.capacity_eq, H.reads_rep⟩

/-- The read counter follows the consumer's point. -/
theorem ReadsRep.running {r : Ring α} {pc pc' : PopPc α} (hpc : s.consumer = some pc)
    (hs : popStep s.ring pc = (r, .running pc')) (h : s.ReadsRep) :
    ({ s with ring := r, consumer := some pc', reads := readsAfter s.reads pc } : Spsc α).ReadsRep := by
  simp only [ReadsRep, hpc] at h ⊢
  cases (PopMove.of_popStep hs).2 with
  | loadTail | loadHead => exact h
  | readSlot head => exact congrArg (· + 1) h

/-- A consumer step keeps the invariant. -/
theorem Inv.consume (H : s.Inv capacity) {pc : PopPc α} (hpc : s.consumer = some pc) :
    (s.consume pc).Inv capacity := by
  have hshared := H.shared
  have hreads := H.reads_rep
  have hcap := capacity_popStep s.ring pc
  rw [hpc] at hshared
  simp only [Spsc.consume]
  rcases hs : popStep s.ring pc with ⟨r, pc' | result⟩
  · rw [hs] at hcap
    exact ⟨hshared.pop_running hs, hcap.trans H.capacity_eq, hreads.running hpc hs⟩
  · rw [hs] at hcap
    rcases popStep_returned hs with ⟨rfl, rfl, tail, rfl, -⟩ | ⟨e, head, rfl, rfl, -⟩
    · simp only [ReadsRep, hpc] at hreads
      exact ⟨hshared.endPop, H.capacity_eq, hreads⟩
    · simp only [ReadsRep, hpc] at hreads
      refine ⟨(hshared.pop_some hs).1, hcap.trans H.capacity_eq, ?_⟩
      simp only [ReadsRep, List.length_append, List.length_singleton]
      exact hreads

/-- Every step keeps the invariant. -/
theorem Inv.step (H : s.Inv capacity) (hdvd : capacity.toNat ∣ 2 ^ 32) {m : ℕ → α}
    {a : SpscAction α} (hs : (spsc capacity m).step s a = some s') : s'.Inv capacity := by
  have hshared := H.shared
  have hreads := H.reads_rep
  cases a with
  | beginPush e =>
    cases hp : s.producer with
    | some pc => simp [spsc, hp] at hs
    | none =>
      simp only [spsc, hp, Option.some.injEq] at hs
      rw [hp] at hshared
      subst hs
      exact ⟨hshared.beginPush e, H.capacity_eq, hreads⟩
  | producer =>
    simp only [spsc, Option.map_eq_some_iff] at hs
    obtain ⟨pc, hpc, rfl⟩ := hs
    exact H.produce hdvd hpc
  | beginPop =>
    cases hc : s.consumer with
    | some pc => simp [spsc, hc] at hs
    | none =>
      simp only [spsc, hc, Option.some.injEq] at hs
      rw [hc] at hshared
      simp only [ReadsRep, hc] at hreads
      subst hs
      exact ⟨hshared.beginPop, H.capacity_eq, hreads⟩
  | consumer =>
    simp only [spsc, Option.map_eq_some_iff] at hs
    obtain ⟨pc, hpc, rfl⟩ := hs
    exact H.consume hpc

theorem inv_of_reach (hdvd : capacity.toNat ∣ 2 ^ 32) {m : ℕ → α}
    (h : (spsc capacity m).Reach Machine.Always s) : s.Inv capacity :=
  Machine.Reach.invariant (inv_init capacity m) (fun _ _ _ H _ hs => H.step hdvd hs) h

/-- The `k`-th entry that is popped is the `k`-th that was pushed. -/
theorem getElem?_pushed (hdvd : capacity.toNat ∣ 2 ^ 32) {m : ℕ → α}
    (h : (spsc capacity m).Reach Machine.Always s) {k : ℕ} {e : α} (hk : s.popped[k]? = some e) :
    s.pushed[k]? = some e := by
  obtain ⟨hlt, rfl⟩ := List.getElem?_eq_some_iff.mp hk
  exact List.prefix_iff_getElem?.mp (inv_of_reach hdvd h).shared.holds.isPrefix k hlt

/-- The consumer reads no further than one entry past its pops. -/
theorem Inv.popped_le_reads (H : s.Inv capacity) : s.popped.length ≤ s.reads := by
  have hreads := H.reads_rep
  rw [ReadsRep] at hreads
  split at hreads <;> omega

/-- The slot a producer is about to write holds no entry that still has to be
read. -/
def WriteIsFree (s : Spsc α) : Prop :=
  ∀ e tail, s.producer = some (.writeSlot e tail) →
    ∀ i, s.reads ≤ i → i < s.pushed.length →
      (tail % s.ring.cursor.capacity).toNat ≠ slot s.ring.cap i

theorem Inv.writeIsFree (H : s.Inv capacity) (hdvd : capacity.toNat ∣ 2 ^ 32) :
    s.WriteIsFree := by
  intro e tail hpc i hread hi
  obtain ⟨rfl, hroom⟩ := H.shared.counts.producer_counts _ hpc
  have hle := H.popped_le_reads
  have halias : NoAlias s.ring.cap (s.pushed.length + 1) := Or.inl (H.cap_eq ▸ hdvd)
  rw [H.shared.counts.cursors.tail_eq, toNat_ofNat_mod]
  refine (halias.slot_ne (Nat.lt_succ_self _) hi ?_).symm
  exact hroom.trans_le (Nat.add_le_add_right (hle.trans hread) _)

/-! ## Refinement of the bounded queue -/

/-- The entries between the two cursors. -/
def queued (s : Spsc α) : List α := s.pushed.drop s.popped.length

theorem length_queued (s : Spsc α) :
    s.queued.length = s.pushed.length - s.popped.length := List.length_drop

/-- A producer step enqueues at the tail store and is invisible otherwise. -/
theorem Inv.queued_produce (H : s.Inv capacity) {pc : PushPc α} (hpc : s.producer = some pc) :
    (s.produce pc).queued = s.queued ∨
      (s.queued.length < capacity.toNat ∧
        (s.produce pc).queued = s.queued ++ [pc.entry]) := by
  simp only [Spsc.produce]
  rcases hs : pushStep s.ring pc with ⟨r, pc' | status⟩
  · exact .inl rfl
  · rcases pushStep_returned hs with ⟨rfl, -⟩ | ⟨rfl, e, tail, rfl, -⟩
    · exact .inl rfl
    · right
      obtain ⟨-, hroom⟩ := H.shared.counts.producer_counts _ hpc
      have hle := H.shared.counts.cursors.le
      refine ⟨?_, List.drop_append_of_le_length hle⟩
      rw [length_queued, ← H.capacity_eq]
      omega

/-- A consumer step dequeues at the head store and is invisible otherwise. -/
theorem Inv.queued_consume (H : s.Inv capacity) {pc : PopPc α} (hpc : s.consumer = some pc) :
    (s.consume pc).queued = s.queued ∨ ∃ e, s.queued = e :: (s.consume pc).queued := by
  have hshared := H.shared
  rw [hpc] at hshared
  simp only [Spsc.consume]
  rcases hs : popStep s.ring pc with ⟨r, pc' | result⟩
  · exact .inl rfl
  · cases result with
    | none => exact .inl rfl
    | some e =>
      right
      obtain ⟨hlt, he⟩ := List.getElem?_eq_some_iff.mp (hshared.pop_some hs).2
      refine ⟨e, ?_⟩
      simp only [queued, List.length_append, List.length_singleton]
      rw [List.drop_eq_getElem_cons hlt, he]

/-- The shared ring is a bounded queue for every capacity that divides `2 ^ 32`. -/
theorem refines_boundedQueue (hdvd : capacity.toNat ∣ 2 ^ 32) (m : ℕ → α) :
    (spsc capacity m).Refines Machine.Always (boundedQueue α capacity.toNat) queued where
  init := rfl
  step := by
    intro s a s' hreach _ hs
    have H := inv_of_reach hdvd hreach
    cases a with
    | beginPush e =>
      cases hp : s.producer with
      | some pc => simp [spsc, hp] at hs
      | none =>
        simp only [spsc, hp, Option.some.injEq] at hs
        exact .inl (hs ▸ rfl)
    | producer =>
      simp only [spsc, Option.map_eq_some_iff] at hs
      obtain ⟨pc, hpc, rfl⟩ := hs
      rcases H.queued_produce hpc with hstay | ⟨hroom, hnext⟩
      · exact .inl hstay
      · exact .inr ⟨.enqueue pc.entry, by simp [boundedQueue, if_pos hroom, hnext]⟩
    | beginPop =>
      cases hc : s.consumer with
      | some pc => simp [spsc, hc] at hs
      | none =>
        simp only [spsc, hc, Option.some.injEq] at hs
        exact .inl (hs ▸ rfl)
    | consumer =>
      simp only [spsc, Option.map_eq_some_iff] at hs
      obtain ⟨pc, hpc, rfl⟩ := hs
      rcases H.queued_consume hpc with hstay | ⟨e, hnext⟩
      · exact .inl hstay
      · exact .inr ⟨.dequeue, by simp [boundedQueue, hnext]⟩

/-- The cursor distance is the length of the queue. -/
theorem Inv.toNat_ringCount (H : s.Inv capacity) :
    (ringCount s.ring.cursor).toNat = s.queued.length := by
  rw [length_queued]
  exact H.shared.counts.cursors.toNat_ringCount

end Spsc

/-- Over every interleaving and every length of run, popped entries are a prefix of
the pushed ones, the wrapped cursor distance stays within the capacity, and a slot
write never hits an entry that still has to be read. -/
theorem spsc_correct {capacity : UInt32} (hdvd : capacity.toNat ∣ 2 ^ 32) (m : ℕ → α)
    {s : Spsc α} (h : (spsc capacity m).Reach Machine.Always s) :
    s.popped <+: s.pushed ∧
      (s.ring.cursor.tail - s.ring.cursor.head).toNat ≤ capacity.toNat ∧ s.WriteIsFree := by
  have H := Spsc.inv_of_reach hdvd h
  have hqueue := boundedQueue_length_le ((Spsc.refines_boundedQueue hdvd m).reach h)
  refine ⟨H.shared.holds.isPrefix, ?_, H.writeIsFree hdvd⟩
  calc (s.ring.cursor.tail - s.ring.cursor.head).toNat
      = s.queued.length := H.toNat_ringCount
    _ ≤ capacity.toNat := hqueue

/-- Push 5 and pop it at the default capacity while a second push, of 6, is about to
write its slot. -/
def spscSchedule : List (SpscAction ℕ) :=
  .beginPush 5 :: List.replicate 4 .producer ++ .beginPop :: List.replicate 3 .consumer ++
    .beginPush 6 :: List.replicate 2 .producer ++ [.consumer]

theorem spsc_correct_eight :
    ∃ s, (spsc 8 fun _ => 0).run (spsc 8 fun _ => 0).init spscSchedule = some s ∧
      s.popped = [5] ∧ s.producer = some (.writeSlot 6 1) ∧ s.popped <+: s.pushed ∧
      (s.ring.cursor.tail - s.ring.cursor.head).toNat ≤ 8 ∧ s.WriteIsFree :=
  ⟨_, rfl, rfl, rfl,
    spsc_correct (show (8 : UInt32).toNat ∣ 2 ^ 32 by decide) (fun _ => 0)
      (Machine.reach_of_run spscSchedule rfl)⟩

end MemRpc
