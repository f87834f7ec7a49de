import MemRpc.Rpc.ResponsePath

/-!
# Response credit

A response writer that finds the ring full waits for `respCreditEventFd`, and the
client signals it after a pop that made a full ring not full. `DrainResponseRing`
decides this from a ring count it reads *before* the pop. If the writer fills the ring
between that read and the pop, the client pops from a full ring without signalling.

`FillsSeen` excludes exactly this store. Under it a full ring is always popped by a
worker that is going to signal (`popsSignal`), so a writer that has seen a full ring
finds a credit or a pending signal as soon as the ring is not full.
-/

namespace MemRpc

open Concurrency

/-! ## The property and its condition -/

namespace ResponsePath

/-- The worker is past its count, which read a ring that was not full, and is going to
pop. -/
def popsUnsignalled (s : ResponsePath) : Bool :=
  match s.worker with
  | .checking _ false => s.state == .alive
  | .popping _ false pc => pc.takes s.ring.cursor
  | _ => false

/-- The ring has no free slot. -/
def IsFull (s : ResponsePath) : Prop :=
  s.ring.cursor.tail - s.ring.cursor.head ≥ s.ring.cursor.capacity

instance (s : ResponsePath) : Decidable s.IsFull := inferInstanceAs (Decidable (_ ≥ _))

/-- The writer waits for response credit. -/
def writerBlocked (s : ResponsePath) : Bool :=
  match s.writer with
  | .waiting _ => true
  | _ => false

/-- The worker has popped and is about to send the signal it decided on. -/
def signalPending (s : ResponsePath) : Bool :=
  match s.worker with
  | .signalling _ => true
  | _ => false

/-- A blocked writer of a ring with room has a credit or a pending signal. -/
def CreditKept (s : ResponsePath) : Prop :=
  s.writerBlocked = true → ¬ s.IsFull → s.credit ≠ 0 ∨ s.signalPending = true

/-- The tail store of the writer is about to fill the ring. -/
def fillsRing (s : ResponsePath) : Bool :=
  match s.writer with
  | .pushing (.storeTail _ tail) =>
    decide (tail + 1 - s.ring.cursor.head ≥ s.ring.cursor.capacity)
  | _ => false

end ResponsePath

/-- No tail store fills the ring while the worker is on its way to a pop for which it
has decided not to signal. -/
def FillsSeen (s : ResponsePath) : ResponseAction → Prop
  | .writer => s.fillsRing = true → s.popsUnsignalled = false
  | _ => True

instance (s : ResponsePath) : (a : ResponseAction) → Decidable (FillsSeen s a)
  | .writer => inferInstanceAs (Decidable (_ → _))
  | .respond _ | .writerTimeout | .worker | .pollTimeout | .put _ | .submit _ | .expire _
  | .markBroken => .isTrue trivial

/-! ## Counting -/

/-- The push the writer has under way. -/
def WriterPc.pushOf : WriterPc → Option (PushPc ResponseRingEntry)
  | .pushing pc => some pc
  | _ => none

/-- The pop the worker has under way. -/
def WorkerPc.popOf : WorkerPc → Option (PopPc ResponseRingEntry)
  | .popping _ _ pc => some pc
  | _ => none

namespace ResponsePath
variable {s s' : ResponsePath}

/-- The cursors count what was pushed and popped. -/
def Counts (s : ResponsePath) : Prop :=
  RingCounts s.ring s.pushed s.popped s.writer.pushOf s.worker.popOf

theorem popOf_drainReturn (s : ResponsePath) (d : Bool) :
    (s.drainReturn d).worker.popOf = none := by
  cases d <;> rfl

theorem Counts.writerMove (H : s.Counts) (hmove : WriterMove s s') : s'.Counts := by
  have hR := ringCounts_invariant (α := ResponseRingEntry)
  rw [Counts] at H
  cases hmove with
  | @enter e hpc =>
    rw [hpc] at H
    exact hR.beginPush e H
  | running hpc hs =>
    rw [hpc] at H
    exact hR.push_running H trivial hs
  | stored hpc hs =>
    rw [hpc] at H
    exact hR.push_ok H hs
  | _ => exact hR.endPush H

theorem Counts.workerMove (H : s.Counts) (hmove : WorkerMove s s') : s'.Counts := by
  have hR := ringCounts_invariant (α := ResponseRingEntry)
  rw [Counts] at H
  cases hmove with
  | @enter d nf hpc hstate =>
    rw [hpc] at H
    exact hR.beginPop H
  | refused hpc hstate =>
    rw [Counts, popOf_drainReturn]
    exact hR.endPop H
  | running hpc hs =>
    rw [hpc] at H
    exact hR.pop_running H hs
  | empty hpc hs =>
    rw [Counts, popOf_drainReturn]
    exact hR.endPop H
  | @popped d nf pc r e hpc hs =>
    rw [hpc] at H
    cases nf <;> exact hR.pop_some H hs
  | _ => exact hR.endPop H

theorem Counts.move (H : s.Counts) {a : ResponseAction} (hmove : ResponseMove s a s') :
    s'.Counts := by
  have hR := ringCounts_invariant (α := ResponseRingEntry)
  cases hmove with
  | respond e hpc => exact hR.endPush H
  | writer hwriter => exact H.writerMove hwriter
  | writerTimeout hpc => exact hR.endPush H
  | worker hworker => exact H.workerMove hworker
  | pollTimeout hpc => exact hR.endPop H
  | put id hpc => exact H
  | submit room hstore => cases hstore <;> exact H
  | expire id => exact H
  | markBroken =>
    rw [markStep]
    split <;> exact H

/-! ## The invariant -/

/-- The writer has read cursors of a full ring and is going to wait. -/
def seesFull (s : ResponsePath) : Bool :=
  match s.writer with
  | .pushing (.loadTail _ head) => decide (s.ring.cursor.tail - head ≥ s.ring.cursor.capacity)
  | .full _ | .waiting _ => true
  | _ => false

/-- A full ring is popped only by a worker that is going to signal, and a writer that
saw a full ring has its way out once the ring is not full. -/
structure CreditInv (s : ResponsePath) : Prop where
  counts : s.Counts
  capacity_ne : s.ring.cursor.capacity ≠ 0
  popsSignal : s.IsFull → s.popsUnsignalled = false
  seen : s.seesFull = true → ¬ s.IsFull → s.credit ≠ 0 ∨ s.signalPending = true

theorem popsUnsignalled_congr (hworker : s'.worker = s.worker) (hstate : s'.state = s.state)
    (hhead : s'.ring.cursor.head = s.ring.cursor.head) :
    s'.popsUnsignalled = s.popsUnsignalled := by
  simp only [popsUnsignalled, hworker, hstate, PopPc.takes_congr hhead]

/-- The count before a pop recognises a full ring. -/
theorem CreditInv.countsFull (H : s.CreditInv) (hfull : s.IsFull) :
    countsFull s.ring.cursor = true := by
  have hcursors := H.counts.cursors
  have hpq := hcursors.full_iff.mp hfull
  have hcount := hcursors.toNat_ringCount
  have heq : ringCount s.ring.cursor = s.ring.cursor.capacity := by
    apply UInt32.toNat_inj.mp
    omega
  simp [ResponsePath.countsFull, H.capacity_ne, heq]

/-- Writer steps that leave the ring and the credit alone, and after which the writer
has not newly seen a full ring. -/
theorem CreditInv.setWriter (H : s.CreditInv) {pc : WriterPc} {event : ℕ}
    (hcounts : ({ s with writer := pc, respEvent := event } : ResponsePath).Counts)
    (hseen : ({ s with writer := pc, respEvent := event } : ResponsePath).seesFull = true →
      ¬ s.IsFull → s.seesFull = true) :
    ({ s with writer := pc, respEvent := event } : ResponsePath).CreditInv where
  counts := hcounts
  capacity_ne := H.capacity_ne
  popsSignal := H.popsSignal
  seen h hnot := H.seen (hseen h hnot) hnot

variable {r : Ring ResponseRingEntry}

/-- One access of the writer's push that does not return. -/
theorem CreditInv.pushRunning (H : s.CreditInv) {pc pc' : PushPc ResponseRingEntry}
    (hpc : s.writer = .pushing pc) (hs : pushStep s.ring pc = (r, .running pc'))
    (hcounts : ({ s with ring := r, writer := .pushing pc' } : ResponsePath).Counts) :
    ({ s with ring := r, writer := .pushing pc' } : ResponsePath).CreditInv := by
  have hcursor := (pushStep_running hs).1
  refine ⟨hcounts, ?_, ?_, ?_⟩
  · change r.cursor.capacity ≠ 0
    rw [hcursor]
    exact H.capacity_ne
  · intro hfull
    simp only [IsFull, hcursor] at hfull
    have hhead := congrArg RingCursor.head hcursor
    exact (popsUnsignalled_congr (by rfl) (by rfl) hhead).trans (H.popsSignal hfull)
  · intro hsees hnot
    simp only [IsFull, hcursor] at hnot
    cases PushMove.of_pushStep hs with
    | loadHead e =>
      -- the copy is the current head, so the check is the one of the ring itself
      simp only [seesFull, decide_eq_true_eq] at hsees
      exact absurd hsees hnot
    | loadTail | writeSlot => simp [seesFull] at hsees

/-- The tail store: the worker sees a ring that it fills. -/
theorem CreditInv.stored (H : s.CreditInv) (hok : FillsSeen s .writer)
    {pc : PushPc ResponseRingEntry} (hpc : s.writer = .pushing pc)
    (hs : pushStep s.ring pc = (r, .returned .ok))
    (hcounts : ({ s with
      ring := r
      pushed := s.pushed ++ [pc.entry]
      writer := .rechecking pc.entry } : ResponsePath).Counts) :
    ({ s with
      ring := r
      pushed := s.pushed ++ [pc.entry]
      writer := .rechecking pc.entry } : ResponsePath).CreditInv := by
  rcases pushStep_returned hs with ⟨hst, -⟩ | ⟨-, e, tail, rfl, rfl⟩
  · simp at hst
  · refine ⟨hcounts, H.capacity_ne, ?_, by simp [seesFull]⟩
    intro hfull
    have hpops := hok (by simpa [fillsRing, hpc, IsFull] using hfull)
    exact (popsUnsignalled_congr (by rfl) (by rfl) (by rfl)).trans hpops

theorem CreditInv.writerMove (H : s.CreditInv) (hok : FillsSeen s .writer)
    (hmove : WriterMove s s') : s'.CreditInv := by
  have hcounts := H.counts.writerMove hmove
  cases hmove with
  | running hpc hs => exact H.pushRunning hpc hs hcounts
  | stored hpc hs => exact H.stored hok hpc hs hcounts
  | full hpc hs =>
    refine H.setWriter hcounts ?_
    rcases pushStep_returned hs with ⟨-, -, e, head, rfl, hfull⟩ | ⟨hst, -⟩
    · intro _ _
      simpa [seesFull, hpc] using hfull
    · simp at hst
  | wait hpc => exact H.setWriter hcounts (by simp [seesFull, hpc])
  | wake hpc => exact ⟨hcounts, H.capacity_ne, H.popsSignal, by simp [seesFull]⟩
  | enter | refused | accepted | signal => exact H.setWriter hcounts (by simp [seesFull])

/-- Worker steps that leave the ring and the credit alone, outside a pending signal and
not newly on the way to an unsignalled pop. -/
theorem CreditInv.setWorker (H : s.CreditInv) {pc : WorkerPc} {store : List UInt64} {event : ℕ}
    {consumed : Bool}
    (hcounts : ({ s with
      worker := pc
      store := store
      respEvent := event
      breakConsumed := consumed } : ResponsePath).Counts)
    (hpending : s.signalPending = false)
    (hpops : ({ s with worker := pc } : ResponsePath).popsUnsignalled = true → s.IsFull →
      s.popsUnsignalled = true) :
    ({ s with
      worker := pc
      store := store
      respEvent := event
      breakConsumed := consumed } : ResponsePath).CreditInv where
  counts := hcounts
  capacity_ne := H.capacity_ne
  popsSignal := by
    intro hfull
    by_contra hne
    rw [Bool.not_eq_false] at hne
    have hbefore := hpops hne hfull
    rw [H.popsSignal hfull] at hbefore
    simp at hbefore
  seen := by
    intro hsees hnot
    rcases H.seen hsees hnot with hcredit | hsignal
    · exact .inl hcredit
    · simp [hpending] at hsignal

theorem CreditInv.drainReturn (H : s.CreditInv) {d : Bool} (hcounts : (s.drainReturn d).Counts)
    (hpending : s.signalPending = false) : (s.drainReturn d).CreditInv := by
  cases d with
  | true => exact H.setWorker hcounts hpending (by simp [popsUnsignalled])
  | false => exact H.setWorker hcounts hpending (by simp [popsUnsignalled])

/-- The head store: a worker that pops from a full ring goes on to signal. -/
theorem CreditInv.popped (H : s.CreditInv) {d nf : Bool} {pc : PopPc ResponseRingEntry}
    {e : ResponseRingEntry} (hpc : s.worker = .popping d nf pc)
    (hs : popStep s.ring pc = (r, .returned (some e)))
    (hcounts : ({ s with
      ring := r
      popped := s.popped ++ [e]
      worker := if nf then .signalling e else .delivering e } : ResponsePath).Counts) :
    ({ s with
      ring := r
      popped := s.popped ++ [e]
      worker := if nf then .signalling e else .delivering e } : ResponsePath).CreditInv := by
  rcases popStep_returned hs with ⟨hres, -⟩ | ⟨e', head, hres, rfl, rfl⟩
  · simp at hres
  · refine ⟨hcounts, H.capacity_ne, ?_, ?_⟩
    · intro _
      cases nf <;> rfl
    · intro hsees _
      by_cases hfull : s.IsFull
      · have hpops := H.popsSignal hfull
        cases nf with
        | true => exact .inr rfl
        | false => simp [popsUnsignalled, hpc, PopPc.takes] at hpops
      · rcases H.seen hsees hfull with hcredit | hsignal
        · exact .inl hcredit
        · simp [signalPending, hpc] at hsignal

theorem CreditInv.workerMove (H : s.CreditInv) (hmove : WorkerMove s s') : s'.CreditInv := by
  have hcounts := H.counts.workerMove hmove
  cases hmove with
  | @count d hpc =>
    refine H.setWorker hcounts (by simp [signalPending, hpc]) ?_
    intro hpops hfull
    simp [popsUnsignalled, H.countsFull hfull] at hpops
  | @enter d nf hpc hstate =>
    refine H.setWorker hcounts (by simp [signalPending, hpc]) ?_
    intro hpops _
    cases nf with
    | true => simp [popsUnsignalled] at hpops
    | false => simp [popsUnsignalled, hpc, hstate]
  | refused hpc hstate => exact H.drainReturn hcounts (by simp [signalPending, hpc])
  | @running d nf pc pc' hpc hs =>
    refine H.setWorker hcounts (by simp [signalPending, hpc]) ?_
    intro hpops _
    cases nf with
    | true => simp [popsUnsignalled] at hpops
    | false => simp [popsUnsignalled, hpc, (PopMove.of_popStep hs).2.takes]
  | empty hpc hs => exact H.drainReturn hcounts (by simp [signalPending, hpc])
  | popped hpc hs => exact H.popped hpc hs hcounts
  | signal hpc =>
    exact ⟨hcounts, H.capacity_ne, fun _ => rfl, fun _ _ => .inl (Nat.succ_ne_zero _)⟩
  | event hpc | resolve hpc | sync hpc | consume hpc =>
    exact H.setWorker hcounts (by simp [signalPending, hpc]) (by simp [popsUnsignalled])

/-- Breaking the session only stops pops. -/
theorem CreditInv.markStep (H : s.CreditInv) : s.markStep.CreditInv := by
  have hcounts : s.markStep.Counts := H.counts.move .markBroken
  rw [ResponsePath.markStep] at hcounts ⊢
  cases hmark : s.marker with
  | outside =>
    simp only [hmark] at hcounts
    refine ⟨hcounts, H.capacity_ne, ?_, H.seen⟩
    intro hfull
    have hpops := H.popsSignal hfull
    cases hworker : s.worker with
    | checking d nf => cases nf <;> simp [popsUnsignalled]
    | popping d nf pc =>
      rw [popsUnsignalled, hworker] at hpops
      cases nf with
      | true => rfl
      | false => exact hpops
    | _ => rfl
  | removing | signalling =>
    simp only [hmark] at hcounts
    exact ⟨hcounts, H.capacity_ne, H.popsSignal, H.seen⟩

theorem CreditInv.move (H : s.CreditInv) {a : ResponseAction} (hok : FillsSeen s a)
    (hmove : ResponseMove s a s') : s'.CreditInv := by
  have hcounts := H.counts.move hmove
  cases hmove with
  | respond e hpc => exact H.setWriter hcounts (by simp [seesFull])
  | writer hwriter => exact H.writerMove hok hwriter
  | writerTimeout hpc => exact H.setWriter hcounts (by simp [seesFull])
  | worker hworker => exact H.workerMove hworker
  | pollTimeout hpc =>
    exact H.setWorker hcounts (by simp [signalPending, hpc]) (by simp [popsUnsignalled])
  | put id hpc => exact ⟨hcounts, H.capacity_ne, H.popsSignal, H.seen⟩
  | submit room hstore =>
    cases hstore <;> exact ⟨hcounts, H.capacity_ne, H.popsSignal, H.seen⟩
  | expire id => exact ⟨hcounts, H.capacity_ne, H.popsSignal, H.seen⟩
  | markBroken => exact H.markStep

theorem creditInv_of_reach {capacity : RingCapacity} {m : ℕ → ResponseRingEntry}
    (h : (responsePath capacity m).Reach FillsSeen s) : s.CreditInv := by
  refine Machine.Reach.invariant ?_ ?_ h
  · refine ⟨ringCounts_invariant.create _ _, ?_, fun _ => rfl, by simp [responsePath, seesFull]⟩
    intro hzero
    have hpos := capacity.pos
    have hsize : capacity.size.toNat = 0 := congrArg UInt32.toNat hzero
    omega
  · intro s a s' H hok hs
    exact H.move hok (responsePath_move hs)

end ResponsePath

/-- In every run whose tail stores never fill the ring behind the worker's count, a
writer that waits for response credit while the ring has room has a credit or a signal
that the worker is about to send. -/
theorem creditKept_of_fillsSeen (capacity : RingCapacity) (m : ℕ → ResponseRingEntry)
    {s : ResponsePath} (h : (responsePath capacity m).Reach FillsSeen s) : s.CreditKept := by
  have H := ResponsePath.creditInv_of_reach h
  intro hblocked hroom
  refine H.seen ?_ hroom
  cases hpc : s.writer with
  | waiting e => simp [ResponsePath.seesFull, hpc]
  | _ => simp [ResponsePath.writerBlocked, hpc] at hblocked

/-! ## The losing interleaving -/

/-- A response ring of one slot over zeroed memory. -/
def oneSlotResponses : Machine ResponsePath ResponseAction :=
  responsePath ⟨1, validRingSize_one⟩ fun _ => {}

/-- The writer pushes an entry to a ring with room, up to the signal. -/
def respondOne : List ResponseAction := .respond {} :: List.replicate 7 .writer

/-- The writer meets a full ring and waits. -/
def respondBlocked : List ResponseAction := .respond {} :: List.replicate 4 .writer

/-- The worker counts an empty ring, the writer fills it and blocks on the next entry,
and the worker pops. -/
def lostCreditSchedule : List ResponseAction :=
  [.worker] ++ respondOne ++ respondBlocked ++ List.replicate 5 .worker

theorem not_creditKept_lost :
    ∃ s, oneSlotResponses.run oneSlotResponses.init lostCreditSchedule = some s ∧
      s.state = .alive ∧ ¬ s.CreditKept := by
  have hrun : (oneSlotResponses.run oneSlotResponses.init lostCreditSchedule).any
      (fun s => s.state = .alive ∧ s.writerBlocked = true ∧ ¬ s.IsFull ∧ s.credit = 0 ∧
        s.signalPending = false) = true := by decide +kernel
  obtain ⟨s, hs, hlost⟩ := Machine.exists_of_any hrun
  obtain ⟨hstate, hblocked, hroom, hcredit, hpending⟩ := hlost
  refine ⟨s, hs, hstate, ?_⟩
  intro hkept
  rcases hkept hblocked hroom with hsome | hsignal
  · exact hsome hcredit
  · simp [hpending] at hsignal

/-- The worker counts only after the ring is full, and decides to signal. -/
def keptCreditSchedule : List ResponseAction :=
  respondOne ++ respondBlocked ++ List.replicate 6 .worker

theorem creditKept_signalled :
    ∃ s, oneSlotResponses.runOk FillsSeen oneSlotResponses.init keptCreditSchedule = some s ∧
      s.writerBlocked = true ∧ ¬ s.IsFull ∧ s.CreditKept := by
  have hrun : (oneSlotResponses.runOk FillsSeen oneSlotResponses.init keptCreditSchedule).any
      (fun s => s.writerBlocked = true ∧ ¬ s.IsFull) = true := by decide +kernel
  obtain ⟨s, hs, hroom⟩ := Machine.exists_of_any hrun
  exact ⟨s, hs, hroom.1, hroom.2,
    creditKept_of_fillsSeen _ _ (Machine.reach_of_runOk keptCreditSchedule hs)⟩

end MemRpc
