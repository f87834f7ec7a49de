import MemRpc.Rpc.ResponsePath

/-!
# Requests pending on a broken session

`MarkSessionBroken` announces the break on the response eventfd, the eventfd of
ordinary replies. The response worker consumes the signal, finds that `PopResponse`
refuses the broken session, and polls again: nothing on this path looks at the pending
store. A request that was published and is unresolved when the session breaks stays in
the store, except when the worker already has its reply in its hands.

`ResolvedAtBreak` is the condition that no such request exists when the state word is
set, and `Unpending` the invariant that it gives for the broken session.
-/

namespace MemRpc

open Concurrency

/-! ## The property and its condition -/

/-- The worker has read the reply to `id` from the ring and is going to resolve it. -/
def WorkerPc.resolves (id : UInt64) : WorkerPc → Bool
  | .popping _ _ (.storeHead e _) | .signalling e | .delivering e =>
    e.requestId == id && e.messageKind != messageKindEvent
  | _ => false

namespace ResponsePath

/-- Once the worker has consumed the signal of a break and is back at its poll, no
published request is left in the store. -/
def NoneStranded (s : ResponsePath) : Prop :=
  s.breakConsumed = true → s.worker = .polling → ∀ id ∈ s.published, id ∉ s.store

/-- Every published request is resolved or its reply is in the worker's hands. -/
def Settled (s : ResponsePath) : Prop :=
  ∀ id ∈ s.published, id ∈ s.store → s.worker.resolves id = true

-- By the list: `UInt64` is also a `Fintype`, and deciding over the type would try all ids.
instance (s : ResponsePath) : Decidable s.Settled :=
  List.decidableBAll (fun id => id ∈ s.store → s.worker.resolves id = true) s.published

end ResponsePath

/-- An alive session is set to broken only with all published requests settled. -/
def ResolvedAtBreak (s : ResponsePath) : ResponseAction → Prop
  | .markBroken => s.state = .alive → s.marker = .outside → s.Settled
  | _ => True

instance (s : ResponsePath) : (a : ResponseAction) → Decidable (ResolvedAtBreak s a)
  | .markBroken => inferInstanceAs (Decidable (_ → _ → _))
  | .respond _ | .writer | .writerTimeout | .worker | .pollTimeout | .put _ | .submit _
  | .expire _ => .isTrue trivial

/-! ## The invariant -/

namespace ResponsePath
variable {s s' : ResponsePath}

/-- A broken session is settled, and a break that was signalled left it broken. -/
structure Unpending (s : ResponsePath) : Prop where
  settled : s.state = .broken → s.Settled
  marked : s.breakSignalled = true ∨ s.marker ≠ .outside → s.state = .broken
  consumed : s.breakConsumed = true → s.breakSignalled = true

/-- Nothing is pending while the worker has no reply in its hands. -/
theorem Settled.of_idle (h : s.Settled) (hidle : ∀ id, s.worker.resolves id = false) :
    ∀ id ∈ s.published, id ∉ s.store := by
  intro id hid hstore
  have hresolves := h id hid hstore
  simp [hidle id] at hresolves

/-- A worker without a reply in its hands may go anywhere. -/
theorem Settled.setWorker (h : s.Settled) (hidle : ∀ id, s.worker.resolves id = false)
    (hpublished : s'.published = s.published) (hstore : s'.store = s.store) : s'.Settled := by
  intro id hid hmem
  rw [hpublished] at hid
  rw [hstore] at hmem
  exact absurd hmem (h.of_idle hidle id hid)

theorem Settled.workerMove (h : s.Settled) (hmove : WorkerMove s s') : s'.Settled := by
  cases hmove with
  | @running d nf pc pc' hpc hs =>
    refine h.setWorker ?_ rfl rfl
    intro id
    cases (PopMove.of_popStep hs).2 <;> simp [hpc, WorkerPc.resolves]
  | @popped d nf pc r e hpc hs =>
    -- the reply stays in the worker's hands through its head store
    rcases popStep_returned hs with ⟨hres, -⟩ | ⟨e', head, hres, rfl, rfl⟩
    · simp at hres
    · obtain rfl : e = e' := by simpa using hres
      intro id hid hmem
      have hresolves := h id hid hmem
      rw [hpc] at hresolves
      cases nf <;> exact hresolves
  | @signal e hpc =>
    intro id hid hmem
    have hresolves := h id hid hmem
    rw [hpc] at hresolves
    exact hresolves
  | @event e hpc hkind =>
    refine h.setWorker ?_ rfl rfl
    intro id
    simp [hpc, WorkerPc.resolves, hkind]
  | @resolve e hpc =>
    intro id hid hmem
    simp only [mem_takeId] at hmem
    have hresolves := h id hid hmem.1
    simp only [hpc, WorkerPc.resolves, Bool.and_eq_true, beq_iff_eq] at hresolves
    exact absurd hresolves.1.symm hmem.2
  | @empty d nf pc hpc hs =>
    refine h.setWorker ?_ rfl rfl
    intro id
    rcases popStep_returned hs with ⟨-, -, tail, rfl, -⟩ | ⟨e, head, hres, -⟩
    · simp [hpc, WorkerPc.resolves]
    · simp at hres
  | count hpc | enter hpc _ | refused hpc _ | sync hpc | consume hpc =>
    refine h.setWorker ?_ rfl rfl
    intro id
    simp [hpc, WorkerPc.resolves]

/-- The shared state word and the marks are those of a broken session. -/
theorem Unpending.frame (H : s.Unpending) (hstate : s'.state = s.state)
    (hmarker : s'.marker = s.marker) (hsignalled : s'.breakSignalled = s.breakSignalled)
    (hconsumed : s'.breakConsumed = true → s.breakConsumed = true ∨ s.breakSignalled = true)
    (hsettled : s.state = .broken → s.Settled → s'.Settled) : s'.Unpending where
  settled h := hsettled (hstate ▸ h) (H.settled (hstate ▸ h))
  marked h := by
    rw [hstate]
    rw [hsignalled, hmarker] at h
    exact H.marked h
  consumed h := by
    rw [hsignalled]
    exact (hconsumed h).elim H.consumed id

theorem Unpending.workerMove (H : s.Unpending) (hmove : WorkerMove s s') : s'.Unpending := by
  have hsettled : s.state = .broken → s.Settled → s'.Settled := fun _ h => h.workerMove hmove
  cases hmove with
  | consume hpc =>
    refine H.frame rfl rfl rfl ?_ hsettled
    intro h
    simpa using h
  | _ => exact H.frame rfl rfl rfl .inl hsettled

theorem Unpending.storeMove (H : s.Unpending) (hmove : StoreMove s s') : s'.Unpending := by
  cases hmove with
  | enter | pushed => exact H.frame rfl rfl rfl .inl fun _ h => h
  | accepted hpc hstate =>
    refine H.frame rfl rfl rfl .inl ?_
    intro hbroken
    simp [hstate] at hbroken
  | dropped =>
    refine H.frame rfl rfl rfl .inl ?_
    intro _ h id hid hmem
    exact h id hid (mem_takeId.mp hmem).1

theorem Unpending.markStep (H : s.Unpending) (hok : ResolvedAtBreak s .markBroken) :
    s.markStep.Unpending := by
  rw [ResponsePath.markStep]
  cases hmark : s.marker with
  | outside =>
    refine ⟨?_, fun _ => rfl, H.consumed⟩
    intro _
    cases hstate : s.state with
    | alive => exact hok hstate hmark
    | broken => exact H.settled hstate
  | removing =>
    have hbroken := H.marked (.inr (by simp [hmark]))
    exact ⟨H.settled, fun _ => hbroken, H.consumed⟩
  | signalling =>
    have hbroken := H.marked (.inr (by simp [hmark]))
    exact ⟨H.settled, fun _ => hbroken, fun _ => rfl⟩

theorem Unpending.move (H : s.Unpending) {a : ResponseAction} (hok : ResolvedAtBreak s a)
    (hmove : ResponseMove s a s') : s'.Unpending := by
  cases hmove with
  | respond e hpc => exact H.frame rfl rfl rfl .inl fun _ h => h
  | writer hwriter => cases hwriter <;> exact H.frame rfl rfl rfl .inl fun _ h => h
  | writerTimeout hpc => exact H.frame rfl rfl rfl .inl fun _ h => h
  | worker hworker => exact H.workerMove hworker
  | pollTimeout hpc =>
    refine H.frame rfl rfl rfl .inl ?_
    intro _ h
    refine h.setWorker ?_ rfl rfl
    intro id
    simp [hpc, WorkerPc.resolves]
  | put id hpc =>
    refine H.frame rfl rfl rfl .inl ?_
    intro _ h j hj hmem
    obtain ⟨hj, hne⟩ := mem_takeId.mp hj
    rcases List.mem_cons.mp hmem with heq | hold
    · exact absurd heq hne
    · exact h j hj (mem_takeId.mp hold).1
  | submit room hstore => exact H.storeMove hstore
  | expire id =>
    refine H.frame rfl rfl rfl .inl ?_
    intro _ h j hj hmem
    exact h j hj (mem_takeId.mp hmem).1
  | markBroken => exact H.markStep hok

theorem unpending_of_reach {capacity : RingCapacity} {m : ℕ → ResponseRingEntry}
    (h : (responsePath capacity m).Reach ResolvedAtBreak s) : s.Unpending := by
  refine Machine.Reach.invariant ?_ ?_ h
  · exact ⟨by simp [responsePath], by simp [responsePath], by simp [responsePath]⟩
  · intro s a s' H hok hs
    exact H.move hok (responsePath_move hs)

end ResponsePath

/-- In every run in which sessions are broken only with all published requests settled,
the break strands no published request. -/
theorem noneStranded_of_resolvedAtBreak (capacity : RingCapacity) (m : ℕ → ResponseRingEntry)
    {s : ResponsePath} (h : (responsePath capacity m).Reach ResolvedAtBreak s) :
    s.NoneStranded := by
  have H := ResponsePath.unpending_of_reach h
  intro hconsumed hpc
  have hbroken := H.marked (.inl (H.consumed hconsumed))
  refine (H.settled hbroken).of_idle ?_
  intro id
  simp [hpc, WorkerPc.resolves]

/-! ## The stranded request -/

/-- The default response ring over zeroed memory. -/
def defaultResponses : Machine ResponsePath ResponseAction :=
  responsePath ⟨8, validRingSize_eight⟩ fun _ => {}

/-- The submit thread puts request 1 into the store and publishes it. -/
def publishRequest : List ResponseAction := .put 1 :: List.replicate 3 (.submit true)

/-- The worker finds the ring empty and polls; the server breaks the session; the worker
consumes the signal, is refused by `PopResponse` and polls again. -/
def breakObserved : List ResponseAction :=
  List.replicate 5 .worker ++ List.replicate 3 .markBroken ++ List.replicate 4 .worker

theorem not_noneStranded_published :
    ∃ s, defaultResponses.run defaultResponses.init (publishRequest ++ breakObserved) = some s ∧
      ¬ s.NoneStranded := by
  have hrun : (defaultResponses.run defaultResponses.init
      (publishRequest ++ breakObserved)).any
      (fun s => s.breakConsumed = true ∧ s.worker = .polling ∧ 1 ∈ s.published ∧
        1 ∈ s.store) = true := by decide +kernel
  obtain ⟨s, hs, hstranded⟩ := Machine.exists_of_any hrun
  obtain ⟨hconsumed, hpc, hpublished, hstore⟩ := hstranded
  exact ⟨s, hs, fun h => h hconsumed hpc 1 hpublished hstore⟩

/-- The reply to request 1 is pushed, popped and resolved before the break. -/
def replyResolved : List ResponseAction :=
  .respond { requestId := 1 } :: List.replicate 7 .writer ++ List.replicate 7 .worker

theorem noneStranded_resolved :
    ∃ s, defaultResponses.runOk ResolvedAtBreak defaultResponses.init
        (publishRequest ++ replyResolved ++ breakObserved) = some s ∧
      s.breakConsumed = true ∧ 1 ∈ s.published ∧ s.NoneStranded := by
  have hrun : (defaultResponses.runOk ResolvedAtBreak defaultResponses.init
      (publishRequest ++ replyResolved ++ breakObserved)).any
      (fun s => s.breakConsumed = true ∧ 1 ∈ s.published) = true := by decide +kernel
  obtain ⟨s, hs, hbroken⟩ := Machine.exists_of_any hrun
  exact ⟨s, hs, hbroken.1, hbroken.2,
    noneStranded_of_resolvedAtBreak _ _ (Machine.reach_of_runOk _ hs)⟩

end MemRpc
