import MemRpc.Rpc.WorkerPool

/-!
# The tasks of a thread pool

What `TaskExecutor` promises of `ThreadPoolExecutor`. A single producer that has been told of
capacity is not refused before `Stop`. The workers remove the tasks in the order in which they
were submitted, and every task that was accepted has been executed once when `Stop` returns,
since a worker leaves its loop only when the pool is stopped and the queue is empty.

Between removing a task and calling it a worker holds no lock, so with two workers a later
task can begin before an earlier one; with one worker it cannot.

## Main definitions

* `WorkerPool.Follows`: a `ThreadPool` with the queue and the tasks of a `WorkerPool`.
* `WorkerPool.TaskInv`, `WorkerPool.StopInv`.

## Main results

* `WorkerPool.Follows.of_reach`, `tasks_executed_of_reach`.
-/

namespace MemRpc

open Concurrency

/-- The task that a worker has removed and not finished. -/
def PoolWorkerPc.hand : PoolWorkerPc → Multiset ℕ
  | .notifying task | .starting task | .executing task => {task}
  | _ => 0

/-- The task that a worker has removed and not begun. -/
def PoolWorkerPc.unstarted : PoolWorkerPc → List ℕ
  | .notifying task | .starting task => [task]
  | _ => []

namespace WorkerPool

variable {n : ℕ} {s s' : WorkerPool n} {i : Fin n} {pc : PoolWorkerPc}

/-! ## Tasks in the hands of workers -/

/-- The tasks that have been removed and not finished. -/
def inHands (s : WorkerPool n) : Multiset ℕ := ∑ i, (s.worker i).hand

variable {task : ℕ}

theorem mem_inHands (h : task ∈ (s.worker i).hand) : task ∈ s.inHands := by
  rw [inHands, Multiset.mem_sum]
  exact ⟨i, Finset.mem_univ i, h⟩

/-- A worker without a task leaves room for one. -/
theorem card_inHands_lt (h : (s.worker i).hand = 0) : s.inHands.card < n := by
  have hle : ∀ pc : PoolWorkerPc, pc.hand.card ≤ 1 := by
    intro pc
    cases pc <;> simp [PoolWorkerPc.hand]
  have hlt : ∑ j, (s.worker j).hand.card < ∑ _j : Fin n, 1 :=
    Finset.sum_lt_sum (fun j _ => hle _) ⟨i, Finset.mem_univ i, by simp [h]⟩
  simpa [inHands, Multiset.card_sum] using hlt

theorem inHands_setWorker (s : WorkerPool n) (i : Fin n) (pc : PoolWorkerPc) :
    (s.setWorker i pc).inHands + (s.worker i).hand = s.inHands + pc.hand := by
  have hupdate : ∀ j, ((s.setWorker i pc).worker j).hand =
      Function.update (fun j => (s.worker j).hand) i pc.hand j := by
    intro j
    by_cases hj : j = i
    · subst hj
      simp
    · simp [worker_setWorker_of_ne hj, hj]
  simp only [inHands, hupdate]
  rw [Finset.sum_update_of_mem (Finset.mem_univ i), Finset.sdiff_singleton_eq_erase,
    ← Finset.add_sum_erase _ _ (Finset.mem_univ i)]
  abel

/-- A worker goes on with the task in its hands, or without one. -/
theorem inHands_of_hand_eq (h : pc.hand = (s.worker i).hand) :
    (s.setWorker i pc).inHands = s.inHands := by
  have hsum := s.inHands_setWorker i pc
  rw [h] at hsum
  exact Multiset.add_left_inj.mp hsum

/-- What a notification changes: some that were blocked look at their predicates again. -/
structure Woken (s s' : WorkerPool n) : Prop where
  worker : ∀ j, s'.worker j = s.worker j ∨ s'.worker j = .checking ∧ s.worker j = .waiting
  producer : s'.producer = s.producer ∨ s'.producer = .checking
  frame : s' = { s with producer := s'.producer, worker := s'.worker }

theorem Notified.woken (h : Notified s s') : Woken s s' := by
  cases h with
  | nobody => exact ⟨fun _ => .inl rfl, .inl rfl, rfl⟩
  | producer => exact ⟨fun _ => .inl rfl, .inr rfl, rfl⟩
  | @worker i hi =>
    refine ⟨fun j => ?_, .inl rfl, rfl⟩
    by_cases hj : j = i
    · subst hj
      exact .inr ⟨worker_setWorker_self, hi⟩
    · exact .inl (worker_setWorker_of_ne hj)

theorem woken_notifyAll (s : WorkerPool n) : Woken s s.notifyAll := by
  refine ⟨fun j => ?_, ?_, rfl⟩
  · simp only [notifyAll]
    split
    · rename_i hj
      exact .inr ⟨rfl, hj⟩
    · exact .inl rfl
  · simp only [notifyAll]
    split
    · exact .inr rfl
    · exact .inl rfl

namespace Woken

theorem hand (h : Woken s s') (j : Fin n) : (s'.worker j).hand = (s.worker j).hand := by
  rcases h.worker j with hj | ⟨hj, hold⟩
  · rw [hj]
  · rw [hj, hold]
    rfl

theorem unstarted (h : Woken s s') (j : Fin n) :
    (s'.worker j).unstarted = (s.worker j).unstarted := by
  rcases h.worker j with hj | ⟨hj, hold⟩
  · rw [hj]
  · rw [hj, hold]
    rfl

theorem inHands (h : Woken s s') : s'.inHands = s.inHands :=
  Finset.sum_congr rfl fun j _ => h.hand j

end Woken

/-! ## One critical section of the queue at a time -/

/-- What happens to a `ThreadPool`. -/
inductive PoolStep (p : ThreadPool ℕ) : ThreadPool ℕ → Prop
  | submit (task : ℕ) : PoolStep p (p.trySubmit task)
  | take {p' : ThreadPool ℕ} (h : p.takeTask = some p') : PoolStep p p'
  | finish {k : ℕ} {p' : ThreadPool ℕ} (h : p.finishTask k = some p') : PoolStep p p'
  | stop : PoolStep p p.stop

/-- `p` is the pool `s` without the points of its threads. -/
structure Follows (p : ThreadPool ℕ) (s : WorkerPool n) : Prop where
  threads : p.threads = n
  queueCapacity : p.queueCapacity = n
  running : p.running = s.running
  queue : p.queue = s.queue
  executing : (p.executing : Multiset ℕ) = s.inHands

namespace Follows

variable {p : ThreadPool ℕ}

theorem hasCapacity (F : Follows p s) : p.hasCapacity = s.hasCapacity := by
  rw [ThreadPool.hasCapacity, F.running, F.queue, F.queueCapacity, WorkerPool.hasCapacity]

theorem of_inHands_eq (F : Follows p s) (hrunning : s'.running = s.running)
    (hqueue : s'.queue = s.queue) (hhands : s'.inHands = s.inHands) : Follows p s' :=
  ⟨F.threads, F.queueCapacity, F.running.trans hrunning.symm, F.queue.trans hqueue.symm,
    F.executing.trans hhands.symm⟩

theorem woken (F : Follows p s) (hw : Woken s s') : Follows p s' :=
  F.of_inHands_eq (by rw [hw.frame]) (by rw [hw.frame]) hw.inHands

theorem takeTask (F : Follows p s) {queue : List ℕ} (hpc : s.worker i = .checking)
    (hqueue : s.queue = task :: queue) :
    p.takeTask = some { p with queue, executing := p.executing ++ [task] } := by
  have hroom : p.executing.length < p.threads := by
    rw [F.threads, ← Multiset.coe_card, F.executing]
    exact card_inHands_lt (i := i) (by rw [hpc]; rfl)
  simp [ThreadPool.takeTask, F.queue, hqueue, hroom]

theorem finishTask (F : Follows p s) (hpc : s.worker i = .executing task) :
    ∃ k p', p.finishTask k = some p' ∧ Follows p' (s.setWorker i .checking) := by
  have hmem : task ∈ p.executing := by
    rw [← Multiset.mem_coe, F.executing]
    exact mem_inHands (i := i) (by rw [hpc]; exact Multiset.mem_singleton_self task)
  obtain ⟨k, hk, rfl⟩ := List.getElem_of_mem hmem
  refine ⟨k, _, if_pos hk, F.threads, F.queueCapacity, F.running, F.queue, ?_⟩
  have hsum := (s.inHands_setWorker i .checking).trans (add_zero _)
  rw [hpc, ← F.executing, ← Multiset.coe_eq_coe.mpr (List.getElem_cons_eraseIdx_perm hk),
    ← Multiset.cons_coe, ← Multiset.singleton_add, add_comm] at hsum
  exact (Multiset.add_right_inj.mp hsum).symm

/-- Each step is one of the queue, or none. -/
theorem step (F : Follows p s) (hm : Move s s') :
    ∃ p', Relation.ReflGen PoolStep p p' ∧ Follows p' s' := by
  cases hm with
  | submitNull hpc | submit hpc | capacity hpc | waitForCapacity hpc | rejected hpc hfree hcapacity
  | capacityFound hpc | block hpc hfree hrunning hfull | wakeProducer hpc | timeout hpc
  | callStop hpc | stopAgain hpc hrunning | joined hpc hexited =>
    exact ⟨p, .refl, F.of_inHands_eq rfl rfl rfl⟩
  | @accepted task hpc hfree hcapacity =>
    refine ⟨_, .single (.submit task), ?_⟩
    rw [ThreadPool.trySubmit, if_pos (F.hasCapacity.trans hcapacity)]
    exact ⟨F.threads, F.queueCapacity, F.running, congrArg (· ++ [task]) F.queue, F.executing⟩
  | submitted hpc hn => exact ⟨p, .refl, (F.woken hn.woken).of_inHands_eq rfl rfl rfl⟩
  | @take i task queue hpc hfree hqueue =>
    refine ⟨_, .single (.take (F.takeTask hpc hqueue)), F.threads, F.queueCapacity, F.running,
      rfl, ?_⟩
    have hsum := s.inHands_setWorker i (.notifying task)
    rw [hpc, ← F.executing] at hsum
    exact (Multiset.coe_add _ _).symm.trans (hsum.symm.trans (add_zero _))
  | blockWorker hpc hfree hqueue hrunning | exit hpc hqueue hrunning | wakeWorker hpc =>
    exact ⟨p, .refl, F.of_inHands_eq rfl rfl (inHands_of_hand_eq (by rw [hpc]; rfl))⟩
  | @notified i task s₁ hpc hn =>
    have hhand := hn.woken.hand i
    rw [hpc] at hhand
    exact ⟨p, .refl, (F.woken hn.woken).of_inHands_eq rfl rfl (inHands_of_hand_eq hhand.symm)⟩
  | start hpc => exact ⟨p, .refl, F.of_inHands_eq rfl rfl (inHands_of_hand_eq (by rw [hpc]; rfl))⟩
  | finish hpc =>
    obtain ⟨k, p', hp', F'⟩ := F.finishTask hpc
    exact ⟨p', .single (.finish hp'), F'.of_inHands_eq rfl rfl rfl⟩
  | stop hpc hrunning =>
    exact ⟨_, .single .stop, F.threads, F.queueCapacity, rfl, F.queue, F.executing⟩
  | notifyAll hpc => exact ⟨p, .refl, (F.woken (woken_notifyAll s)).of_inHands_eq rfl rfl rfl⟩

/-- Every run of the threads is one of the pool that the constructor makes. -/
theorem of_reach {threadCount : UInt32} {s : WorkerPool (max 1 threadCount.toNat)}
    (h : (workerPool _).Reach Machine.Always s) :
    ∃ p, Relation.ReflTransGen PoolStep (ThreadPool.create threadCount) p ∧ Follows p s := by
  refine Machine.Reach.invariant
    (I := fun s => ∃ p, Relation.ReflTransGen PoolStep _ p ∧ Follows p s) ?_ ?_ h
  · exact ⟨_, .refl, rfl, rfl, rfl, rfl, (Finset.sum_eq_zero fun _ _ => rfl).symm⟩
  · rintro s a s' ⟨p, hp, F⟩ - hs
    obtain ⟨p', hstep, F'⟩ := F.step (.of_step hs)
    exact ⟨p', hp.trans hstep.to_reflTransGen, F'⟩

end Follows

/-! ## Every accepted task is in one place -/

/-- Where the tasks are, and in which order. -/
structure TaskInv (s : WorkerPool n) : Prop where
  fifo : s.accepted = s.taken ++ s.queue
  conserved : (s.taken : Multiset ℕ) = s.executed + s.inHands
  sorted : s.accepted.Pairwise (· < ·)
  named : ∀ task ∈ s.accepted ++ s.rejected, task < s.calls
  pending : ∀ task, s.producer = .submitting task →
    task < s.calls ∧ task ∉ s.rejected ∧ ∀ t ∈ s.accepted, t < task
  apart : ∀ task ∈ s.rejected, task ∉ s.accepted
  started : s.started ⊆ s.taken
  ordered : n = 1 → ∀ i, s.taken = s.started ++ (s.worker i).unstarted

namespace TaskInv

/-- The producer goes to a point where it submits nothing. -/
theorem setProducer (h : TaskInv s) {pc : PoolProducerPc} (hpc : ∀ task, pc ≠ .submitting task) :
    TaskInv { s with producer := pc } :=
  { h with pending := fun task hp => absurd hp (hpc task) }

/-- A worker goes on with the task in its hands, or without one. -/
theorem setWorker (h : TaskInv s) (hhand : pc.hand = (s.worker i).hand)
    (hunstarted : pc.unstarted = (s.worker i).unstarted) : TaskInv (s.setWorker i pc) where
  __ := h
  conserved := by
    rw [inHands_of_hand_eq hhand]
    exact h.conserved
  ordered hn j := by
    subst hn
    rw [Subsingleton.elim j i, worker_setWorker_self, hunstarted]
    exact h.ordered rfl i

theorem woken (h : TaskInv s) (hw : Woken s s') : TaskInv s' where
  fifo := by
    rw [hw.frame]
    exact h.fifo
  conserved := by
    rw [hw.inHands, hw.frame]
    exact h.conserved
  sorted := by
    rw [hw.frame]
    exact h.sorted
  named := by
    rw [hw.frame]
    exact h.named
  pending task hp := by
    rcases hw.producer with hold | hnew
    · rw [hw.frame]
      exact h.pending task (hold ▸ hp)
    · rw [hnew] at hp
      cases hp
  apart := by
    rw [hw.frame]
    exact h.apart
  started := by
    rw [hw.frame]
    exact h.started
  ordered hn i := by
    rw [hw.unstarted i, hw.frame]
    exact h.ordered hn i

/-- `TrySubmit` is called. Its task has a number that no task had before. -/
theorem call (h : TaskInv s) :
    TaskInv { s with calls := s.calls + 1, producer := .submitting s.calls } where
  __ := h
  named task ht := (h.named task ht).trans (Nat.lt_succ_self _)
  pending task hp := by
    cases hp
    refine ⟨Nat.lt_succ_self _, fun hmem => ?_, fun t ht => ?_⟩
    · exact absurd (h.named _ (List.mem_append_right _ hmem)) (lt_irrefl _)
    · exact h.named t (List.mem_append_left _ ht)

theorem callNull (h : TaskInv s) (hpc : s.producer = .idle) :
    TaskInv { s with calls := s.calls + 1, rejected := s.rejected ++ [s.calls] } where
  __ := h
  named task ht := by
    change task ∈ s.accepted ++ (s.rejected ++ [s.calls]) at ht
    rw [← List.append_assoc, List.mem_append, List.mem_singleton] at ht
    rcases ht with hold | rfl
    · exact (h.named task hold).trans (Nat.lt_succ_self _)
    · exact Nat.lt_succ_self _
  pending task hp := by
    change s.producer = _ at hp
    rw [hpc] at hp
    cases hp
  apart task ht := by
    rw [List.mem_append, List.mem_singleton] at ht
    rcases ht with hold | rfl
    · exact h.apart task hold
    · exact fun hmem => absurd (h.named _ (List.mem_append_left _ hmem)) (lt_irrefl _)

theorem accept (h : TaskInv s) (hpc : s.producer = .submitting task) :
    TaskInv { s with
      queue := s.queue ++ [task], accepted := s.accepted ++ [task], capacitySeen := false
      producer := .notifying } where
  __ := h
  fifo := by
    change s.accepted ++ [task] = s.taken ++ (s.queue ++ [task])
    rw [h.fifo, List.append_assoc]
  sorted := by
    rw [List.pairwise_append]
    refine ⟨h.sorted, List.pairwise_singleton _ _, fun t ht t' ht' => ?_⟩
    rw [List.mem_singleton] at ht'
    exact ht' ▸ (h.pending task hpc).2.2 t ht
  named t ht := by
    rw [List.mem_append, List.mem_append, List.mem_singleton] at ht
    rcases ht with (ht | rfl) | ht
    · exact h.named t (List.mem_append_left _ ht)
    · exact (h.pending t hpc).1
    · exact h.named t (List.mem_append_right _ ht)
  pending t hp := by cases hp
  apart t ht hmem := by
    rw [List.mem_append, List.mem_singleton] at hmem
    rcases hmem with hmem | rfl
    · exact h.apart t ht hmem
    · exact (h.pending t hpc).2.1 ht

theorem reject (h : TaskInv s) (hpc : s.producer = .submitting task) :
    TaskInv { s with
      rejected := s.rejected ++ [task], capacitySeen := false, producer := .idle } where
  __ := h
  named t ht := by
    rw [← List.append_assoc, List.mem_append, List.mem_singleton] at ht
    rcases ht with ht | rfl
    · exact h.named t ht
    · exact (h.pending t hpc).1
  pending t hp := by cases hp
  apart t ht := by
    rw [List.mem_append, List.mem_singleton] at ht
    rcases ht with ht | rfl
    · exact h.apart t ht
    · exact fun hmem => absurd ((h.pending t hpc).2.2 t hmem) (lt_irrefl _)

theorem take (h : TaskInv s) {queue : List ℕ} (hpc : s.worker i = .checking)
    (hqueue : s.queue = task :: queue) :
    TaskInv { s.setWorker i (.notifying task) with
      queue, holder := some i, taken := s.taken ++ [task] } where
  __ := h
  fifo := by
    change s.accepted = s.taken ++ [task] ++ queue
    rw [h.fifo, hqueue, List.append_assoc]
    rfl
  conserved := by
    have hsum := s.inHands_setWorker i (.notifying task)
    rw [hpc] at hsum
    change ((s.taken ++ [task] : List ℕ) : Multiset ℕ) =
      s.executed + (s.setWorker i (.notifying task)).inHands
    rw [← Multiset.coe_add, h.conserved, add_assoc]
    exact congrArg _ (hsum.symm.trans (add_zero _))
  started t ht := List.mem_append_left _ (h.started ht)
  ordered hn j := by
    subst hn
    change s.taken ++ [task] = s.started ++ ((s.setWorker i _).worker j).unstarted
    rw [Subsingleton.elim j i, worker_setWorker_self, h.ordered rfl i, hpc, List.append_assoc]
    rfl

theorem start (h : TaskInv s) (hpc : s.worker i = .starting task) :
    TaskInv { s.setWorker i (.executing task) with started := s.started ++ [task] } where
  __ := h
  conserved := by
    change (s.taken : Multiset ℕ) = s.executed + (s.setWorker i (.executing task)).inHands
    rw [inHands_of_hand_eq (by rw [hpc]; rfl)]
    exact h.conserved
  started t ht := by
    rw [List.mem_append, List.mem_singleton] at ht
    rcases ht with ht | rfl
    · exact h.started ht
    · -- the task is in the hands of the worker
      have hmem : t ∈ s.inHands :=
        mem_inHands (i := i) (by rw [hpc]; exact Multiset.mem_singleton_self t)
      have htaken : t ∈ (s.taken : Multiset ℕ) := by
        rw [h.conserved]
        exact Multiset.mem_add.mpr (.inr hmem)
      exact Multiset.mem_coe.mp htaken
  ordered hn j := by
    subst hn
    change s.taken = s.started ++ [task] ++ ((s.setWorker i _).worker j).unstarted
    rw [Subsingleton.elim j i, worker_setWorker_self, h.ordered rfl i, hpc, List.append_assoc]
    rfl

theorem finish (h : TaskInv s) (hpc : s.worker i = .executing task) :
    TaskInv { s.setWorker i .checking with executed := s.executed ++ [task] } where
  __ := h
  conserved := by
    have hsum := s.inHands_setWorker i .checking
    rw [hpc] at hsum
    change (s.taken : Multiset ℕ) =
      ((s.executed ++ [task] : List ℕ) : Multiset ℕ) + (s.setWorker i .checking).inHands
    rw [h.conserved, ← Multiset.coe_add, add_assoc]
    refine congrArg _ ?_
    rw [add_comm]
    exact (hsum.trans (add_zero _)).symm
  ordered hn j := by
    subst hn
    change s.taken = s.started ++ ((s.setWorker i _).worker j).unstarted
    rw [Subsingleton.elim j i, worker_setWorker_self, h.ordered rfl i, hpc]
    rfl

theorem step (h : TaskInv s) (hm : Move s s') : TaskInv s' := by
  cases hm with
  | submitNull hpc => exact h.callNull hpc
  | submit hpc => exact h.call
  | capacity hpc | callStop hpc | stop hpc hrunning | stopAgain hpc hrunning
  | joined hpc hexited =>
    exact { h with }
  | waitForCapacity hpc | capacityFound hpc | block hpc hfree hrunning hfull | wakeProducer hpc
  | timeout hpc => exact h.setProducer (by simp)
  | accepted hpc hfree hcapacity => exact h.accept hpc
  | rejected hpc hfree hcapacity => exact h.reject hpc
  | submitted hpc hn => exact (h.woken hn.woken).setProducer (by simp)
  | take hpc hfree hqueue => exact h.take hpc hqueue
  | blockWorker hpc hfree hqueue hrunning | exit hpc hqueue hrunning | wakeWorker hpc =>
    exact h.setWorker (by rw [hpc]; rfl) (by rw [hpc]; rfl)
  | @notified i task s₁ hpc hn =>
    have hhand := hn.woken.hand i
    have hunstarted := hn.woken.unstarted i
    rw [hpc] at hhand hunstarted
    have h' : TaskInv (s₁.setWorker i (.starting task)) :=
      (h.woken hn.woken).setWorker hhand.symm hunstarted.symm
    exact { h' with }
  | start hpc => exact h.start hpc
  | finish hpc => exact h.finish hpc
  | notifyAll hpc =>
    have h' := h.woken (woken_notifyAll s)
    exact { h' with }

theorem of_reach (h : (workerPool n).Reach Machine.Always s) : TaskInv s := by
  refine Machine.Reach.invariant ?_ (fun s a s' hinv _ hs => hinv.step (.of_step hs)) h
  refine ⟨rfl, ?_, List.Pairwise.nil, ?_, ?_, ?_, List.nil_subset _, fun _ _ => rfl⟩
  · have hnone : ∑ _i : Fin n, PoolWorkerPc.hand .checking = 0 :=
      Finset.sum_eq_zero fun _ _ => rfl
    exact ((zero_add _).trans hnone).symm
  · intro task ht
    cases ht
  · intro task hp
    cases hp
  · intro task ht
    cases ht

end TaskInv

/-! ## When `Stop` returns -/

/-- What is known of the capacity, and of the workers that have left. -/
structure StopInv (s : WorkerPool n) : Prop where
  capacity : s.capacitySeen = true → s.running = true → s.queue.length < n
  exited : ∀ i, s.worker i = .exited → s.running = false ∧ s.queue = []
  stopped : s.running = false → s.stopper ≠ .outside ∧ s.stopper ≠ .entering
  returned : s.stopper = .returned → ∀ i, s.worker i = .exited

namespace StopInv

/-- A worker that has not left goes to another point of its loop. -/
theorem setWorker (h : StopInv s) (hold : s.worker i ≠ .exited) (hpc : pc ≠ .exited) :
    StopInv (s.setWorker i pc) where
  __ := h
  exited j hj := by
    by_cases hji : j = i
    · subst hji
      rw [worker_setWorker_self] at hj
      exact absurd hj hpc
    · rw [worker_setWorker_of_ne hji] at hj
      exact h.exited j hj
  returned hreturned := absurd (h.returned hreturned i) hold

theorem woken (h : StopInv s) (hw : Woken s s') : StopInv s' where
  capacity := by
    rw [hw.frame]
    exact h.capacity
  exited j hj := by
    rcases hw.worker j with hold | ⟨hnew, -⟩
    · rw [hw.frame]
      exact h.exited j (hold ▸ hj)
    · rw [hnew] at hj
      cases hj
  stopped := by
    rw [hw.frame]
    exact h.stopped
  returned hreturned j := by
    have hall : ∀ j, s.worker j = .exited := by
      rw [hw.frame] at hreturned
      exact h.returned hreturned
    rcases hw.worker j with hold | ⟨-, hwaiting⟩
    · exact hold.trans (hall j)
    · rw [hall j] at hwaiting
      cases hwaiting

theorem step (h : StopInv s) (hm : Move s s') : StopInv s' := by
  cases hm with
  | submitNull hpc | submit hpc | waitForCapacity hpc | capacityFound hpc
  | block hpc hfree hrunning hfull | wakeProducer hpc | timeout hpc =>
    exact { h with }
  | capacity hpc =>
    refine ⟨fun hseen _ => ?_, h.exited, h.stopped, h.returned⟩
    simp only [hasCapacity, Bool.and_eq_true, decide_eq_true_eq] at hseen
    exact hseen.2
  | accepted hpc hfree hcapacity =>
    simp only [hasCapacity, Bool.and_eq_true, decide_eq_true_eq] at hcapacity
    refine ⟨fun hseen => (by cases hseen), fun j hj => ?_, h.stopped, h.returned⟩
    -- a worker that has left knows that the pool is stopped
    rw [(h.exited j hj).1] at hcapacity
    cases hcapacity.1
  | rejected hpc hfree hcapacity =>
    exact ⟨fun hseen => (by cases hseen), h.exited, h.stopped, h.returned⟩
  | submitted hpc hn =>
    exact { h.woken hn.woken with }
  | @take i task queue hpc hfree hqueue =>
    have h' : StopInv (s.setWorker i (.notifying task)) :=
      h.setWorker (by simp [hpc]) (by simp)
    refine ⟨fun hseen hrunning => ?_, fun j hj => ?_, h'.stopped, h'.returned⟩
    · have hlength := h.capacity hseen hrunning
      rw [hqueue, List.length_cons] at hlength
      exact Nat.lt_of_succ_lt hlength
    · have hempty := (h'.exited j hj).2
      change s.queue = [] at hempty
      rw [hqueue] at hempty
      cases hempty
  | blockWorker hpc hfree hqueue hrunning | wakeWorker hpc =>
    exact h.setWorker (by simp [hpc]) (by simp)
  | @exit i hpc hqueue hrunning =>
    refine ⟨h.capacity, fun j hj => ⟨hrunning, hqueue⟩, h.stopped, fun hreturned j => ?_⟩
    have hi := h.returned hreturned i
    rw [hpc] at hi
    cases hi
  | @notified i task s₁ hpc hn =>
    have hworker : s₁.worker i ≠ .exited := by
      rcases hn.woken.worker i with hold | ⟨hnew, -⟩
      · rw [hold, hpc]
        exact PoolWorkerPc.noConfusion
      · rw [hnew]
        exact PoolWorkerPc.noConfusion
    have h' : StopInv (s₁.setWorker i (.starting task)) :=
      (h.woken hn.woken).setWorker hworker (by simp)
    exact { h' with }
  | @start i task hpc =>
    have h' : StopInv (s.setWorker i (.executing task)) :=
      h.setWorker (by simp [hpc]) (by simp)
    exact { h' with }
  | @finish i task hpc =>
    have h' : StopInv (s.setWorker i .checking) := h.setWorker (by simp [hpc]) (by simp)
    exact { h' with }
  | callStop hpc =>
    refine ⟨h.capacity, h.exited, fun hrunning => ?_, fun hreturned => (by cases hreturned)⟩
    exact absurd hpc (h.stopped hrunning).1
  | stop hpc hrunning =>
    refine ⟨fun _ hrunning' => (by cases hrunning'), fun j hj => ⟨rfl, (h.exited j hj).2⟩,
      fun _ => ⟨by simp, by simp⟩, fun hreturned => (by cases hreturned)⟩
  | stopAgain hpc hrunning => exact absurd hpc (h.stopped hrunning).2
  | notifyAll hpc =>
    have h' := h.woken (woken_notifyAll s)
    exact ⟨h'.capacity, h'.exited, fun _ => ⟨by simp, by simp⟩,
      fun hreturned => (by cases hreturned)⟩
  | joined hpc hexited =>
    exact ⟨h.capacity, h.exited, fun _ => ⟨by simp, by simp⟩, fun _ => hexited⟩

theorem of_reach (h : (workerPool n).Reach Machine.Always s) : StopInv s := by
  refine Machine.Reach.invariant ?_ (fun s a s' hinv _ hs => hinv.step (.of_step hs)) h
  refine ⟨fun hseen => (by cases hseen), fun i hi => (by cases hi),
    fun hrunning => (by cases hrunning), fun hreturned => (by cases hreturned)⟩

end StopInv

/-- When `Stop` has returned, every accepted task has been executed once. -/
theorem count_executed (h : (workerPool n).Reach Machine.Always s)
    (hreturned : s.stopper = .returned) (htask : task ∈ s.accepted) :
    s.executed.count task = 1 := by
  have hstop := StopInv.of_reach h
  have htasks := TaskInv.of_reach h
  have hexited := hstop.returned hreturned
  have hqueue : s.queue = [] := by
    by_cases hn : n = 0
    · exact List.length_eq_zero_iff.mp (Nat.le_zero.mp (hn ▸ (Inv.of_reach h).full))
    · exact (hstop.exited ⟨0, Nat.pos_of_ne_zero hn⟩ (hexited _)).2
  have hhands : s.inHands = 0 := Finset.sum_eq_zero fun i _ => by rw [hexited i]; rfl
  have hexecuted : s.taken.count task = s.executed.count task := by
    have hcount := congrArg (Multiset.count task) htasks.conserved
    rwa [hhands, add_zero, Multiset.coe_count, Multiset.coe_count] at hcount
  have hnodup : s.accepted.Nodup := htasks.sorted.imp fun hlt => ne_of_lt hlt
  rw [← hexecuted]
  rw [htasks.fifo, hqueue, List.append_nil] at htask hnodup
  exact List.count_eq_one_of_mem hnodup htask

end WorkerPool

/-- The contract of `TaskExecutor`. A producer that has been told of capacity is not refused
while the pool runs; the workers remove the accepted tasks in the order in which they were
submitted, and a single worker also begins them in this order; when `Stop` has returned, every
accepted task has been executed once; and a task that was refused is never begun. -/
theorem tasks_executed_of_reach {n : ℕ} {s : WorkerPool n}
    (h : (workerPool n).Reach Machine.Always s) :
    (s.capacitySeen = true → s.running = true → ∀ task, (s.trySubmit task).1 = true) ∧
      s.accepted.Pairwise (· < ·) ∧ s.taken <+: s.accepted ∧
      (n = 1 → s.started <+: s.accepted) ∧
      (s.stopper = .returned → ∀ task ∈ s.accepted, s.executed.count task = 1) ∧
      ∀ task ∈ s.rejected, task ∉ s.started ∧ task ∉ s.executed := by
  have htasks := WorkerPool.TaskInv.of_reach h
  have htaken : s.taken <+: s.accepted := ⟨s.queue, htasks.fifo.symm⟩
  refine ⟨fun hseen hrunning task => ?_, htasks.sorted, htaken, fun hn => ?_,
    fun hreturned task htask => WorkerPool.count_executed h hreturned htask, fun task ht => ?_⟩
  · have hlength := (WorkerPool.StopInv.of_reach h).capacity hseen hrunning
    have hcapacity : s.hasCapacity = true := by
      simp [WorkerPool.hasCapacity, hrunning, hlength]
    simp [WorkerPool.trySubmit, hcapacity]
  · subst hn
    have hprefix : s.started <+: s.taken := ⟨_, (htasks.ordered rfl 0).symm⟩
    exact hprefix.trans htaken
  · have hnot : task ∉ s.taken := fun hmem => htasks.apart task ht (htaken.subset hmem)
    refine ⟨fun hmem => hnot (htasks.started hmem), fun hmem => hnot ?_⟩
    rw [← Multiset.mem_coe, htasks.conserved]
    exact Multiset.mem_add.mpr (.inl (Multiset.mem_coe.mpr hmem))

/-- The first task is accepted, the second is refused, and `Stop` waits for the worker. -/
def stoppedRun (i : Fin 1) : List (WorkerPoolAction 1) :=
  [.hasCapacity, .trySubmit false, .producer none, .producer none, .trySubmit false,
    .producer none, .callStop, .stop, .stop, .worker i none, .worker i none, .worker i none,
    .worker i none, .worker i none, .stop]

theorem tasks_executed_stopped :
    ∃ s : WorkerPool 1, s.stopper = .returned ∧ s.accepted = [0] ∧ s.rejected = [1] ∧
      s.executed.count 0 = 1 ∧ 1 ∉ s.executed := by
  obtain ⟨s, hs, hreturned, haccepted, hrejected⟩ := Machine.exists_of_any
    (o := (workerPool 1).run (workerPool 1).init (stoppedRun 0))
    (P := fun s => s.stopper = .returned ∧ s.accepted = [0] ∧ s.rejected = [1])
    (by decide +kernel)
  obtain ⟨-, -, -, -, hexecuted, hnever⟩ := tasks_executed_of_reach (Machine.reach_of_run _ hs)
  exact ⟨s, hreturned, haccepted, hrejected,
    hexecuted hreturned 0 (by simp [haccepted]), (hnever 1 (by simp [hrejected])).2⟩

/-- Two workers remove a task each, and the second task begins first. -/
def overtakenTaskRun (i j : Fin 2) : List (WorkerPoolAction 2) :=
  [.trySubmit false, .producer none, .producer none, .trySubmit false, .producer none,
    .producer none, .worker i none, .worker i none, .worker j none, .worker j none,
    .worker j none, .worker i none]

/-- With two workers the tasks are not started in the order in which they were submitted. -/
theorem not_started_in_order :
    ∃ s : WorkerPool 2, (workerPool 2).Reach Machine.Always s ∧ s.accepted = [0, 1] ∧
      s.started = [1, 0] := by
  obtain ⟨s, hs, haccepted, hstarted⟩ := Machine.exists_of_any
    (o := (workerPool 2).run (workerPool 2).init (overtakenTaskRun 0 1))
    (P := fun s => s.accepted = [0, 1] ∧ s.started = [1, 0]) (by decide +kernel)
  exact ⟨s, Machine.reach_of_run _ hs, haccepted, hstarted⟩

end MemRpc
