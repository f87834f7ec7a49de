import MemRpc.Rpc.StopWakeup

/-!
# Conservation of completion items

An item that `EnqueueCompletion` has accepted is in the queue, in the hands of the response
writer, in the hands of `FailPendingCompletionItems`, or completed, and in one of these
places only. `pendingCompletionCount` is the length of the queue and the item of the
writer.

Acceptance reads `responseWriterRunning` under the mutex, and `Stop` clears the flag
without it. An item that is accepted late is still in the queue when
`FailPendingCompletionItems` takes the mutex, since the mutex is kept from the check to
the push.

## Main results

* `CountInv`, `ItemInv`: the count, and the places of the items.
* `completionsConserved_of_reach`.
-/

namespace MemRpc

open Concurrency

variable {cfg : ServerConfig} {s s' : ServerRuntime}

/-- The items that `FailPendingCompletionItems` has taken and not completed. -/
def ServerStopPc.queued : ServerStopPc → List CompletionItem
  | .zeroing queued | .failing queued => queued
  | _ => []

/-- The item that the response writer has popped and not completed. -/
def ResponseWriterPc.item? : ResponseWriterPc → Option CompletionItem
  | .checking item | .pushing item | .rechecking item | .full item | .failed item _
  | .completing item _ => some item
  | _ => none

/-- One for an item that the response writer has popped and not counted down. -/
def ResponseWriterPc.outstanding : ResponseWriterPc → ℕ
  | .finishing | .counting => 1
  | pc => pc.item?.toList.length

namespace ServerRuntime

/-- Accepted items are completed at most once, all of them by the time `StopResponseWriter`
has returned, and counted until then. -/
structure CompletionsConserved (cfg : ServerConfig) (s : ServerRuntime) : Prop where
  once : (s.completed.map Prod.fst).Nodup
  accepted : ∀ c ∈ s.completed.map Prod.fst, c ∈ s.accepted
  all : s.stop.writerStopped = true → ∀ c ∈ s.accepted, c ∈ s.completed.map Prod.fst
  counted : s.completionMutex = none → s.stop.writerStopped = false →
    s.pendingCompletionCount.toNat = s.completionQueue.length + s.writer.outstanding ∧
      s.pendingCompletionCount ≤ cfg.completionQueueCapacity

end ServerRuntime

/-! ## The count -/

/-- A caller that `EnqueueCompletion` has admitted, until it releases the mutex. -/
def CallerPc.admitted : CallerPc → Bool
  | .pushing _ | .counting => true
  | _ => false

variable {pc : CallerPc}

theorem CallerPc.holdsMutex_of_admitted (h : pc.admitted = true) :
    pc.holdsMutex = true := by
  cases pc <;> simp_all [admitted, holdsMutex]

variable {c : Caller}

theorem CallerMove.admitted {s : ServerRuntime}
    (h : CallerMove s c pc) : (s.caller c).admitted = false ∧ pc.admitted = false := by
  constructor
  · by_contra hold
    have hin := CallerPc.holdsMutex_of_admitted (by simpa using hold)
    simp [h.holdsMutex.1] at hin
  · by_contra hnew
    have hin := CallerPc.holdsMutex_of_admitted (by simpa using hnew)
    simp [h.holdsMutex.2] at hin

theorem WriterItemMove.item_eq {pc pc' : ResponseWriterPc} (h : WriterItemMove pc pc') :
    pc'.item? = pc.item? := by
  have hunstored : ∀ {pc : ResponseWriterPc} {item : CompletionItem}, pc.unstored? = some item →
      pc.item? = some item := by
    intro pc item hitem
    cases pc <;> simp_all [ResponseWriterPc.unstored?, ResponseWriterPc.item?]
  cases h with
  | retry hold hnew => rw [hunstored hold, hunstored hnew]
  | giveUp status hold => rw [hunstored hold]; rfl
  | stored | storedBroken => rfl

variable {item : CompletionItem}

/-- An item is outstanding. -/
theorem ResponseWriterPc.outstanding_of_item {pc : ResponseWriterPc}
    (h : pc.item? = some item) : pc.outstanding = 1 := by
  cases pc <;> simp_all [item?, outstanding]

theorem WriterItemMove.outstanding_eq {pc pc' : ResponseWriterPc} (h : WriterItemMove pc pc') :
    pc'.outstanding = pc.outstanding := by
  have hitem : ∃ item, pc.item? = some item := by
    cases h with
    | retry | giveUp => cases pc <;> simp_all [ResponseWriterPc.unstored?, ResponseWriterPc.item?]
    | stored item | storedBroken item => exact ⟨item, rfl⟩
  obtain ⟨item, hitem⟩ := hitem
  rw [ResponseWriterPc.outstanding_of_item hitem,
    ResponseWriterPc.outstanding_of_item (h.item_eq.trans hitem)]

@[simp] theorem ResponseWriterPc.item_notified (pc : ResponseWriterPc) :
    pc.notified.item? = pc.item? := by
  cases pc <;> rfl

@[simp] theorem ResponseWriterPc.outstanding_notified (pc : ResponseWriterPc) :
    pc.notified.outstanding = pc.outstanding := by
  cases pc <;> rfl

variable {e : ResponseRingEntry}

namespace ServerRuntime

/-- One for an item that is in the queue and not counted yet. -/
def uncounted (s : ServerRuntime) : ℕ :=
  match s.completionMutex with
  | some (.caller c) => if s.caller c = .counting then 1 else 0
  | _ => 0

theorem uncounted_of_caller (h : s.completionMutex = some (.caller c)) :
    s.uncounted = if s.caller c = .counting then 1 else 0 := by
  simp [uncounted, h]

/-- Everything is counted unless a caller owns the mutex. -/
theorem uncounted_of_not_caller (h : ∀ c, s.completionMutex ≠ some (.caller c)) :
    s.uncounted = 0 := by
  unfold uncounted
  split
  · rename_i c hc
    exact absurd hc (h c)
  · rfl

theorem uncounted_of_free (h : s.completionMutex = none) : s.uncounted = 0 :=
  uncounted_of_not_caller (by simp [h])

theorem uncounted_setCaller (hold : s.caller c ≠ .counting)
    (hnew : pc ≠ .counting) : (s.setCaller c pc).uncounted = s.uncounted := by
  have hmutex : (s.setCaller c pc).completionMutex = s.completionMutex := rfl
  unfold uncounted
  rw [hmutex]
  split
  · rename_i d _
    by_cases hd : d = c
    · subst hd
      simp [hold, hnew]
    · rw [setCaller_of_ne s pc hd]
  · rfl

/-- The count is the queue and the item of the writer, up to an item that is being counted.
Nothing is admitted once `Stop` has swapped the queue. -/
structure CountInv (cfg : ServerConfig) (s : ServerRuntime) : Prop where
  balance : (∀ queued, s.stop ≠ .zeroing queued) →
    s.pendingCompletionCount.toNat + s.uncounted =
      s.completionQueue.length + s.writer.outstanding
  bound : s.pendingCompletionCount ≤ cfg.completionQueueCapacity
  room : ∀ c, (s.caller c).admitted = true →
    s.pendingCompletionCount < cfg.completionQueueCapacity
  swapped : s.stop.swapped = true →
    s.completionQueue = [] ∧ ∀ c, (s.caller c).admitted = false

namespace CountInv

/-- A step that moves neither items nor the count. -/
theorem frame (H : s.CountInv cfg) (hcount : s'.pendingCompletionCount = s.pendingCompletionCount)
    (huncounted : s'.uncounted = s.uncounted) (hqueue : s'.completionQueue = s.completionQueue)
    (hwriter : s'.writer.outstanding = s.writer.outstanding) (hstop : s'.stop = s.stop)
    (hcaller : ∀ c, (s'.caller c).admitted = true → (s.caller c).admitted = true) :
    s'.CountInv cfg where
  balance h := by
    rw [hcount, huncounted, hqueue, hwriter]
    exact H.balance (hstop ▸ h)
  bound := hcount ▸ H.bound
  room c hc := hcount ▸ H.room c (hcaller c hc)
  swapped h := by
    rw [hstop] at h
    obtain ⟨hempty, hnone⟩ := H.swapped h
    refine ⟨hqueue.trans hempty, ?_⟩
    intro c
    by_contra hc
    have hadmitted := hcaller c (by simpa using hc)
    simp [hnone c] at hadmitted

/-- One caller moves to a point at which it is not admitted. -/
theorem admitted_setCaller (hpc : pc.admitted = false) (d : Caller)
    (hd : ((s.setCaller c pc).caller d).admitted = true) : (s.caller d).admitted = true := by
  by_cases h : d = c
  · subst h
    simp [hpc] at hd
  · rwa [setCaller_of_ne s pc h] at hd

/-- A step of the writer that keeps its item. -/
theorem setWriter (H : s.CountInv cfg) (hcount : s'.pendingCompletionCount = s.pendingCompletionCount)
    (hmutex : ∀ c, s.completionMutex ≠ some (.caller c))
    (hmutex' : ∀ c, s'.completionMutex ≠ some (.caller c))
    (hqueue : s'.completionQueue = s.completionQueue)
    (hwriter : s'.writer.outstanding = s.writer.outstanding) (hstop : s'.stop = s.stop)
    (hcaller : s'.caller = s.caller) : s'.CountInv cfg := by
  refine H.frame hcount ?_ hqueue hwriter hstop ?_
  · rw [uncounted_of_not_caller hmutex, uncounted_of_not_caller hmutex']
  · intro c hc
    rwa [hcaller] at hc

/-- While a caller is admitted, `Stop` has not swapped the queue. -/
theorem not_swapped (H : s.CountInv cfg) (hadmitted : (s.caller c).admitted = true) :
    s.stop.swapped ≠ true := by
  intro h
  simp [(H.swapped h).2 c] at hadmitted

/-- Counting the item that was pushed. -/
theorem count (H : s.CountInv cfg) (hmutex : s.MutexInv) (hpc : s.caller c = .counting) :
    ({ (s.setCaller c .awaiting).notifyWriter with
        pendingCompletionCount := s.pendingCompletionCount + 1
        completionMutex := none } : ServerRuntime).CountInv cfg := by
  have hin : s.inside (.caller c) = true := by simp [inside, hpc, CallerPc.holdsMutex]
  have hadmitted : (s.caller c).admitted = true := by rw [hpc]; rfl
  have hroom := H.room c hadmitted
  have hnext : (s.pendingCompletionCount + 1).toNat = s.pendingCompletionCount.toNat + 1 := by
    have hlt := UInt32.lt_iff_toNat_lt.mp hroom
    have hcap := cfg.completionQueueCapacity.toNat_lt
    rw [UInt32.toNat_add, UInt32.toNat_one, Nat.mod_eq_of_lt (by omega)]
  refine ⟨?_, ?_, ?_, fun h => absurd h (H.not_swapped hadmitted)⟩
  · intro hzero
    have hbalance := H.balance hzero
    rw [uncounted_of_caller ((hmutex _).mp hin), if_pos hpc] at hbalance
    rw [uncounted_of_free rfl]
    show (s.pendingCompletionCount + 1).toNat + 0 = s.completionQueue.length + s.writer.notified.outstanding
    rw [hnext, ResponseWriterPc.outstanding_notified]
    omega
  · rw [UInt32.le_iff_toNat_le]
    have hlt := UInt32.lt_iff_toNat_lt.mp hroom
    exact hnext.trans_le hlt
  · intro d hd
    have hnew : ((s.setCaller c .awaiting).caller d).admitted = true := hd
    have hold := CallerPc.holdsMutex_of_admitted (admitted_setCaller rfl d hnew)
    obtain rfl : d = c := by simpa using hmutex.unique (o := .caller d) hold hin
    simp [CallerPc.admitted] at hnew

/-- Counting down the item that was completed. -/
theorem writerCount (H : s.CountInv cfg) (hmutex : s.completionMutex = some .writer)
    (hstop : ∀ queued, s.stop ≠ .zeroing queued) (hpc : s.writer = .counting) :
    ({ s with
        writer := .locking
        completionMutex := none
        pendingCompletionCount :=
          if s.pendingCompletionCount > 0 then s.pendingCompletionCount - 1
          else s.pendingCompletionCount } : ServerRuntime).CountInv cfg := by
  have hbalance := H.balance hstop
  rw [uncounted_of_not_caller (by simp [hmutex]), add_zero, hpc] at hbalance
  have hpos : s.pendingCompletionCount > 0 := by
    rw [gt_iff_lt, UInt32.lt_iff_toNat_lt, hbalance]
    simp [ResponseWriterPc.outstanding]
  have hone : (1 : UInt32) ≤ s.pendingCompletionCount := by
    rw [UInt32.le_iff_toNat_le]
    exact UInt32.lt_iff_toNat_lt.mp hpos
  have hnext := UInt32.toNat_sub_of_le _ _ hone
  have hle : s.pendingCompletionCount - 1 ≤ s.pendingCompletionCount := by
    rw [UInt32.le_iff_toNat_le, hnext]
    exact Nat.sub_le _ _
  rw [if_pos hpos]
  refine ⟨?_, UInt32.le_trans hle H.bound, fun c hc => UInt32.lt_of_le_of_lt hle (H.room c hc),
    H.swapped⟩
  intro _
  rw [uncounted_of_free rfl]
  show (s.pendingCompletionCount - 1).toNat + 0 = s.completionQueue.length + 0
  rw [hnext, UInt32.toNat_one, hbalance]
  rfl

/-- `EnqueueCompletion` admits an entry. -/
theorem accept (H : s.CountInv cfg) (hstop : s.StopInv)
    (hpc : s.caller c = .admitting e) (hrunning : s.responseWriterRunning = true)
    (hroom : s.pendingCompletionCount < cfg.completionQueueCapacity) :
    (s.setCaller c (.pushing e)).CountInv cfg := by
  have hswapped : s.stop.swapped ≠ true := by
    intro h
    have hcleared : s.stop.cleared = true := by
      simp only [ServerStopPc.swapped, ServerStopPc.cleared, decide_eq_true_eq] at h ⊢
      omega
    simp [hstop.cleared hcleared] at hrunning
  refine ⟨?_, H.bound, fun _ _ => hroom, fun h => absurd h hswapped⟩
  rw [uncounted_setCaller (by simp [hpc]) (by simp)]
  exact H.balance

/-- The entry is pushed and not yet counted. -/
theorem enqueue (H : s.CountInv cfg) (hmutex : s.MutexInv) (hpc : s.caller c = .pushing e) :
    ({ s.setCaller c .counting with
        completionQueue := s.completionQueue ++ [completionItem c e]
        accepted := s.accepted ++ [c] } : ServerRuntime).CountInv cfg := by
  have hin : s.inside (.caller c) = true := by simp [inside, hpc, CallerPc.holdsMutex]
  have howns := (hmutex _).mp hin
  have hadmitted : (s.caller c).admitted = true := by rw [hpc]; rfl
  refine ⟨?_, H.bound, fun _ _ => H.room c hadmitted,
    fun h => absurd h (H.not_swapped hadmitted)⟩
  intro hzero
  have hbalance := H.balance hzero
  rw [uncounted_of_caller howns, if_neg (by simp [hpc])] at hbalance
  have hone : (s.setCaller c .counting).uncounted = 1 := by
    rw [uncounted_of_caller (s := s.setCaller c .counting) howns, if_pos (setCaller_self _ _ _)]
  show s.pendingCompletionCount.toNat + (s.setCaller c .counting).uncounted =
    (s.completionQueue ++ [completionItem c e]).length + s.writer.outstanding
  rw [hone, List.length_append, List.length_singleton]
  omega

theorem threadMove (H : s.CountInv cfg) (hmutex : s.MutexInv) (hstop : s.StopInv)
    (hnew : s.Unpopped) (hmove : ThreadMove cfg s s') : s'.CountInv cfg := by
  -- the writer owns the mutex while it is inside
  have howner : s.writer.holdsMutex = true → s.completionMutex = some .writer := (hmutex .writer).mp
  have hnotStop : s.writer.holdsMutex = true → ∀ queued, s.stop ≠ .zeroing queued := by
    intro hwriter queued hzero
    have hstopIn : s.inside .stop = true := by simp [inside, hzero, ServerStopPc.holdsMutex]
    cases hmutex.unique (o := .writer) hwriter hstopIn
  cases hmove with
  | attach | dispatcher => exact H.frame rfl rfl rfl rfl rfl fun _ => id
  | pop e =>
    have hidle := hnew s.requests.length le_rfl
    have huncounted : (s.setCaller (.task s.requests.length) (.submitting e)).uncounted =
        s.uncounted := uncounted_setCaller (by simp [hidle]) (by simp)
    exact H.frame rfl huncounted rfl rfl rfl (admitted_setCaller rfl)
  | @caller c pc h dispatcher pending =>
    have hold : s.caller c ≠ .counting := by
      intro hcounting
      have hnot := h.admitted.1
      simp [hcounting, CallerPc.admitted] at hnot
    have hpc : pc ≠ .counting := by
      rintro rfl
      cases h.admitted.2
    exact H.frame rfl (uncounted_setCaller hold hpc) rfl rfl rfl (admitted_setCaller h.admitted.2)
  | @lock c e hpc hfree =>
    refine H.frame rfl ?_ rfl rfl rfl (admitted_setCaller rfl)
    rw [uncounted_of_free hfree, uncounted_of_caller rfl]
    simp
  | @refuse c e hpc =>
    have hin : s.inside (.caller c) = true := by simp [inside, hpc, CallerPc.holdsMutex]
    refine H.frame rfl ?_ rfl rfl rfl (admitted_setCaller (by cases c <;> rfl))
    rw [uncounted_of_free rfl, uncounted_of_caller ((hmutex _).mp hin), if_neg (by simp [hpc])]
  | accept hpc hrunning hroom => exact H.accept hstop hpc hrunning hroom
  | enqueue hpc => exact H.enqueue hmutex hpc
  | count hpc => exact H.count hmutex hpc
  | @breakSession c hpc =>
    have huncounted : (s.setCaller c .finished).uncounted = s.uncounted :=
      uncounted_setCaller (by simp [hpc]) (by simp)
    exact H.frame rfl huncounted rfl rfl rfl (admitted_setCaller rfl)
  | writerLock hpc hfree =>
    refine H.setWriter rfl (by simp [hfree]) (by simp) rfl ?_ rfl rfl
    rcases hpc with hpc | hpc <;> simp [hpc, ResponseWriterPc.outstanding, ResponseWriterPc.item?]
  | writerReady hpc | writerSleepy hpc =>
    have howns := howner (by simp [hpc, ResponseWriterPc.holdsMutex])
    refine H.setWriter rfl (by simp [howns]) (by simp [howns]) rfl ?_ rfl rfl
    simp [hpc, ResponseWriterPc.outstanding, ResponseWriterPc.item?]
  | writerBlock hpc =>
    have howns := howner (by simp [hpc, ResponseWriterPc.holdsMutex])
    refine H.setWriter rfl (by simp [howns]) (by simp) rfl ?_ rfl rfl
    simp [hpc, ResponseWriterPc.outstanding, ResponseWriterPc.item?]
  | writerWake hpc =>
    exact H.frame rfl rfl rfl (by rw [hpc]; rfl) rfl fun _ => id
  | @writerPop item rest hpc hqueue =>
    have howns := howner (by simp [hpc, ResponseWriterPc.holdsMutex])
    have hbalance := H.balance (hnotStop (by simp [hpc, ResponseWriterPc.holdsMutex]))
    rw [uncounted_of_not_caller (by simp [howns]), hqueue, hpc] at hbalance
    refine ⟨?_, H.bound, H.room, ?_⟩
    · intro _
      rw [uncounted_of_free rfl]
      exact hbalance
    · intro h
      have hempty := (H.swapped h).1
      simp [hqueue] at hempty
  | writerExit hpc hempty hrunning =>
    have howns := howner (by simp [hpc, ResponseWriterPc.holdsMutex])
    refine H.setWriter rfl (by simp [howns]) (by simp) rfl ?_ rfl rfl
    simp [hpc, ResponseWriterPc.outstanding, ResponseWriterPc.item?]
  | writerItem h => exact H.frame rfl rfl rfl h.outstanding_eq rfl fun _ => id
  | writerPush hpc | writerBreak hpc | writerFailed hpc | writerComplete hpc =>
    exact H.frame rfl rfl rfl (by rw [hpc]; rfl) rfl fun _ => id
  | writerFinish hpc hfree =>
    refine H.setWriter rfl (by simp [hfree]) (by simp) rfl ?_ rfl rfl
    rw [hpc]
    rfl
  | writerCount hpc =>
    have hin : s.writer.holdsMutex = true := by rw [hpc]; rfl
    exact H.writerCount (howner hin) (hnotStop hin) hpc

/-- A move of `Stop` that leaves queue, count and mutex alone. -/
theorem setStop (H : s.CountInv cfg) (hold : ∀ queued, s.stop ≠ .zeroing queued)
    (hswapped : s'.stop.swapped = s.stop.swapped)
    (hcount : s'.pendingCompletionCount = s.pendingCompletionCount)
    (huncounted : s'.uncounted = s.uncounted)
    (hqueue : s'.completionQueue = s.completionQueue)
    (hwriter : s'.writer.outstanding = s.writer.outstanding)
    (hcaller : s'.caller = s.caller) : s'.CountInv cfg := by
  refine ⟨?_, ?_, ?_, ?_⟩
  · intro _
    rw [hcount, huncounted, hqueue, hwriter]
    exact H.balance hold
  · exact hcount ▸ H.bound
  · rw [hcaller, hcount]
    exact H.room
  · rw [hswapped, hqueue, hcaller]
    exact H.swapped

/-- `FailPendingCompletionItems` swaps the queue inside the mutex, where nobody is
admitted. -/
theorem swap (H : s.CountInv cfg) (hmutex : s.MutexInv) (hpc : s.stop = .swapping) :
    ({ s with stop := .zeroing s.completionQueue, completionQueue := [] } :
      ServerRuntime).CountInv cfg := by
  have hin : s.inside .stop = true := by simp [inside, hpc, ServerStopPc.holdsMutex]
  refine ⟨fun h => absurd rfl (h _), H.bound, H.room, fun _ => ⟨rfl, ?_⟩⟩
  intro c
  by_contra hc
  have hcaller := CallerPc.holdsMutex_of_admitted (by simpa using hc)
  cases hmutex.unique (o := .caller c) hcaller hin

/-- The count of the swapped queue is cleared. -/
theorem zero (H : s.CountInv cfg) (hstop : s.StopInv) {queued : List CompletionItem}
    (hpc : s.stop = .zeroing queued) :
    ({ s with stop := .failing queued, pendingCompletionCount := 0, completionMutex := none } :
      ServerRuntime).CountInv cfg := by
  obtain ⟨hempty, hnone⟩ := H.swapped (by rw [hpc]; rfl)
  have hexited := hstop.exited (by rw [hpc]; rfl)
  refine ⟨?_, UInt32.zero_le, ?_, fun _ => ⟨hempty, hnone⟩⟩
  · intro _
    rw [uncounted_of_free rfl]
    show 0 = s.completionQueue.length + s.writer.outstanding
    rw [hempty, hexited]
    rfl
  · intro c hc
    have hnot := hnone c
    rw [hnot] at hc
    cases hc

theorem stopMove (H : s.CountInv cfg) (hmutex : s.MutexInv) (hstop : s.StopInv)
    (hmove : StopMove s s') : s'.CountInv cfg := by
  have hrank : ∀ {pc pc' : ServerStopPc}, s.stop = pc → pc'.swapped = pc.swapped →
      pc'.swapped = s.stop.swapped := by
    rintro pc pc' rfl h
    exact h
  cases hmove with
  | begin hpc | mark hpc => exact H.setStop (by simp [hpc]) (hrank hpc rfl) rfl rfl rfl rfl rfl
  | clear hpc =>
    rcases hpc with ⟨hpc, rfl⟩ | ⟨hpc, rfl⟩ <;>
      exact H.setStop (by simp [hpc]) (hrank hpc rfl) rfl rfl rfl rfl rfl
  | signal hpc => exact H.setStop (by simp [hpc]) (hrank hpc rfl) rfl rfl rfl rfl rfl
  | notify hpc =>
    exact H.setStop (by simp [hpc]) (hrank hpc rfl) rfl rfl rfl
      (ResponseWriterPc.outstanding_notified _) rfl
  | joined hpc hwriter => exact H.setStop (by simp [hpc]) (hrank hpc rfl) rfl rfl rfl rfl rfl
  | lock hpc hfree =>
    refine H.setStop (by simp [hpc]) (hrank hpc rfl) rfl ?_ rfl rfl rfl
    rw [uncounted_of_free hfree, uncounted_of_not_caller (by simp)]
  | swap hpc => exact H.swap hmutex hpc
  | zero hpc => exact H.zero hstop hpc
  | fail hpc | failed hpc | joinedDispatcher hpc =>
    exact H.setStop (by simp [hpc]) (hrank hpc rfl) rfl rfl rfl rfl rfl
  | executor hpc =>
    rcases hpc with ⟨hpc, rfl⟩ | ⟨hpc, rfl⟩ <;>
      exact H.setStop (by simp [hpc]) (hrank hpc rfl) rfl rfl rfl rfl rfl
  | waited hpc | reset hpc => exact H.setStop (by simp [hpc]) (hrank hpc rfl) rfl rfl rfl rfl rfl

theorem of_reach {ok : ServerRuntime → ServerAction → Prop} (h : (serverRuntime cfg).Reach ok s) :
    s.CountInv cfg := by
  have hinit : ({} : ServerRuntime).CountInv cfg :=
    ⟨fun _ => rfl, UInt32.zero_le, fun c hc => (by cases hc), fun h => (by cases h)⟩
  refine h.invariant_of_reach hinit ?_
  intro s a s' hreach H _ hs
  cases ServerMove.of_step hs with
  | thread h => exact H.threadMove (.of_reach hreach) (.of_reach hreach) (.of_reach hreach) h
  | stop h => exact H.stopMove (.of_reach hreach) (.of_reach hreach) h

end CountInv

end ServerRuntime

/-! ## The items -/

/-- A caller whose item is in the queue or has been. -/
def CallerPc.enqueued : CallerPc → Bool
  | .counting | .awaiting | .finished | .released => true
  | _ => false

theorem CallerMove.enqueued {s : ServerRuntime}
    (h : CallerMove s c pc) (hold : (s.caller c).enqueued = true) : pc.enqueued = true := by
  have hrequest : ∀ {pc : CallerPc} {e : RequestRingEntry}, pc.request? = some e →
      pc.enqueued ≠ true := by
    intro pc e he
    cases pc <;> simp_all [CallerPc.request?, CallerPc.enqueued]
  have hevent : ∀ {pc : CallerPc} {ev : RpcEvent}, pc.event? = some ev →
      pc.enqueued ≠ true := by
    intro pc ev hev
    cases pc <;> simp_all [CallerPc.event?, CallerPc.enqueued]
  cases h with
  | request hreq hnew => exact absurd hold (hrequest hreq)
  | reply d hpc => simp [hpc, CallerPc.enqueued] at hold
  | abandon hreq hgone => rfl
  | call ev hc hpc => simp [hpc, CallerPc.enqueued] at hold
  | event hev hnew => exact absurd hold (hevent hev)
  | eventEntry p hpc => simp [hpc, CallerPc.enqueued] at hold
  | eventReturn | answered | release => rfl

namespace ServerRuntime

/-- The callers of the items that are accepted and not completed. -/
def inFlight (s : ServerRuntime) : List Caller :=
  (s.completionQueue ++ s.writer.item?.toList ++ s.stop.queued).map CompletionItem.caller

/-- Every accepted item is in one place, and its caller is past the push. -/
structure ItemInv (s : ServerRuntime) : Prop where
  places : (s.inFlight ++ s.completed.map Prod.fst).Perm s.accepted
  nodup : s.accepted.Nodup
  enqueued : ∀ c ∈ s.accepted, (s.caller c).enqueued = true

namespace ItemInv

/-- A step that accepts nothing and hands items on. -/
theorem frame (H : s.ItemInv)
    (hplaces : (s'.inFlight ++ s'.completed.map Prod.fst).Perm
      (s.inFlight ++ s.completed.map Prod.fst))
    (haccepted : s'.accepted = s.accepted)
    (hcaller : ∀ c, (s.caller c).enqueued = true → (s'.caller c).enqueued = true) :
    s'.ItemInv where
  places := haccepted ▸ hplaces.trans H.places
  nodup := haccepted ▸ H.nodup
  enqueued c hc := hcaller c (H.enqueued c (haccepted ▸ hc))

theorem enqueued_setCaller (hpc : (s.caller c).enqueued = true → pc.enqueued = true) (d : Caller)
    (hd : (s.caller d).enqueued = true) : ((s.setCaller c pc).caller d).enqueued = true := by
  by_cases h : d = c
  · subst h
    simpa using hpc hd
  · rwa [setCaller_of_ne s pc h]

/-- A caller moves outside the push. -/
theorem setCaller (H : s.ItemInv) (hpc : (s.caller c).enqueued = true → pc.enqueued = true)
    (hcaller : s'.caller = (s.setCaller c pc).caller) (hflight : s'.inFlight = s.inFlight)
    (hcompleted : s'.completed = s.completed) (haccepted : s'.accepted = s.accepted) :
    s'.ItemInv := by
  refine H.frame (by rw [hflight, hcompleted]) haccepted ?_
  rw [hcaller]
  exact enqueued_setCaller hpc

/-- The push of an item, whose caller has not pushed before. -/
theorem enqueue (H : s.ItemInv) (hpc : s.caller c = .pushing e) : ({ s.setCaller c .counting with
        completionQueue := s.completionQueue ++ [completionItem c e]
        accepted := s.accepted ++ [c] } : ServerRuntime).ItemInv := by
  have hnew : c ∉ s.accepted := by
    intro hc
    have henqueued := H.enqueued c hc
    simp [hpc, CallerPc.enqueued] at henqueued
  refine ⟨?_, ?_, ?_⟩
  · rw [List.perm_iff_count]
    intro d
    have hcount := List.perm_iff_count.mp H.places d
    simp only [inFlight, ServerRuntime.setCaller, List.map_append, List.count_append, List.map_cons,
      List.map_nil, caller_completionItem] at hcount ⊢
    omega
  · rw [List.nodup_append]
    refine ⟨H.nodup, List.nodup_singleton c, ?_⟩
    rintro d hd _ hmem rfl
    exact hnew (List.mem_singleton.mp hmem ▸ hd)
  · intro d hd
    rcases List.mem_append.mp hd with hd | hd
    · exact enqueued_setCaller (fun _ => rfl) d (H.enqueued d hd)
    · obtain rfl := List.mem_singleton.mp hd
      simp [CallerPc.enqueued]

/-- The writer takes the front of the queue. -/
theorem writerPop (H : s.ItemInv) {rest : List CompletionItem}
    (hpc : s.writer = .popping) (hqueue : s.completionQueue = item :: rest) :
    ({ s with writer := .checking item, completionQueue := rest, completionMutex := none } :
      ServerRuntime).ItemInv := by
  refine H.frame ?_ rfl fun _ => id
  rw [List.perm_iff_count]
  intro d
  simp only [inFlight, hpc, hqueue, ResponseWriterPc.item?, Option.toList_some, Option.toList_none,
    List.map_append, List.map_cons, List.map_nil, List.count_append, List.count_cons, List.count_nil]
  omega

/-- `CompleteItem` of the writer. -/
theorem writerComplete (H : s.ItemInv) {status : StatusCode}
    (hpc : s.writer = .completing item status) :
    ({ s with writer := .finishing, completed := s.completed ++ [(item.caller, status)] } :
      ServerRuntime).ItemInv := by
  refine H.frame ?_ rfl fun _ => id
  rw [List.perm_iff_count]
  intro d
  simp only [inFlight, hpc, ResponseWriterPc.item?, Option.toList_some, Option.toList_none,
    List.map_append, List.map_cons, List.map_nil, List.count_append, List.count_cons, List.count_nil]
  omega

theorem threadMove (H : s.ItemInv) (hnew : s.Unpopped) (hmove : ThreadMove cfg s s') :
    s'.ItemInv := by
  -- a writer that keeps its item keeps every item in place
  have hwriter : ∀ {s' : ServerRuntime}, s'.writer.item? = s.writer.item? →
      s'.completionQueue = s.completionQueue → s'.stop = s.stop → s'.completed = s.completed →
      s'.accepted = s.accepted → s'.caller = s.caller → s'.ItemInv := by
    intro s' hitem hqueue hstop hcompleted haccepted hcaller
    refine H.frame ?_ haccepted (by rw [hcaller]; exact fun _ => id)
    rw [inFlight, inFlight, hitem, hqueue, hstop, hcompleted]
  cases hmove with
  | attach | dispatcher => exact hwriter rfl rfl rfl rfl rfl rfl
  | pop e =>
    have hidle := hnew s.requests.length le_rfl
    refine H.setCaller ?_ rfl rfl rfl rfl
    simp [hidle, CallerPc.enqueued]
  | caller h dispatcher pending => exact H.setCaller h.enqueued rfl rfl rfl rfl
  | lock hpc | refuse hpc | accept hpc =>
    exact H.setCaller (by simp [hpc, CallerPc.enqueued]) rfl rfl rfl rfl
  | enqueue hpc => exact H.enqueue hpc
  | @count c hpc =>
    refine H.frame ?_ rfl (enqueued_setCaller fun _ => rfl)
    simp only [inFlight, notifyWriter, ResponseWriterPc.item_notified]
    rfl
  | breakSession hpc => exact H.setCaller (fun _ => rfl) rfl rfl rfl rfl
  | writerLock hpc hfree =>
    refine hwriter ?_ rfl rfl rfl rfl rfl
    rcases hpc with hpc | hpc <;> rw [hpc] <;> rfl
  | writerReady hpc | writerSleepy hpc | writerBlock hpc | writerWake hpc =>
    exact hwriter (by rw [hpc]; rfl) rfl rfl rfl rfl rfl
  | writerPop hpc hqueue => exact H.writerPop hpc hqueue
  | writerExit hpc hempty hrunning => exact hwriter (by rw [hpc]; rfl) rfl rfl rfl rfl rfl
  | writerItem h => exact hwriter h.item_eq rfl rfl rfl rfl rfl
  | writerPush hpc | writerBreak hpc | writerFailed hpc =>
    exact hwriter (by rw [hpc]; rfl) rfl rfl rfl rfl rfl
  | writerComplete hpc => exact H.writerComplete hpc
  | writerFinish hpc | writerCount hpc => exact hwriter (by rw [hpc]; rfl) rfl rfl rfl rfl rfl

theorem stopMove (H : s.ItemInv) (hmove : StopMove s s') : s'.ItemInv := by
  -- outside `FailPendingCompletionItems`, `Stop` holds no items
  have hstop : ∀ {s' : ServerRuntime}, s'.stop.queued = s.stop.queued →
      s'.writer.item? = s.writer.item? → s'.completionQueue = s.completionQueue →
      s'.completed = s.completed → s'.accepted = s.accepted → s'.caller = s.caller →
      s'.ItemInv := by
    intro s' hqueued hitem hqueue hcompleted haccepted hcaller
    refine H.frame ?_ haccepted (by rw [hcaller]; exact fun _ => id)
    rw [inFlight, inFlight, hqueued, hitem, hqueue, hcompleted]
  cases hmove with
  | begin hpc | mark hpc => exact hstop (by rw [hpc]; rfl) rfl rfl rfl rfl rfl
  | clear hpc =>
    rcases hpc with ⟨hpc, rfl⟩ | ⟨hpc, rfl⟩ <;> exact hstop (by rw [hpc]; rfl) rfl rfl rfl rfl rfl
  | signal hpc => exact hstop (by rw [hpc]; rfl) rfl rfl rfl rfl rfl
  | notify hpc =>
    exact hstop (by rw [hpc]; rfl) (ResponseWriterPc.item_notified _) rfl rfl rfl rfl
  | joined hpc | lock hpc => exact hstop (by rw [hpc]; rfl) rfl rfl rfl rfl rfl
  | swap hpc =>
    refine H.frame ?_ rfl fun _ => id
    rw [List.perm_iff_count]
    intro d
    simp only [inFlight, hpc, ServerStopPc.queued, List.map_append, List.map_nil,
      List.count_append, List.count_nil]
    omega
  | zero hpc => exact hstop (by rw [hpc]; rfl) rfl rfl rfl rfl rfl
  | fail hpc =>
    refine H.frame ?_ rfl fun _ => id
    rw [List.perm_iff_count]
    intro d
    simp only [inFlight, hpc, ServerStopPc.queued, List.map_append, List.map_cons, List.map_nil,
      List.count_append, List.count_cons, List.count_nil]
    omega
  | failed hpc | joinedDispatcher hpc => exact hstop (by rw [hpc]; rfl) rfl rfl rfl rfl rfl
  | executor hpc =>
    rcases hpc with ⟨hpc, rfl⟩ | ⟨hpc, rfl⟩ <;> exact hstop (by rw [hpc]; rfl) rfl rfl rfl rfl rfl
  | waited hpc | reset hpc => exact hstop (by rw [hpc]; rfl) rfl rfl rfl rfl rfl

theorem of_reach {ok : ServerRuntime → ServerAction → Prop} (h : (serverRuntime cfg).Reach ok s) :
    s.ItemInv := by
  have hinit : ({} : ServerRuntime).ItemInv :=
    ⟨List.Perm.refl [], List.nodup_nil, fun _ hc => absurd hc List.not_mem_nil⟩
  refine h.invariant_of_reach hinit ?_
  intro s a s' hreach H _ hs
  cases ServerMove.of_step hs with
  | thread h => exact H.threadMove (.of_reach hreach) h
  | stop h => exact H.stopMove h

/-- The completed items are accepted ones, each once. -/
theorem completed_nodup (H : s.ItemInv) : (s.completed.map Prod.fst).Nodup :=
  (List.nodup_append.mp (H.places.nodup_iff.mpr H.nodup)).2.1

theorem mem_accepted (H : s.ItemInv) (hc : c ∈ s.completed.map Prod.fst) :
    c ∈ s.accepted :=
  H.places.mem_iff.mp (List.mem_append_right _ hc)

end ItemInv

end ServerRuntime

/-- In every run, accepted items are completed at most once, exactly once by the time
`StopResponseWriter` has returned, and counted until then. -/
theorem completionsConserved_of_reach (cfg : ServerConfig) {s : ServerRuntime}
    (h : (serverRuntime cfg).Reach Machine.Always s) : s.CompletionsConserved cfg := by
  have hitems := ServerRuntime.ItemInv.of_reach h
  have hcount := ServerRuntime.CountInv.of_reach h
  have hmutex := ServerRuntime.MutexInv.of_reach h
  refine ⟨hitems.completed_nodup, fun c => hitems.mem_accepted, ?_, ?_⟩
  · intro hstopped c hc
    -- queue, writer and `Stop` are empty-handed
    have hrank : 11 ≤ s.stop.rank := by simpa [ServerStopPc.writerStopped] using hstopped
    have hqueue := (hcount.swapped (by simp [ServerStopPc.swapped]; omega)).1
    have hexited := (ServerRuntime.StopInv.of_reach h).exited (by simp [ServerStopPc.joined]; omega)
    have hqueued : s.stop.queued = [] := by
      cases hpc : s.stop <;> simp_all [ServerStopPc.queued, ServerStopPc.rank]
    have hflight : s.inFlight = [] := by
      simp [ServerRuntime.inFlight, hqueue, hexited, hqueued, ResponseWriterPc.item?]
    have hplaces := hitems.places.mem_iff.mpr hc
    rwa [hflight, List.nil_append] at hplaces
  · intro hfree _
    have hzero : ∀ queued, s.stop ≠ .zeroing queued := by
      intro queued hpc
      have hin := hmutex.of_free hfree .stop
      simp [ServerRuntime.inside, hpc, ServerStopPc.holdsMutex] at hin
    have hbalance := hcount.balance hzero
    rw [ServerRuntime.uncounted_of_free hfree, add_zero] at hbalance
    exact ⟨hbalance, hcount.bound⟩

/-- An event is accepted, `Stop` breaks the session, and the writer completes the event on
its way out. -/
def publishThenStop : List ServerAction :=
  [.publishEvent 0 {}, .caller (.event 0), .caller (.event 0), .prepare (.event 0) (some ⟨[], 0⟩)] ++
    List.replicate 4 (.caller (.event 0)) ++ List.replicate 6 .stop ++ List.replicate 11 .writer ++
    List.replicate 5 .stop

theorem completionsConserved_stopped :
    ∃ s, smallServer.run smallServer.init publishThenStop = some s ∧
      s.stop.writerStopped = true ∧ s.accepted = [.event 0] ∧
      s.CompletionsConserved ⟨1, 1024, fun _ => true⟩ := by
  have hrun : (smallServer.run smallServer.init publishThenStop).any
      (fun s => s.stop.writerStopped = true ∧ s.accepted = [.event 0]) = true := by decide +kernel
  obtain ⟨s, hs, hstopped, haccepted⟩ := Machine.exists_of_any hrun
  exact ⟨s, hs, hstopped, haccepted,
    completionsConserved_of_reach _ (Machine.reach_of_run publishThenStop hs)⟩

end MemRpc
