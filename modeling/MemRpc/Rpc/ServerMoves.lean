import MemRpc.Rpc.ServerRuntime

/-!
# What one step of the server does

Every step of `serverRuntime` is a `ServerMove`, which names the guards that the step has
passed and the state it leads to. The steps of a caller outside `EnqueueCompletion`, and
those of the response writer with an item in its hands, are grouped by what they mean for
the request, the event or the item.

## Main results

* `ServerMove.of_step`: the inversion of a step.
* `MutexInv.of_reach`: `completionMutex` is owned by the one thread that is at a point
  between taking and releasing it.
-/

namespace MemRpc

open Concurrency


/-- The request that a task has not answered yet. -/
def CallerPc.request? : CallerPc → Option RequestRingEntry
  | .submitting e | .queued e | .processing e | .invoking e | .preparing e _ => some e
  | _ => none

/-- The event that a call of `PublishEvent` has not enqueued yet. -/
def CallerPc.event? : CallerPc → Option RpcEvent
  | .checking ev | .validating ev | .preparingEvent ev => some ev
  | _ => none

/-- The item of a push that has not succeeded yet. -/
def ResponseWriterPc.unstored? : ResponseWriterPc → Option CompletionItem
  | .checking item | .pushing item | .full item => some item
  | _ => none

/-- A move of a caller outside `EnqueueCompletion` and `MarkSessionBroken`, to `pc`. -/
inductive CallerMove (s : ServerRuntime) (c : Caller) : CallerPc → Prop
  | request {e : RequestRingEntry} {pc : CallerPc} (hold : (s.caller c).request? = some e)
      (hnew : pc.request? = some e) : CallerMove s c pc
  | reply {e : RequestRingEntry} {reply : RpcReply} (d : ReplyData)
      (hold : s.caller c = .preparing e reply) : CallerMove s c (.locking (buildReplyEntry e d))
  | abandon {e : RequestRingEntry} (hold : (s.caller c).request? = some e)
      (hgone : s.executorStopped = true ∨ s.valid = false) : CallerMove s c .finished
  | call {n : ℕ} (ev : RpcEvent) (hc : c = .event n) (hold : s.caller c = .idle) :
      CallerMove s c (.checking ev)
  | event {ev : RpcEvent} {pc : CallerPc} (hold : (s.caller c).event? = some ev)
      (hnew : pc.event? = some ev) : CallerMove s c pc
  | eventEntry {ev : RpcEvent} (p : TransportPayload) (hold : s.caller c = .preparingEvent ev) :
      CallerMove s c (.locking (buildEventEntry ev p))
  | eventReturn {ev : RpcEvent} (hold : (s.caller c).event? = some ev) : CallerMove s c .finished
  | answered (hold : s.caller c = .awaiting) (hready : s.ready c = true) : CallerMove s c .finished
  | release (hold : s.caller c = .finished) : CallerMove s c .released

/-- A move of the response writer with an item, outside the mutex. -/
inductive WriterItemMove : ResponseWriterPc → ResponseWriterPc → Prop
  | retry {item : CompletionItem} {pc pc' : ResponseWriterPc} (hold : pc.unstored? = some item)
      (hnew : pc'.unstored? = some item) : WriterItemMove pc pc'
  | giveUp {item : CompletionItem} {pc : ResponseWriterPc} (status : StatusCode)
      (hold : pc.unstored? = some item) : WriterItemMove pc (.failed item status)
  | stored (item : CompletionItem) : WriterItemMove (.rechecking item) (.completing item .ok)
  | storedBroken (item : CompletionItem) :
      WriterItemMove (.rechecking item) (.failed item .peerDisconnected)

/-- What one step of a thread other than `Stop` does, with the guards that it has passed. -/
inductive ThreadMove (cfg : ServerConfig) (s : ServerRuntime) : ServerRuntime → Prop
  | attach : ThreadMove cfg s { s with state := .alive }
  | dispatcher (pc : DrainPc) : ThreadMove cfg s { s with dispatcher := pc }
  | pop (e : RequestRingEntry) : ThreadMove cfg s
      { s.setCaller (.task s.requests.length) (.submitting e) with
        dispatcher := .submitting s.requests.length
        requests := s.requests ++ [e]
        pendingSubmittedTasks := s.pendingSubmittedTasks + 1 }
  | caller {c : Caller} {pc : CallerPc} (h : CallerMove s c pc) (dispatcher : DrainPc)
      (pending : UInt32) : ThreadMove cfg s
      { s.setCaller c pc with dispatcher := dispatcher, pendingSubmittedTasks := pending }
  | lock {c : Caller} {e : ResponseRingEntry} (hpc : s.caller c = .locking e)
      (hfree : s.completionMutex = none) : ThreadMove cfg s
      { s.setCaller c (.admitting e) with completionMutex := some (.caller c) }
  | refuse {c : Caller} {e : ResponseRingEntry} (hpc : s.caller c = .admitting e) :
      ThreadMove cfg s { s.setCaller c (ServerRuntime.refusedPc c) with completionMutex := none }
  | accept {c : Caller} {e : ResponseRingEntry} (hpc : s.caller c = .admitting e)
      (hrunning : s.responseWriterRunning = true)
      (hroom : s.pendingCompletionCount < cfg.completionQueueCapacity) :
      ThreadMove cfg s (s.setCaller c (.pushing e))
  | enqueue {c : Caller} {e : ResponseRingEntry} (hpc : s.caller c = .pushing e) : ThreadMove cfg s
      { s.setCaller c .counting with
        completionQueue := s.completionQueue ++ [completionItem c e]
        accepted := s.accepted ++ [c] }
  | count {c : Caller} (hpc : s.caller c = .counting) : ThreadMove cfg s
      { (s.setCaller c .awaiting).notifyWriter with
        pendingCompletionCount := s.pendingCompletionCount + 1
        completionMutex := none }
  | breakSession {c : Caller} (hpc : s.caller c = .breaking) :
      ThreadMove cfg s (s.markSessionBroken.setCaller c .finished)
  | writerLock (hpc : s.writer = .locking ∨ s.writer = .woken) (hfree : s.completionMutex = none) :
      ThreadMove cfg s { s with writer := .waiting, completionMutex := some .writer }
  | writerReady (hpc : s.writer = .waiting)
      (hready : s.responseWriterRunning = false ∨ s.completionQueue ≠ []) :
      ThreadMove cfg s { s with writer := .popping }
  | writerSleepy (hpc : s.writer = .waiting) (hrunning : s.responseWriterRunning = true)
      (hempty : s.completionQueue = []) : ThreadMove cfg s { s with writer := .blocking }
  | writerBlock (hpc : s.writer = .blocking) :
      ThreadMove cfg s { s with writer := .blocked, completionMutex := none }
  | writerWake (hpc : s.writer = .blocked) : ThreadMove cfg s { s with writer := .woken }
  | writerPop {item : CompletionItem} {rest : List CompletionItem} (hpc : s.writer = .popping)
      (hqueue : s.completionQueue = item :: rest) : ThreadMove cfg s
      { s with writer := .checking item, completionQueue := rest, completionMutex := none }
  | writerExit (hpc : s.writer = .popping) (hempty : s.completionQueue = [])
      (hrunning : s.responseWriterRunning = false) :
      ThreadMove cfg s { s with writer := .exited, completionMutex := none }
  | writerItem {pc : ResponseWriterPc} (h : WriterItemMove s.writer pc) :
      ThreadMove cfg s { s with writer := pc }
  | writerPush {item : CompletionItem} (hpc : s.writer = .pushing item) :
      ThreadMove cfg s { s with writer := .rechecking item, pushed := s.pushed ++ [item] }
  | writerBreak {item : CompletionItem} {status : StatusCode}
      (hpc : s.writer = .failed item status) (hbreak : item.breakSessionOnFailure = true) :
      ThreadMove cfg s { s.markSessionBroken with writer := .completing item status }
  | writerFailed {item : CompletionItem} {status : StatusCode}
      (hpc : s.writer = .failed item status) (hkeep : item.breakSessionOnFailure = false) :
      ThreadMove cfg s { s with writer := .completing item status }
  | writerComplete {item : CompletionItem} {status : StatusCode}
      (hpc : s.writer = .completing item status) : ThreadMove cfg s
      { s with writer := .finishing, completed := s.completed ++ [(item.caller, status)] }
  | writerFinish (hpc : s.writer = .finishing) (hfree : s.completionMutex = none) :
      ThreadMove cfg s { s with writer := .counting, completionMutex := some .writer }
  | writerCount (hpc : s.writer = .counting) : ThreadMove cfg s
      { s with
        writer := .locking
        completionMutex := none
        pendingCompletionCount :=
          if s.pendingCompletionCount > 0 then s.pendingCompletionCount - 1
          else s.pendingCompletionCount }

/-- What one step of `Stop` does. -/
inductive StopMove (s : ServerRuntime) : ServerRuntime → Prop
  | begin (hpc : s.stop = .outside) :
      StopMove s { s with running := false, stop := .marking }
  | mark (hpc : s.stop = .marking) :
      StopMove s { s.markSessionBroken with stop := .clearing }
  | clear {pc : ServerStopPc}
      (hpc : s.stop = .clearing ∧ pc = .stoppingWriter ∨ s.stop = .stoppingWriter ∧ pc = .signalling) :
      StopMove s { s with responseWriterRunning := false, stop := pc }
  | signal (hpc : s.stop = .signalling) : StopMove s { s with stop := .notifying }
  | notify (hpc : s.stop = .notifying) :
      StopMove s { s.notifyWriter with stop := .joiningWriter }
  | joined (hpc : s.stop = .joiningWriter) (hwriter : s.writer = .exited) :
      StopMove s { s with stop := .locking }
  | lock (hpc : s.stop = .locking) (hfree : s.completionMutex = none) :
      StopMove s { s with stop := .swapping, completionMutex := some .stop }
  | swap (hpc : s.stop = .swapping) :
      StopMove s { s with stop := .zeroing s.completionQueue, completionQueue := [] }
  | zero {queued : List CompletionItem} (hpc : s.stop = .zeroing queued) : StopMove s
      { s with stop := .failing queued, pendingCompletionCount := 0, completionMutex := none }
  | fail {item : CompletionItem} {rest : List CompletionItem}
      (hpc : s.stop = .failing (item :: rest)) : StopMove s
      { s with
        stop := .failing rest
        completed := s.completed ++ [(item.caller, .peerDisconnected)] }
  | failed (hpc : s.stop = .failing []) : StopMove s { s with stop := .joiningDispatcher }
  | joinedDispatcher (hpc : s.stop = .joiningDispatcher) : StopMove s { s with stop := .stoppingHigh }
  | executor {pc : ServerStopPc}
      (hpc : s.stop = .stoppingHigh ∧ pc = .stoppingNormal ∨
        s.stop = .stoppingNormal ∧ pc = .waitingTasks) :
      StopMove s { s with stop := pc, executorStopped := true }
  | waited (hpc : s.stop = .waitingTasks) : StopMove s { s with stop := .resetting }
  | reset (hpc : s.stop = .resetting) :
      StopMove s { s with stop := .returned, valid := false }

/-- What one step does. -/
inductive ServerMove (cfg : ServerConfig) (s s' : ServerRuntime) : Prop
  | thread (h : ThreadMove cfg s s')
  | stop (h : StopMove s s')

variable {c : Caller} {pc : CallerPc}

namespace ThreadMove
variable {cfg : ServerConfig} {s s' : ServerRuntime}

/-- A caller that leaves dispatcher and tokens alone. -/
theorem ofCaller (h : CallerMove s c pc) :
    ThreadMove cfg s (s.setCaller c pc) :=
  .caller h s.dispatcher s.pendingSubmittedTasks

theorem of_drainStep {ok : Bool} (hs : s.drainStep ok = some s') : ThreadMove cfg s s' := by
  unfold ServerRuntime.drainStep at hs
  split at hs
  · cases hs; exact .dispatcher _
  · cases hs; exact .dispatcher _
  · cases hs; exact .dispatcher _
  · split at hs
    · cases hs
    · cases hs; exact .dispatcher _
  · cases hs
  · cases hs

theorem of_popRequest {e : RequestRingEntry} (hs : s.popRequest e = some s') :
    ThreadMove cfg s s' := by
  unfold ServerRuntime.popRequest at hs
  split at hs
  · cases hs; exact .pop e
  · cases hs

theorem of_trySubmit (hs : s.trySubmit = some s') : ThreadMove cfg s s' := by
  unfold ServerRuntime.trySubmit at hs
  split at hs
  · rename_i n _
    split at hs
    · rename_i e hpc
      cases hs
      refine .caller ?_ _ _
      by_cases hstopped : s.executorStopped = true
      · rw [if_pos hstopped]
        exact .abandon (e := e) (by simp [hpc, CallerPc.request?]) (.inl hstopped)
      · rw [if_neg hstopped]
        exact .request (e := e) (by simp [hpc, CallerPc.request?]) rfl
    · cases hs
  · cases hs

theorem of_executorStep {n : ℕ} {runs : Bool} (hs : s.executorStep n runs = some s') :
    ThreadMove cfg s s' := by
  unfold ServerRuntime.executorStep at hs
  split at hs
  · rename_i e hpc
    have hold : (s.caller (.task n)).request? = some e := by simp [hpc, CallerPc.request?]
    split at hs
    · cases hs
      exact .ofCaller (.request hold rfl)
    · split at hs
      · rename_i hstopped
        cases hs
        exact .ofCaller (.abandon hold (.inl hstopped))
      · cases hs
  · cases hs

theorem of_handlerStep {n : ℕ} {resolved : Bool} {reply : RpcReply}
    (hs : s.handlerStep cfg n resolved reply = some s') : ThreadMove cfg s s' := by
  unfold ServerRuntime.handlerStep at hs
  split at hs
  · rename_i e hpc
    cases hs
    exact .ofCaller (.request (e := e) (by simp [hpc, CallerPc.request?]) rfl)
  · cases hs

theorem of_prepareStep {p : Option TransportPayload}
    (hs : s.prepareStep c p = some s') : ThreadMove cfg s s' := by
  unfold ServerRuntime.prepareStep at hs
  split at hs
  · rename_i e reply hpc
    cases hs
    refine .ofCaller ?_
    by_cases hvalid : s.valid = true
    · rw [if_pos hvalid]
      exact .reply _ hpc
    · rw [if_neg hvalid]
      exact .abandon (e := e) (by simp [hpc, CallerPc.request?]) (.inr (by simpa using hvalid))
  · rename_i event hpc
    have hold : (s.caller c).event? = some event := by simp [hpc, CallerPc.event?]
    split at hs
    · cases hs
      refine .ofCaller ?_
      split
      · exact .eventEntry _ hpc
      · exact .eventReturn hold
    · cases hs
      exact .ofCaller (.eventReturn hold)
  · cases hs

theorem of_publishEvent {n : ℕ} {event : RpcEvent} (hs : s.publishEvent n event = some s') :
    ThreadMove cfg s s' := by
  unfold ServerRuntime.publishEvent at hs
  split at hs
  · rename_i hpc
    cases hs
    exact .ofCaller (.call event rfl hpc)
  · cases hs

theorem of_callerStep (hs : s.callerStep cfg c = some s') : ThreadMove cfg s s' := by
  unfold ServerRuntime.callerStep at hs
  split at hs
  · rename_i e hpc
    have hold : (s.caller c).request? = some e := by simp [hpc, CallerPc.request?]
    split at hs
    · rename_i hvalid
      cases hs
      exact .ofCaller (.abandon hold (.inr (by simpa using hvalid)))
    · split at hs <;> cases hs <;> exact .ofCaller (.request hold rfl)
  · rename_i event hpc
    have hold : (s.caller c).event? = some event := by simp [hpc, CallerPc.event?]
    split at hs
    · cases hs
      exact .ofCaller (.event hold rfl)
    · cases hs
      exact .ofCaller (.eventReturn hold)
  · rename_i event hpc
    have hold : (s.caller c).event? = some event := by simp [hpc, CallerPc.event?]
    cases hs
    refine .ofCaller ?_
    split
    · exact .event hold rfl
    · exact .eventReturn hold
  · rename_i e hpc
    split at hs
    · rename_i hfree
      cases hs
      exact .lock hpc hfree
    · cases hs
  · rename_i e hpc
    split at hs
    · cases hs
      exact .refuse hpc
    · rename_i hopen
      simp only [Bool.or_eq_true, Bool.not_eq_true', decide_eq_true_eq, not_or,
        Bool.not_eq_false] at hopen
      cases hs
      exact .accept hpc hopen.1 (UInt32.not_le.mp hopen.2)
  · rename_i e hpc
    cases hs
    exact .enqueue hpc
  · rename_i hpc
    cases hs
    exact .count hpc
  · rename_i hpc
    cases hs
    exact .breakSession hpc
  · rename_i hpc
    split at hs
    · rename_i hready
      cases hs
      exact .ofCaller (.answered hpc hready)
    · cases hs
  · rename_i hpc
    split at hs
    · cases hs
      exact .caller (.release hpc) _ _
    · cases hs
  · cases hs

theorem of_responseWriterStep (hs : s.responseWriterStep = some s') : ThreadMove cfg s s' := by
  unfold ServerRuntime.responseWriterStep at hs
  split at hs
  · rename_i hpc
    split at hs
    · rename_i hfree
      cases hs
      exact .writerLock (.inl hpc) hfree
    · cases hs
  · rename_i hpc
    split at hs
    · rename_i hfree
      cases hs
      exact .writerLock (.inr hpc) hfree
    · cases hs
  · rename_i hpc
    split at hs
    · rename_i hready
      cases hs
      exact .writerReady hpc (by simpa using hready)
    · rename_i hready
      simp only [Bool.or_eq_true, Bool.not_eq_true', List.isEmpty_eq_false_iff, not_or,
        Bool.not_eq_false, not_not, ne_eq] at hready
      cases hs
      exact .writerSleepy hpc hready.1 hready.2
  · rename_i hpc
    cases hs
    exact .writerBlock hpc
  · rename_i hpc
    split at hs
    · rename_i hqueue
      cases hs
      exact .writerPop hpc hqueue
    · rename_i hempty
      split at hs
      · cases hs
      · rename_i hrunning
        cases hs
        exact .writerExit hpc hempty (by simpa using hrunning)
  · rename_i item hpc
    have hold : s.writer.unstored? = some item := by simp [hpc, ResponseWriterPc.unstored?]
    split at hs
    · cases hs
      exact .writerItem (.retry hold rfl)
    · cases hs
      exact .writerItem (.giveUp _ hold)
  · rename_i item hpc
    split at hs
    · cases hs
      exact .writerItem (hpc ▸ .stored item)
    · cases hs
      exact .writerItem (hpc ▸ .storedBroken item)
  · rename_i item status hpc
    cases hs
    by_cases hbreak : item.breakSessionOnFailure = true
    · rw [if_pos hbreak]
      exact .writerBreak hpc hbreak
    · rw [if_neg hbreak]
      exact .writerFailed hpc (by simpa using hbreak)
  · rename_i item status hpc
    cases hs
    exact .writerComplete hpc
  · rename_i hpc
    split at hs
    · rename_i hfree
      cases hs
      exact .writerFinish hpc hfree
    · cases hs
  · rename_i hpc
    cases hs
    exact .writerCount hpc
  all_goals cases hs

theorem of_pushResponse {full : Bool} (hs : s.pushResponse full = some s') :
    ThreadMove cfg s s' := by
  unfold ServerRuntime.pushResponse at hs
  split at hs
  · rename_i item hpc
    have hold : s.writer.unstored? = some item := by simp [hpc, ResponseWriterPc.unstored?]
    split at hs
    · cases hs
      exact .writerItem (.retry hold rfl)
    · cases hs
      exact .writerPush hpc
  · cases hs

theorem of_waitForResponseCredit {r : PollEventFdResult}
    (hs : s.waitForResponseCredit r = some s') : ThreadMove cfg s s' := by
  unfold ServerRuntime.waitForResponseCredit at hs
  split at hs
  · rename_i item hpc
    have hold : s.writer.unstored? = some item := by simp [hpc, ResponseWriterPc.unstored?]
    split at hs
    · cases hs
      exact .writerItem (.retry hold rfl)
    · cases hs
      exact .writerItem (.giveUp _ hold)
    · cases hs
      exact .writerItem (.giveUp _ hold)
    · split at hs
      · cases hs
        exact .writerItem (.retry hold hold)
      · cases hs
        exact .writerItem (.giveUp _ hold)
  · cases hs

end ThreadMove

variable {s s' : ServerRuntime}

theorem StopMove.of_stopStep (hs : s.stopStep = some s') : StopMove s s' := by
  unfold ServerRuntime.stopStep at hs
  split at hs
  · rename_i hpc
    split at hs
    · cases hs
      exact .begin hpc
    · cases hs
  · rename_i hpc
    cases hs
    exact .mark hpc
  · rename_i hpc
    cases hs
    exact .clear (.inl ⟨hpc, rfl⟩)
  · rename_i hpc
    cases hs
    exact .clear (.inr ⟨hpc, rfl⟩)
  · rename_i hpc
    cases hs
    exact .signal hpc
  · rename_i hpc
    cases hs
    exact .notify hpc
  · rename_i hpc
    split at hs
    · rename_i hwriter
      cases hs
      exact .joined hpc hwriter
    · cases hs
  · rename_i hpc
    split at hs
    · rename_i hfree
      cases hs
      exact .lock hpc hfree
    · cases hs
  · rename_i hpc
    cases hs
    exact .swap hpc
  · rename_i queued hpc
    cases hs
    exact .zero hpc
  · rename_i item rest hpc
    cases hs
    exact .fail hpc
  · rename_i hpc
    cases hs
    exact .failed hpc
  · rename_i hpc
    split at hs
    · cases hs
      exact .joinedDispatcher hpc
    · cases hs
  · rename_i hpc
    cases hs
    exact .executor (.inl ⟨hpc, rfl⟩)
  · rename_i hpc
    cases hs
    exact .executor (.inr ⟨hpc, rfl⟩)
  · rename_i hpc
    split at hs
    · cases hs
      exact .waited hpc
    · cases hs
  · rename_i hpc
    cases hs
    exact .reset hpc
  · cases hs

variable {cfg : ServerConfig}

/-- The inversion of a step of a thread other than `Stop`. -/
theorem ThreadMove.of_step {a : ServerAction}
    (ha : a ≠ .stop) (hs : (serverRuntime cfg).step s a = some s') : ThreadMove cfg s s' := by
  cases a with
  | clientAttach =>
    cases hs
    exact .attach
  | drain ok => exact of_drainStep hs
  | popRequest e => exact of_popRequest hs
  | trySubmit => exact of_trySubmit hs
  | execute n runs => exact of_executorStep hs
  | handle n resolved reply => exact of_handlerStep hs
  | prepare c p => exact of_prepareStep hs
  | publishEvent n event => exact of_publishEvent hs
  | caller c => exact of_callerStep hs
  | writer => exact of_responseWriterStep hs
  | pushResponse full => exact of_pushResponse hs
  | waitForResponseCredit r => exact of_waitForResponseCredit hs
  | spuriousWakeup =>
    simp only [serverRuntime, ServerRuntime.spuriousWakeup] at hs
    split at hs
    · rename_i hpc
      cases hs
      exact .writerWake hpc
    · cases hs
  | stop => exact absurd rfl ha

/-- The inversion of a step. -/
theorem ServerMove.of_step {a : ServerAction}
    (hs : (serverRuntime cfg).step s a = some s') : ServerMove cfg s s' := by
  by_cases ha : a = .stop
  · subst ha
    exact .stop (.of_stopStep hs)
  · exact .thread (.of_step ha hs)

/-- The other threads leave `Stop` alone. -/
theorem ThreadMove.stop_eq (h : ThreadMove cfg s s') :
    s'.stop = s.stop := by
  cases h <;> rfl

/-! ## The mutex -/

/-- A caller between taking and releasing `completionMutex`. -/
def CallerPc.holdsMutex : CallerPc → Bool
  | .admitting _ | .pushing _ | .counting => true
  | _ => false

def ResponseWriterPc.holdsMutex : ResponseWriterPc → Bool
  | .waiting | .blocking | .popping | .counting => true
  | _ => false

def ServerStopPc.holdsMutex : ServerStopPc → Bool
  | .swapping | .zeroing _ => true
  | _ => false

namespace ServerRuntime
variable {cfg : ServerConfig} {s s' : ServerRuntime}

/-- The thread is between taking and releasing `completionMutex`. -/
def inside (s : ServerRuntime) : MutexOwner → Bool
  | .caller c => (s.caller c).holdsMutex
  | .writer => s.writer.holdsMutex
  | .stop => s.stop.holdsMutex

/-- The mutex is owned by whoever is inside. -/
def MutexInv (s : ServerRuntime) : Prop :=
  ∀ o, s.inside o = true ↔ s.completionMutex = some o

@[simp] theorem setCaller_self (s : ServerRuntime) (c : Caller) (pc : CallerPc) :
    (s.setCaller c pc).caller c = pc := by
  simp [setCaller]

theorem setCaller_of_ne (s : ServerRuntime) {c d : Caller} (pc : CallerPc) (h : d ≠ c) :
    (s.setCaller c pc).caller d = s.caller d := by
  simp [setCaller, h]

/-- Only the point of one caller changes. -/
theorem inside_setCaller (s : ServerRuntime) (c : Caller) (pc : CallerPc) (o : MutexOwner) :
    (s.setCaller c pc).inside o = if o = .caller c then pc.holdsMutex else s.inside o := by
  cases o with
  | caller d =>
    by_cases h : d = c
    · simp [inside, h]
    · simp [inside, setCaller_of_ne s pc h, h]
  | writer | stop => simp [inside, setCaller]

@[simp] theorem holdsMutex_notified (pc : ResponseWriterPc) :
    pc.notified.holdsMutex = pc.holdsMutex := by
  cases pc <;> rfl

namespace MutexInv

theorem unique (H : s.MutexInv) {o o' : MutexOwner} (h : s.inside o = true)
    (h' : s.inside o' = true) : o = o' :=
  Option.some.inj (((H o).mp h).symm.trans ((H o').mp h'))

/-- With the mutex free, nobody is inside. -/
theorem of_free (H : s.MutexInv) (hfree : s.completionMutex = none) (o : MutexOwner) :
    s.inside o = false := by
  by_contra hin
  have howner := (H o).mp (by simpa using hin)
  simp [hfree] at howner

theorem keep (H : s.MutexInv) (hmutex : s'.completionMutex = s.completionMutex)
    (hinside : ∀ o, s'.inside o = s.inside o) : s'.MutexInv := by
  intro o
  rw [hinside, hmutex]
  exact H o

theorem take (H : s.MutexInv) (o : MutexOwner) (hfree : s.completionMutex = none)
    (hmutex : s'.completionMutex = some o) (hin : s'.inside o = true)
    (hothers : ∀ o', o' ≠ o → s'.inside o' = s.inside o') : s'.MutexInv := by
  intro o'
  by_cases ho : o' = o
  · subst ho
    simp [hin, hmutex]
  · rw [hothers o' ho, H.of_free hfree o', hmutex]
    simp [Ne.symm ho]

theorem release (H : s.MutexInv) (o : MutexOwner) (hin : s.inside o = true)
    (hmutex : s'.completionMutex = none) (hout : s'.inside o = false)
    (hothers : ∀ o', o' ≠ o → s'.inside o' = s.inside o') : s'.MutexInv := by
  intro o'
  by_cases ho : o' = o
  · subst ho
    simp [hout, hmutex]
  · rw [hothers o' ho, hmutex]
    have hnot : s.inside o' = false := by
      by_contra hin'
      exact ho (H.unique (by simpa using hin') hin)
    simp [hnot]

end MutexInv

end ServerRuntime

/-- A caller outside `EnqueueCompletion` stays outside the mutex. -/
theorem CallerMove.holdsMutex {s : ServerRuntime}
    (h : CallerMove s c pc) : (s.caller c).holdsMutex = false ∧ pc.holdsMutex = false := by
  have hrequest : ∀ {pc : CallerPc} {e : RequestRingEntry}, pc.request? = some e →
      pc.holdsMutex = false := by
    intro pc e he
    cases pc <;> simp_all [CallerPc.request?, CallerPc.holdsMutex]
  have hevent : ∀ {pc : CallerPc} {ev : RpcEvent}, pc.event? = some ev →
      pc.holdsMutex = false := by
    intro pc ev hev
    cases pc <;> simp_all [CallerPc.event?, CallerPc.holdsMutex]
  cases h with
  | request hold hnew => exact ⟨hrequest hold, hrequest hnew⟩
  | reply d hold => exact ⟨by simp [hold, CallerPc.holdsMutex], rfl⟩
  | abandon hold hgone => exact ⟨hrequest hold, rfl⟩
  | call ev hc hold => exact ⟨by simp [hold, CallerPc.holdsMutex], rfl⟩
  | event hold hnew => exact ⟨hevent hold, hevent hnew⟩
  | eventEntry p hold => exact ⟨by simp [hold, CallerPc.holdsMutex], rfl⟩
  | eventReturn hold => exact ⟨hevent hold, rfl⟩
  | answered hold | release hold => exact ⟨by simp [hold, CallerPc.holdsMutex], rfl⟩

/-- A caller that moves has begun, or is a call of `PublishEvent`. -/
theorem CallerMove.begun {s : ServerRuntime} (h : CallerMove s c pc) :
    s.caller c ≠ .idle ∨ ∃ n, c = .event n := by
  cases h with
  | request hold hnew => exact .inl fun hidle => by simp [hidle, CallerPc.request?] at hold
  | reply d hold => exact .inl (by simp [hold])
  | abandon hold hgone => exact .inl fun hidle => by simp [hidle, CallerPc.request?] at hold
  | call ev hc hold => exact .inr ⟨_, hc⟩
  | event hold hnew => exact .inl fun hidle => by simp [hidle, CallerPc.event?] at hold
  | eventEntry p hold => exact .inl (by simp [hold])
  | eventReturn hold => exact .inl fun hidle => by simp [hidle, CallerPc.event?] at hold
  | answered hold | release hold => exact .inl (by simp [hold])

theorem WriterItemMove.holdsMutex {pc pc' : ResponseWriterPc} (h : WriterItemMove pc pc') :
    pc.holdsMutex = false ∧ pc'.holdsMutex = false := by
  have hunstored : ∀ {pc : ResponseWriterPc} {item : CompletionItem}, pc.unstored? = some item →
      pc.holdsMutex = false := by
    intro pc item hitem
    cases pc <;> simp_all [ResponseWriterPc.unstored?, ResponseWriterPc.holdsMutex]
  cases h with
  | retry hold hnew => exact ⟨hunstored hold, hunstored hnew⟩
  | giveUp status hold => exact ⟨hunstored hold, rfl⟩
  | stored | storedBroken => exact ⟨rfl, rfl⟩

namespace ServerRuntime
variable {cfg : ServerConfig} {s s' : ServerRuntime}

/-- Tasks that are not popped yet have not begun. -/
def Unpopped (s : ServerRuntime) : Prop :=
  ∀ n, s.requests.length ≤ n → s.caller (.task n) = .idle

theorem Unpopped.setCaller (H : s.Unpopped) (pc : CallerPc)
    (hc : s.caller c ≠ .idle ∨ ∃ n, c = .event n) : (s.setCaller c pc).Unpopped := by
  intro n hn
  have hne : Caller.task n ≠ c := by
    rintro rfl
    rcases hc with hidle | ⟨m, hm⟩
    · exact hidle (H n hn)
    · cases hm
  rw [setCaller_of_ne s pc hne]
  exact H n hn

theorem Unpopped.threadMove (H : s.Unpopped) (hmove : ThreadMove cfg s s') : s'.Unpopped := by
  cases hmove with
  | pop e =>
    intro n hn
    have hlt : s.requests.length < n := by simpa using hn
    have hne : Caller.task n ≠ .task s.requests.length := by simp [hlt.ne']
    rw [show _ = s.caller (.task n) from setCaller_of_ne s (.submitting e) hne]
    exact H n hlt.le
  | caller h dispatcher pending => exact H.setCaller _ h.begun
  | lock hpc | refuse hpc | accept hpc | enqueue hpc | count hpc | breakSession hpc =>
    exact H.setCaller _ (.inl (by simp [hpc]))
  | _ => exact H

theorem Unpopped.move (H : s.Unpopped) (hmove : ServerMove cfg s s') : s'.Unpopped := by
  cases hmove with
  | thread h => exact H.threadMove h
  | stop h => cases h <;> exact H

namespace MutexInv

/-- A caller moves between points that are both inside or both outside. -/
theorem setCaller (H : s.MutexInv)
    (hpc : pc.holdsMutex = (s.caller c).holdsMutex) : (s.setCaller c pc).MutexInv := by
  refine H.keep rfl ?_
  intro o
  rw [inside_setCaller]
  split
  · rename_i ho
    simp [ho, inside, hpc]
  · rfl

theorem setWriter (H : s.MutexInv) {pc : ResponseWriterPc}
    (hpc : pc.holdsMutex = s.writer.holdsMutex) :
    ({ s with writer := pc } : ServerRuntime).MutexInv := by
  refine H.keep rfl ?_
  intro o
  cases o with
  | writer => exact hpc
  | caller | stop => rfl

theorem setStop (H : s.MutexInv) {pc : ServerStopPc} (hpc : pc.holdsMutex = s.stop.holdsMutex) :
    ({ s with stop := pc } : ServerRuntime).MutexInv := by
  refine H.keep rfl ?_
  intro o
  cases o with
  | stop => exact hpc
  | caller | writer => rfl

/-- The writer takes or releases the mutex. -/
theorem writerTakes (H : s.MutexInv) {pc : ResponseWriterPc} (hfree : s.completionMutex = none)
    (hpc : pc.holdsMutex = true) :
    ({ s with writer := pc, completionMutex := some .writer } : ServerRuntime).MutexInv := by
  refine H.take .writer hfree rfl hpc ?_
  intro o ho
  cases o with
  | writer => exact absurd rfl ho
  | caller | stop => rfl

theorem writerReleases (H : s.MutexInv) {pc : ResponseWriterPc}
    (hold : s.writer.holdsMutex = true) (hpc : pc.holdsMutex = false) :
    ({ s with writer := pc, completionMutex := none } : ServerRuntime).MutexInv := by
  refine H.release .writer hold rfl hpc ?_
  intro o ho
  cases o with
  | writer => exact absurd rfl ho
  | caller | stop => rfl

theorem threadMove (H : s.MutexInv) (hnew : s.Unpopped) (hmove : ThreadMove cfg s s') :
    s'.MutexInv := by
  cases hmove with
  | attach | dispatcher => exact H
  | pop e =>
    have hidle := hnew s.requests.length le_rfl
    exact H.setCaller (by simp [hidle, CallerPc.holdsMutex])
  | caller h dispatcher pending =>
    exact H.setCaller (h.holdsMutex.2.trans h.holdsMutex.1.symm)
  | @lock c e hpc hfree =>
    refine H.take (.caller c) hfree rfl (by simp [inside, CallerPc.holdsMutex]) ?_
    intro o ho
    exact (inside_setCaller s c _ o).trans (if_neg ho)
  | @refuse c e hpc =>
    refine H.release (.caller c) (by simp [inside, hpc, CallerPc.holdsMutex]) rfl ?_ ?_
    · cases c <;> simp [inside, refusedPc, CallerPc.holdsMutex]
    · intro o ho
      exact (inside_setCaller s c _ o).trans (if_neg ho)
  | accept hpc | enqueue hpc => exact H.setCaller (by simp [hpc, CallerPc.holdsMutex])
  | @count c hpc =>
    refine H.release (.caller c) (by simp [inside, hpc, CallerPc.holdsMutex]) rfl ?_ ?_
    · simp [inside, notifyWriter, CallerPc.holdsMutex]
    · intro o ho
      rw [← (inside_setCaller s c .awaiting o).trans (if_neg ho)]
      cases o with
      | writer => exact holdsMutex_notified s.writer
      | caller | stop => rfl
  | breakSession hpc => exact H.setCaller (by simp [hpc, CallerPc.holdsMutex])
  | writerLock hpc hfree => exact H.writerTakes hfree rfl
  | writerReady hpc | writerSleepy hpc =>
    exact H.setWriter (by simp [hpc, ResponseWriterPc.holdsMutex])
  | writerBlock hpc => exact H.writerReleases (by simp [hpc, ResponseWriterPc.holdsMutex]) rfl
  | writerWake hpc => exact H.setWriter (by simp [hpc, ResponseWriterPc.holdsMutex])
  | writerPop hpc | writerExit hpc =>
    exact H.writerReleases (by simp [hpc, ResponseWriterPc.holdsMutex]) rfl
  | writerItem h => exact H.setWriter (h.holdsMutex.2.trans h.holdsMutex.1.symm)
  | writerPush hpc | writerBreak hpc | writerFailed hpc | writerComplete hpc =>
    exact H.setWriter (by simp [hpc, ResponseWriterPc.holdsMutex])
  | writerFinish hpc hfree => exact H.writerTakes hfree rfl
  | writerCount hpc => exact H.writerReleases (by simp [hpc, ResponseWriterPc.holdsMutex]) rfl

theorem stopMove (H : s.MutexInv) (hmove : StopMove s s') : s'.MutexInv := by
  cases hmove with
  | begin hpc | mark hpc => exact H.setStop (by simp [hpc, ServerStopPc.holdsMutex])
  | clear hpc =>
    refine H.setStop ?_
    rcases hpc with ⟨hold, rfl⟩ | ⟨hold, rfl⟩ <;> simp [hold, ServerStopPc.holdsMutex]
  | signal hpc => exact H.setStop (by simp [hpc, ServerStopPc.holdsMutex])
  | notify hpc =>
    refine H.keep rfl ?_
    intro o
    cases o with
    | caller c => rfl
    | writer => exact holdsMutex_notified s.writer
    | stop => simp [inside, hpc, ServerStopPc.holdsMutex]
  | joined hpc hwriter => exact H.setStop (by simp [hpc, ServerStopPc.holdsMutex])
  | lock hpc hfree =>
    refine H.take .stop hfree rfl rfl ?_
    intro o ho
    cases o with
    | stop => exact absurd rfl ho
    | caller | writer => rfl
  | swap hpc => exact H.setStop (by simp [hpc, ServerStopPc.holdsMutex])
  | zero hpc =>
    refine H.release .stop (by simp [inside, hpc, ServerStopPc.holdsMutex]) rfl rfl ?_
    intro o ho
    cases o with
    | stop => exact absurd rfl ho
    | caller | writer => rfl
  | fail hpc | failed hpc | joinedDispatcher hpc =>
    exact H.setStop (by simp [hpc, ServerStopPc.holdsMutex])
  | executor hpc =>
    refine H.setStop ?_
    rcases hpc with ⟨hold, rfl⟩ | ⟨hold, rfl⟩ <;> simp [hold, ServerStopPc.holdsMutex]
  | waited hpc | reset hpc => exact H.setStop (by simp [hpc, ServerStopPc.holdsMutex])

theorem move (H : s.MutexInv) (hnew : s.Unpopped) (hmove : ServerMove cfg s s') :
    s'.MutexInv := by
  cases hmove with
  | thread h => exact H.threadMove hnew h
  | stop h => exact H.stopMove h

end MutexInv

theorem Unpopped.of_reach {ok : ServerRuntime → ServerAction → Prop}
    (h : (serverRuntime cfg).Reach ok s) : s.Unpopped :=
  h.invariant (fun _ _ => rfl) fun _ _ _ H _ hs => H.move (.of_step hs)

theorem MutexInv.of_reach {ok : ServerRuntime → ServerAction → Prop}
    (h : (serverRuntime cfg).Reach ok s) : s.MutexInv := by
  refine h.invariant_of_reach ?_ ?_
  · intro o
    cases o <;> simp [serverRuntime, inside, CallerPc.holdsMutex, ResponseWriterPc.holdsMutex,
      ServerStopPc.holdsMutex]
  · intro s a s' hreach H _ hs
    exact H.move (.of_reach hreach) (.of_step hs)

end ServerRuntime

end MemRpc
