import MemRpc.Rpc.ServerMoves

/-!
# `Stop` and the sleep of the response writer

`StopResponseWriter` clears `responseWriterRunning` and notifies `completionCv` without
`completionMutex`. A writer that has evaluated its predicate before the store and blocks
after the notification is not woken: nothing is enqueued any more, and `Stop` waits in
`join`. Everywhere else the notification arrives, as `NotifiesAwake` says.

`ServerStopPc.rank` numbers the points of `Stop`; what `Stop` has done holds from a rank on.

## Main results

* `StopInv.of_reach`: the flag and the join.
* `not_leftAsleep_of_reach`, `leftAsleep_of_notifyDrowsy`.
-/

namespace MemRpc

open Concurrency

variable {cfg : ServerConfig} {s s' : ServerRuntime}

/-- The points of `Stop` in order. -/
def ServerStopPc.rank : ServerStopPc → ℕ
  | .outside => 0
  | .marking => 1
  | .clearing => 2
  | .stoppingWriter => 3
  | .signalling => 4
  | .notifying => 5
  | .joiningWriter => 6
  | .locking => 7
  | .swapping => 8
  | .zeroing _ => 9
  | .failing _ => 10
  | .joiningDispatcher => 11
  | .stoppingHigh => 12
  | .stoppingNormal => 13
  | .waitingTasks => 14
  | .resetting => 15
  | .returned => 16

namespace ServerStopPc

/-- `MarkSessionBroken` is done. -/
def marked (pc : ServerStopPc) : Bool := 2 ≤ pc.rank

/-- `responseWriterRunning` has been set to false. -/
def cleared (pc : ServerStopPc) : Bool := 3 ≤ pc.rank

/-- The notifications of `StopResponseWriter` have been issued. -/
def notified (pc : ServerStopPc) : Bool := 6 ≤ pc.rank

/-- The response writer has been joined. -/
def joined (pc : ServerStopPc) : Bool := 7 ≤ pc.rank

/-- `FailPendingCompletionItems` has emptied the queue. -/
def swapped (pc : ServerStopPc) : Bool := 9 ≤ pc.rank

/-- `StopResponseWriter` has returned. -/
def writerStopped (pc : ServerStopPc) : Bool := 11 ≤ pc.rank

end ServerStopPc

namespace ServerRuntime

/-! ## The properties -/

/-- Nothing is left to wake the response writer that `Stop` waits for. -/
def LeftAsleep (s : ServerRuntime) : Prop :=
  s.responseWriterRunning = false ∧ s.stop.notified = true ∧ s.writer = .blocked

instance (s : ServerRuntime) : Decidable s.LeftAsleep := inferInstanceAs (Decidable (_ ∧ _ ∧ _))

end ServerRuntime

/-- `StopResponseWriter` does not notify while the response writer is between its check of
the predicate and its block. -/
def NotifiesAwake (s : ServerRuntime) : ServerAction → Prop
  | .stop => s.stop = .notifying → s.writer ≠ .blocking
  | _ => True

instance (s : ServerRuntime) : (a : ServerAction) → Decidable (NotifiesAwake s a)
  | .stop => inferInstanceAs (Decidable (_ → _))
  | .clientAttach | .drain _ | .popRequest _ | .trySubmit | .execute _ _ | .handle _ _ _
  | .prepare _ _ | .publishEvent _ _ | .caller _ | .writer | .pushResponse _
  | .waitForResponseCredit _ | .spuriousWakeup => .isTrue trivial

namespace ServerRuntime

/-! ## What `Stop` has done -/

/-- The flag is false from the first store on, and `Stop` gets past the join only after
the writer has exited. -/
structure StopInv (s : ServerRuntime) : Prop where
  cleared : s.stop.cleared = true → s.responseWriterRunning = false
  exited : s.stop.joined = true → s.writer = .exited

end ServerRuntime

variable {s s' : ServerRuntime}

/-- Nobody sets the flag again. -/
theorem ThreadMove.flag_eq {cfg : ServerConfig} (h : ThreadMove cfg s s') :
    s'.responseWriterRunning = s.responseWriterRunning := by
  cases h <;> rfl

theorem StopMove.flag_false (h : StopMove s s')
    (hflag : s.responseWriterRunning = false) : s'.responseWriterRunning = false := by
  cases h <;> first | exact hflag | rfl

/-- A writer that has exited stays so. -/
theorem ThreadMove.exited {cfg : ServerConfig} (h : ThreadMove cfg s s')
    (hexited : s.writer = .exited) : s'.writer = .exited := by
  cases h with
  | count hpc => exact congrArg ResponseWriterPc.notified hexited
  | writerItem h =>
    rw [hexited] at h
    cases h with
    | retry hold | giveUp status hold => simp [ResponseWriterPc.unstored?] at hold
  | _ => first | exact hexited | simp_all

namespace ServerRuntime

theorem StopInv.mono (H : s.StopInv)
    (hflag : s.responseWriterRunning = false → s'.responseWriterRunning = false)
    (hwriter : s.writer = .exited → s'.writer = .exited)
    (hcleared : s'.stop.cleared = true → s.stop.cleared = true ∨ s'.responseWriterRunning = false)
    (hjoined : s'.stop.joined = true → s.stop.joined = true ∨ s.writer = .exited) :
    s'.StopInv where
  cleared h := (hcleared h).elim (fun h => hflag (H.cleared h)) id
  exited h := hwriter ((hjoined h).elim H.exited id)

theorem StopInv.stopMove (H : s.StopInv) (hmove : StopMove s s') : s'.StopInv := by
  refine H.mono hmove.flag_false ?_ ?_ ?_
  · cases hmove with
    | notify hpc => exact congrArg ResponseWriterPc.notified
    | _ => exact id
  · cases hmove with
    | clear hpc => exact fun _ => .inr rfl
    | executor hpc =>
      rcases hpc with ⟨hpc, -⟩ | ⟨hpc, -⟩ <;> simp [hpc, ServerStopPc.cleared, ServerStopPc.rank]
    | _ => simp [*, ServerStopPc.cleared, ServerStopPc.rank]
  · cases hmove with
    | joined hpc hwriter => exact fun _ => .inr hwriter
    | clear hpc =>
      rcases hpc with ⟨hpc, rfl⟩ | ⟨hpc, rfl⟩ <;> simp [ServerStopPc.joined, ServerStopPc.rank]
    | executor hpc =>
      rcases hpc with ⟨hpc, -⟩ | ⟨hpc, -⟩ <;> simp [hpc, ServerStopPc.joined, ServerStopPc.rank]
    | _ => simp [*, ServerStopPc.joined, ServerStopPc.rank]

theorem StopInv.of_reach {ok : ServerRuntime → ServerAction → Prop}
    (h : (serverRuntime cfg).Reach ok s) : s.StopInv := by
  have hinit : ({} : ServerRuntime).StopInv := { cleared := by decide, exited := by decide }
  refine h.invariant hinit ?_
  intro s a s' H _ hs
  cases ServerMove.of_step hs with
  | thread h =>
    refine H.mono h.flag_eq.trans h.exited ?_ ?_ <;> rw [h.stop_eq] <;> exact .inl
  | stop h => exact H.stopMove h

/-! ## The writer and the notification of `Stop` -/

end ServerRuntime

/-- The writer sleeps, or has decided to. -/
def ResponseWriterPc.drowsy : ResponseWriterPc → Bool
  | .blocking | .blocked => true
  | _ => false

/-- No caller notifies a writer to sleep. -/
theorem ResponseWriterPc.drowsy_notified {pc : ResponseWriterPc} (h : pc.drowsy = false) :
    pc.notified.drowsy = false := by
  cases pc <;> simp_all [drowsy, notified]

theorem WriterItemMove.drowsy {pc pc' : ResponseWriterPc} (h : WriterItemMove pc pc') :
    pc'.drowsy = false := by
  cases h with
  | retry hold hnew => cases pc' <;> simp_all [ResponseWriterPc.unstored?, ResponseWriterPc.drowsy]
  | giveUp | stored | storedBroken => rfl

namespace ServerRuntime

/-- After the notification of `StopResponseWriter` the writer neither sleeps nor has
decided to. -/
def AwakeInv (s : ServerRuntime) : Prop := s.stop.notified = true → s.writer.drowsy = false

theorem AwakeInv.threadMove (H : s.AwakeInv) (hstop : s.StopInv) (hmove : ThreadMove cfg s s') :
    s'.AwakeInv := by
  intro hnotified
  rw [hmove.stop_eq] at hnotified
  have hawake := H hnotified
  cases hmove with
  | writerSleepy hpc hrunning hempty =>
    -- a predicate that is read after the notification is read after the store
    have hcleared : s.stop.cleared = true := by
      simp only [ServerStopPc.notified, ServerStopPc.cleared, decide_eq_true_eq] at hnotified ⊢
      omega
    simp [hstop.cleared hcleared] at hrunning
  | writerBlock hpc => simp [hpc, ResponseWriterPc.drowsy] at hawake
  | count hpc => exact ResponseWriterPc.drowsy_notified hawake
  | writerItem h => exact h.drowsy
  | _ => first | exact hawake | rfl

theorem AwakeInv.stopMove (H : s.AwakeInv) (hseen : s.stop = .notifying → s.writer ≠ .blocking)
    (hmove : StopMove s s') : s'.AwakeInv := by
  intro hnotified
  cases hmove with
  | notify hpc =>
    have hblocking := hseen hpc
    show s.writer.notified.drowsy = false
    cases hwriter : s.writer <;> simp_all [ResponseWriterPc.notified, ResponseWriterPc.drowsy]
  | clear hpc => rcases hpc with ⟨-, rfl⟩ | ⟨-, rfl⟩ <;> cases hnotified
  | executor hpc => exact H (by rcases hpc with ⟨hpc, -⟩ | ⟨hpc, -⟩ <;> rw [hpc] <;> rfl)
  | begin | mark | signal => cases hnotified
  | joined hpc | lock hpc | swap hpc | zero hpc | fail hpc | failed hpc | joinedDispatcher hpc
  | waited hpc | reset hpc => exact H (by rw [hpc]; rfl)

theorem AwakeInv.of_reach (h : (serverRuntime cfg).Reach NotifiesAwake s) : s.AwakeInv := by
  have hinit : ({} : ServerRuntime).AwakeInv := fun _ => rfl
  refine h.invariant_of_reach hinit ?_
  intro s a s' hreach H hok hs
  by_cases ha : a = .stop
  · subst ha
    exact H.stopMove hok (.of_stopStep hs)
  · exact H.threadMove (.of_reach hreach) (.of_step ha hs)

end ServerRuntime

/-- In every run in which `StopResponseWriter` never notifies between the writer's check of
the predicate and its block, the writer is not left asleep. -/
theorem not_leftAsleep_of_reach (cfg : ServerConfig) {s : ServerRuntime}
    (h : (serverRuntime cfg).Reach NotifiesAwake s) : ¬ s.LeftAsleep := by
  rintro ⟨-, hnotified, hblocked⟩
  have hawake := ServerRuntime.AwakeInv.of_reach h hnotified
  simp [hblocked, ResponseWriterPc.drowsy] at hawake

/-- A server with room for one completion. -/
def smallServer : Machine ServerRuntime ServerAction :=
  serverRuntime { completionQueueCapacity := 1, maxRequestBytes := 1024, registered := fun _ => true }

/-- The writer blocks before `Stop` notifies. -/
def notifyAsleep : List ServerAction := List.replicate 3 .writer ++ List.replicate 6 .stop

theorem not_leftAsleep_notified :
    ∃ s, smallServer.runOk NotifiesAwake smallServer.init notifyAsleep = some s ∧
      s.responseWriterRunning = false ∧ s.stop.notified = true ∧ ¬ s.LeftAsleep := by
  have hrun : (smallServer.runOk NotifiesAwake smallServer.init notifyAsleep).any
      (fun s => s.responseWriterRunning = false ∧ s.stop.notified = true) = true := by
    decide +kernel
  obtain ⟨s, hs, hflag, hnotified⟩ := Machine.exists_of_any hrun
  exact ⟨s, hs, hflag, hnotified, not_leftAsleep_of_reach _ (Machine.reach_of_runOk _ hs)⟩

/-- `Stop` stores and notifies between the writer's check of the predicate and its block. -/
def notifyDrowsy : List ServerAction :=
  List.replicate 2 .writer ++ List.replicate 6 .stop ++ [.writer]

theorem leftAsleep_of_notifyDrowsy :
    ∃ s, smallServer.Reach Machine.Always s ∧ s.LeftAsleep := by
  exact smallServer.exists_reach notifyDrowsy (by decide +kernel)

end MemRpc
