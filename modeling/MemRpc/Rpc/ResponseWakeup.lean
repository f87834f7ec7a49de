import MemRpc.Lib.Machine

/-!
# The wakeup of the response worker

While there is no session the response worker sleeps in `WaitForRecoveryNotification`. It reads
the notification generation first, then looks for a session whose response eventfd it can
poll, and sleeps until the generation differs from the one it has read. Opening a session goes
the other way round: the session is published under `sessionMutex_`, and the generation is
advanced later, in `FinalizeSessionOpen`. So a session that the worker missed is one whose
notification comes after its read.

Everything that changes the session runs under `lifecycleMutex_`; the holder is one party here,
whichever thread it is. Notifications may come from any other thread as well. A valid session
has its response eventfd, and `dup` does not fail. The generation is a `uint64_t`, and after
`2 ^ 64` notifications it is the one that the worker has read.

## Main definitions

* `PollerPc`, `HolderPc`: the points of the response worker and of the lifecycle mutex's holder.
* `responseWakeup`: the machine.
-/

namespace MemRpc

open Concurrency

/-- The points of `ResponseWorker::Run` with `WaitUntilResponsePollReady` and
`DuplicateSessionWaitHandle`; `observed` is the generation that was read. -/
inductive PollerPc
  | draining
  | readGeneration
  | loadSnapshot (observed : UInt64)
  | duplicate (observed : UInt64)
  | prepared (observed : UInt64)
  | waiting (observed : UInt64)
  | polling
  deriving DecidableEq, Repr

/-- The generation that the worker has read for the handle it is preparing. -/
def PollerPc.observed : PollerPc → Option UInt64
  | .loadSnapshot observed | .duplicate observed | .prepared observed | .waiting observed =>
    some observed
  | .draining | .readGeneration | .polling => none

/-- The points of the thread that holds `lifecycleMutex_`: outside, inside, in
`SessionTransport::OpenSession`, and between the publication of a session and the notification
at the end of `FinalizeSessionOpen`. -/
inductive HolderPc
  | free
  | holding
  | opening
  | published
  | finalizing
  | notifying
  deriving DecidableEq, Repr

/-- A session has been published and its notification is still to come. -/
def HolderPc.owesNotification : HolderPc → Bool
  | .published | .finalizing | .notifying => true
  | .free | .holding | .opening => false

/-- The session, the notification generation, the worker's poll handle and the two threads. -/
structure ResponseWakeup where
  /-- The published session id; 0 if there is none. -/
  sessionId : UInt64 := 0
  /-- `session_.Valid()`. -/
  valid : Bool := false
  generation : UInt64 := 0
  workersRunning : Bool := true
  activePollFd : Bool := false
  activePollSessionId : UInt64 := 0
  worker : PollerPc := .draining
  holder : HolderPc := .free
  /-- The notifications since the worker last read the generation. -/
  sinceRead : ℕ := 0
  deriving DecidableEq, Repr

/-- Who moves. -/
inductive WakeupAction
  /-- The next step of the worker; a poll may fail. -/
  | worker (pollFails : Bool)
  | acquire
  | release
  /-- `EnsureLiveSessionLocked` finds no live session. -/
  | beginOpen
  | attach (sessionId : UInt64)
  /-- The session cannot be opened; a failed `Attach` may leave the memory mapped. -/
  | openFailed (valid : Bool)
  | holder
  | close
  /-- `NotifyRecoveryStateChanged` on any other path. -/
  | notify
  | stopWorkers
  deriving DecidableEq, Repr

namespace ResponseWakeup

variable (s : ResponseWakeup)

/-- `NotifyRecoveryStateChanged`. -/
def notifyRecoveryStateChanged : ResponseWakeup :=
  { s with generation := s.generation + 1, sinceRead := s.sinceRead + 1 }

/-- `ResetActivePollFd`. -/
def resetActivePollFd : ResponseWakeup := { s with activePollFd := false, activePollSessionId := 0 }

/-- The section of `DuplicateSessionWaitHandle`, with what `SyncActivePollSession` makes of
it. -/
def duplicateSessionWaitHandle : ResponseWakeup :=
  if s.sessionId = s.activePollSessionId ∧ s.sessionId ≠ 0 then s
  else if s.valid then { s with activePollFd := true, activePollSessionId := s.sessionId }
  else s.resetActivePollFd

/-- The next step of the worker. -/
def workerStep (pollFails : Bool) : Option ResponseWakeup :=
  match s.worker with
  | .draining => if s.workersRunning then some { s with worker := .readGeneration } else none
  | .readGeneration =>
    if s.workersRunning then some { s with worker := .loadSnapshot s.generation, sinceRead := 0 }
    else some { s with worker := .draining }
  | .loadSnapshot observed =>
    if s.sessionId = s.activePollSessionId ∧ s.sessionId ≠ 0 then
      some { s with worker := .prepared observed }
    else some { s with worker := .duplicate observed }
  | .duplicate observed => some { s.duplicateSessionWaitHandle with worker := .prepared observed }
  | .prepared observed =>
    if s.activePollFd then some { s with worker := .polling }
    else some { s with worker := .waiting observed }
  | .waiting observed =>
    if s.generation ≠ observed ∨ s.workersRunning = false then
      some { s with worker := .readGeneration }
    else none
  | .polling =>
    if pollFails then some { s.resetActivePollFd with worker := .draining }
    else some { s with worker := .draining }

/-- The next step of the holder after the publication of a session: `TouchActivity`, the
transition to `Active` and the notification. -/
def holderStep : Option ResponseWakeup :=
  match s.holder with
  | .published => some { s with holder := .finalizing }
  | .finalizing => some { s with holder := .notifying }
  | .notifying => some { s.notifyRecoveryStateChanged with holder := .holding }
  | _ => none

/-- A step of one party. -/
def step : WakeupAction → Option ResponseWakeup
  | .worker pollFails => s.workerStep pollFails
  | .acquire => if s.holder = .free then some { s with holder := .holding } else none
  | .release => if s.holder = .holding then some { s with holder := .free } else none
  | .beginOpen =>
    if s.holder = .holding ∧ s.sessionId = 0 then some { s with holder := .opening } else none
  | .attach sessionId =>
    if s.holder = .opening then
      some { s with holder := .published, valid := true, sessionId }
    else none
  | .openFailed valid =>
    if s.holder = .opening then some { s with holder := .holding, valid } else none
  | .holder => s.holderStep
  | .close =>
    if s.holder = .holding then some { s with sessionId := 0, valid := false } else none
  | .notify => some s.notifyRecoveryStateChanged
  | .stopWorkers => some { s with workersRunning := false }

end ResponseWakeup

/-- The client from the start of its threads on. -/
def responseWakeup : Machine ResponseWakeup WakeupAction where
  init := {}
  step := ResponseWakeup.step

namespace ResponseWakeup

variable {s s' : ResponseWakeup}

/-! ## The invariant -/

/-- The worker is about to sleep: it has no poll handle, or it is waiting already. -/
def sleepy (s : ResponseWakeup) : Bool :=
  match s.worker with
  | .prepared _ => !s.activePollFd
  | .waiting _ => true
  | _ => false

/-- A session that a worker without a poll handle has missed was published after its read of
the generation: it is announced, or will be. -/
structure Inv (s : ResponseWakeup) : Prop where
  valid : s.sessionId ≠ 0 → s.valid = true
  opening : s.holder = .opening → s.sessionId = 0
  pollFd : s.activePollSessionId ≠ 0 → s.activePollFd = true
  generation : ∀ observed, s.worker.observed = some observed →
    s.generation = observed + UInt64.ofNat s.sinceRead
  announced : s.sleepy = true → s.sessionId ≠ 0 →
    0 < s.sinceRead ∨ s.holder.owesNotification = true

namespace Inv

theorem notifyRecoveryStateChanged (H : Inv s) : Inv s.notifyRecoveryStateChanged where
  valid := H.valid
  opening := H.opening
  pollFd := H.pollFd
  generation := fun observed h => by
    have hgen := H.generation observed h
    simp only [ResponseWakeup.notifyRecoveryStateChanged, hgen, UInt64.ofNat_add]
    exact UInt64.add_assoc ..
  announced := fun _ _ => .inl (Nat.succ_pos _)

/-- The holder moves where nothing is owed that was owed before, and the session stays. -/
theorem goto {pc : HolderPc} (H : Inv s) (hopening : pc = .opening → s.sessionId = 0)
    (howes : s.holder.owesNotification = true → pc.owesNotification = true) :
    Inv { s with holder := pc } :=
  { H with
    opening := hopening
    announced := fun hsleepy hlive => (H.announced hsleepy hlive).imp_right howes }

/-- The worker moves to a point where it is not about to sleep. -/
theorem workerGoto {pc : PollerPc} (H : Inv s)
    (hobserved : ∀ observed, pc.observed = some observed → s.worker.observed = some observed)
    (hawake : ({ s with worker := pc } : ResponseWakeup).sleepy = false) :
    Inv { s with worker := pc } :=
  { H with
    generation := fun observed h => H.generation observed (hobserved observed h)
    announced := fun hsleepy => absurd (hawake.symm.trans hsleepy) (by decide) }

theorem resetActivePollFd (H : Inv s) (hawake : s.resetActivePollFd.sleepy = false) :
    Inv s.resetActivePollFd :=
  { H with
    pollFd := fun h => absurd rfl h
    announced := fun hsleepy => absurd (hawake.symm.trans hsleepy) (by decide) }

/-- After the section of `DuplicateSessionWaitHandle` the worker has a handle, or there was no
session to poll. -/
theorem duplicate {observed : UInt64} (H : Inv s) (hworker : s.worker = .duplicate observed) :
    Inv { s.duplicateSessionWaitHandle with worker := .prepared observed } := by
  have hgen : s.generation = observed + UInt64.ofNat s.sinceRead :=
    H.generation observed (by rw [hworker]; rfl)
  unfold duplicateSessionWaitHandle
  split
  · next hsame =>
      have hfd : s.activePollFd = true := H.pollFd (hsame.1 ▸ hsame.2)
      exact
        { H with
          generation := fun _ h => Option.some.inj h ▸ hgen
          announced := fun hsleepy => absurd hsleepy (by simp [sleepy, hfd]) }
  · split
    · exact
        { H with
          pollFd := fun _ => rfl
          generation := fun _ h => Option.some.inj h ▸ hgen
          announced := fun hsleepy => absurd hsleepy (by simp [sleepy]) }
    · next hvalid =>
        exact
          { H with
            pollFd := fun h => absurd rfl h
            generation := fun _ h => Option.some.inj h ▸ hgen
            announced := fun _ hlive => absurd (H.valid hlive) hvalid }

/-- A step of the worker. -/
theorem workerStep {pollFails : Bool} (H : Inv s) (hs : s.workerStep pollFails = some s') :
    Inv s' := by
  unfold ResponseWakeup.workerStep at hs
  split at hs
  · split at hs
    · cases hs
      exact H.workerGoto nofun rfl
    · cases hs
  · split at hs
    · cases hs
      exact
        { H with
          generation := fun _ h => by
            obtain rfl := Option.some.inj h
            simp
          announced := nofun }
    · cases hs
      exact H.workerGoto nofun rfl
  · next observed hworker =>
      have hobserved : s.worker.observed = some observed := by rw [hworker]; rfl
      split at hs
      · next hsame =>
          cases hs
          have hfd : s.activePollFd = true := H.pollFd (hsame.1 ▸ hsame.2)
          exact H.workerGoto (fun _ h => hobserved.trans h) (by simp [sleepy, hfd])
      · cases hs
        exact H.workerGoto (fun _ h => hobserved.trans h) rfl
  · next observed hworker =>
      cases hs
      exact H.duplicate hworker
  · next observed hworker =>
      split at hs
      · cases hs
        exact H.workerGoto nofun rfl
      · next hfd =>
          cases hs
          -- the worker falls asleep, and what it has missed is announced already
          exact
            { H with
              generation := fun _ h => H.generation _ (by rw [hworker]; exact h)
              announced := fun _ => H.announced (by simpa [sleepy, hworker] using hfd) }
  · split at hs
    · cases hs
      exact H.workerGoto nofun rfl
    · cases hs
  · split at hs
    · cases hs
      have H' : Inv { s with worker := .draining } := H.workerGoto nofun rfl
      exact H'.resetActivePollFd rfl
    · cases hs
      exact H.workerGoto nofun rfl

/-- A step of the holder between the publication and the notification. -/
theorem holderStep (H : Inv s) (hs : s.holderStep = some s') : Inv s' := by
  unfold ResponseWakeup.holderStep at hs
  split at hs
  · cases hs
    exact H.goto (by simp) fun _ => rfl
  · cases hs
    exact H.goto (by simp) fun _ => rfl
  · cases hs
    have H' := H.notifyRecoveryStateChanged
    exact { H' with opening := nofun, announced := fun _ _ => .inl (Nat.succ_pos _) }
  · cases hs

theorem step {a : WakeupAction} (H : Inv s) (hs : s.step a = some s') : Inv s' := by
  cases a with
  | worker pollFails => exact H.workerStep hs
  | acquire | release =>
    obtain ⟨hholder, hs⟩ := Option.ite_none_right_eq_some.mp hs
    cases hs
    exact H.goto (by simp) (by simp [hholder, HolderPc.owesNotification])
  | beginOpen =>
    obtain ⟨⟨hholder, hnone⟩, hs⟩ := Option.ite_none_right_eq_some.mp hs
    cases hs
    exact H.goto (fun _ => hnone) (by simp [hholder, HolderPc.owesNotification])
  | attach sessionId =>
    obtain ⟨hholder, hs⟩ := Option.ite_none_right_eq_some.mp hs
    cases hs
    exact
      { H with
        valid := fun _ => rfl
        opening := nofun
        announced := fun _ _ => .inr rfl }
  | openFailed valid =>
    obtain ⟨hholder, hs⟩ := Option.ite_none_right_eq_some.mp hs
    cases hs
    have hnone := H.opening hholder
    exact
      { H with
        valid := fun hlive => absurd hnone hlive
        opening := nofun
        announced := fun _ hlive => absurd hnone hlive }
  | holder => exact H.holderStep hs
  | close =>
    obtain ⟨hholder, hs⟩ := Option.ite_none_right_eq_some.mp hs
    cases hs
    exact
      { H with
        valid := fun hlive => absurd rfl hlive
        opening := fun _ => rfl
        announced := fun _ hlive => absurd rfl hlive }
  | notify =>
    cases hs
    exact H.notifyRecoveryStateChanged
  | stopWorkers =>
    cases hs
    exact { H with announced := H.announced }

theorem of_reach (h : responseWakeup.Reach Machine.Always s) : Inv s :=
  have hinit : Inv responseWakeup.init :=
    ⟨fun hlive => absurd rfl hlive, nofun, fun hlive => absurd rfl hlive, nofun, nofun⟩
  h.invariant (I := Inv) hinit fun _ _ _ H _ hs => H.step hs

end Inv

end ResponseWakeup

/-! ## No session is slept through -/

/-- A number of notifications below `2 ^ 64` changes the generation. -/
theorem add_ofNat_ne {g : UInt64} {n : ℕ} (hpos : 0 < n) (hlt : n < 2 ^ 64) :
    g + UInt64.ofNat n ≠ g := by
  intro h
  have hzero : UInt64.ofNat n = 0 := by simpa using h
  have hn : n % 2 ^ 64 = 0 := by simpa using congrArg UInt64.toNat hzero
  omega

/-- Whenever the response worker is blocked in `WaitForRecoveryNotification` and a session is
live, the generation differs from the observed one or the thread that published the session has
its notification still before it, unless `2 ^ 64` notifications have come since the worker read
the generation. -/
theorem generation_ne_of_waiting {s : ResponseWakeup} {observed : UInt64}
    (h : responseWakeup.Reach Machine.Always s) (hwaiting : s.worker = .waiting observed)
    (hlive : s.sessionId ≠ 0) (hcount : s.sinceRead < 2 ^ 64) :
    s.generation ≠ observed ∨ s.holder.owesNotification = true := by
  have H := ResponseWakeup.Inv.of_reach h
  have hgen := H.generation observed (by rw [hwaiting]; rfl)
  refine (H.announced (by simp [ResponseWakeup.sleepy, hwaiting]) hlive).imp_left fun hpos => ?_
  rw [hgen]
  exact add_ofNat_ne hpos hcount

/-- The worker falls asleep without a session; session 7 is opened and announced. -/
def missedOpenRun : List WakeupAction :=
  [.worker false, .worker false, .worker false, .acquire, .beginOpen, .worker false,
    .worker false, .attach 7, .holder, .holder, .holder]

theorem generation_ne_missedOpen :
    ∃ s, responseWakeup.Reach Machine.Always s ∧ s.worker = .waiting 0 ∧ s.sessionId = 7 ∧
      (s.generation ≠ 0 ∨ s.holder.owesNotification = true) := by
  obtain ⟨s, hreach, hworker, hid, hcount⟩ := responseWakeup.exists_reach missedOpenRun
    (P := fun s => s.worker = .waiting 0 ∧ s.sessionId = 7 ∧ s.sinceRead = 1) (by decide +kernel)
  exact ⟨s, hreach, hworker, hid,
    generation_ne_of_waiting hreach hworker (by rw [hid]; decide) (by rw [hcount]; decide)⟩

theorem run_notify (s : ResponseWakeup) (n : ℕ) :
    responseWakeup.run s (List.replicate n .notify) =
      some { s with
        generation := s.generation + UInt64.ofNat n
        sinceRead := s.sinceRead + n } := by
  induction n generalizing s with
  | zero => simp
  | succ n ih =>
    have hgen : s.generation + 1 + UInt64.ofNat n = s.generation + UInt64.ofNat (n + 1) := by
      rw [UInt64.add_assoc, UInt64.add_comm 1, UInt64.ofNat_add]
      rfl
    have hcount : s.sinceRead + 1 + n = s.sinceRead + (n + 1) := by omega
    rw [List.replicate_succ, Machine.run_cons]
    calc responseWakeup.run s.notifyRecoveryStateChanged (List.replicate n .notify)
        = some { s.notifyRecoveryStateChanged with
            generation := s.notifyRecoveryStateChanged.generation + UInt64.ofNat n
            sinceRead := s.notifyRecoveryStateChanged.sinceRead + n } := ih _
      _ = some { s with
            generation := s.generation + UInt64.ofNat (n + 1)
            sinceRead := s.sinceRead + (n + 1) } := by
          simp only [ResponseWakeup.notifyRecoveryStateChanged, hgen, hcount]

/-- The opened session is announced, and `2 ^ 64 - 1` more notifications bring the generation
back to the one that the sleeping worker has observed. -/
theorem not_generation_ne_of_wrapped :
    ∃ s, responseWakeup.Reach Machine.Always s ∧ s.worker = .waiting 0 ∧ s.sessionId = 7 ∧
      s.generation = 0 ∧ s.holder.owesNotification = false := by
  obtain ⟨s, hreach, hworker, hid, hgen, hholder⟩ := responseWakeup.exists_reach missedOpenRun
    (P := fun s => s.worker = .waiting 0 ∧ s.sessionId = 7 ∧ s.generation = 1 ∧ s.holder = .holding)
      (by decide +kernel)
  refine ⟨_, hreach.run (run_notify s (2 ^ 64 - 1)), hworker, hid, ?_, ?_⟩
  · simp [hgen]
  · simp [hholder, HolderPc.owesNotification]

end MemRpc
