import MemRpc.Lib.Machine
import MemRpc.Core.Protocol

/-!
# The bootstrap channel and the deaths of its remotes

`VesBootstrapChannelState` binds a control, the proxy of a remote object, opens sessions
through it and listens to its death. One `ControlDeathRecipient` is added to every remote that
is ever bound, and it does not pass on which of them has died: `HandleRemoteDied` unbinds
whatever is bound and reports whatever session is recorded. A rebind removes the recipient
from the old remote, but a notification that is already on its way still arrives. Nor is the
recorded session cleared when its remote dies, so until the next `OpenSession` returns it is
reported once more when the next remote dies.

Any number of threads run `OpenSession`, `CloseSession` and `CurrentControl`, remotes die at any
time and each death is notified at any later time, once or more, if the recipient has ever been
added to the remote. A critical section of `mutex_` is one step; the calls to the remote and
to the death callback are made outside. The access policy, the loader and the remotes answer
as they like. A control is identified with its remote object.

## Main definitions

* `ChannelState`: the members of `VesBootstrapChannelState`, and the remotes.
* `ChannelPc`: the points of the functions that use it.
* `bootstrapChannel`: the machine.
* `BootstrapChannel.InTime`: deaths are notified, and sessions recorded, while they concern the
  remote that is bound.
-/

namespace MemRpc

open Concurrency

/-- What the access policy and the loader answer in `RefreshControlLocked`. -/
structure LoadAnswers where
  allowed : Bool := true
  loaded : Option ℕ := none
  deriving DecidableEq, Repr

/-- What the calls of a step are answered. -/
structure ChannelAnswers where
  /-- The access policy, where the step asks it first. -/
  allowed : Bool := true
  /-- The access policy in `EnsureControlBoundLocked`. -/
  allowedBound : Bool := true
  refresh : LoadAnswers := {}
  /-- The second `RefreshControlLocked` of `LoadOpenSessionControl`. -/
  refreshDead : LoadAnswers := {}
  /-- The status and the session id that the remote answers. -/
  status : StatusCode := .ok
  sessionId : UInt64 := 0
  deriving DecidableEq, Repr

/-- The members of `VesBootstrapChannelState`, and what is known of the remotes. -/
structure ChannelState where
  control : Option ℕ := none
  sessionId : UInt64 := 0
  fatalControlLoadFailure : Bool := false
  /-- A death callback is set. -/
  deathCallback : Bool := false
  dead : ℕ → Bool := fun _ => false
  /-- The remotes to which the recipient has been added at some time. -/
  watched : ℕ → Bool := fun _ => false
  /-- The remote through which the recorded session was opened. -/
  openedThrough : Option ℕ := none
  /-- The recorded session is older than the binding. -/
  outdated : Bool := false

/-- Where a thread is in `OpenSession` with `RetryOpenSessionAfterRefresh`, in `CloseSession`, in
`CurrentControl` or in `HandleRemoteDied`. -/
inductive ChannelPc
  | returned (status : StatusCode)
  | openSession
  | load
  | unavailable (deadBeforeOpen : Bool)
  | loaded (control : ℕ) (deadBeforeOpen : Bool)
  | asking (control : ℕ) (retrying : Bool)
  | record (control : ℕ) (sessionId : UInt64)
  | retry (status : StatusCode)
  | retryUnavailable (status : StatusCode)
  | closeSession
  | closeDenied
  | closeBound
  | closeRemote (control : ℕ)
  | currentControl
  | remoteDied (remote : ℕ)
  | reporting (remote : ℕ) (sessionId : UInt64) (openedThrough : Option ℕ) (callback : Bool)
  deriving DecidableEq, Repr

/-- `ShouldRetryOpenSessionAfterRefresh`. -/
def shouldRetryOpenSessionAfterRefresh : StatusCode → Bool
  | .peerDisconnected | .crashedDuringExecution => true
  | _ => false

namespace ChannelState

variable (s : ChannelState) (answers : ChannelAnswers)

/-- `RebindControlLocked`. -/
def rebindControl (nextControl : Option ℕ) : ChannelState :=
  { s with
    control := nextControl
    watched := fun remote => s.watched remote || decide (nextControl = some remote)
    outdated := if nextControl = s.control then s.outdated else decide (s.sessionId ≠ 0) }

/-- The control is unbound and the session forgotten. -/
def release : ChannelState := { s.rebindControl none with sessionId := 0 }

/-- `RefreshControlLocked`. -/
def refreshControl (load : LoadAnswers) : Option ℕ × ChannelState :=
  if !load.allowed then (none, s)
  else if s.fatalControlLoadFailure then (none, s)
  else
    match load.loaded with
    | some nextControl => (some nextControl, s.rebindControl (some nextControl))
    | none => (none, { s.rebindControl none with fatalControlLoadFailure := true })

/-- `EnsureControlBoundLocked`. -/
def ensureControlBound : Option ℕ × ChannelState :=
  if !answers.allowedBound then (none, s.release)
  else
    match s.control with
    | some control => (some control, s)
    | none => s.refreshControl answers.refresh

/-- `IsDeadRemoteObject`. -/
def isDeadRemoteObject : Option ℕ → Bool
  | some control => s.dead control
  | none => false

/-- `LoadOpenSessionControl`: the control, and whether the bound one was found dead. -/
def loadOpenSessionControl : (Option ℕ × Bool) × ChannelState :=
  let (control, s₁) := s.ensureControlBound answers
  if s₁.isDeadRemoteObject control then
    let (refreshed, s₂) := s₁.refreshControl answers.refreshDead
    ((refreshed, true), s₂)
  else ((control, false), s₁)

/-- `CurrentControl`. -/
def currentControl : ChannelState :=
  if !answers.allowed then s.release else (s.ensureControlBound answers).2

/-- `Shutdown`. -/
def shutdown : ChannelState := { s.release with deathCallback := false }

/-- A session that was opened through `control` is recorded. -/
def recordSession (control : ℕ) (sessionId : UInt64) : ChannelState :=
  { s with sessionId, openedThrough := some control, outdated := false }

/-- A step of a thread that is at the given point, and where it goes on. -/
def pcStep : ChannelPc → Option (ChannelState × ChannelPc)
  | .returned _ => none
  | .openSession => some (s, if answers.allowed then .load else .returned .peerDisconnected)
  | .load =>
    let ((control, deadBeforeOpen), s') := s.loadOpenSessionControl answers
    some (s',
      match control with
      | some control => .loaded control deadBeforeOpen
      | none => .unavailable deadBeforeOpen)
  | .unavailable deadBeforeOpen =>
    some (s, .returned
      (if s.fatalControlLoadFailure then .clientClosed
      else if deadBeforeOpen then .peerDisconnected
      else .invalidArgument))
  | .loaded control deadBeforeOpen =>
    some (s, if deadBeforeOpen && s.dead control then .returned .peerDisconnected
      else .asking control false)
  | .asking control retrying =>
    some (s,
      if answers.status = .ok then .record control answers.sessionId
      else if !retrying && shouldRetryOpenSessionAfterRefresh answers.status then
        .retry answers.status
      else .returned answers.status)
  | .record control sessionId => some (s.recordSession control sessionId, .returned .ok)
  | .retry status =>
    let (control, s') := s.refreshControl answers.refresh
    some (s',
      match control with
      | some control => .asking control true
      | none => .retryUnavailable status)
  | .retryUnavailable status =>
    some (s, .returned (if s.fatalControlLoadFailure then .clientClosed else status))
  | .closeSession => some (s, if answers.allowed then .closeBound else .closeDenied)
  | .closeDenied => some (s.release, .returned .ok)
  | .closeBound =>
    some (s.release,
      match s.control with
      | some control => .closeRemote control
      | none => .returned .ok)
  | .closeRemote _ => some (s, .returned answers.status)
  | .currentControl => some (s.currentControl answers, .returned .ok)
  | .remoteDied remote =>
    some (s.rebindControl none, .reporting remote s.sessionId s.openedThrough s.deathCallback)
  | .reporting .. => some (s, .returned .ok)

end ChannelState

/-- A notification for `remote` unbound `control`. -/
structure Unbound where
  remote : ℕ
  control : ℕ
  deriving DecidableEq, Repr

/-- A notification for `remote` passed `sessionId` to the death callback. -/
structure DeathReport where
  remote : ℕ
  sessionId : UInt64
  openedThrough : Option ℕ
  deriving DecidableEq, Repr

/-- What `HandleRemoteDied` unbinds at this point. -/
def ChannelState.unbinds (s : ChannelState) : ChannelPc → List Unbound
  | .remoteDied remote => s.control.toList.map (⟨remote, ·⟩)
  | _ => []

/-- What `HandleRemoteDied` reports at this point. -/
def ChannelPc.reports : ChannelPc → List DeathReport
  | .reporting remote sessionId openedThrough true => [⟨remote, sessionId, openedThrough⟩]
  | _ => []

/-- The channel with its threads and with the effects that death notifications had. -/
structure BootstrapChannel where
  state : ChannelState := {}
  threads : ℕ → ChannelPc := fun _ => .returned .ok
  unbound : List Unbound := []
  reports : List DeathReport := []

/-- The public calls. -/
inductive ChannelCall
  | openSession
  | closeSession
  | currentControl
  deriving DecidableEq, Repr

/-- The first point of a call. -/
def ChannelCall.entry : ChannelCall → ChannelPc
  | .openSession => .openSession
  | .closeSession => .closeSession
  | .currentControl => .currentControl

/-- A thread makes a call, notifies a death or takes its next step; a remote dies; the callback
is set; the channel is shut down. -/
inductive ChannelAction
  | call (n : ℕ) (call : ChannelCall)
  | notify (n : ℕ) (remote : ℕ)
  | step (n : ℕ) (answers : ChannelAnswers)
  | die (remote : ℕ)
  | setEngineDeathCallback (callback : Bool)
  | shutdown
  deriving DecidableEq, Repr

namespace BootstrapChannel

variable (s : BootstrapChannel)

/-- The thread is in none of the functions. -/
def free (n : ℕ) : Bool := s.threads n matches .returned _

/-- The thread goes on at `pc`. -/
def goto (n : ℕ) (pc : ChannelPc) : BootstrapChannel :=
  { s with threads := Function.update s.threads n pc }

/-- A step of one thread or of the environment. -/
def step : ChannelAction → Option BootstrapChannel
  | .call n call => if s.free n then some (s.goto n call.entry) else none
  | .notify n remote =>
    if s.free n && s.state.watched remote && s.state.dead remote then
      some (s.goto n (.remoteDied remote))
    else none
  | .step n answers =>
    (s.state.pcStep answers (s.threads n)).map fun (state, pc) =>
      { state
        threads := Function.update s.threads n pc
        unbound := s.unbound ++ s.state.unbinds (s.threads n)
        reports := s.reports ++ (s.threads n).reports }
  | .die remote =>
    some { s with state := { s.state with dead := Function.update s.state.dead remote true } }
  | .setEngineDeathCallback callback =>
    some { s with state := { s.state with deathCallback := callback } }
  | .shutdown => some { s with state := s.state.shutdown }

end BootstrapChannel

/-- The channel from its construction on. -/
def bootstrapChannel : Machine BootstrapChannel ChannelAction where
  init := {}
  step := BootstrapChannel.step

/-! ## The condition -/

/-- A notification for `remote` finds this remote bound and the recorded session no older than
the binding, or finds neither a session nor another remote. -/
def ChannelState.Concerns (s : ChannelState) (remote : ℕ) : Prop :=
  s.control = some remote ∧ s.outdated = false ∨
    s.sessionId = 0 ∧ (s.control = none ∨ s.control = some remote)

/-- What has to hold of the channel at a point: `HandleRemoteDied` enters its section in time,
and a session is recorded before another remote than its own is bound. -/
def ChannelState.InTimeAt (s : ChannelState) : ChannelPc → Prop
  | .remoteDied remote => s.Concerns remote
  | .record control _ => s.control = none ∨ s.control = some control
  | _ => True

/-- Every step of a thread is taken in time. -/
def BootstrapChannel.InTime (s : BootstrapChannel) : ChannelAction → Prop
  | .step n _ => s.state.InTimeAt (s.threads n)
  | _ => True

instance (s : BootstrapChannel) (a : ChannelAction) : Decidable (s.InTime a) := by
  unfold BootstrapChannel.InTime ChannelState.InTimeAt ChannelState.Concerns
  split
  · split <;> infer_instance
  · infer_instance

/-! ## What the recorded session belongs to -/

/-- A recorded session that is not older than the binding was opened through the bound
remote. -/
def ChannelState.Tied (s : ChannelState) : Prop :=
  ∀ remote, s.control = some remote → s.outdated = false → s.sessionId ≠ 0 →
    s.openedThrough = some remote

/-- What `HandleRemoteDied` is going to report was opened through the remote that died. -/
def ChannelPc.Sound : ChannelPc → Prop
  | .reporting remote sessionId openedThrough _ => sessionId ≠ 0 → openedThrough = some remote
  | _ => True

variable {pc : ChannelPc}

namespace ChannelState

variable {s : ChannelState} {answers : ChannelAnswers}

theorem Tied.rebindControl (H : s.Tied) (nextControl : Option ℕ) :
    (s.rebindControl nextControl).Tied := by
  intro remote hcontrol houtdated hid
  by_cases hsame : nextControl = s.control
  · rw [show (s.rebindControl nextControl).outdated = s.outdated from if_pos hsame] at houtdated
    exact H remote (hsame.symm.trans hcontrol) houtdated hid
  · -- a binding to another remote makes a recorded session outdated
    have houtdated' : (s.rebindControl nextControl).outdated = decide (s.sessionId ≠ 0) :=
      if_neg hsame
    rw [houtdated', decide_eq_false_iff_not, not_not] at houtdated
    exact absurd houtdated hid

theorem tied_release (s : ChannelState) : s.release.Tied := nofun

theorem Tied.refreshControl (H : s.Tied) (load : LoadAnswers) :
    (s.refreshControl load).2.Tied := by
  unfold ChannelState.refreshControl
  split
  · exact H
  · split
    · exact H
    · split
      · exact H.rebindControl _
      · exact H.rebindControl none

theorem Tied.ensureControlBound (H : s.Tied) : (s.ensureControlBound answers).2.Tied := by
  unfold ChannelState.ensureControlBound
  split
  · exact s.tied_release
  · split
    · exact H
    · exact H.refreshControl _

theorem Tied.loadOpenSessionControl (H : s.Tied) :
    (s.loadOpenSessionControl answers).2.Tied := by
  unfold ChannelState.loadOpenSessionControl
  dsimp only
  split
  · exact H.ensureControlBound.refreshControl _
  · exact H.ensureControlBound

theorem Tied.currentControl (H : s.Tied) : (s.currentControl answers).Tied := by
  unfold ChannelState.currentControl
  split
  · exact s.tied_release
  · exact H.ensureControlBound

/-- A session is recorded while its own remote is bound, or none. -/
theorem tied_recordSession {control : ℕ} {sessionId : UInt64}
    (hcontrol : s.control = none ∨ s.control = some control) :
    (s.recordSession control sessionId).Tied := by
  intro remote hremote _ _
  rcases hcontrol with hnone | hsome
  · exact absurd (hnone.symm.trans hremote) (by simp)
  · exact hsome.symm.trans hremote

/-- What a notification that concerns the bound remote reads. -/
theorem Tied.sound_of_concerns {remote : ℕ} {callback : Bool} (H : s.Tied)
    (h : s.Concerns remote) :
    (ChannelPc.reporting remote s.sessionId s.openedThrough callback).Sound := by
  intro hid
  rcases h with ⟨hcontrol, houtdated⟩ | ⟨hzero, -⟩
  · exact H remote hcontrol houtdated hid
  · exact absurd hzero hid

/-- A step of a thread that is in time. -/
theorem Tied.pcStep {s' : ChannelState} {pc pc' : ChannelPc} (H : s.Tied) (hok : s.InTimeAt pc)
    (hs : s.pcStep answers pc = some (s', pc')) : s'.Tied ∧ pc'.Sound := by
  cases pc with
  | returned => cases hs
  | openSession =>
    cases hs
    exact ⟨H, by split <;> trivial⟩
  | load =>
    cases hs
    exact ⟨H.loadOpenSessionControl, by split <;> trivial⟩
  | unavailable =>
    cases hs
    exact ⟨H, trivial⟩
  | loaded =>
    cases hs
    exact ⟨H, by split <;> trivial⟩
  | asking =>
    cases hs
    refine ⟨H, ?_⟩
    split
    · trivial
    · split <;> trivial
  | record =>
    cases hs
    exact ⟨tied_recordSession hok, trivial⟩
  | retry =>
    cases hs
    exact ⟨H.refreshControl _, by split <;> trivial⟩
  | retryUnavailable =>
    cases hs
    exact ⟨H, trivial⟩
  | closeSession =>
    cases hs
    exact ⟨H, by split <;> trivial⟩
  | closeDenied =>
    cases hs
    exact ⟨s.tied_release, trivial⟩
  | closeBound =>
    cases hs
    exact ⟨s.tied_release, by split <;> trivial⟩
  | closeRemote =>
    cases hs
    exact ⟨H, trivial⟩
  | currentControl =>
    cases hs
    exact ⟨H.currentControl, trivial⟩
  | remoteDied remote =>
    cases hs
    exact ⟨H.rebindControl none, H.sound_of_concerns hok⟩
  | reporting =>
    cases hs
    exact ⟨H, trivial⟩

/-- A notification in time unbinds no other remote. -/
theorem unbinds_of_inTime (hok : s.InTimeAt pc) :
    ∀ u ∈ s.unbinds pc, u.control = u.remote := by
  intro u hu
  cases pc with
  | remoteDied remote =>
    obtain ⟨control, hcontrol, rfl⟩ : ∃ control, s.control = some control ∧
        (⟨remote, control⟩ : Unbound) = u := by
      simpa [unbinds, Option.mem_toList] using hu
    -- the bound control is that of the remote, in either case of the condition
    have hbound : s.control = none ∨ s.control = some remote :=
      hok.elim (fun h => .inr h.1) (·.2)
    rcases hbound with hnone | hsome
    · exact absurd (hnone.symm.trans hcontrol) (by simp)
    · exact Option.some.inj (hcontrol.symm.trans hsome)
  | _ => cases hu

end ChannelState

/-- What is reported at a point. -/
theorem ChannelPc.Sound.reports (H : pc.Sound) :
    ∀ r ∈ pc.reports, r.sessionId ≠ 0 → r.openedThrough = some r.remote := by
  intro r hr hid
  unfold ChannelPc.reports at hr
  split at hr
  · obtain rfl := List.mem_singleton.mp hr
    exact H hid
  · cases hr

namespace BootstrapChannel

variable {s : BootstrapChannel}

/-- The recorded session is tied to the binding, and so is every report that is or will be
made. -/
structure Inv (s : BootstrapChannel) : Prop where
  tied : s.state.Tied
  threads : ∀ n, (s.threads n).Sound
  unbound : ∀ u ∈ s.unbound, u.control = u.remote
  reports : ∀ r ∈ s.reports, r.sessionId ≠ 0 → r.openedThrough = some r.remote

theorem sound_update {threads : ℕ → ChannelPc} {n : ℕ}
    (H : ∀ m, (threads m).Sound) (hpc : pc.Sound) (m : ℕ) :
    (Function.update threads n pc m).Sound := by
  by_cases hm : m = n
  · subst hm
    simpa using hpc
  · simpa [Function.update_of_ne hm] using H m

theorem Inv.goto {n : ℕ} (H : Inv s) (hpc : pc.Sound) : Inv (s.goto n pc) :=
  { H with threads := sound_update H.threads hpc }

theorem Inv.step {a : ChannelAction} {s' : BootstrapChannel} (H : Inv s) (hok : s.InTime a)
    (hs : s.step a = some s') : Inv s' := by
  cases a with
  | call n call =>
    obtain ⟨-, rfl⟩ : s.free n = true ∧ s.goto n call.entry = s' := by
      simpa [BootstrapChannel.step] using hs
    exact H.goto (by cases call <;> trivial)
  | notify n remote =>
    obtain ⟨-, rfl⟩ : _ ∧ s.goto n (.remoteDied remote) = s' := by
      simpa [BootstrapChannel.step] using hs
    exact H.goto trivial
  | step n answers =>
    obtain ⟨⟨state, pc⟩, hstep, rfl⟩ := Option.map_eq_some_iff.mp hs
    obtain ⟨htied, hsound⟩ := H.tied.pcStep hok hstep
    refine ⟨htied, sound_update H.threads hsound, fun u hu => ?_, fun r hr => ?_⟩
    · rcases List.mem_append.mp hu with hu | hu
      · exact H.unbound u hu
      · exact ChannelState.unbinds_of_inTime hok u hu
    · rcases List.mem_append.mp hr with hr | hr
      · exact H.reports r hr
      · exact (H.threads n).reports r hr
  | die | setEngineDeathCallback =>
    cases hs
    exact { H with tied := H.tied }
  | shutdown =>
    cases hs
    exact { H with tied := s.state.tied_release }

end BootstrapChannel

/-! ## Isolation of remote deaths -/

/-- As long as a death is notified while its remote is bound and the recorded session is no
older than the binding, or while there is neither a session nor another remote, and a session
is recorded before another remote is bound, a notification for a remote unbinds no other remote
and reports no session that was opened through another one. -/
theorem remoteDeaths_isolated_of_reach {s : BootstrapChannel}
    (h : bootstrapChannel.Reach BootstrapChannel.InTime s) :
    (∀ u ∈ s.unbound, u.control = u.remote) ∧
      ∀ r ∈ s.reports, r.sessionId ≠ 0 → r.openedThrough = some r.remote := by
  have hinit : BootstrapChannel.Inv bootstrapChannel.init :=
    ⟨nofun, fun _ => trivial, nofun, nofun⟩
  have H : s.Inv :=
    h.invariant (I := BootstrapChannel.Inv) hinit fun _ _ _ H hok hs => H.step hok hs
  exact ⟨H.unbound, H.reports⟩

/-- Session 11 is opened through remote 1, which dies and is notified in time; session 22 is
opened through remote 2, which dies and is notified. -/
def twoDeathsRun : List ChannelAction :=
  [.setEngineDeathCallback true, .call 0 .openSession, .step 0 {},
    .step 0 { refresh := { loaded := some 1 } }, .step 0 {}, .step 0 { sessionId := 11 },
    .step 0 {}, .die 1, .notify 1 1, .step 1 {}, .step 1 {},
    .call 0 .openSession, .step 0 {}, .step 0 { refresh := { loaded := some 2 } }, .step 0 {},
    .step 0 { sessionId := 22 }, .step 0 {}, .die 2, .notify 1 2, .step 1 {}, .step 1 {}]

theorem remoteDeaths_isolated_twoDeaths :
    ∃ s, bootstrapChannel.Reach BootstrapChannel.InTime s ∧
      s.reports = [⟨1, 11, some 1⟩, ⟨2, 22, some 2⟩] ∧ (∀ u ∈ s.unbound, u.control = u.remote) ∧
      ∀ r ∈ s.reports, r.sessionId ≠ 0 → r.openedThrough = some r.remote := by
  obtain ⟨s, hreach, hreports⟩ :=
    bootstrapChannel.exists_reachOk BootstrapChannel.InTime twoDeathsRun
    (P := fun s => s.reports = [⟨1, 11, some 1⟩, ⟨2, 22, some 2⟩]) (by decide +kernel)
  exact ⟨s, hreach, hreports, remoteDeaths_isolated_of_reach hreach⟩

/-- Remote 1 dies; `OpenSession` finds it dead, binds remote 2 and opens session 22 through it.
Only then the death of remote 1 is notified. -/
def lateDeathRun : List ChannelAction :=
  [.setEngineDeathCallback true, .call 0 .openSession, .step 0 {},
    .step 0 { refresh := { loaded := some 1 } }, .step 0 {}, .step 0 { sessionId := 11 },
    .step 0 {}, .die 1, .call 0 .openSession, .step 0 {},
    .step 0 { refreshDead := { loaded := some 2 } }, .step 0 {}, .step 0 { sessionId := 22 },
    .step 0 {}, .notify 1 1, .step 1 {}, .step 1 {}]

theorem not_remoteDeaths_isolated_of_lateDeath :
    ∃ s, bootstrapChannel.Reach Machine.Always s ∧ s.state.control = none ∧
      s.unbound = [⟨1, 2⟩] ∧ s.reports = [⟨1, 22, some 2⟩] := by
  exact bootstrapChannel.exists_reach lateDeathRun (by decide +kernel)

end MemRpc
