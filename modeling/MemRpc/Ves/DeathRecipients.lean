import MemRpc.Lib.Machine
import MemRpc.Ves.BootstrapChannel

/-!
# Registrations of the death recipient

The bootstrap channel adds its death recipient to the remote object of the control that it binds
and removes it from that of the control it gives up. `RebindControlLocked` is the only place where
this is done, but it is called from many, with another control, with the same one or with none, and
two controls may have the same remote object or none.

As in `BootstrapChannel`, a critical section is one step, so the mutex is free in every state. Here
a control is not its remote object: `asObject` says which one it has. Whatever the loader returns
and the access policy answers at any time, the calls to add and to remove the recipient are
balanced.

## Main definitions

* `RecipientState`: the members of the channel, with the calls made on each remote object.
* `recipientChannel`: the machine.
* `RecipientState.Balanced`.

## Main results

* `recipients_balanced`.
* `exists_mirror`: where controls are their own remote objects, the channel is the one of
  `BootstrapChannel`.
-/

namespace MemRpc

open Concurrency

/-- The members of `VesBootstrapChannelState`, which remote objects are dead, and how often the
recipient was added to each of them and removed. -/
structure RecipientState where
  control : Option ℕ := none
  sessionId : UInt64 := 0
  fatalControlLoadFailure : Bool := false
  /-- A death callback is set. -/
  deathCallback : Bool := false
  /-- The control through which the recorded session was opened. -/
  openedThrough : Option ℕ := none
  dead : ℕ → Bool := fun _ => false
  added : ℕ → ℕ := fun _ => 0
  removed : ℕ → ℕ := fun _ => 0

/-- One more call on an object, if there is one. -/
def countCall (calls : ℕ → ℕ) (object : Option ℕ) : ℕ → ℕ :=
  fun remote => calls remote + if object = some remote then 1 else 0

namespace RecipientState

variable (asObject : ℕ → Option ℕ) (s : RecipientState) (answers : ChannelAnswers)

/-- `RebindControlLocked`. -/
def rebindControl (nextControl : Option ℕ) : RecipientState :=
  let previousObject := s.control.bind asObject
  let nextObject := nextControl.bind asObject
  { s with
    removed := if previousObject ≠ nextObject then countCall s.removed previousObject else s.removed
    control := nextControl
    added := if nextObject ≠ previousObject then countCall s.added nextObject else s.added }

/-- The control is unbound and the session forgotten. -/
def release : RecipientState := { s.rebindControl asObject none with sessionId := 0 }

/-- `RefreshControlLocked`. -/
def refreshControl (load : LoadAnswers) : Option ℕ × RecipientState :=
  if !load.allowed then (none, s)
  else if s.fatalControlLoadFailure then (none, s)
  else
    match load.loaded with
    | some nextControl => (some nextControl, s.rebindControl asObject (some nextControl))
    | none => (none, { s.rebindControl asObject none with fatalControlLoadFailure := true })

/-- `EnsureControlBoundLocked`. -/
def ensureControlBound : Option ℕ × RecipientState :=
  if !answers.allowedBound then (none, s.release asObject)
  else
    match s.control with
    | some control => (some control, s)
    | none => s.refreshControl asObject answers.refresh

/-- `IsDeadRemoteObject`. -/
def isDeadRemoteObject (control : Option ℕ) : Bool :=
  match control.bind asObject with
  | some remote => s.dead remote
  | none => false

/-- `LoadOpenSessionControl`: the control, and whether the bound one was found dead. -/
def loadOpenSessionControl : (Option ℕ × Bool) × RecipientState :=
  let (control, s₁) := s.ensureControlBound asObject answers
  if s₁.isDeadRemoteObject asObject control then
    let (refreshed, s₂) := s₁.refreshControl asObject answers.refreshDead
    ((refreshed, true), s₂)
  else ((control, false), s₁)

/-- `CurrentControl`. -/
def currentControl : RecipientState :=
  if !answers.allowed then s.release asObject else (s.ensureControlBound asObject answers).2

/-- `Shutdown`. -/
def shutdown : RecipientState := { s.release asObject with deathCallback := false }

/-- A step of a thread that is at the given point, and where it goes on. -/
def pcStep : ChannelPc → Option (RecipientState × ChannelPc)
  | .returned _ => none
  | .openSession => some (s, if answers.allowed then .load else .returned .peerDisconnected)
  | .load =>
    let ((control, deadBeforeOpen), s') := s.loadOpenSessionControl asObject answers
    some (s',
      match control with
      | some control => .loaded control deadBeforeOpen
      | none => .unavailable deadBeforeOpen)
  | .unavailable deadBeforeOpen =>
    some (s, .returned
      (if s.fatalControlLoadFailure then .clientClosed
      else if deadBeforeOpen then .peerDisconnected
      else .invalidArgument))
  | .loaded control deadBeforeOpen =>
    some (s,
      if deadBeforeOpen && s.isDeadRemoteObject asObject (some control) then
        .returned .peerDisconnected
      else .asking control false)
  | .asking control retrying =>
    some (s,
      if answers.status = .ok then .record control answers.sessionId
      else if !retrying && shouldRetryOpenSessionAfterRefresh answers.status then
        .retry answers.status
      else .returned answers.status)
  | .record control sessionId =>
    some ({ s with sessionId, openedThrough := some control }, .returned .ok)
  | .retry status =>
    let (control, s') := s.refreshControl asObject answers.refresh
    some (s',
      match control with
      | some control => .asking control true
      | none => .retryUnavailable status)
  | .retryUnavailable status =>
    some (s, .returned (if s.fatalControlLoadFailure then .clientClosed else status))
  | .closeSession => some (s, if answers.allowed then .closeBound else .closeDenied)
  | .closeDenied => some (s.release asObject, .returned .ok)
  | .closeBound =>
    some (s.release asObject,
      match s.control with
      | some control => .closeRemote control
      | none => .returned .ok)
  | .closeRemote _ => some (s, .returned answers.status)
  | .currentControl => some (s.currentControl asObject answers, .returned .ok)
  | .remoteDied remote =>
    some (s.rebindControl asObject none,
      .reporting remote s.sessionId s.openedThrough s.deathCallback)
  | .reporting .. => some (s, .returned .ok)

end RecipientState

/-- The channel with its threads. -/
structure RecipientChannel where
  state : RecipientState := {}
  threads : ℕ → ChannelPc := fun _ => .returned .ok

namespace RecipientChannel

variable (asObject : ℕ → Option ℕ) (s : RecipientChannel)

/-- The thread is in none of the functions. -/
def free (n : ℕ) : Bool := s.threads n matches .returned _

/-- A step of one thread or of the environment. -/
def step : ChannelAction → Option RecipientChannel
  | .call n call =>
    if s.free n then some { s with threads := Function.update s.threads n call.entry } else none
  | .notify n remote =>
    if s.free n && s.state.dead remote && decide (0 < s.state.added remote) then
      some { s with threads := Function.update s.threads n (.remoteDied remote) }
    else none
  | .step n answers =>
    (s.state.pcStep asObject answers (s.threads n)).map fun (state, pc) =>
      { state, threads := Function.update s.threads n pc }
  | .die remote =>
    some { s with state := { s.state with dead := Function.update s.state.dead remote true } }
  | .setEngineDeathCallback callback =>
    some { s with state := { s.state with deathCallback := callback } }
  | .shutdown => some { s with state := s.state.shutdown asObject }

end RecipientChannel

/-- The channel from its construction on, with controls that have the given remote objects. -/
def recipientChannel (asObject : ℕ → Option ℕ) : Machine RecipientChannel ChannelAction where
  init := {}
  step := RecipientChannel.step asObject

/-! ## The balance -/

namespace RecipientState

variable {asObject : ℕ → Option ℕ} {s : RecipientState} {answers : ChannelAnswers}

/-- The recipient was added once more than removed for the remote object of the bound control, and
as often for every other. -/
def Balanced (asObject : ℕ → Option ℕ) (s : RecipientState) : Prop :=
  ∀ remote,
    s.added remote = s.removed remote + if s.control.bind asObject = some remote then 1 else 0

/-- The recipient is removed from one object and added to the other, or neither. -/
theorem Balanced.rebindControl (h : s.Balanced asObject) (nextControl : Option ℕ) :
    (s.rebindControl asObject nextControl).Balanced asObject := by
  intro remote
  have hremote := h remote
  by_cases hsame : s.control.bind asObject = nextControl.bind asObject
  · -- neither call is made
    rw [hsame] at hremote
    simpa [RecipientState.rebindControl, hsame] using hremote
  · have hremoved : (s.rebindControl asObject nextControl).removed =
        countCall s.removed (s.control.bind asObject) := if_pos hsame
    have hadded : (s.rebindControl asObject nextControl).added =
        countCall s.added (nextControl.bind asObject) := if_pos (Ne.symm hsame)
    have hcontrol : (s.rebindControl asObject nextControl).control = nextControl := rfl
    rw [hremoved, hadded, hcontrol, countCall, countCall]
    omega

theorem Balanced.release (h : s.Balanced asObject) : (s.release asObject).Balanced asObject :=
  h.rebindControl none

theorem Balanced.refreshControl (h : s.Balanced asObject) (load : LoadAnswers) :
    (s.refreshControl asObject load).2.Balanced asObject := by
  unfold RecipientState.refreshControl
  split
  · exact h
  split
  · exact h
  split
  · exact h.rebindControl _
  · exact h.rebindControl none

theorem Balanced.ensureControlBound (h : s.Balanced asObject) :
    (s.ensureControlBound asObject answers).2.Balanced asObject := by
  unfold RecipientState.ensureControlBound
  split
  · exact h.release
  split
  · exact h
  · exact h.refreshControl _

theorem Balanced.loadOpenSessionControl (h : s.Balanced asObject) :
    (s.loadOpenSessionControl asObject answers).2.Balanced asObject := by
  have hbound : (s.ensureControlBound asObject answers).2.Balanced asObject := h.ensureControlBound
  unfold RecipientState.loadOpenSessionControl
  dsimp only
  split
  · exact hbound.refreshControl _
  · exact hbound

theorem Balanced.currentControl (h : s.Balanced asObject) :
    (s.currentControl asObject answers).Balanced asObject := by
  unfold RecipientState.currentControl
  split
  · exact h.release
  · exact h.ensureControlBound

/-- A section of any call keeps the balance. -/
theorem Balanced.pcStep (h : s.Balanced asObject) {pc pc' : ChannelPc} {s' : RecipientState}
    (hstep : s.pcStep asObject answers pc = some (s', pc')) : s'.Balanced asObject := by
  cases pc with
  | returned status => cases hstep
  | load =>
    cases hstep
    exact h.loadOpenSessionControl
  | retry status =>
    cases hstep
    exact h.refreshControl _
  | closeDenied | closeBound =>
    cases hstep
    exact h.release
  | currentControl =>
    cases hstep
    exact h.currentControl
  | remoteDied remote =>
    cases hstep
    exact h.rebindControl none
  | _ =>
    -- the other points leave the control as it is
    cases hstep
    exact h

end RecipientState

/-- A step of the channel keeps the balance. -/
theorem RecipientChannel.balanced_step {asObject : ℕ → Option ℕ} {s s' : RecipientChannel}
    {a : ChannelAction} (h : s.state.Balanced asObject) (hstep : s.step asObject a = some s') :
    s'.state.Balanced asObject := by
  cases a with
  | call | notify =>
    simp only [step] at hstep
    split at hstep <;> cases hstep
    exact h
  | step n answers =>
    simp only [step, Option.map_eq_some_iff] at hstep
    obtain ⟨⟨state, pc⟩, hpc, rfl⟩ := hstep
    exact h.pcStep hpc
  | die | setEngineDeathCallback =>
    cases hstep
    exact h
  | shutdown =>
    cases hstep
    exact h.release

/-- In every run, whatever the loader returns, whatever the access policy answers and whichever
remote objects the controls have: whenever the mutex is free, the recipient has been added to the
remote object of the bound control once more than removed, and to every other one as often. -/
theorem recipients_balanced (asObject : ℕ → Option ℕ) {s : RecipientChannel}
    (h : (recipientChannel asObject).Reach Machine.Always s) (remote : ℕ) :
    s.state.added remote =
      s.state.removed remote + if s.state.control.bind asObject = some remote then 1 else 0 := by
  have hbalanced : s.state.Balanced asObject := by
    refine h.invariant (I := fun s => s.state.Balanced asObject) ?_ ?_
    · intro remote
      rfl
    · intro s a s' hs _ hstep
      exact RecipientChannel.balanced_step hs hstep
  exact hbalanced remote

/-- Controls 0 and 1 have the remote object 7, control 2 has the remote object 8, and the others
have none. -/
def sharedRemote : ℕ → Option ℕ
  | 0 | 1 => some 7
  | 2 => some 8
  | _ => none

/-- A session is opened through control 0, and its remote object dies. The next `OpenSession` finds
it dead and loads control 1, which has the same one. Another caller finds that dead too and loads
control 3, which has none. The attempt through it fails, and the retry loads control 2. -/
def refreshAndRetry : List ChannelAction :=
  [.call 0 .openSession, .step 0 {}, .step 0 { refresh := { loaded := some 0 } },
    .step 0 {}, .step 0 { sessionId := 100 }, .step 0 {},
    .die 7, .call 0 .openSession, .step 0 {}, .step 0 { refreshDead := { loaded := some 1 } },
    .call 1 .openSession, .step 1 {}, .step 1 { refreshDead := { loaded := some 3 } },
    .step 1 {}, .step 1 { status := .peerDisconnected },
    .step 1 { refresh := { loaded := some 2 } }]

/-- After that the recipient is registered with the remote object of control 2 only. -/
theorem recipients_balanced_refreshAndRetry :
    ∃ s, (recipientChannel sharedRemote).run {} refreshAndRetry = some s ∧
      s.state.added 7 = s.state.removed 7 ∧ s.state.added 8 = s.state.removed 8 + 1 := by
  have hrun : ((recipientChannel sharedRemote).run {} refreshAndRetry).any
      (fun s => s.state.control = some 2) = true := by decide +kernel
  obtain ⟨s, hs, hcontrol⟩ := Machine.exists_of_any hrun
  have hreach := Machine.reach_of_run refreshAndRetry hs
  have hshared := recipients_balanced sharedRemote hreach 7
  have hbound := recipients_balanced sharedRemote hreach 8
  rw [hcontrol] at hshared hbound
  exact ⟨s, hs, hshared, hbound⟩

/-! ## Controls that are their remote objects -/

/-- The states of the two models of the channel have the same members, and the remote objects that
have been watched are those to which the recipient was added. -/
structure ChannelState.Mirrors (s : ChannelState) (t : RecipientState) : Prop where
  control : t.control = s.control
  sessionId : t.sessionId = s.sessionId
  fatal : t.fatalControlLoadFailure = s.fatalControlLoadFailure
  deathCallback : t.deathCallback = s.deathCallback
  openedThrough : t.openedThrough = s.openedThrough
  dead : t.dead = s.dead
  watched : ∀ remote, s.watched remote = decide (0 < t.added remote)
  balanced : t.Balanced some

namespace ChannelState.Mirrors

variable {s : ChannelState} {t : RecipientState} {answers : ChannelAnswers}

theorem init : ({} : ChannelState).Mirrors {} :=
  ⟨rfl, rfl, rfl, rfl, rfl, rfl, fun _ => rfl, fun _ => rfl⟩

theorem rebindControl (h : s.Mirrors t) (nextControl : Option ℕ) :
    (s.rebindControl nextControl).Mirrors (t.rebindControl some nextControl) where
  control := rfl
  sessionId := h.sessionId
  fatal := h.fatal
  deathCallback := h.deathCallback
  openedThrough := h.openedThrough
  dead := h.dead
  watched remote := by
    have hwatched := h.watched remote
    have hbalanced := h.balanced remote
    rw [Option.bind_fun_some] at hbalanced
    simp only [ChannelState.rebindControl, RecipientState.rebindControl, Option.bind_fun_some,
      hwatched, ← Bool.decide_or, decide_eq_decide]
    by_cases hsame : nextControl = t.control
    · -- the recipient is already there
      rw [if_neg (not_not.mpr hsame), hsame]
      by_cases hbound : t.control = some remote
      · rw [if_pos hbound] at hbalanced
        simp only [hbound, or_true, true_iff]
        omega
      · simp [hbound]
    · rw [if_pos hsame, countCall]
      split
      · next hnext => simp [hnext]
      · next hnext => simp [hnext]
  balanced := h.balanced.rebindControl nextControl

theorem release (h : s.Mirrors t) : s.release.Mirrors (t.release some) :=
  { h.rebindControl none with sessionId := rfl }

theorem refreshControl (h : s.Mirrors t) (load : LoadAnswers) :
    (t.refreshControl some load).1 = (s.refreshControl load).1 ∧
      (s.refreshControl load).2.Mirrors (t.refreshControl some load).2 := by
  unfold ChannelState.refreshControl RecipientState.refreshControl
  rw [h.fatal]
  split
  · exact ⟨rfl, h⟩
  split
  · exact ⟨rfl, h⟩
  cases load.loaded with
  | some nextControl => exact ⟨rfl, h.rebindControl (some nextControl)⟩
  | none => exact ⟨rfl, { h.rebindControl none with fatal := rfl }⟩

theorem ensureControlBound (h : s.Mirrors t) (answers : ChannelAnswers) :
    (t.ensureControlBound some answers).1 = (s.ensureControlBound answers).1 ∧
      (s.ensureControlBound answers).2.Mirrors (t.ensureControlBound some answers).2 := by
  unfold ChannelState.ensureControlBound RecipientState.ensureControlBound
  rw [h.control]
  split
  · exact ⟨rfl, h.release⟩
  cases s.control with
  | some control => exact ⟨rfl, h⟩
  | none => exact h.refreshControl _

theorem isDeadRemoteObject (h : s.Mirrors t) (control : Option ℕ) :
    t.isDeadRemoteObject some control = s.isDeadRemoteObject control := by
  cases control with
  | none => rfl
  | some control => exact congrFun h.dead control

theorem loadOpenSessionControl (h : s.Mirrors t) (answers : ChannelAnswers) :
    (t.loadOpenSessionControl some answers).1 = (s.loadOpenSessionControl answers).1 ∧
      (s.loadOpenSessionControl answers).2.Mirrors
        (t.loadOpenSessionControl some answers).2 := by
  obtain ⟨hcontrol, hbound⟩ := h.ensureControlBound answers
  obtain ⟨hrefreshed, hrefresh⟩ := hbound.refreshControl answers.refreshDead
  unfold ChannelState.loadOpenSessionControl RecipientState.loadOpenSessionControl
  dsimp only
  rw [hcontrol, hbound.isDeadRemoteObject]
  split
  · exact ⟨congrArg (·, true) hrefreshed, hrefresh⟩
  · exact ⟨rfl, hbound⟩

theorem currentControl (h : s.Mirrors t) (answers : ChannelAnswers) :
    (s.currentControl answers).Mirrors (t.currentControl some answers) := by
  unfold ChannelState.currentControl RecipientState.currentControl
  split
  · exact h.release
  · exact (h.ensureControlBound answers).2

/-- A thread goes on to the same point in both models. -/
theorem pcStep (h : s.Mirrors t) {pc pc' : ChannelPc} {s' : ChannelState}
    (hstep : s.pcStep answers pc = some (s', pc')) :
    ∃ t', t.pcStep some answers pc = some (t', pc') ∧ s'.Mirrors t' := by
  cases pc with
  | returned status => cases hstep
  | load =>
    obtain ⟨hcontrol, hload⟩ := h.loadOpenSessionControl answers
    simp only [ChannelState.pcStep, ← hcontrol, Option.some.injEq, Prod.mk.injEq] at hstep
    obtain ⟨rfl, rfl⟩ := hstep
    exact ⟨_, rfl, hload⟩
  | unavailable deadBeforeOpen =>
    cases hstep
    exact ⟨t, by simp only [RecipientState.pcStep, h.fatal], h⟩
  | loaded control deadBeforeOpen =>
    cases hstep
    refine ⟨t, ?_, h⟩
    simp only [RecipientState.pcStep, h.isDeadRemoteObject, ChannelState.isDeadRemoteObject]
  | record control sessionId =>
    cases hstep
    exact ⟨_, rfl, { h with sessionId := rfl, openedThrough := rfl }⟩
  | retry status =>
    obtain ⟨hcontrol, hrefresh⟩ := h.refreshControl answers.refresh
    simp only [ChannelState.pcStep, ← hcontrol, Option.some.injEq, Prod.mk.injEq] at hstep
    obtain ⟨rfl, rfl⟩ := hstep
    exact ⟨_, rfl, hrefresh⟩
  | retryUnavailable status =>
    cases hstep
    exact ⟨t, by simp only [RecipientState.pcStep, h.fatal], h⟩
  | closeDenied =>
    cases hstep
    exact ⟨_, rfl, h.release⟩
  | closeBound =>
    simp only [ChannelState.pcStep, ← h.control, Option.some.injEq, Prod.mk.injEq] at hstep
    obtain ⟨rfl, rfl⟩ := hstep
    exact ⟨_, rfl, h.release⟩
  | currentControl =>
    cases hstep
    exact ⟨_, rfl, h.currentControl answers⟩
  | remoteDied remote =>
    cases hstep
    refine ⟨_, ?_, h.rebindControl none⟩
    simp only [RecipientState.pcStep, h.sessionId, h.openedThrough, h.deathCallback]
  | _ =>
    -- neither the state nor the next point depends on the model
    cases hstep
    exact ⟨t, rfl, h⟩

end ChannelState.Mirrors

/-- A step of the one channel is a step of the other. -/
theorem BootstrapChannel.mirror_step {s s' : BootstrapChannel} {t : RecipientChannel}
    {a : ChannelAction} (hthreads : t.threads = s.threads) (h : s.state.Mirrors t.state)
    (hstep : s.step a = some s') :
    ∃ t', t.step some a = some t' ∧ t'.threads = s'.threads ∧ s'.state.Mirrors t'.state := by
  have hfree (n : ℕ) : t.free n = s.free n := by
    rw [RecipientChannel.free, hthreads]
    rfl
  cases a with
  | call n call =>
    simp only [BootstrapChannel.step] at hstep
    split at hstep <;> cases hstep
    next hn =>
      refine ⟨_, if_pos ((hfree n).trans hn), ?_, h⟩
      rw [hthreads]
      rfl
  | notify n remote =>
    simp only [BootstrapChannel.step] at hstep
    split at hstep <;> cases hstep
    next hn =>
      have henabled :
          (t.free n && t.state.dead remote && decide (0 < t.state.added remote)) = true := by
        rw [hfree, h.dead, ← h.watched, Bool.and_right_comm]
        exact hn
      refine ⟨_, if_pos henabled, ?_, h⟩
      rw [hthreads]
      rfl
  | step n answers =>
    simp only [BootstrapChannel.step, Option.map_eq_some_iff] at hstep
    obtain ⟨⟨state, pc⟩, hpc, rfl⟩ := hstep
    obtain ⟨state', hpc', hmirrors⟩ := h.pcStep hpc
    refine ⟨{ state := state', threads := Function.update t.threads n pc }, ?_, ?_, hmirrors⟩
    · rw [RecipientChannel.step, hthreads, hpc']
      rfl
    · rw [hthreads]
  | die remote =>
    cases hstep
    refine ⟨_, rfl, hthreads, { h with dead := ?_ }⟩
    rw [h.dead]
  | setEngineDeathCallback callback =>
    cases hstep
    exact ⟨_, rfl, hthreads, { h with deathCallback := rfl }⟩
  | shutdown =>
    cases hstep
    exact ⟨_, rfl, hthreads, { h.release with deathCallback := rfl }⟩

/-- Where every control is its own remote object, the runs of the channel in `BootstrapChannel` are
runs of this one. -/
theorem exists_mirror {s : BootstrapChannel} (h : bootstrapChannel.Reach Machine.Always s) :
    ∃ t, (recipientChannel some).Reach Machine.Always t ∧ t.threads = s.threads ∧
      s.state.Mirrors t.state := by
  induction h with
  | init => exact ⟨{}, .init, rfl, .init⟩
  | step a _ _ hstep ih =>
    obtain ⟨t, hreach, hthreads, hmirrors⟩ := ih
    obtain ⟨t', hstep', hthreads', hmirrors'⟩ :=
      BootstrapChannel.mirror_step hthreads hmirrors hstep
    exact ⟨t', .step a hreach trivial hstep', hthreads', hmirrors'⟩

end MemRpc
