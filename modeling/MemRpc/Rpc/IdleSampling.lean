import MemRpc.Lib.Machine
import MemRpc.Rpc.ClientRuntime

/-!
# The idle time the watchdog reports

`TouchActivity` reads the monotonic clock and then stores the value. `MaybeRunIdlePolicy`
reads the clock and then subtracts the stored activity from it, both `uint64_t`, and passes
the difference to `onIdle` under the lifecycle mutex. Between the two reads another thread can
store an activity that is later than the clock value: the difference wraps around and the
session looks idle for `2 ^ 64` milliseconds. A `TouchActivity` that is delayed between its
two steps can also put an older activity over a newer one.

Any number of `TouchActivity` calls run beside the watchdog, the clock advances at any time,
sessions are opened and closed whenever the watchdog does not hold the lifecycle mutex, and
`Shutdown` may begin. The tests that make `MaybeRunIdlePolicy` return early are left to the
environment, except for those of the API state and of the session.

## Main definitions

* `IdlePc`: the points of `MaybeRunIdlePolicy` and `HandleIdleRecovery`.
* `idleSampling`: the machine.
* `IdleSampling.RecordedApart`: no activity is stored where it comes too late.
-/

namespace MemRpc

open Concurrency

/-- The points of `MaybeRunIdlePolicy`, and of `HandleIdleRecovery` from `deciding` on, where
the lifecycle mutex is held. -/
inductive IdlePc
  | outside
  | readClock (observed : ℕ)
  | load (observed : ℕ) (nowMs : UInt64)
  | locking (observed : ℕ) (idleMs : UInt64)
  | deciding (observed : ℕ) (idleMs : UInt64)
  | closing (observed : ℕ) (idleMs : UInt64)
  deriving DecidableEq, Repr

/-- The lifecycle mutex is held. -/
def IdlePc.locked : IdlePc → Bool
  | .deciding .. | .closing .. => true
  | _ => false

/-- The decisions for which `ApplyRecoveryDecisionLocked` closes the session. -/
def RecoveryDecision.closesSession (decision : RecoveryDecision) : Bool :=
  match decision.action with
  | .idleClose | .restart => true
  | .ignore | .manualShutdown => false

/-- `RecoveryPolicy::onIdle`. -/
abbrev IdlePolicy := UInt64 → RecoveryDecision

/-- The policy that `BuildRecoveryPolicy` installs for `idleShutdownTimeoutMs`. -/
def vesIdlePolicy (timeout : UInt32) : IdlePolicy := fun idleMs =>
  if idleMs.toNat < timeout.toNat then { action := .ignore, delayMs := 0 }
  else { action := .idleClose, delayMs := 0 }

/-- An activity that is stored here comes too late for the watchdog: the clock has been read
and the activity has not, or the session is going to be closed. -/
def IdlePc.exposed (policy : IdlePolicy) : IdlePc → Bool
  | .outside | .readClock _ => false
  | .load .. => true
  | .locking _ idleMs | .deciding _ idleMs | .closing _ idleMs => (policy idleMs).closesSession

/-- A call of `onIdle`, or the close that it asked for: the value that was passed, the last
activity and the moment. -/
structure IdleEvent where
  idleMs : UInt64
  lastActivity : UInt64
  moment : UInt64
  deriving DecidableEq, Repr

/-- The time from the last activity to the event. -/
def IdleEvent.elapsed (e : IdleEvent) : ℕ := e.moment.toNat - e.lastActivity.toNat

/-- The clock, the recorded activity, the client as far as the idle policy reads it, and the
threads. -/
structure IdleSampling where
  now : UInt64
  lastActivityMs : UInt64
  apiOpen : Bool := true
  session : ℕ := 0
  /-- The clock values of the `TouchActivity` calls that have not stored them. -/
  touching : ℕ → Option UInt64 := fun _ => none
  watchdog : IdlePc := .outside
  /-- The latest activity ever stored. -/
  latest : UInt64
  /-- The latest activity that had been stored when the watchdog last loaded one. -/
  sampled : UInt64
  /-- The calls of `onIdle`, with the last activity that the sample could see. -/
  calls : List IdleEvent := []
  /-- The idle closes, with the last activity before the close. -/
  closes : List IdleEvent := []

/-- Who moves. -/
inductive IdleAction
  | advance (later : UInt64)
  | touch (n : ℕ)
  | store (n : ℕ)
  | watchdog
  | openSession (session : ℕ)
  | closeSession
  | shutdown
  deriving DecidableEq, Repr

namespace IdleSampling

variable (s : IdleSampling)

/-- The next step of the watchdog. -/
def watchdogStep (policy : IdlePolicy) : IdleSampling :=
  match s.watchdog with
  | .outside =>
    if s.apiOpen ∧ s.session ≠ 0 then { s with watchdog := .readClock s.session } else s
  | .readClock observed => { s with watchdog := .load observed s.now }
  | .load observed nowMs =>
    { s with sampled := s.latest, watchdog := .locking observed (nowMs - s.lastActivityMs) }
  -- `HandleIdleRecovery` takes the mutex and looks at the session again
  | .locking observed idleMs =>
    if s.apiOpen ∧ s.session = observed then { s with watchdog := .deciding observed idleMs }
    else { s with watchdog := .outside }
  | .deciding observed idleMs =>
    { s with
      calls := ⟨idleMs, s.sampled, s.now⟩ :: s.calls
      watchdog :=
        if (policy idleMs).closesSession then .closing observed idleMs else .outside }
  -- `CloseLiveSessionIfSnapshotMatches`
  | .closing observed idleMs =>
    if s.apiOpen ∧ s.session = observed then
      { s with
        session := 0
        closes := ⟨idleMs, s.latest, s.now⟩ :: s.closes
        watchdog := .outside }
    else { s with watchdog := .outside }

end IdleSampling

/-- The machine of a client that was initialised at the clock value `start`. -/
def idleSampling (policy : IdlePolicy) (start : UInt64) : Machine IdleSampling IdleAction where
  init := { now := start, lastActivityMs := start, latest := start, sampled := start }
  step s
    | .advance later => if s.now ≤ later then some { s with now := later } else none
    | .touch n =>
      if s.touching n = none then
        some { s with touching := Function.update s.touching n (some s.now) }
      else none
    | .store n =>
      (s.touching n).map fun v =>
        { s with
          lastActivityMs := v
          latest := max s.latest v
          touching := Function.update s.touching n none }
    | .watchdog => some (s.watchdogStep policy)
    | .openSession session =>
      if s.watchdog.locked then none else some { s with session }
    | .closeSession => if s.watchdog.locked then none else some { s with session := 0 }
    | .shutdown => some { s with apiOpen := false }

namespace IdleSampling

/-- No activity is stored where it comes too late for the watchdog, nor over a later one. -/
def RecordedApart (policy : IdlePolicy) (s : IdleSampling) : IdleAction → Prop
  | .store n =>
    s.watchdog.exposed policy = false ∧ ∀ v ∈ s.touching n, s.lastActivityMs ≤ v
  | _ => True

-- The instance for options is named, since the one for finite types would run through all of
-- `UInt64`.
instance (policy : IdlePolicy) (s : IdleSampling) (a : IdleAction) :
    Decidable (s.RecordedApart policy a) := by
  have hstored (n : ℕ) : Decidable (∀ v ∈ s.touching n, s.lastActivityMs ≤ v) :=
    Option.decidableForallMem _
  unfold RecordedApart
  split <;> infer_instance

/-! ## What a sample knows -/

/-- What holds at the point that the watchdog has reached. -/
def Sound (policy : IdlePolicy) (s : IdleSampling) : IdlePc → Prop
  | .outside | .readClock _ => True
  | .load _ nowMs => s.latest.toNat ≤ nowMs.toNat ∧ nowMs.toNat ≤ s.now.toNat
  | .locking _ idleMs | .deciding _ idleMs =>
    idleMs.toNat + s.sampled.toNat ≤ s.now.toNat ∧
      ((policy idleMs).closesSession → s.latest = s.sampled)
  | .closing _ idleMs =>
    (policy idleMs).closesSession ∧ idleMs.toNat + s.latest.toNat ≤ s.now.toNat

/-- The stored activity is the latest one, no activity is ahead of the clock, and every sample
is sound, from the clock read to the close. -/
structure Inv (policy : IdlePolicy) (s : IdleSampling) : Prop where
  stored : s.lastActivityMs = s.latest
  past : s.latest.toNat ≤ s.now.toNat
  touched : ∀ n, ∀ v ∈ s.touching n, v.toNat ≤ s.now.toNat
  sound : s.Sound policy s.watchdog
  calls : ∀ c ∈ s.calls, c.idleMs.toNat ≤ c.elapsed
  closes : ∀ c ∈ s.closes, (policy c.idleMs).closesSession ∧ c.idleMs.toNat ≤ c.elapsed

namespace Inv

variable {policy : IdlePolicy} {s : IdleSampling}

theorem init (start : UInt64) : (idleSampling policy start).init.Inv policy where
  stored := rfl
  past := le_rfl
  touched _ _ hv := nomatch hv
  sound := trivial
  calls _ hc := nomatch hc
  closes _ hc := nomatch hc

theorem advance (H : s.Inv policy) {later : UInt64} (h : s.now ≤ later) :
    ({ s with now := later } : IdleSampling).Inv policy := by
  have hle : s.now.toNat ≤ later.toNat := h
  refine ⟨H.stored, H.past.trans hle, fun n v hv => (H.touched n v hv).trans hle, ?_,
    H.calls, H.closes⟩
  have hsound := H.sound
  change Sound policy _ s.watchdog
  cases hpc : s.watchdog with
  | outside | readClock observed => exact trivial
  | load observed nowMs =>
    rw [hpc] at hsound
    exact ⟨hsound.1, hsound.2.trans hle⟩
  | locking observed idleMs | deciding observed idleMs =>
    rw [hpc] at hsound
    exact ⟨hsound.1.trans hle, hsound.2⟩
  | closing observed idleMs =>
    rw [hpc] at hsound
    exact ⟨hsound.1, hsound.2.trans hle⟩

theorem touch (H : s.Inv policy) (n : ℕ) :
    ({ s with touching := Function.update s.touching n (some s.now) } : IdleSampling).Inv
      policy := by
  refine { H with touched := ?_ }
  intro m v hv
  rcases eq_or_ne m n with rfl | hm
  · simp only [Function.update_self, Option.mem_def, Option.some.injEq] at hv
    exact hv ▸ le_rfl
  · exact H.touched m v (by simpa [hm] using hv)

/-- A store that the condition allows: the samples that could suffer from it are those of
which the policy closes no session. -/
theorem store (H : s.Inv policy) {n : ℕ} {v : UInt64} (hv : s.touching n = some v)
    (hexposed : s.watchdog.exposed policy = false) (hle : s.lastActivityMs ≤ v) :
    ({ s with
        lastActivityMs := v
        latest := max s.latest v
        touching := Function.update s.touching n none } : IdleSampling).Inv policy := by
  have hmax : max s.latest v = v := if_pos (H.stored ▸ hle)
  refine ⟨hmax.symm, ?_, ?_, ?_, H.calls, H.closes⟩
  · rw [hmax]
    exact H.touched n v hv
  · intro m u hu
    rcases eq_or_ne m n with rfl | hm
    · simp at hu
    · exact H.touched m u (by simpa [hm] using hu)
  · have hsound := H.sound
    change Sound policy _ s.watchdog
    cases hpc : s.watchdog with
    | outside | readClock observed => exact trivial
    | load observed nowMs => simp [hpc, IdlePc.exposed] at hexposed
    | locking observed idleMs | deciding observed idleMs =>
      rw [hpc] at hsound hexposed
      refine ⟨hsound.1, fun hcloses => ?_⟩
      exact absurd hcloses (by simpa [IdlePc.exposed] using hexposed)
    | closing observed idleMs =>
      rw [hpc] at hsound hexposed
      exact absurd hsound.1 (by simpa [IdlePc.exposed] using hexposed)

theorem goto (H : s.Inv policy) {pc : IdlePc} (hsound : s.Sound policy pc) :
    ({ s with watchdog := pc } : IdleSampling).Inv policy :=
  { H with sound := hsound }

theorem watchdog (H : s.Inv policy) : (s.watchdogStep policy).Inv policy := by
  have hsound := H.sound
  unfold watchdogStep
  split
  next hpc =>
    split
    · exact H.goto trivial
    · exact H
  next observed hpc => exact H.goto ⟨H.past, le_rfl⟩
  next observed nowMs hpc =>
    rw [hpc] at hsound
    -- the activity is not ahead of the clock value, so the difference does not wrap around
    have hle : s.lastActivityMs ≤ nowMs := H.stored ▸ hsound.1
    have hdiff := UInt64.toNat_sub_of_le nowMs s.lastActivityMs hle
    refine { H with sound := ⟨?_, fun _ => rfl⟩ }
    calc (nowMs - s.lastActivityMs).toNat + s.latest.toNat
        = nowMs.toNat - s.latest.toNat + s.latest.toNat := by rw [hdiff, H.stored]
      _ = nowMs.toNat := Nat.sub_add_cancel hsound.1
      _ ≤ s.now.toNat := hsound.2
  next observed idleMs hpc =>
    rw [hpc] at hsound
    split
    · exact H.goto hsound
    · exact H.goto trivial
  next observed idleMs hpc =>
    rw [hpc] at hsound
    refine ⟨H.stored, H.past, H.touched, ?_, ?_, H.closes⟩
    · show Sound policy _ (if _ then _ else _)
      split
      next hcloses => exact ⟨hcloses, hsound.2 hcloses ▸ hsound.1⟩
      next => exact trivial
    · rintro c (_ | ⟨_, hc⟩)
      · exact Nat.le_sub_of_add_le hsound.1
      · exact H.calls c hc
  next observed idleMs hpc =>
    rw [hpc] at hsound
    split
    · refine ⟨H.stored, H.past, H.touched, trivial, H.calls, ?_⟩
      rintro c (_ | ⟨_, hc⟩)
      · exact ⟨hsound.1, Nat.le_sub_of_add_le hsound.2⟩
      · exact H.closes c hc
    · exact H.goto trivial

theorem step {start : UInt64} {s' : IdleSampling} {a : IdleAction} (H : s.Inv policy)
    (hok : s.RecordedApart policy a) (hs : (idleSampling policy start).step s a = some s') :
    s'.Inv policy := by
  cases a with
  | advance later =>
    obtain ⟨hle, rfl⟩ := Option.ite_none_right_eq_some.mp hs |>.imp_right Option.some.inj
    exact H.advance hle
  | touch n =>
    obtain ⟨-, rfl⟩ := Option.ite_none_right_eq_some.mp hs |>.imp_right Option.some.inj
    exact H.touch n
  | store n =>
    obtain ⟨v, hv, rfl⟩ := Option.map_eq_some_iff.mp hs
    exact H.store hv hok.1 (hok.2 v hv)
  | watchdog =>
    obtain rfl := Option.some.inj hs
    exact H.watchdog
  | openSession | closeSession =>
    obtain ⟨-, rfl⟩ := Option.ite_none_left_eq_some.mp hs |>.imp_right Option.some.inj
    exact { H with }
  | shutdown =>
    obtain rfl := Option.some.inj hs
    exact { H with }

end Inv

end IdleSampling

open IdleSampling

theorem le_of_closesSession {timeout : UInt32} {idleMs : UInt64}
    (h : (vesIdlePolicy timeout idleMs).closesSession) : timeout.toNat ≤ idleMs.toNat := by
  by_contra hlt
  simp [vesIdlePolicy, not_le.mp hlt, RecoveryDecision.closesSession] at h

/-- As long as no activity is stored where it comes too late for the watchdog, or over a later
one, no call of `onIdle` overstates the time since the last activity of its sample, and the
policy of the virus executor closes no session whose last activity is younger than its
timeout. -/
theorem idleMs_le_elapsed_of_reach {policy : IdlePolicy} {start : UInt64} {s : IdleSampling}
    (h : (idleSampling policy start).Reach (RecordedApart policy) s) :
    (∀ c ∈ s.calls, c.idleMs.toNat ≤ c.elapsed) ∧
      ∀ timeout, policy = vesIdlePolicy timeout → ∀ c ∈ s.closes, timeout.toNat ≤ c.elapsed := by
  have H : s.Inv policy := h.invariant (Inv.init start) fun _ _ _ H hok hs => H.step hok hs
  refine ⟨H.calls, ?_⟩
  rintro timeout rfl c hc
  obtain ⟨hcloses, helapsed⟩ := H.closes c hc
  exact (le_of_closesSession hcloses).trans helapsed

/-- One session, and the watchdog has read the clock at 100. -/
def sampleAt100 : List IdleAction := [.openSession 1, .watchdog, .watchdog]

/-- The activity of 101 is recorded before the sample. The first sample is short of the
timeout of 60 milliseconds, and the second one closes the session. -/
theorem idleMs_le_elapsed_60 :
    ∃ s, (idleSampling (vesIdlePolicy 60) 100).Reach (RecordedApart (vesIdlePolicy 60)) s ∧
      s.calls.map IdleEvent.idleMs = [61, 1] ∧ s.closes ≠ [] ∧
      (∀ c ∈ s.calls, c.idleMs.toNat ≤ c.elapsed) ∧ ∀ c ∈ s.closes, 60 ≤ c.elapsed := by
  obtain ⟨s, hreach, hcalls, hcloses⟩ := (idleSampling (vesIdlePolicy 60) 100).exists_reachOk
    (RecordedApart (vesIdlePolicy 60)) ([.openSession 1, .advance 101, .touch 0, .store 0,
    .watchdog, .advance 102] ++ List.replicate 4 .watchdog ++ [.watchdog, .advance 162] ++
    List.replicate 5 .watchdog)
    (P := fun s => s.calls.map IdleEvent.idleMs = [61, 1] ∧ s.closes ≠ []) (by decide +kernel)
  obtain ⟨hle, hclose⟩ := idleMs_le_elapsed_of_reach hreach
  exact ⟨s, hreach, hcalls, hcloses, hle, hclose 60 rfl⟩

/-- The activity of 101 is recorded between the two reads: `onIdle` is told `2 ^ 64 - 1`
milliseconds at the moment of the activity, and the session is closed. -/
theorem not_idleMs_le_elapsed_of_lateStore :
    ∃ s, (idleSampling (vesIdlePolicy 60000) 100).Reach Machine.Always s ∧
      s.session = 0 ∧ s.calls = [⟨18446744073709551615, 101, 101⟩] ∧
      s.closes = [⟨18446744073709551615, 101, 101⟩] := by
  exact (idleSampling (vesIdlePolicy 60000) 100).exists_reach (sampleAt100 ++
    [.advance 101, .touch 0, .store 0] ++ List.replicate 4 .watchdog) (by decide +kernel)

end MemRpc
