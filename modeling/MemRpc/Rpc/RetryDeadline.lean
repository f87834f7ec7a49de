import MemRpc.Rpc.ClientRuntime

/-!
# The deadline of a retry loop

`RetryUntilRecoverySettles` round by round, with the readings of the clock. Each round computes a
deadline from the present time and only then compares the time with it, so the deadline moves
along with the clock: as long as the rounds go quickly, the loop does not time out
(`retry_never_returns`). It returns if some round gives up (`retry_returns_of_givesUp`), which takes
a pause of the whole grace period inside one round, or a wait that fails, and only then
(`givesUp_of_returns`).

Times are in nanoseconds, as those of `steady_clock`. What the rounds observe is given: the
snapshots, the readings of the clock, the state of the client during the wait, and what the
callback returns. So is the result of `WaitForCooldownToSettle`.

## Main definitions

* `RetryRound`: what one round observes.
* `retryUntilRecoverySettles`: the loop, with fuel.
* `RetryRound.GivesUp`: the loop ends with this round.
-/

namespace MemRpc

/-- `kRetryUntilRecoverySettlesGrace`, in milliseconds. -/
def retryUntilRecoverySettlesGrace : ℕ := 100

/-- `kRecoveryRetryPollPeriod`, in milliseconds. -/
def recoveryRetryPollPeriod : ℕ := 20

/-- Nanoseconds in a millisecond. -/
def nanosPerMilli : ℕ := 1000000

/-- The fields of `RecoveryRuntimeSnapshot` that the loop reads. -/
structure RetrySnapshot where
  lifecycleState : ClientLifecycleState
  cooldownRemainingMs : UInt32

/-- `computeWaitBudget`, in nanoseconds. -/
def computeWaitBudget (snapshot : RetrySnapshot) : ℕ :=
  (snapshot.cooldownRemainingMs.toNat + retryUntilRecoverySettlesGrace) * nanosPerMilli

/-- `ShouldRetryRecoveryStatus`. -/
def shouldRetryRecoveryStatus (status : StatusCode) (snapshot : RetrySnapshot) : Bool :=
  snapshot.lifecycleState ≠ .closed &&
    (snapshot.lifecycleState = .cooldown || snapshot.lifecycleState = .recovering) &&
    status.retryable

/-- What `WaitOneRecoveryRetryTick` observes: the client when it takes the mutex, the clock, and
the lifecycle state after the wait. -/
structure RetryTick where
  workersRunning : Bool
  controlState : ApiLifecycleState
  lifecycleState : ClientLifecycleState
  now : ℕ
  lifecycleAfter : ClientLifecycleState

/-- `WaitOneRecoveryRetryTick`: `WaitForRecoveryState` with `WaitForRetryStepLocked`, which is made
once. -/
def waitOneRecoveryRetryTick (tick : RetryTick) (deadline : ℕ) : StatusCode :=
  if tick.workersRunning = false then
    if tick.controlState = .opened then .peerDisconnected else .clientClosed
  else if tick.controlState ≠ .opened then .clientClosed
  else if tick.lifecycleState ≠ .recovering then tick.lifecycleState.waitResult
  else if deadline ≤ tick.now then .peerDisconnected
  else
    let waitFor := min recoveryRetryPollPeriod ((deadline - tick.now) / nanosPerMilli)
    if waitFor = 0 then .peerDisconnected
    else if tick.lifecycleAfter = .recovering then .ok
    else tick.lifecycleAfter.waitResult

/-- What one round of the loop observes, and what the callback returns at its end. -/
structure RetryRound where
  snapshot : RetrySnapshot
  /-- The reading of the clock for the deadline. -/
  deadlineAt : ℕ
  /-- The reading that is compared with it. -/
  testedAt : ℕ
  tick : RetryTick
  /-- What `WaitForCooldownToSettle` returns. -/
  cooldownWait : StatusCode
  invoke : StatusCode

/-- One round. The callback is called again with the deadline of the result, if there is one. -/
def RetryRound.next (round : RetryRound) (deadline : ℕ) (status : StatusCode) : Option ℕ :=
  let deadline := max deadline (round.deadlineAt + computeWaitBudget round.snapshot)
  if shouldRetryRecoveryStatus status round.snapshot = false then none
  else if deadline ≤ round.testedAt then none
  else
    let waitStatus :=
      if round.snapshot.lifecycleState = .cooldown then round.cooldownWait
      else if round.snapshot.lifecycleState = .recovering then
        waitOneRecoveryRetryTick round.tick deadline
      else .peerDisconnected
    if waitStatus ≠ .ok then none else some deadline

/-- What the loop observes from its beginning. -/
structure RetryEnv where
  start : ℕ
  snapshot : RetrySnapshot
  invoke : StatusCode
  rounds : ℕ → RetryRound

/-- The rounds from `k` on. The result is the status and the number of calls of the callback. -/
def retryLoop (rounds : ℕ → RetryRound) : ℕ → ℕ → ℕ → StatusCode → Option (StatusCode × ℕ)
  | 0, _, _, _ => none
  | fuel + 1, k, deadline, status =>
    match (rounds k).next deadline status with
    | none => some (status, k + 1)
    | some deadline => retryLoop rounds fuel (k + 1) deadline (rounds k).invoke

/-- `RetryUntilRecoverySettles` with a callback. -/
def retryUntilRecoverySettles (env : RetryEnv) (fuel : ℕ) : Option (StatusCode × ℕ) :=
  if env.invoke = .ok then some (.ok, 1)
  else retryLoop env.rounds fuel 0 (env.start + computeWaitBudget env.snapshot) env.invoke

namespace RetryEnv

/-- The readings of the clock do not go back. -/
structure ClockForward (env : RetryEnv) : Prop where
  start : env.start ≤ (env.rounds 0).deadlineAt
  tested : ∀ k, (env.rounds k).deadlineAt ≤ (env.rounds k).testedAt
  tick : ∀ k, (env.rounds k).testedAt ≤ (env.rounds k).tick.now
  next : ∀ k, (env.rounds k).tick.now ≤ (env.rounds (k + 1)).deadlineAt

/-- The clock passes every time. -/
def ClockUnbounded (env : RetryEnv) : Prop := ∀ time, ∃ k, time ≤ (env.rounds k).deadlineAt

/-- Every snapshot is `Recovering` with no cooldown left, and every call of the callback returns
`PeerDisconnected`. -/
structure Stuck (env : RetryEnv) : Prop where
  first : env.snapshot = ⟨.recovering, 0⟩
  snapshot : ∀ k, (env.rounds k).snapshot = ⟨.recovering, 0⟩
  invoked : env.invoke = .peerDisconnected
  invoke : ∀ k, (env.rounds k).invoke = .peerDisconnected

end RetryEnv

/-- The deadline of a round without a cooldown. -/
def RetryRound.ownDeadline (round : RetryRound) : ℕ :=
  round.deadlineAt + retryUntilRecoverySettlesGrace * nanosPerMilli

/-- The round ends the loop: the clock has reached the deadline that the round itself has computed,
or its wait fails. -/
def RetryRound.GivesUp (round : RetryRound) : Prop :=
  round.ownDeadline ≤ round.testedAt ∨
    waitOneRecoveryRetryTick round.tick round.ownDeadline ≠ .ok

theorem computeWaitBudget_recovering :
    computeWaitBudget ⟨.recovering, 0⟩ = retryUntilRecoverySettlesGrace * nanosPerMilli := rfl

variable {deadline : ℕ} {round : RetryRound}

/-- A round of a loop that is stuck. Its own deadline is the latest so far. -/
theorem RetryRound.next_of_stuck (hsnapshot : round.snapshot = ⟨.recovering, 0⟩)
    (hdeadline : deadline ≤ round.ownDeadline) :
    round.next deadline .peerDisconnected =
      if round.ownDeadline ≤ round.testedAt then none
      else if waitOneRecoveryRetryTick round.tick round.ownDeadline ≠ .ok then none
      else some round.ownDeadline := by
  have hretry : shouldRetryRecoveryStatus .peerDisconnected ⟨.recovering, 0⟩ = true := rfl
  have hmax : max deadline (round.deadlineAt + computeWaitBudget ⟨.recovering, 0⟩) =
      round.ownDeadline := max_eq_right hdeadline
  simp only [RetryRound.next, hsnapshot, hretry, hmax, Bool.true_eq_false, if_false, if_true,
    reduceCtorEq]

theorem RetryRound.next_of_givesUp (hsnapshot : round.snapshot = ⟨.recovering, 0⟩)
    (hdeadline : deadline ≤ round.ownDeadline)
    (h : round.GivesUp) : round.next deadline .peerDisconnected = none := by
  rw [next_of_stuck hsnapshot hdeadline]
  split
  · rfl
  · rename_i htime
    exact if_pos (h.resolve_left htime)

theorem RetryRound.next_of_not_givesUp (hsnapshot : round.snapshot = ⟨.recovering, 0⟩)
    (hdeadline : deadline ≤ round.ownDeadline)
    (h : ¬ round.GivesUp) :
    round.next deadline .peerDisconnected = some round.ownDeadline := by
  rw [next_of_stuck hsnapshot hdeadline, if_neg fun htime => h (.inl htime),
    if_neg fun hwait => h (.inr hwait)]

namespace RetryEnv

variable {env : RetryEnv}

/-- The deadlines of the rounds grow with the clock. -/
theorem ClockForward.ownDeadline_le (h : env.ClockForward) (k : ℕ) :
    (env.rounds k).ownDeadline ≤ (env.rounds (k + 1)).ownDeadline :=
  Nat.add_le_add_right (((h.tested k).trans (h.tick k)).trans (h.next k)) _

/-- If round `k + n` gives up, the loop returns from round `k` on. -/
theorem Stuck.retryLoop_of_givesUp (hstuck : env.Stuck) (hclock : env.ClockForward) {n k : ℕ}
    (hgives : (env.rounds (k + n)).GivesUp) (hdeadline : deadline ≤ (env.rounds k).ownDeadline) :
    ∃ calls ≤ k + n + 1,
      retryLoop env.rounds (n + 1) k deadline .peerDisconnected = some (.peerDisconnected, calls) := by
  induction n generalizing k deadline with
  | zero =>
    refine ⟨k + 1, le_rfl, ?_⟩
    rw [retryLoop, RetryRound.next_of_givesUp (hstuck.snapshot k) hdeadline hgives]
  | succ n ih =>
    by_cases hnow : (env.rounds k).GivesUp
    · refine ⟨k + 1, by omega, ?_⟩
      rw [retryLoop, RetryRound.next_of_givesUp (hstuck.snapshot k) hdeadline hnow]
    · rw [show k + (n + 1) = k + 1 + n by omega] at hgives ⊢
      obtain ⟨calls, hcalls, hloop⟩ := ih hgives (hclock.ownDeadline_le k)
      refine ⟨calls, hcalls, ?_⟩
      rw [retryLoop, RetryRound.next_of_not_givesUp (hstuck.snapshot k) hdeadline hnow,
        hstuck.invoke k]
      exact hloop

/-- If no round gives up, the loop does not return. -/
theorem Stuck.retryLoop_of_not_givesUp (hstuck : env.Stuck) (hclock : env.ClockForward)
    (hnever : ∀ k, ¬ (env.rounds k).GivesUp) (fuel k : ℕ)
    (hdeadline : deadline ≤ (env.rounds k).ownDeadline) :
    retryLoop env.rounds fuel k deadline .peerDisconnected = none := by
  induction fuel generalizing k deadline with
  | zero => rfl
  | succ fuel ih =>
    rw [retryLoop, RetryRound.next_of_not_givesUp (hstuck.snapshot k) hdeadline (hnever k),
      hstuck.invoke k]
    exact ih (k + 1) (hclock.ownDeadline_le k)

/-- The loop begins with a deadline that is not later than that of the first round. -/
theorem Stuck.retry_eq (hstuck : env.Stuck) (fuel : ℕ) :
    retryUntilRecoverySettles env fuel = retryLoop env.rounds fuel 0
      (env.start + retryUntilRecoverySettlesGrace * nanosPerMilli) .peerDisconnected := by
  rw [retryUntilRecoverySettles, hstuck.invoked, hstuck.first, computeWaitBudget_recovering,
    if_neg (by decide)]

theorem ClockForward.start_le (h : env.ClockForward) :
    env.start + retryUntilRecoverySettlesGrace * nanosPerMilli ≤ (env.rounds 0).ownDeadline :=
  Nat.add_le_add_right h.start _

end RetryEnv

open RetryEnv

/-- If the callback always returns `PeerDisconnected` and every snapshot is `Recovering` without a
cooldown, and some round gives up, then `RetryUntilRecoverySettles` returns, and has called the
callback at most once more than there were rounds. -/
theorem retry_returns_of_givesUp {env : RetryEnv} (hstuck : env.Stuck) (hclock : env.ClockForward)
    {k : ℕ} (hgives : (env.rounds k).GivesUp) :
    ∃ fuel, ∃ calls ≤ k + 1,
      retryUntilRecoverySettles env fuel = some (.peerDisconnected, calls) := by
  rw [← Nat.zero_add k] at hgives
  obtain ⟨calls, hcalls, hloop⟩ := hstuck.retryLoop_of_givesUp hclock hgives hclock.start_le
  refine ⟨k + 1, calls, by omega, ?_⟩
  rw [hstuck.retry_eq, hloop]

/-- It returns only then. -/
theorem givesUp_of_returns {env : RetryEnv} (hstuck : env.Stuck) (hclock : env.ClockForward)
    {fuel : ℕ} {result : StatusCode × ℕ}
    (hreturn : retryUntilRecoverySettles env fuel = some result) :
    ∃ k, (env.rounds k).GivesUp := by
  by_contra hnever
  rw [hstuck.retry_eq, hstuck.retryLoop_of_not_givesUp hclock (not_exists.mp hnever) fuel 0
    hclock.start_le] at hreturn
  cases hreturn

/-- A round at a time at which the recovery is still going on. -/
def recoveringRound (deadlineAt testedAt : ℕ) : RetryRound where
  snapshot := ⟨.recovering, 0⟩
  deadlineAt := deadlineAt
  testedAt := testedAt
  tick :=
    { workersRunning := true, controlState := .opened, lifecycleState := .recovering
      now := testedAt, lifecycleAfter := .recovering }
  cooldownWait := .ok
  invoke := .peerDisconnected

/-- Without a pause, such a round does not give up. -/
theorem not_givesUp_recoveringRound (time : ℕ) : ¬ (recoveringRound time time).GivesUp := by
  have hdeadline : (recoveringRound time time).ownDeadline = time + 100000000 := rfl
  have hwait : waitOneRecoveryRetryTick (recoveringRound time time).tick (time + 100000000) = .ok := by
    have hbudget : min recoveryRetryPollPeriod ((time + 100000000 - time) / nanosPerMilli) ≠ 0 := by
      rw [Nat.add_sub_cancel_left]
      decide
    simp only [waitOneRecoveryRetryTick, recoveringRound, Bool.true_eq_false, if_false, ne_eq,
      not_true_eq_false, if_neg (show ¬ time + 100000000 ≤ time by omega), if_neg hbudget, if_true]
  rintro (htime | hfailed)
  · rw [hdeadline] at htime
    exact absurd (show time + 100000000 ≤ time from htime) (by omega)
  · exact hfailed (hdeadline ▸ hwait)

/-- A round every 200 milliseconds. In the third, the thread is held up for 100 milliseconds
between its two readings of the clock. -/
def pausedRecovery : RetryEnv where
  start := 0
  snapshot := ⟨.recovering, 0⟩
  invoke := .peerDisconnected
  rounds k :=
    recoveringRound (k * 200000000) (k * 200000000 + if k = 2 then 100000000 else 0)

theorem retry_returns_pausedRecovery :
    ∃ fuel, ∃ calls ≤ 3,
      retryUntilRecoverySettles pausedRecovery fuel = some (.peerDisconnected, calls) := by
  have hstuck : pausedRecovery.Stuck := ⟨rfl, fun _ => rfl, rfl, fun _ => rfl⟩
  have hclock : pausedRecovery.ClockForward := by
    refine ⟨Nat.zero_le _, fun _ => Nat.le_add_right _ _, fun _ => le_rfl, fun k => ?_⟩
    change k * 200000000 + (if k = 2 then 100000000 else 0) ≤ (k + 1) * 200000000
    split <;> omega
  have hgives : (pausedRecovery.rounds 2).GivesUp := .inl (by decide)
  exact retry_returns_of_givesUp hstuck hclock hgives

/-- A recovery that does not end, with a round every 20 milliseconds. -/
def endlessRecovery : RetryEnv where
  start := 0
  snapshot := ⟨.recovering, 0⟩
  invoke := .peerDisconnected
  rounds k := recoveringRound (k * 20000000) (k * 20000000)

/-- The clock advances without bound, and the loop never returns. -/
theorem retry_never_returns :
    endlessRecovery.Stuck ∧ endlessRecovery.ClockForward ∧ endlessRecovery.ClockUnbounded ∧
      ∀ fuel, retryUntilRecoverySettles endlessRecovery fuel = none := by
  have hstuck : endlessRecovery.Stuck := ⟨rfl, fun _ => rfl, rfl, fun _ => rfl⟩
  have hclock : endlessRecovery.ClockForward := by
    refine ⟨Nat.zero_le _, fun _ => le_rfl, fun _ => le_rfl, fun k => ?_⟩
    exact Nat.mul_le_mul_right _ (Nat.le_succ k)
  have hnever : ∀ k, ¬ (endlessRecovery.rounds k).GivesUp :=
    fun k => not_givesUp_recoveringRound (k * 20000000)
  refine ⟨hstuck, hclock, fun time => ⟨time, ?_⟩, fun fuel => ?_⟩
  · exact Nat.le_mul_of_pos_right _ (by norm_num)
  · rw [hstuck.retry_eq]
    exact hstuck.retryLoop_of_not_givesUp hclock hnever fuel 0 hclock.start_le

end MemRpc
