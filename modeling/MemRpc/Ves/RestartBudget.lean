import MemRpc.Ves.BootstrapChannel

/-!
# The restart budget of VesClient

`VesClient` counts engine deaths. `ApplyRestartBudget` adds one for each restart that the
recovery policy decides on and turns the decision into `Ignore` at the limit, and the
access policy of the bootstrap channel refuses to open sessions from then on.

The run starts when `Init` has returned and the count was reset. The client moves on top of its
bootstrap channel (`ChannelState`): the holder of `lifecycleMutex_` runs `OpenSession` and
`CloseSession` of the channel, a death notice runs `HandleRemoteDied` and then the death callback,
the watchdog makes health checks, call timeouts and idle closes, the submit thread demands
sessions and gives them up after a failed push. Nobody calls `CurrentControl`. The loader, the
heartbeat, the remotes and `Attach` are answered by the action; the access policy answers from the
count.

Only two of the paths that give up a session ask the policy. A session that the health
check finds dead is replaced without being counted (`not_eachDeathCharged_of_healthCheck`).
Where every session is attached and given up by its own death notice, deaths are counted exactly
(`eachDeathCharged_of_reach`).

## Main definitions

* `RestartBudget`: the client and its channel.
* `vesClient`: the machine.
* `EachDeathCharged`: every session given up is charged once, and the limit holds.

## Main results

* `RestartBudget.runsChannel_of_reach`, `eachDeathCharged_of_reach`.
-/

namespace MemRpc

open Concurrency

/-- Who closes the session, and why. -/
inductive CloseCause
  /-- `HandleEngineDeath` for the notice of this remote. -/
  | engineDeath (r : ℕ)
  /-- `HandleExternalRecovery` after a health check. -/
  | healthCheck
  /-- `HandleIdleRecovery` with the decision `IdleClose`. -/
  | idle
  /-- `ApplyFailureRecoveryDecision` for an `ExecTimeout`. -/
  | execTimeout
  /-- `CloseLiveSessionForTransportFailure`. -/
  | transportFailure
  deriving DecidableEq, Repr

/-- What the holder of `lifecycleMutex_` does next. -/
inductive LifecyclePc
  | free
  | closing (cause : CloseCause)
  /-- `CloseSession` of the channel. -/
  | closingChannel (cause : CloseCause) (session : UInt64) (pc : ChannelPc)
  | charging (cause : CloseCause) (session : UInt64)
  /-- `OpenSession` of the channel. -/
  | opening (byWatchdog : Bool) (pc : ChannelPc)
  /-- `Attach` to the session that the channel has opened. -/
  | attaching (byWatchdog : Bool) (session : UInt64)
  deriving DecidableEq, Repr

/-- The watchdog holds `lifecycleMutex_`. -/
def LifecyclePc.ofWatchdog : LifecyclePc → Bool
  | .closing cause | .closingChannel cause _ _ | .charging cause _ =>
    cause = .healthCheck || cause = .idle || cause = .execTimeout
  | .opening byWatchdog _ | .attaching byWatchdog _ => byWatchdog
  | .free => false

/-- The points of a death notice: `HandleRemoteDied` of the channel, then the death callback. -/
inductive NoticePc
  | none
  | inChannel (pc : ChannelPc)
  | observed (sessionId observedSessionId : UInt64)
  | inside
  | returned
  deriving DecidableEq, Repr

/-- The points of `MaybeRunHealthCheck`. -/
inductive WatchdogPc
  | idle
  | checking (observedSessionId : UInt64)
  | recovering (observedSessionId : UInt64)
  deriving DecidableEq, Repr

/-- The client with its channel. Session 0 is none. -/
structure RestartBudget where
  channel : ChannelState := { deathCallback := true }
  notice : ℕ → NoticePc := fun _ => .none
  /-- `snapshot_` of the client. -/
  current : UInt64 := 0
  cooldown : Bool := false
  lifecycle : LifecyclePc := .free
  watchdog : WatchdogPc := .idle
  engineDeathCount : UInt32 := 0
  /-- The sessions that were opened, in this order. -/
  sessions : List UInt64 := []
  /-- The remote that a session was opened on. -/
  remoteOf : UInt64 → ℕ := fun _ => 0
  /-- How many were opened since `Init` has returned. -/
  opened : ℕ := 0
  /-- Sessions that the client has given up. -/
  closed : List UInt64 := []
  /-- Sessions that the count was increased for. -/
  charged : List UInt64 := []

namespace RestartBudget

/-- `EngineDeathLimitReached`. -/
def limitReached (maxDeaths : UInt32) (s : RestartBudget) : Bool :=
  0 < maxDeaths && maxDeaths ≤ s.engineDeathCount

/-- The access policy of the channel refuses once the limit is reached. -/
def policy (maxDeaths : UInt32) (s : RestartBudget) (answers : ChannelAnswers) : ChannelAnswers :=
  let allowed := !s.limitReached maxDeaths
  { answers with
    allowed
    allowedBound := allowed
    refresh := { answers.refresh with allowed }
    refreshDead := { answers.refreshDead with allowed } }

/-- `CheckHealth` asks for recovery; `healthy` answers the heartbeat. -/
def unhealthy (maxDeaths : UInt32) (s : RestartBudget) (healthy : Bool) : Bool :=
  if s.limitReached maxDeaths then s.channel.sessionId ≠ 0
  else
    match s.channel.control with
    | none => s.channel.sessionId ≠ 0
    | some r => s.channel.dead r || !healthy

def setNotice (s : RestartBudget) (r : ℕ) (pc : NoticePc) : RestartBudget :=
  { s with notice := Function.update s.notice r pc }

/-- A step of a death notice. The callback loads the current session id when it is called. -/
def noticeStep (s : RestartBudget) (r : ℕ) : Option RestartBudget :=
  match s.notice r with
  | .inChannel (.reporting _ sessionId _ callback) =>
    some (s.setNotice r (if callback then .observed sessionId s.current else .returned))
  | .inChannel pc =>
    (s.channel.pcStep {} pc).map fun (channel, pc') =>
      { s.setNotice r (.inChannel pc') with channel }
  | .observed sessionId observed =>
    if s.lifecycle ≠ .free then none
    else if s.current ≠ observed ∨ observed = 0 ∨ sessionId ≠ 0 ∧ sessionId ≠ observed then
      some (s.setNotice r .returned)
    else some { s.setNotice r .inside with lifecycle := .closing (.engineDeath r) }
  | _ => none

/-- A remote has answered `OpenSession` with a session. -/
def noteOpened (s : RestartBudget) : ChannelPc → RestartBudget
  | .record control sessionId =>
    { s with
      sessions := s.sessions ++ [sessionId]
      remoteOf := Function.update s.remoteOf sessionId control
      opened := s.opened + 1 }
  | _ => s

/-- The remote that is asked for a session is dead, so it does not open one. -/
def asksDead (s : RestartBudget) : ChannelPc → Bool
  | .asking control _ => s.channel.dead control
  | _ => false

/-- What follows a step of `OpenSession` of the channel. -/
def afterOpen (byWatchdog : Bool) (session : UInt64) : ChannelPc → LifecyclePc
  | .returned .ok => .attaching byWatchdog session
  | .returned _ => .free
  | pc => .opening byWatchdog pc

/-- A step of `OpenSession` of the channel. -/
def openStep (s : RestartBudget) (byWatchdog : Bool) (answers : ChannelAnswers) (pc : ChannelPc) :
    Option RestartBudget :=
  if s.asksDead pc ∧ answers.status = .ok then none
  else
    (s.channel.pcStep answers pc).map fun (channel, pc') =>
      { s.noteOpened pc' with
        channel
        lifecycle := afterOpen byWatchdog channel.sessionId pc' }

/-- `PublishSessionIdLocked(0)`. -/
def unpublish (s : RestartBudget) (cause : CloseCause) : RestartBudget :=
  { s with
    current := 0
    closed := if s.current = 0 then s.closed else s.closed ++ [s.current]
    lifecycle := .closingChannel cause s.current .closeSession }

/-- What follows a step of `CloseSession` of the channel. -/
def afterClose (cause : CloseCause) (session : UInt64) : ChannelPc → LifecyclePc
  | .returned _ =>
    match cause with
    | .engineDeath r => .charging (.engineDeath r) session
    | .healthCheck => .opening true .openSession
    | .idle | .execTimeout | .transportFailure => .free
  | pc => .closingChannel cause session pc

/-- A step of `CloseSession` of the channel. -/
def closeStep (s : RestartBudget) (cause : CloseCause) (session : UInt64)
    (answers : ChannelAnswers) (pc : ChannelPc) : Option RestartBudget :=
  (s.channel.pcStep answers pc).map fun (channel, pc') =>
    { s with channel, lifecycle := afterClose cause session pc' }

/-- `ApplyRestartBudget` on the decision `Restart`, and what the client does about it. -/
def charge (maxDeaths : UInt32) (s : RestartBudget) (cause : CloseCause) (session : UInt64) :
    Option RestartBudget :=
  let restartCount := s.engineDeathCount + 1
  let ignored : Bool := 0 < maxDeaths && maxDeaths ≤ restartCount
  let t := { s with engineDeathCount := restartCount, charged := s.charged ++ [session] }
  match cause with
  | .engineDeath r =>
    some { t.setNotice r .returned with cooldown := !ignored, lifecycle := .free }
  | .execTimeout =>
    if ignored then some { t with lifecycle := .free }
    else some { t with cooldown := true, lifecycle := .closing .execTimeout }
  | _ => none

/-- A step of the thread that holds `lifecycleMutex_`; `attach` is the status of `Attach`. -/
def lifecycleStep (maxDeaths : UInt32) (s : RestartBudget) (answers : ChannelAnswers)
    (attach : StatusCode) : Option RestartBudget :=
  match s.lifecycle with
  | .free => none
  | .closing cause => some (s.unpublish cause)
  | .closingChannel cause session pc => s.closeStep cause session (s.policy maxDeaths answers) pc
  | .charging cause session => s.charge maxDeaths cause session
  | .opening byWatchdog pc => s.openStep byWatchdog (s.policy maxDeaths answers) pc
  | .attaching _ session =>
    if attach = .ok then
      some { s with current := session, cooldown := false, lifecycle := .free }
    else some { s with lifecycle := .free }

end RestartBudget

/-- The steps of the threads and of the environment. -/
inductive VesAction
  /-- The engine behind a remote dies. -/
  | die (r : ℕ)
  /-- The recipient is told. -/
  | notify (r : ℕ)
  | notice (r : ℕ)
  | healthLoad
  | healthCheck (healthy : Bool)
  | healthRecover
  | idleClose
  | execTimeout
  | pushFailed
  /-- `EnsureLiveSession` of the submit thread. -/
  | demand
  /-- The cooldown is over. -/
  | elapse
  | lifecycle (answers : ChannelAnswers) (attach : StatusCode)

/-- `Init` has returned: with session 1 on remote 0 in `EagerSession` mode, without one in
`LazySession` mode. -/
def afterInit (eager : Bool) : RestartBudget :=
  if eager then
    { channel := (ChannelState.rebindControl { deathCallback := true } (some 0)).recordSession 0 1
      current := 1
      sessions := [1] }
  else {}

/-- The client with `maxEngineDeathsBeforePermanentStop`. -/
def vesClient (maxDeaths : UInt32) (eager : Bool) : Machine RestartBudget VesAction where
  init := afterInit eager
  step s
    | .die r =>
      some { s with
        channel := { s.channel with dead := Function.update s.channel.dead r true } }
    | .notify r =>
      if s.channel.watched r && s.channel.dead r && s.notice r = .none then
        some (s.setNotice r (.inChannel (.remoteDied r)))
      else none
    | .notice r => s.noticeStep r
    | .healthLoad =>
      if s.watchdog ≠ .idle ∨ s.lifecycle.ofWatchdog ∨ s.current = 0 then none
      else some { s with watchdog := .checking s.current }
    | .healthCheck healthy =>
      match s.watchdog with
      | .checking observed =>
        some { s with
          watchdog :=
            if s.unhealthy maxDeaths healthy then .recovering observed else .idle }
      | _ => none
    | .healthRecover =>
      match s.watchdog with
      | .recovering observed =>
        if s.lifecycle ≠ .free then none
        else if s.current ≠ observed then some { s with watchdog := .idle }
        else
          some { s with
            watchdog := .idle
            cooldown := false
            lifecycle := .closing .healthCheck }
      | _ => none
    | .idleClose =>
      if s.watchdog ≠ .idle ∨ s.lifecycle ≠ .free ∨ s.current = 0 then none
      else some { s with lifecycle := .closing .idle }
    | .execTimeout =>
      if s.watchdog ≠ .idle ∨ s.lifecycle ≠ .free ∨ s.current = 0 then none
      else some { s with lifecycle := .charging .execTimeout s.current }
    | .pushFailed =>
      if s.lifecycle ≠ .free then none
      else some { s with lifecycle := .closing .transportFailure }
    | .demand =>
      if s.lifecycle ≠ .free then none
      else if s.cooldown ∨ s.current ≠ 0 then some s
      else some { s with lifecycle := .opening false .openSession }
    | .elapse => some { s with cooldown := false }
    | .lifecycle answers attach => s.lifecycleStep maxDeaths answers attach

/-! ## The runs of the channel -/

/-- Where thread 0 of the channel is, which holds `lifecycleMutex_`. -/
def LifecyclePc.At : LifecyclePc → ChannelPc → Prop
  | .closingChannel _ _ point, pc | .opening _ point, pc => pc = point
  | _, pc => ∃ status, pc = .returned status

/-- Where the thread of a death notice is. -/
def NoticePc.At : NoticePc → ChannelPc → Prop
  | .none, pc => ∃ status, pc = .returned status
  | .inChannel point, pc => pc = point
  | _, _ => True

/-- The channel is as in a run of `bootstrapChannel` whose thread `r + 1` brings the notice of
remote `r`. -/
def ChannelRun (channel : ChannelState) (lifecycle : LifecyclePc) (notice : ℕ → NoticePc) : Prop :=
  ∃ b, bootstrapChannel.Reach Machine.Always b ∧ b.state = channel ∧
    lifecycle.At (b.threads 0) ∧ ∀ r, (notice r).At (b.threads (r + 1))

namespace ChannelRun

variable {channel channel' : ChannelState} {lifecycle lifecycle' : LifecyclePc} {r : ℕ}
  {notice : ℕ → NoticePc} {npc : NoticePc} {pc pc' : ChannelPc} {answers : ChannelAnswers}

theorem at_update {threads : ℕ → ChannelPc} (hn : ∀ q, (notice q).At (threads (q + 1)))
    (hat : npc.At pc) (q : ℕ) :
    (Function.update notice r npc q).At (Function.update threads (r + 1) pc (q + 1)) := by
  by_cases hq : q = r
  · subst hq
    simpa using hat
  · simpa [hq] using hn q

variable (h : ChannelRun channel lifecycle notice)
include h

theorem call (hfree : ∀ pc, lifecycle.At pc → ∃ status, pc = .returned status)
    (call : ChannelCall) (hat : lifecycle'.At call.entry) :
    ChannelRun channel lifecycle' notice := by
  obtain ⟨b, hb, hstate, hl, hn⟩ := h
  obtain ⟨status, hpc⟩ := hfree _ hl
  refine ⟨b.goto 0 call.entry, hb.step (.call 0 call) trivial ?_, hstate, hat, hn⟩
  exact if_pos (by simp [BootstrapChannel.free, hpc])

theorem step (hpc : ∀ p, lifecycle.At p → p = pc)
    (hs : channel.pcStep answers pc = some (channel', pc')) (hat : lifecycle'.At pc') :
    ChannelRun channel' lifecycle' notice := by
  obtain ⟨b, hb, rfl, hl, hn⟩ := h
  rw [← hpc _ hl] at hs
  exact ⟨_, hb.step (.step 0 answers) trivial (congrArg (Option.map _) hs), rfl, hat, hn⟩

theorem die : ChannelRun { channel with dead := Function.update channel.dead r true } lifecycle
    notice := by
  obtain ⟨b, hb, rfl, hl, hn⟩ := h
  exact ⟨_, hb.step (.die r) trivial rfl, rfl, hl, hn⟩

theorem setNotice (hat : ∀ pc, npc.At pc) :
    ChannelRun channel lifecycle (Function.update notice r npc) := by
  obtain ⟨b, hb, hstate, hl, hn⟩ := h
  refine ⟨b, hb, hstate, hl, fun q => ?_⟩
  simpa using at_update (r := r) hn (hat (b.threads (r + 1))) q

theorem notify (hnone : notice r = .none) (hdead : (channel.watched r && channel.dead r) = true) :
    ChannelRun channel lifecycle (Function.update notice r (.inChannel (.remoteDied r))) := by
  obtain ⟨b, hb, rfl, hl, hn⟩ := h
  obtain ⟨status, hpc⟩ : NoticePc.none.At (b.threads (r + 1)) := hnone ▸ hn r
  refine ⟨b.goto (r + 1) (.remoteDied r), hb.step (.notify (r + 1) r) trivial ?_, rfl, hl,
    at_update hn rfl⟩
  exact if_pos (by simpa [BootstrapChannel.free, hpc] using hdead)

theorem noticeStep (hpc : notice r = .inChannel pc)
    (hs : channel.pcStep answers pc = some (channel', pc')) (hat : npc.At pc') :
    ChannelRun channel' lifecycle (Function.update notice r npc) := by
  obtain ⟨b, hb, rfl, hl, hn⟩ := h
  obtain rfl : (NoticePc.inChannel pc).At (b.threads (r + 1)) := hpc ▸ hn r
  exact ⟨_, hb.step (.step (r + 1) answers) trivial (congrArg (Option.map _) hs), rfl, hl,
    at_update hn hat⟩

end ChannelRun

namespace RestartBudget

variable {maxDeaths : UInt32} {s s' : RestartBudget} {answers : ChannelAnswers} {pc : ChannelPc}

/-- The channel of the client runs as `bootstrapChannel`. -/
def RunsChannel (s : RestartBudget) : Prop := ChannelRun s.channel s.lifecycle s.notice

theorem runsChannel_afterInit (eager : Bool) : (afterInit eager).RunsChannel := by
  cases eager with
  | false =>
    exact ⟨_, .step (.setEngineDeathCallback true) .init trivial rfl, rfl, ⟨_, rfl⟩,
      fun _ => ⟨_, rfl⟩⟩
  | true =>
    exact ⟨_, Machine.reach_of_run (M := bootstrapChannel)
      [.setEngineDeathCallback true, .call 0 .openSession, .step 0 {},
        .step 0 { refresh := { loaded := some 0 } }, .step 0 {}, .step 0 { sessionId := 1 },
        .step 0 {}] rfl, rfl, ⟨_, rfl⟩, fun _ => ⟨_, rfl⟩⟩

namespace RunsChannel

variable (h : s.RunsChannel)
include h

theorem of_free (hfree : s.lifecycle = .free) : ChannelRun s.channel .free s.notice :=
  hfree ▸ h

theorem closeStep {cause : CloseCause} {session : UInt64}
    (hpc : s.lifecycle = .closingChannel cause session pc)
    (hs : s.closeStep cause session answers pc = some s') : s'.RunsChannel := by
  obtain ⟨⟨channel, pc'⟩, hstep, rfl⟩ := Option.map_eq_some_iff.mp hs
  rw [RunsChannel, hpc] at h
  cases pc' with
  | returned status =>
    have h' : ChannelRun channel .free s.notice := h.step (fun _ => id) hstep ⟨status, rfl⟩
    cases cause with
    | healthCheck => exact h'.call (fun _ => id) .openSession rfl
    | _ => exact h'
  | _ => exact h.step (fun _ => id) hstep rfl

theorem openStep {byWatchdog : Bool} (hpc : s.lifecycle = .opening byWatchdog pc)
    (hs : s.openStep byWatchdog answers pc = some s') : s'.RunsChannel := by
  unfold RestartBudget.openStep at hs
  split at hs
  · cases hs
  obtain ⟨⟨channel, pc'⟩, hstep, rfl⟩ := Option.map_eq_some_iff.mp hs
  rw [RunsChannel, hpc] at h
  cases pc' with
  | returned status => exact h.step (fun _ => id) hstep (by cases status <;> exact ⟨_, rfl⟩)
  | _ => exact h.step (fun _ => id) hstep rfl

theorem charge {cause : CloseCause} {session : UInt64} (hpc : s.lifecycle = .charging cause session)
    (hs : s.charge maxDeaths cause session = some s') : s'.RunsChannel := by
  rw [RunsChannel, hpc] at h
  have h' : ChannelRun s.channel .free s.notice := h
  unfold RestartBudget.charge at hs
  dsimp only at hs
  split at hs
  · cases hs
    exact h'.setNotice fun _ => trivial
  · split at hs <;> cases hs <;> exact h'
  · cases hs

theorem lifecycleStep {attach : StatusCode}
    (hs : s.lifecycleStep maxDeaths answers attach = some s') : s'.RunsChannel := by
  unfold RestartBudget.lifecycleStep at hs
  split at hs
  all_goals rename_i hpc
  · cases hs
  · cases hs
    rw [RunsChannel, hpc] at h
    exact h.call (fun _ => id) .closeSession rfl
  · exact h.closeStep hpc hs
  · exact h.charge hpc hs
  · exact h.openStep hpc hs
  · rw [RunsChannel, hpc] at h
    split at hs <;> cases hs <;> exact h

theorem noticeStep {r : ℕ} (hs : s.noticeStep r = some s') : s'.RunsChannel := by
  unfold RestartBudget.noticeStep at hs
  split at hs
  · rename_i callback hpc
    cases hs
    refine ChannelRun.noticeStep h hpc (show s.channel.pcStep {} _ = _ from rfl) ?_
    cases callback <;> trivial
  · rename_i hpc
    obtain ⟨⟨channel, pc'⟩, hstep, rfl⟩ := Option.map_eq_some_iff.mp hs
    exact ChannelRun.noticeStep h hpc hstep rfl
  · split at hs
    · cases hs
    rename_i hfree
    split at hs <;> cases hs
    · exact ChannelRun.setNotice h fun _ => trivial
    · exact ChannelRun.setNotice (h.of_free (not_not.mp hfree)) fun _ => trivial
  · cases hs

theorem step {eager : Bool} {a : VesAction} (hs : (vesClient maxDeaths eager).step s a = some s') :
    s'.RunsChannel := by
  cases a with
  | die r =>
    cases hs
    exact ChannelRun.die h
  | notify r =>
    simp only [vesClient] at hs
    split at hs <;> cases hs
    next hr =>
      simp only [Bool.and_eq_true, decide_eq_true_eq] at hr
      exact ChannelRun.notify h hr.2 (Bool.and_eq_true_iff.mpr hr.1)
  | notice r => exact h.noticeStep hs
  | lifecycle answers attach => exact h.lifecycleStep hs
  | elapse =>
    cases hs
    exact h
  | healthLoad | healthCheck healthy =>
    simp only [vesClient] at hs
    split at hs <;> cases hs
    exact h
  | healthRecover =>
    simp only [vesClient] at hs
    split at hs
    · split at hs
      · cases hs
      rename_i hfree
      split at hs <;> cases hs
      · exact h
      · exact h.of_free (not_not.mp hfree)
    · cases hs
  | idleClose | execTimeout =>
    simp only [vesClient] at hs
    split at hs <;> cases hs
    next hfree => exact h.of_free (not_not.mp (not_or.mp (not_or.mp hfree).2).1)
  | pushFailed =>
    simp only [vesClient] at hs
    split at hs <;> cases hs
    next hfree => exact h.of_free (not_not.mp hfree)
  | demand =>
    simp only [vesClient] at hs
    split at hs
    · cases hs
    rename_i hfree
    split at hs <;> cases hs
    · exact h
    · exact (h.of_free (not_not.mp hfree)).call (fun _ => id) .openSession rfl

end RunsChannel

/-- The channel of the client runs as `bootstrapChannel`. -/
theorem runsChannel_of_reach {eager : Bool}
    (h : (vesClient maxDeaths eager).Reach Machine.Always s) : s.RunsChannel :=
  h.invariant (runsChannel_afterInit eager) fun _ _ _ h _ hs => h.step hs

end RestartBudget

/-! ## The property and its condition -/

/-- Outside of `lifecycleMutex_` every session that the client has given up, and every
session whose death notice has returned, was charged exactly once. Only deaths are charged,
and no more than `maxDeaths` sessions were opened. -/
structure EachDeathCharged (maxDeaths : UInt32) (s : RestartBudget) : Prop where
  closed_once : s.lifecycle = .free → ∀ session ∈ s.closed, s.charged.count session = 1
  returned_once : s.lifecycle = .free → ∀ session ∈ s.sessions,
    s.notice (s.remoteOf session) = .returned → s.charged.count session = 1
  charged_dead : ∀ session ∈ s.charged, s.channel.dead (s.remoteOf session) = true
  count : s.engineDeathCount.toNat = s.charged.length
  opened : s.opened ≤ maxDeaths.toNat

/-- Sessions are given up by their death notice only: `HandleRemoteDied` finds the remote
bound with its session published, and no health check, idle policy, timeout or failed push
closes a session. A remote opens a session with a new id, and the client attaches to it. -/
def GivenUpByNotice (s : RestartBudget) : VesAction → Prop
  | .notice r => s.notice r = .inChannel (.remoteDied r) →
      s.channel.control = some r ∧ s.current ≠ 0 ∧ s.channel.sessionId = s.current
  | .healthRecover => s.watchdog ≠ .recovering s.current
  | .idleClose | .execTimeout => False
  | .pushFailed => s.current = 0
  | .lifecycle answers attach =>
    match s.lifecycle with
    | .opening _ (.asking _ _) =>
      answers.status = .ok → answers.sessionId ≠ 0 ∧ answers.sessionId ∉ s.sessions
    | .attaching _ _ => attach = .ok
    | _ => True
  | _ => True

instance (s : RestartBudget) (a : VesAction) : Decidable (GivenUpByNotice s a) := by
  unfold GivenUpByNotice
  split
  all_goals try split
  all_goals infer_instance

/-! ## The channel -/

/-- A control is bound, or was already; the recorded session stays. -/
structure ChannelState.Binds (s s' : ChannelState) (control : Option ℕ) : Prop where
  dead : s'.dead = s.dead
  deathCallback : s'.deathCallback = s.deathCallback
  sessionId : s'.sessionId = s.sessionId
  control : ∀ c ∈ control, s'.control = some c

variable {status : StatusCode}

namespace ChannelState

variable {s : ChannelState} {answers : ChannelAnswers}

theorem binds_refreshControl (s : ChannelState) (load : LoadAnswers) :
    s.Binds (s.refreshControl load).2 (s.refreshControl load).1 := by
  unfold refreshControl
  split
  · exact ⟨rfl, rfl, rfl, nofun⟩
  · split
    · exact ⟨rfl, rfl, rfl, nofun⟩
    · split
      · exact ⟨rfl, rfl, rfl, fun c hc => hc⟩
      · exact ⟨rfl, rfl, rfl, nofun⟩

theorem binds_ensureControlBound (hallowed : answers.allowedBound = true) :
    s.Binds (s.ensureControlBound answers).2 (s.ensureControlBound answers).1 := by
  unfold ensureControlBound
  rw [if_neg (by simp [hallowed])]
  split
  · rename_i hcontrol
    exact ⟨rfl, rfl, rfl, fun c hc => hcontrol.trans hc⟩
  · exact s.binds_refreshControl _

theorem binds_loadOpenSessionControl (hallowed : answers.allowedBound = true) :
    s.Binds (s.loadOpenSessionControl answers).2 (s.loadOpenSessionControl answers).1.1 := by
  have hbound := s.binds_ensureControlBound hallowed
  unfold loadOpenSessionControl
  dsimp only
  split
  · have hagain := (s.ensureControlBound answers).2.binds_refreshControl answers.refreshDead
    exact ⟨hagain.dead.trans hbound.dead, hagain.deathCallback.trans hbound.deathCallback,
      hagain.sessionId.trans hbound.sessionId, hagain.control⟩
  · exact hbound

/-- `LoadOpenSessionControl` goes on with the control that it has bound. -/
theorem pcStep_load {s' : ChannelState} {pc' : ChannelPc} (hallowed : answers.allowedBound = true)
    (hs : s.pcStep answers .load = some (s', pc')) :
    (∃ dead, pc' = .unavailable dead ∧ s.Binds s' none) ∨
      ∃ control dead, pc' = .loaded control dead ∧ s.Binds s' (some control) := by
  have hbound := s.binds_loadOpenSessionControl hallowed
  simp only [pcStep] at hs
  generalize s.loadOpenSessionControl answers = load at hs hbound
  obtain ⟨⟨control | control, dead⟩, channel⟩ := load <;> cases hs
  · exact .inl ⟨dead, rfl, hbound⟩
  · exact .inr ⟨control, dead, rfl, hbound⟩

/-- So does `RetryOpenSessionAfterRefresh`. -/
theorem pcStep_retry {s' : ChannelState} {pc' : ChannelPc}
    (hs : s.pcStep answers (.retry status) = some (s', pc')) :
    pc' = .retryUnavailable status ∧ s.Binds s' none ∨
      ∃ control, pc' = .asking control true ∧ s.Binds s' (some control) := by
  have hbound := s.binds_refreshControl answers.refresh
  simp only [pcStep] at hs
  generalize s.refreshControl answers.refresh = load at hs hbound
  obtain ⟨control | control, channel⟩ := load <;> cases hs
  · exact .inl ⟨rfl, hbound⟩
  · exact .inr ⟨control, rfl, hbound⟩

end ChannelState

namespace RestartBudget

/-! ## The invariant -/

/-- A notice between `HandleRemoteDied` and the lifecycle mutex is about the current
session. -/
def NoticeOk (s : RestartBudget) (r : ℕ) : NoticePc → Prop
  | .none | .inside | .returned => True
  | .inChannel (.remoteDied remote) => remote = r
  | .inChannel (.reporting _ sessionId _ callback) =>
    callback = true ∧ sessionId = s.current ∧ s.current ≠ 0 ∧ s.remoteOf s.current = r
  | .inChannel _ => False
  | .observed sessionId observed =>
    sessionId = s.current ∧ observed = s.current ∧ s.current ≠ 0 ∧ s.remoteOf s.current = r

/-- The client has no session. All that were opened were given up, up to those in `open'`. -/
def NoneOpen (s : RestartBudget) (open' : List UInt64) : Prop :=
  s.current = 0 ∧ s.charged = s.closed ∧ s.sessions = s.closed ++ open'

/-- Everything that was given up is charged, and all sessions but the current one were given
up. -/
def Settled (s : RestartBudget) : Prop :=
  s.charged = s.closed ∧ s.channel.sessionId = s.current ∧
    s.sessions = s.closed ++ if s.current = 0 then [] else [s.current]

/-- The notice of remote `r` has given up a session that is not charged yet. -/
def Owed (s : RestartBudget) (r : ℕ) (session : UInt64) : Prop :=
  s.notice r = .inside ∧ s.current = 0 ∧ s.sessions = s.closed ∧ s.closed = s.charged ++ [session]

/-- While a session is opened there is no other, and the count stays below the limit. -/
def OpenOk (maxDeaths : UInt32) (s : RestartBudget) : ChannelPc → Prop
  | .openSession => s.NoneOpen []
  | .load | .unavailable _ => s.NoneOpen [] ∧ s.engineDeathCount < maxDeaths
  | .retry status | .retryUnavailable status =>
    s.NoneOpen [] ∧ s.engineDeathCount < maxDeaths ∧ status ≠ .ok
  | .loaded control _ | .asking control _ =>
    s.NoneOpen [] ∧ s.engineDeathCount < maxDeaths ∧ s.channel.control = some control
  | .record control session =>
    s.NoneOpen [session] ∧ s.remoteOf session = control ∧ s.channel.control = some control
  | _ => False

/-- The channel closes its session. -/
def CloseOk (s : RestartBudget) : ChannelPc → Prop
  | .closeSession | .closeDenied | .closeBound => True
  | .closeRemote _ => s.channel.sessionId = 0
  | _ => False

/-- What holds at each point inside the mutex; only a death notice closes a session. -/
def LifecycleOk (maxDeaths : UInt32) (s : RestartBudget) : LifecyclePc → Prop
  | .free => s.Settled
  | .closing (.engineDeath r) =>
    s.Settled ∧ s.notice r = .inside ∧ s.current ≠ 0 ∧ s.remoteOf s.current = r
  | .closing .transportFailure => s.Settled ∧ s.current = 0
  | .closingChannel (.engineDeath r) session pc => s.Owed r session ∧ s.CloseOk pc
  | .closingChannel .transportFailure _ pc => s.NoneOpen [] ∧ s.CloseOk pc
  | .charging (.engineDeath r) session => s.Owed r session ∧ s.channel.sessionId = 0
  | .opening _ pc => s.OpenOk maxDeaths pc ∧ s.channel.sessionId = 0
  | .attaching _ session => s.NoneOpen [session] ∧ s.channel.sessionId = session
  | _ => False

/-- The invariant of runs in which sessions are given up by their notice. -/
structure Inv (maxDeaths : UInt32) (s : RestartBudget) : Prop where
  lifecycle : s.LifecycleOk maxDeaths s.lifecycle
  notices : ∀ r, s.NoticeOk r (s.notice r)
  noticed_dead : ∀ r, s.notice r ≠ .none → s.channel.dead r = true
  callback : s.channel.deathCallback = true
  remote : ∀ c, s.channel.control = some c → s.channel.sessionId ≠ 0 →
    s.remoteOf s.channel.sessionId = c
  count : s.engineDeathCount.toNat = s.charged.length
  nodup : s.sessions.Nodup
  nonzero : 0 ∉ s.sessions
  bound : s.sessions.length ≤ maxDeaths.toNat
  opened : s.opened ≤ s.sessions.length
  charged_prefix : s.charged <+: s.closed
  closed_prefix : s.closed <+: s.sessions
  closed_dead : ∀ session ∈ s.closed, s.channel.dead (s.remoteOf session) = true
  returned : ∀ session ∈ s.sessions,
    s.notice (s.remoteOf session) = .returned → session ∈ s.charged

variable {maxDeaths : UInt32} {s s' : RestartBudget}

theorem Inv.eachDeathCharged (H : s.Inv maxDeaths) : EachDeathCharged maxDeaths s := by
  have honce : ∀ session ∈ s.charged, s.charged.count session = 1 := by
    intro session hmem
    have hnodup := H.nodup.sublist (H.charged_prefix.trans H.closed_prefix).sublist
    exact List.count_eq_one_of_mem hnodup hmem
  constructor
  · intro hfree session hmem
    have hsettled : s.LifecycleOk maxDeaths .free := hfree ▸ H.lifecycle
    exact honce session (hsettled.1 ▸ hmem)
  · intro _ session hmem hreturned
    exact honce session (H.returned session hmem hreturned)
  · intro session hmem
    exact H.closed_dead session (H.charged_prefix.subset hmem)
  · exact H.count
  · exact H.opened.trans H.bound

theorem Inv.afterInit (hpos : 0 < maxDeaths) (eager : Bool) :
    (afterInit eager).Inv maxDeaths := by
  have hone : 0 < maxDeaths.toNat := UInt32.lt_iff_toNat_lt.mp hpos
  cases eager with
  | true =>
    refine ⟨⟨rfl, rfl, rfl⟩, fun _ => trivial, nofun, rfl, ?_, rfl, by decide, by decide, hone,
      Nat.zero_le _, List.prefix_rfl, List.nil_prefix, nofun, nofun⟩
    exact fun c hc _ => Option.some.inj hc
  | false =>
    exact ⟨⟨rfl, rfl, rfl⟩, fun _ => trivial, nofun, rfl, nofun, rfl, List.nodup_nil, nofun,
      Nat.zero_le _, Nat.zero_le _, List.prefix_rfl, List.prefix_rfl, nofun, nofun⟩

/-! ## The steps -/

variable {channel : ChannelState} {r : ℕ}

/-- A notice of a dead remote moves on; it does not return here. -/
theorem Inv.setNotice (H : s.Inv maxDeaths) {pc : NoticePc}
    {lifecycle : LifecyclePc} (hdead : s.channel.dead r = true) (hpc : pc ≠ .returned)
    (hok : s.NoticeOk r pc)
    (hchannel : channel = s.channel ∨ channel = s.channel.rebindControl none)
    (hlifecycle : ({ s.setNotice r pc with channel, lifecycle } :
      RestartBudget).LifecycleOk maxDeaths lifecycle) :
    ({ s.setNotice r pc with channel, lifecycle } : RestartBudget).Inv maxDeaths := by
  have hsame : channel.dead = s.channel.dead ∧ channel.deathCallback = s.channel.deathCallback ∧
      ∀ c, channel.control = some c → channel = s.channel := by
    rcases hchannel with rfl | rfl
    · exact ⟨rfl, rfl, fun _ _ => rfl⟩
    · exact ⟨rfl, rfl, nofun⟩
  have hnotice : ∀ q, (s.setNotice r pc).notice q = if q = r then pc else s.notice q := by
    intro q
    exact Function.update_apply ..
  refine { H with
    lifecycle := hlifecycle, notices := fun q => ?_, noticed_dead := fun q hq => ?_
    callback := hsame.2.1.trans H.callback, remote := fun c hc => ?_
    closed_dead := fun session hmem => ?_, returned := fun session hmem hreturned => ?_ }
  · rw [hnotice]
    split
    · rename_i hq
      exact hq ▸ hok
    · exact H.notices q
  · rw [hsame.1]
    rw [hnotice] at hq
    split at hq
    · rename_i hqr
      exact hqr ▸ hdead
    · exact H.noticed_dead q hq
  · obtain rfl := hsame.2.2 c hc
    exact H.remote c hc
  · rw [hsame.1]
    exact H.closed_dead session hmem
  · rw [hnotice] at hreturned
    split at hreturned
    · exact absurd hreturned hpc
    · exact H.returned session hmem hreturned

/-- The mutex is held for no other notice than the one inside. -/
theorem LifecycleOk.notified {pc : LifecyclePc} (h : s.LifecycleOk maxDeaths pc)
    (hinside : s.notice r ≠ .inside) {npc : NoticePc} :
    (s.setNotice r npc).LifecycleOk maxDeaths pc := by
  have hkept : ∀ {q}, s.notice q = .inside → (s.setNotice r npc).notice q = .inside := by
    intro q hq
    refine (Function.update_of_ne ?_ _ _).trans hq
    rintro rfl
    exact hinside hq
  unfold LifecycleOk at h ⊢
  split at h
  case h_2 => exact ⟨h.1, hkept h.2.1, h.2.2⟩
  case h_4 => exact ⟨⟨hkept h.1.1, h.1.2⟩, h.2⟩
  case h_6 => exact ⟨⟨hkept h.1.1, h.1.2⟩, h.2⟩
  all_goals exact h

/-- A notice about the current session that is not inside yet finds the mutex free. -/
theorem Inv.settled_of_current (H : s.Inv maxDeaths) (hcurrent : s.current ≠ 0)
    (hinside : s.notice (s.remoteOf s.current) ≠ .inside) : s.lifecycle = .free ∧ s.Settled := by
  have h := H.lifecycle
  unfold LifecycleOk at h
  split at h
  case h_1 hpc => exact ⟨hpc, h⟩
  case h_2 r hpc => exact absurd (h.2.2.2 ▸ h.2.1) hinside
  case h_7 =>
    unfold OpenOk NoneOpen at h
    split at h <;> simp_all
  case h_9 => exact h.elim
  all_goals simp_all [Owed, NoneOpen]

/-- A step of a death notice. -/
theorem Inv.noticeStep (H : s.Inv maxDeaths) (hok : GivenUpByNotice s (.notice r))
    (hs : s.noticeStep r = some s') : s'.Inv maxDeaths := by
  have hnotice := H.notices r
  have hdead : s.notice r ≠ .none → s.channel.dead r = true := H.noticed_dead r
  unfold RestartBudget.noticeStep at hs
  split at hs
  · -- the callback loads the current session id
    rename_i remote sessionId through callback hpc
    rw [hpc] at hnotice hdead
    obtain ⟨rfl, rfl, hcurrent, rfl⟩ := hnotice
    cases hs
    exact H.setNotice (hdead nofun) nofun ⟨rfl, rfl, hcurrent, rfl⟩ (.inl rfl)
      (H.lifecycle.notified (by simp [hpc]))
  · rename_i pc hnot hpc
    rw [hpc] at hnotice hdead
    obtain ⟨⟨channel, pc'⟩, hstep, rfl⟩ := Option.map_eq_some_iff.mp hs
    cases pc with
    | remoteDied remote =>
      obtain rfl : remote = r := hnotice
      obtain ⟨hcontrol, hcurrent, hsession⟩ := hok hpc
      have hremote := H.remote remote hcontrol (hsession ▸ hcurrent)
      rw [hsession] at hremote
      obtain ⟨hfree, hsettled⟩ := H.settled_of_current hcurrent (by simp [hremote, hpc])
      cases hstep
      refine H.setNotice (hdead nofun) nofun ⟨H.callback, hsession, hcurrent, hremote⟩
        (.inr rfl) ?_
      dsimp only [RestartBudget.setNotice]
      rw [hfree]
      exact hsettled
    | reporting => exact (hnot _ _ _ _ rfl).elim
    | _ => exact hnotice.elim
  · rename_i sessionId observed hpc
    rw [hpc] at hnotice hdead
    obtain ⟨rfl, rfl, hcurrent, rfl⟩ := hnotice
    obtain ⟨hfree, hsettled⟩ := H.settled_of_current hcurrent (by simp [hpc])
    have hfollow : ¬ (s.current ≠ s.current ∨ s.current = 0 ∨
        s.current ≠ 0 ∧ s.current ≠ s.current) := by simp [hcurrent]
    rw [if_neg (not_not.mpr hfree), if_neg hfollow] at hs
    cases hs
    exact H.setNotice (hdead nofun) nofun trivial (.inl rfl)
      ⟨hsettled, Function.update_self .., hcurrent, rfl⟩
  · cases hs

/-- Without a session no notice is past `HandleRemoteDied`. -/
theorem Inv.noticeOk_of_none (H : s.Inv maxDeaths) (hcurrent : s.current = 0) (q : ℕ) :
    s'.NoticeOk q (s.notice q) := by
  have h := H.notices q
  unfold NoticeOk at h ⊢
  split at h <;> simp_all

/-- Opening a session that fails leaves the state settled. -/
theorem NoneOpen.settled (h : s.NoneOpen []) (hzero : s.channel.sessionId = 0) : s.Settled :=
  ⟨h.2.1, hzero.trans h.1.symm, by rw [if_pos h.1]; exact h.2.2⟩

/-- `OpenSession` of the channel binds a control. -/
theorem Inv.binds (H : s.Inv maxDeaths) {control : Option ℕ}
    (hbinds : s.channel.Binds channel control) (hzero : s.channel.sessionId = 0) {pc : LifecyclePc}
    (hpc : ({ s with channel } : RestartBudget).LifecycleOk maxDeaths pc) :
    ({ s with channel, lifecycle := pc } : RestartBudget).Inv maxDeaths :=
  { H with
    lifecycle := hpc
    noticed_dead := hbinds.dead ▸ H.noticed_dead
    callback := hbinds.deathCallback.trans H.callback
    remote := fun _ _ hne => absurd (hbinds.sessionId.trans hzero) hne
    closed_dead := hbinds.dead ▸ H.closed_dead }

variable {byWatchdog : Bool} {session : UInt64}

/-- A remote `OpenSession` that succeeds: one session more, and still within the limit. -/
theorem Inv.opens (H : s.Inv maxDeaths) (halive : s.channel.dead r ≠ true) (hnone : s.NoneOpen [])
    (hcount : s.engineDeathCount < maxDeaths) (hcontrol : s.channel.control = some r)
    (hzero : s.channel.sessionId = 0) (hne : session ≠ 0) (hnew : session ∉ s.sessions) :
    ({ s.noteOpened (.record r session) with
      lifecycle := .opening byWatchdog (.record r session) } : RestartBudget).Inv maxDeaths := by
  obtain ⟨hcurrent, hcharged, hsessions⟩ := hnone
  rw [List.append_nil] at hsessions
  have hold : ∀ q ∈ s.sessions, Function.update s.remoteOf session r q = s.remoteOf q := by
    intro q hq
    refine Function.update_of_ne ?_ _ _
    rintro rfl
    exact hnew hq
  refine { H with
    lifecycle := ⟨⟨⟨hcurrent, hcharged, congrArg (· ++ [session]) hsessions⟩,
      Function.update_self .., hcontrol⟩, hzero⟩
    notices := H.noticeOk_of_none hcurrent, remote := fun _ _ h => absurd hzero h
    nodup := ?_, nonzero := ?_, bound := ?_, opened := ?_
    closed_prefix := H.closed_prefix.trans (List.prefix_append ..)
    closed_dead := fun q hq => ?_, returned := fun q hq hreturned => ?_ }
  · have hapart : ∀ q ∈ s.sessions, q ≠ session := by
      rintro q hq rfl
      exact hnew hq
    simpa [noteOpened, List.nodup_append, H.nodup] using hapart
  · simpa [noteOpened, H.nonzero] using hne.symm
  · -- everything opened before was charged, and the count is below the limit
    have hlt := UInt32.lt_iff_toNat_lt.mp hcount
    rw [H.count, hcharged, ← hsessions] at hlt
    simpa [noteOpened] using hlt
  · simpa [noteOpened] using H.opened
  · simp only [noteOpened, hold q (H.closed_prefix.subset hq)]
    exact H.closed_dead q hq
  · simp only [noteOpened] at hreturned hq
    rcases List.mem_append.mp hq with hq | hq
    · rw [hold q hq] at hreturned
      exact H.returned q hq hreturned
    · -- the remote is alive, so its notice has not even started
      obtain rfl := List.mem_singleton.mp hq
      rw [Function.update_self] at hreturned
      exact absurd (H.noticed_dead r (by simp [hreturned])) halive

theorem afterOpen_failed (h : status ≠ .ok) :
    afterOpen byWatchdog session (.returned status) = .free := by
  cases status <;> first | rfl | exact absurd rfl h

/-- `OpenSession` of the channel returns without a session. -/
theorem Inv.openFails (H : s.Inv maxDeaths)
    (hne : status ≠ .ok) (hnone : s.NoneOpen []) (hzero : s.channel.sessionId = 0) :
    ({ s with lifecycle := afterOpen byWatchdog s.channel.sessionId (.returned status) } :
      RestartBudget).Inv maxDeaths := by
  rw [afterOpen_failed hne]
  exact { H with lifecycle := hnone.settled hzero }

variable {answers : ChannelAnswers}

/-- A step of `OpenSession` of the channel. -/
theorem Inv.openStep (H : s.Inv maxDeaths) (hpos : 0 < maxDeaths)
    {pc : ChannelPc} {attach : StatusCode} (hlifecycle : s.lifecycle = .opening byWatchdog pc)
    (hok : GivenUpByNotice s (.lifecycle answers attach))
    (hs : s.openStep byWatchdog (s.policy maxDeaths answers) pc = some s') :
    s'.Inv maxDeaths := by
  have h := H.lifecycle
  rw [hlifecycle] at h
  obtain ⟨hopen, hzero⟩ := h
  unfold RestartBudget.openStep at hs
  rw [Option.ite_none_left_eq_some] at hs
  obtain ⟨hasks, hs⟩ := hs
  obtain ⟨⟨channel, pc'⟩, hstep, rfl⟩ := Option.map_eq_some_iff.mp hs
  cases pc with
  | openSession =>
    cases hstep
    cases hlimit : s.limitReached maxDeaths with
    | true =>
      simp only [policy, hlimit]
      exact { H with lifecycle := hopen.settled hzero }
    | false =>
      have hcount : s.engineDeathCount < maxDeaths := by simpa [limitReached, hpos] using hlimit
      simp only [policy, hlimit]
      exact { H with lifecycle := ⟨⟨hopen, hcount⟩, hzero⟩ }
  | load =>
    have hallowed : (s.policy maxDeaths answers).allowedBound = true := by
      simp [policy, limitReached, hopen.2]
    obtain ⟨dead, rfl, hbinds⟩ | ⟨control, dead, rfl, hbinds⟩ :=
      ChannelState.pcStep_load hallowed hstep
    · exact H.binds hbinds hzero ⟨hopen, hbinds.sessionId.trans hzero⟩
    · exact H.binds hbinds hzero
        ⟨⟨hopen.1, hopen.2, hbinds.control _ rfl⟩, hbinds.sessionId.trans hzero⟩
  | unavailable deadBeforeOpen =>
    cases hstep
    refine H.openFails ?_ hopen.1 hzero
    split <;> [nofun; split <;> nofun]
  | loaded control deadBeforeOpen =>
    simp only [ChannelState.pcStep] at hstep
    split at hstep
    · cases hstep
      exact H.openFails nofun hopen.1 hzero
    · cases hstep
      exact { H with lifecycle := ⟨hopen, hzero⟩ }
  | asking control retrying =>
    simp only [GivenUpByNotice, hlifecycle] at hok
    have hstatus : (s.policy maxDeaths answers).status = answers.status := rfl
    simp only [ChannelState.pcStep, hstatus] at hstep
    by_cases hopens : answers.status = .ok
    · have halive : s.channel.dead control ≠ true := fun h => hasks ⟨h, hopens⟩
      rw [if_pos hopens] at hstep
      cases hstep
      exact H.opens halive hopen.1 hopen.2.1 hopen.2.2 hzero (hok hopens).1 (hok hopens).2
    · rw [if_neg hopens] at hstep
      split at hstep
      · cases hstep
        exact { H with lifecycle := ⟨⟨hopen.1, hopen.2.1, hopens⟩, hzero⟩ }
      · cases hstep
        exact H.openFails hopens hopen.1 hzero
  | record control session =>
    cases hstep
    refine { H with lifecycle := ⟨hopen.1, rfl⟩, remote := fun c hc _ => ?_ }
    exact hopen.2.1.trans (Option.some.inj (hopen.2.2.symm.trans hc))
  | retry status =>
    obtain ⟨rfl, hbinds⟩ | ⟨control, rfl, hbinds⟩ := ChannelState.pcStep_retry hstep
    · exact H.binds hbinds hzero ⟨hopen, hbinds.sessionId.trans hzero⟩
    · exact H.binds hbinds hzero
        ⟨⟨hopen.1, hopen.2.1, hbinds.control _ rfl⟩, hbinds.sessionId.trans hzero⟩
  | retryUnavailable status =>
    cases hstep
    refine H.openFails ?_ hopen.1 hzero
    split <;> [nofun; exact hopen.2.2]
  | _ => exact hopen.elim

/-- The death notice takes the session from the client; it is to be charged now. -/
theorem Inv.unpublish_engineDeath (H : s.Inv maxDeaths)
    (hlifecycle : s.lifecycle = .closing (.engineDeath r)) :
    (s.unpublish (.engineDeath r)).Inv maxDeaths := by
  have h := H.lifecycle
  rw [hlifecycle] at h
  obtain ⟨⟨hcharged, hchannel, hsessions⟩, hinside, hcurrent, rfl⟩ := h
  rw [if_neg hcurrent] at hsessions
  simp only [unpublish, if_neg hcurrent]
  refine { H with
    lifecycle := ⟨⟨hinside, rfl, hsessions, congrArg (· ++ [s.current]) hcharged.symm⟩, trivial⟩
    notices := fun q => ?_, charged_prefix := H.charged_prefix.trans (List.prefix_append ..)
    closed_prefix := hsessions ▸ List.prefix_rfl, closed_dead := fun session hmem => ?_ }
  · -- another notice about this session would be this one
    have h := H.notices q
    unfold NoticeOk at h ⊢
    split at h <;> simp_all
  · rcases List.mem_append.mp hmem with hmem | hmem
    · exact H.closed_dead session hmem
    · obtain rfl := List.mem_singleton.mp hmem
      exact H.noticed_dead _ (by simp [hinside])

/-- The death is charged, and with it all sessions are. -/
theorem Inv.charge_engineDeath (H : s.Inv maxDeaths)
    (hlifecycle : s.lifecycle = .charging (.engineDeath r) session)
    (hs : s.charge maxDeaths (.engineDeath r) session = some s') : s'.Inv maxDeaths := by
  have h := H.lifecycle
  rw [hlifecycle] at h
  obtain ⟨⟨hinside, hcurrent, hsessions, hclosed⟩, hzero⟩ := h
  have hdead := H.noticed_dead r (by simp [hinside])
  cases hs
  refine { H with
    lifecycle := NoneOpen.settled
      ⟨hcurrent, hclosed.symm, hsessions.trans (List.append_nil _).symm⟩ hzero
    notices := fun q => ?_, noticed_dead := fun q => ?_, count := ?_
    charged_prefix := hclosed ▸ List.prefix_rfl
    returned := fun session' hmem _ => hclosed ▸ hsessions ▸ hmem }
  · show NoticeOk _ q (Function.update s.notice r .returned q)
    by_cases hq : q = r
    · rw [hq, Function.update_self]
      trivial
    · rw [Function.update_of_ne hq]
      exact H.noticeOk_of_none hcurrent q
  · show Function.update s.notice r .returned q ≠ .none → _
    by_cases hq : q = r
    · exact fun _ => hq ▸ hdead
    · rw [Function.update_of_ne hq]
      exact H.noticed_dead q
  · -- fewer than `2 ^ 32` sessions were closed, so the count does not wrap
    have hbound := H.bound
    rw [hsessions, hclosed, List.length_append, List.length_singleton] at hbound
    have hlt := maxDeaths.toNat_lt
    have hcount := H.count
    show (s.engineDeathCount + 1).toNat = (s.charged ++ [session]).length
    rw [List.length_append, List.length_singleton, UInt32.toNat_add, UInt32.toNat_one]
    omega

/-- A step of `CloseSession` of the channel: the session is forgotten when it returns. -/
theorem CloseOk.pcStep {pc pc' : ChannelPc}
    (h : s.CloseOk pc) (hs : s.channel.pcStep answers pc = some (channel, pc')) :
    (channel = s.channel ∨ channel = s.channel.release) ∧
      ((∃ status, pc' = .returned status) ∧ channel.sessionId = 0 ∨
        (∀ cause session, afterClose cause session pc' = .closingChannel cause session pc') ∧
          ({ s with channel } : RestartBudget).CloseOk pc') := by
  cases pc with
  | closeSession =>
    simp only [ChannelState.pcStep] at hs
    split at hs <;> cases hs <;> exact ⟨.inl rfl, .inr ⟨fun _ _ => rfl, trivial⟩⟩
  | closeDenied =>
    cases hs
    exact ⟨.inr rfl, .inl ⟨⟨_, rfl⟩, rfl⟩⟩
  | closeBound =>
    simp only [ChannelState.pcStep] at hs
    split at hs <;> cases hs
    · exact ⟨.inr rfl, .inr ⟨fun _ _ => rfl, rfl⟩⟩
    · exact ⟨.inr rfl, .inl ⟨⟨_, rfl⟩, rfl⟩⟩
  | closeRemote =>
    cases hs
    exact ⟨.inl rfl, .inl ⟨⟨_, rfl⟩, h⟩⟩
  | _ => exact h.elim

/-- A step of `CloseSession` of the channel. -/
theorem Inv.closeStep (H : s.Inv maxDeaths) {cause : CloseCause}
    {pc : ChannelPc} (hlifecycle : s.lifecycle = .closingChannel cause session pc)
    (hs : s.closeStep cause session answers pc = some s') : s'.Inv maxDeaths := by
  have h := H.lifecycle
  rw [hlifecycle] at h
  obtain ⟨⟨channel, pc'⟩, hstep, rfl⟩ := Option.map_eq_some_iff.mp hs
  have hclose : s.CloseOk pc := by
    cases cause <;> first | exact h.2 | exact h.elim
  obtain ⟨hchannel, hnext⟩ := hclose.pcStep hstep
  have hgoto : ∀ {pc : LifecyclePc},
      ({ s with channel } : RestartBudget).LifecycleOk maxDeaths pc →
      ({ s with channel, lifecycle := pc } : RestartBudget).Inv maxDeaths := by
    intro pc hpc
    rcases hchannel with rfl | rfl
    · exact { H with lifecycle := hpc }
    · exact { H with lifecycle := hpc, remote := nofun }
  cases cause with
  | engineDeath r =>
    rcases hnext with ⟨⟨status, rfl⟩, hzero⟩ | ⟨hpc', hgo⟩
    · exact hgoto ⟨h.1, hzero⟩
    · refine hgoto ?_
      rw [hpc']
      exact ⟨h.1, hgo⟩
  | transportFailure =>
    rcases hnext with ⟨⟨status, rfl⟩, hzero⟩ | ⟨hpc', hgo⟩
    · exact hgoto (NoneOpen.settled h.1 hzero)
    · refine hgoto ?_
      rw [hpc']
      exact ⟨h.1, hgo⟩
  | _ => exact h.elim

/-- A step inside the lifecycle mutex. -/
theorem Inv.lifecycleStep (H : s.Inv maxDeaths) (hpos : 0 < maxDeaths)
    {attach : StatusCode} (hok : GivenUpByNotice s (.lifecycle answers attach))
    (hs : s.lifecycleStep maxDeaths answers attach = some s') : s'.Inv maxDeaths := by
  have h := H.lifecycle
  unfold RestartBudget.lifecycleStep at hs
  split at hs
  · cases hs
  · rename_i cause hpc
    cases hs
    rw [hpc] at h
    cases cause with
    | engineDeath r => exact H.unpublish_engineDeath hpc
    | transportFailure =>
      obtain ⟨⟨hcharged, -, hsessions⟩, hcurrent⟩ := h
      rw [if_pos hcurrent] at hsessions
      simp only [unpublish, if_pos hcurrent]
      exact { H with
        lifecycle := ⟨⟨rfl, hcharged, hsessions⟩, trivial⟩
        notices := H.noticeOk_of_none hcurrent }
    | _ => exact h.elim
  · rename_i hpc
    exact H.closeStep hpc hs
  · rename_i cause session hpc
    rw [hpc] at h
    cases cause with
    | engineDeath r => exact H.charge_engineDeath hpc hs
    | _ => exact h.elim
  · rename_i hpc
    exact H.openStep hpos hpc hok hs
  · rename_i session hpc
    simp only [GivenUpByNotice, hpc] at hok
    rw [hpc] at h
    obtain ⟨⟨hcurrent, hcharged, hsessions⟩, hrecorded⟩ := h
    have hne : session ≠ 0 := by
      rintro rfl
      exact H.nonzero (by simp [hsessions])
    rw [if_pos hok] at hs
    cases hs
    refine { H with
      lifecycle := ⟨hcharged, hrecorded, ?_⟩, notices := H.noticeOk_of_none hcurrent }
    rw [if_neg hne]
    exact hsessions

theorem Inv.step (H : s.Inv maxDeaths) (hpos : 0 < maxDeaths) {eager : Bool} {a : VesAction}
    (hok : GivenUpByNotice s a) (hs : (vesClient maxDeaths eager).step s a = some s') :
    s'.Inv maxDeaths := by
  cases a with
  | die r =>
    have hdead : ∀ q, s.channel.dead q = true →
        Function.update s.channel.dead r true q = true := by
      intro q hq
      by_cases hqr : q = r <;> simp [hqr, hq]
    cases hs
    exact { H with
      noticed_dead := fun q hq => hdead q (H.noticed_dead q hq)
      closed_dead := fun session hmem => hdead _ (H.closed_dead session hmem) }
  | notify r =>
    simp only [vesClient, Option.ite_none_right_eq_some, Option.some.injEq, Bool.and_eq_true,
      decide_eq_true_eq] at hs
    obtain ⟨⟨⟨-, hdead⟩, hnone⟩, rfl⟩ := hs
    exact H.setNotice hdead nofun rfl (.inl rfl) (H.lifecycle.notified (by simp [hnone]))
  | notice r => exact H.noticeStep hok hs
  | healthLoad | healthCheck healthy =>
    simp only [vesClient] at hs
    split at hs <;> cases hs
    exact { H with }
  | healthRecover =>
    simp only [vesClient] at hs
    split at hs
    · rename_i observed hwatchdog
      split at hs
      · cases hs
      · split at hs
        · cases hs
          exact { H with }
        · rename_i hcurrent
          exact absurd (hwatchdog.trans (by rw [not_not.mp hcurrent])) hok
    · cases hs
  | idleClose | execTimeout => exact absurd hok id
  | pushFailed =>
    simp only [vesClient] at hs
    split at hs
    · cases hs
    · rename_i hfree
      have h := H.lifecycle
      rw [not_not.mp hfree] at h
      cases hs
      exact { H with lifecycle := ⟨h, hok⟩ }
  | demand =>
    simp only [vesClient] at hs
    split at hs
    · cases hs
    · rename_i hfree
      split at hs
      · cases hs
        exact H
      · rename_i hidle
        have h := H.lifecycle
        rw [not_not.mp hfree] at h
        obtain ⟨hcharged, hchannel, hsessions⟩ := h
        have hcurrent : s.current = 0 := by
          by_contra hne
          exact hidle (.inr hne)
        rw [if_pos hcurrent] at hsessions
        cases hs
        exact { H with
          lifecycle := ⟨⟨hcurrent, hcharged, hsessions⟩, hchannel.trans hcurrent⟩ }
  | elapse =>
    cases hs
    exact { H with }
  | lifecycle answers attach => exact H.lifecycleStep hpos hok hs

end RestartBudget

def lifecycleSteps (n : ℕ) (answers : ChannelAnswers) : List VesAction :=
  List.replicate n (.lifecycle answers .ok)

/-- The remote dies, its notice runs, and a demand reconnect opens a session on the next
remote. -/
def noticeRound (r : ℕ) (next : UInt64) : List VesAction :=
  [.die r, .notify r, .notice r, .notice r, .notice r] ++ lifecycleSteps 4 {} ++
    [.elapse, .demand] ++
    lifecycleSteps 6 { refresh := { loaded := some (r + 1) }, sessionId := next }

/-- The remote dies, and before its notice the health check of the watchdog replaces the
session by one on the next remote. The notice comes when the session is gone. -/
def healthRound (r : ℕ) (next : UInt64) : List VesAction :=
  [.healthLoad, .die r, .healthCheck true, .healthRecover] ++
    lifecycleSteps 4 { status := .peerDisconnected } ++
    lifecycleSteps 6 { refresh := { loaded := some (r + 1) }, sessionId := next }

end MemRpc
