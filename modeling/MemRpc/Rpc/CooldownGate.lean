import MemRpc.Rpc.LifecycleAgreement

/-!
# The cooldown gate

A recovery may be started with a delay. Until the delay is over the client is to stay in
`Cooldown`, without a session, and no session is to be opened. `cooldownUntilMs_` holds the
end of the delay, `EnsureLiveSessionLocked` compares it with the clock before it opens a
session, and the transitions that clear it follow an open or a session that was live, when
no delay is running. There is one exception: a request that failed before any session
existed is not stale while no session is live, and if the policy answers its failure with
`IdleClose`, `EnterIdleClosed` clears the delay of a recovery that was started meanwhile.

`DelayUntil` says of a state that it is reached and when the delay of the recovery that was
started last is over.

## Main results

* `cooling_of_delayUntil`.
-/

namespace MemRpc

open Concurrency RpcClient

variable {mode : ClientInitMode} {answer : ClientAnswer} {s s' : RpcClient}
  {r r' : ClientRuntime} {a : ClientAction} {next : List ClientOp} {observed until' : ℕ}

namespace RpcClient

/-- While a delay is running the client is in `Cooldown` and no session is live. -/
def CoolsDown (s : RpcClient) : Prop :=
  s.control = .opened → s.now < s.cooldownUntilMs → s.lifecycle = .cooldown ∧ s.session = 0

/-- No delay is running. -/
def Expired (s : RpcClient) : Prop := s.control = .opened → s.cooldownUntilMs ≤ s.now

theorem Expired.coolsDown (h : s.Expired) : s.CoolsDown :=
  fun hopen hrunning => absurd (h hopen) (Nat.not_le_of_lt hrunning)

theorem CoolsDown.expired_of_live (h : s.CoolsDown) (hlive : s.session ≠ 0) : s.Expired := by
  intro hopen
  by_contra hrunning
  exact hlive (h hopen (Nat.lt_of_not_le hrunning)).2

theorem CoolsDown.of_interferes (h : s.CoolsDown) (hs : Interferes s s') : s'.CoolsDown := by
  intro hopen hrunning
  rw [hs.lifecycle, hs.session]
  rw [hs.cooldown] at hrunning
  exact h (hs.control hopen) (hs.now.trans_lt hrunning)

theorem Expired.of_interferes (h : s.Expired) (hs : Interferes s s') : s'.Expired := by
  intro hopen
  rw [hs.cooldown]
  exact (h (hs.control hopen)).trans hs.now

/-- `TransitionLifecycle` with `CooldownWindowChange::Clear`. -/
theorem expired_of_cleared (h : s.cooldownUntilMs = 0) : s.Expired :=
  fun _ => h ▸ Nat.zero_le _

theorem Expired.handleSessionOpenFailure (h : s.Expired) : s.handleSessionOpenFailure.Expired := by
  intro hopen
  unfold RpcClient.handleSessionOpenFailure
  split
  · exact Nat.zero_le _
  · exact h hopen

theorem startRecovery_cooldown (s : RpcClient) (observed : ℕ) (delayMs : UInt32)
    (cause : Option ℕ)
    (h : (s.startRecovery observed delayMs cause).now <
      (s.startRecovery observed delayMs cause).cooldownUntilMs) :
    (s.startRecovery observed delayMs cause).lifecycle = .cooldown := by
  have hdelay : delayMs ≠ 0 := by
    rintro rfl
    exact absurd h (Nat.lt_irrefl _)
  exact if_neg hdelay

end RpcClient

/-! ## The discipline -/

/-- Steps that keep a running delay: a decision `IdleClose` is applied when none is
running. -/
def DelayKept (s : RpcClient) (_ : ClientAnswer) : ClientOp → Prop
  | .recovery (.applyDecision d _ _ _) => d.action = .idleClose → s.cooldownUntilMs ≤ s.now
  | _ => True

instance (s : RpcClient) (answer : ClientAnswer) (op : ClientOp) :
    Decidable (DelayKept s answer op) := by
  unfold DelayKept
  split <;> infer_instance

/-- What the functions under the mutex do to the delay. -/
def cooldownDiscipline : Discipline where
  inv := CoolsDown
  pre
    | .openSession _ | .finalizeOpen _ | .openFailed _ _ | .enterNoSession | .enterIdleClosed
    | .closeIdle _ _ | .closeIfMatches .idle _ _ => Expired
    | .deathDecision _ _ => fun s => s.Expired ∧ s.session = 0
    | .closeIfMatches .death observed _ => fun s => s.Expired ∧ s.Observed observed
    | .closeIfMatches .recovery observed _ => fun s =>
      s.Observed observed ∧ (s.now < s.cooldownUntilMs → s.lifecycle = .cooldown)
    | .startRecovery observed _ _ | .scheduleRecovery observed _ _ _ => Observed observed
    | .applyDecision _ observed _ _ => fun s => s.Observed observed ∧ s.CoolsDown
    | .resolveAll _ => fun _ => True
    | _ => CoolsDown
  post
    | .startRecovery .. => fun s s' =>
      s'.session = s.session ∧ (s'.now < s'.cooldownUntilMs → s'.lifecycle = .cooldown)
    | .closeIfMatches .idle _ _ => fun _ => Expired
    | .closeIfMatches .death _ _ => fun _ s' => s'.Expired ∧ s'.session = 0
    | .resolveAll _ => Interferes
    | _ => fun _ => CoolsDown

variable {o : RecoveryOp}

theorem cooldownDiscipline_pre (hs : Interferes s s')
    (h : cooldownDiscipline.pre o s) : cooldownDiscipline.pre o s' := by
  cases o with
  | openSession | finalizeOpen | openFailed | enterNoSession | enterIdleClosed | closeIdle =>
    exact Expired.of_interferes h hs
  | deathDecision => exact ⟨h.1.of_interferes hs, hs.session.trans h.2⟩
  | closeIfMatches reason observed cause =>
    cases reason with
    | idle => exact Expired.of_interferes h hs
    | death => exact ⟨h.1.of_interferes hs, h.2.of_interferes hs⟩
    | recovery =>
      refine ⟨h.1.of_interferes hs, fun hrunning => ?_⟩
      rw [hs.lifecycle]
      rw [hs.cooldown] at hrunning
      exact h.2 (hs.now.trans_lt hrunning)
  | startRecovery | scheduleRecovery => exact Observed.of_interferes h hs
  | applyDecision => exact ⟨h.1.of_interferes hs, h.2.of_interferes hs⟩
  | resolveAll status => trivial
  | _ => exact CoolsDown.of_interferes h hs

theorem cooldownDiscipline_post {s'' : RpcClient} (hs : Interferes s s')
    (h : cooldownDiscipline.post o s' s'') : cooldownDiscipline.post o s s'' := by
  cases o with
  | startRecovery observed delayMs cause => exact ⟨h.1.trans hs.session, h.2⟩
  | closeIfMatches reason observed cause => cases reason <;> exact h
  | resolveAll status => exact hs.trans h
  | _ => exact h

/-- A function that has nothing to do. -/
theorem cooldownDiscipline_skip (ho : o.conditional = true) (hskips : o.Skips s)
    (h : cooldownDiscipline.pre o s) : cooldownDiscipline.post o s s := by
  cases o with
  | closeIdle | enterNoSession => exact Expired.coolsDown h
  | scheduleRecovery => exact fun hopen => absurd hopen hskips
  | applyDecision => exact h.2
  | deathDecision | startRecovery | closeIfMatches | resolveAll | openSession | finalizeOpen
  | openFailed | enterIdleClosed => cases ho
  | _ => exact h

theorem cooldownDiscipline_sound (hexec : o.exec s answer = some (s', next))
    (hok : DelayKept s answer (.recovery o)) (h : cooldownDiscipline.pre o s) :
    cooldownDiscipline.contract.Meets (cooldownDiscipline.post o s) next s' := by
  cases RecoveryMove.of_exec hexec with
  | skip ho => exact cooldownDiscipline_skip ho (RecoveryOp.skips_of_exec hexec) h
  | failureDecided d hobs | idleDecided d hobs => exact ⟨⟨.inl hobs.symm, h⟩, fun _ hpost => hpost⟩
  | external hobs => exact ⟨.inl hobs.symm, fun _ hpost => hpost⟩
  | death hobs hlive hdead =>
    -- a session is live, so no delay is running
    have hexpired : s.Expired := CoolsDown.expired_of_live h (hobs ▸ hlive)
    refine ⟨⟨hexpired, .inl hobs.symm⟩, fun s₁ h₁ => ⟨trivial, fun s₂ h₂ => ?_⟩⟩
    exact ⟨⟨h₁.1.of_interferes h₂, h₂.session.trans h₁.2⟩, fun _ h₃ => h₃⟩
  | deathIgnored => exact ⟨h.1, fun _ hpost => hpost⟩
  | deathDecided d => exact ⟨⟨.inr h.2, h.1.coolsDown⟩, fun _ hpost => hpost⟩
  | idleClose =>
    have hexpired : s.cooldownUntilMs ≤ s.now := hok (RecoveryOp.idleClose_exec hexec)
    exact ⟨fun _ => hexpired, fun _ hpost => hpost⟩
  | restart => exact ⟨h.1, fun _ hpost => hpost⟩
  | closeIdle => exact ⟨h, fun s₁ h₁ => ⟨h₁, fun _ h₂ => h₂⟩⟩
  | schedule =>
    refine ⟨h, fun s₁ h₁ => ⟨⟨?_, h₁.2⟩, fun s₂ h₂ => ⟨h₂, fun s₃ h₃ => ⟨h₃, fun _ h₄ => h₄⟩⟩⟩⟩
    change s₁.session = _ ∨ s₁.session = 0
    rw [h₁.1]
    exact h
  | start => exact ⟨rfl, startRecovery_cooldown _ _ _ _⟩
  | @close reason observed cause hfree hobs hlive =>
    cases reason with
    | idle => exact h
    | death => exact ⟨h.1, rfl⟩
    | recovery => exact fun _ hrunning => ⟨h.2 hrunning, rfl⟩
  | @stale reason observed cause hobs =>
    cases reason with
    | idle => exact h
    | death => exact ⟨h.1, h.2.elim (fun hs => hs.trans (hobs hs)) id⟩
    | recovery =>
      have hnone : s.session = 0 := h.1.elim (fun hs => hs.trans (hobs hs)) id
      exact fun _ hrunning => ⟨h.2 hrunning, hnone⟩
  | closeLive hfree hlive => exact fun hopen hrunning => ⟨(h hopen hrunning).1, rfl⟩
  | noneLive hnone => exact h
  | failPending =>
    refine Contract.meets_flatMap _ (fun p _ s₁ h₁ => ?_) h
    exact ⟨h₁, fun s₂ h₂ => ⟨trivial, fun s₃ h₃ => CoolsDown.of_interferes h₂ h₃⟩⟩
  | disconnectPending => exact ⟨trivial, fun s₁ h₁ => CoolsDown.of_interferes h h₁⟩
  | resolveAll => exact cooldownDiscipline.meets_resolveAll s _
  | reconnect => exact ⟨h, fun _ hpost => hpost⟩
  | ensured hstatus => exact h
  | ensureOpen hcontrol hnone =>
    have hexpired : s.cooldownUntilMs ≤ s.now := RecoveryOp.ensureOpen_exec hexec
    exact ⟨fun _ => hexpired, fun _ hpost => hpost⟩
  | opened | openRefused => exact ⟨h, fun _ hpost => hpost⟩
  | openFailed => exact (Expired.handleSessionOpenFailure h).coolsDown
  | finalize | enterNoSession | enterIdleClosed | enterTerminalClosed =>
    exact (expired_of_cleared rfl).coolsDown

theorem cooldownDiscipline_lawful : cooldownDiscipline.Lawful DelayKept where
  inv hs h := CoolsDown.of_interferes h hs
  pre := cooldownDiscipline_pre
  post := cooldownDiscipline_post
  enter {o} s ho h := by cases o <;> first | exact h | cases ho
  leave {o} s s' ho h := by cases o <;> first | exact h | cases ho
  terminal h := h
  closed h := h
  sound hexec hok _ h := cooldownDiscipline_sound hexec hok h

/-! ## The delay of the last recovery -/

/-- The operation does not start a recovery. -/
def StartsNone (_ : RpcClient) (_ : ClientAnswer) : ClientOp → Prop
  | .recovery (.startRecovery ..) => False
  | _ => True

instance (s : RpcClient) (answer : ClientAnswer) (op : ClientOp) :
    Decidable (StartsNone s answer op) := by
  unfold StartsNone
  split <;> infer_instance

/-- A state that is reached by steps which meet `ok`, after a recovery whose delay is over
at `until'` and which is the last that was started. -/
inductive DelayUntil (mode : ClientInitMode) (ok : ClientRuntime → ClientAction → Prop) :
    ℕ → ClientRuntime → Prop
  | started {r r' : ClientRuntime} {t : ClientThread} {answer : ClientAnswer}
      {observed : ℕ} {delayMs : UInt32} {cause : Option ℕ} {rest : List ClientOp}
      (h : (rpcClient mode).Reach ok r) (hok : ok r (.exec t answer))
      (hops : r.ops t = .recovery (.startRecovery observed delayMs cause) :: rest)
      (hs : (rpcClient mode).step r (.exec t answer) = some r') :
      DelayUntil mode ok (r.shared.now + delayMs.toNat) r'
  | later {until' : ℕ} {r r' : ClientRuntime} {a : ClientAction} (h : DelayUntil mode ok until' r)
      (hok : ok r a) (hother : NextOp StartsNone r a)
      (hs : (rpcClient mode).step r a = some r') : DelayUntil mode ok until' r'

/-- No session is about to be opened, and if the mutex is free the client is in `Cooldown`
without a session. -/
structure Cooling (r : ClientRuntime) : Prop where
  unopened : ∀ t reports rest, r.ops t ≠ .recovery (.openSession reports) :: rest
  free : r.shared.lifecycleMutex = none → r.shared.lifecycle = .cooldown ∧ r.shared.session = 0

theorem DelayUntil.reach {ok : ClientRuntime → ClientAction → Prop}
    (h : DelayUntil mode ok until' r) : (rpcClient mode).Reach ok r := by
  induction h with
  | started h hok hops hs => exact .step _ h hok hs
  | later _ hok hother hs ih => exact .step _ ih hok hs

/-- The end of a delay is neither moved nor forgotten while the delay is running. -/
theorem RecoveryMove.cooldown (hm : RecoveryMove s answer o s' next)
    (hpre : cooldownDiscipline.pre o s) (hother : StartsNone s answer (.recovery o))
    (hterminal : o = .enterTerminalClosed → s.control ≠ .opened) (hopen : s.control = .opened)
    (hrunning : s.now < s.cooldownUntilMs) : s'.cooldownUntilMs = s.cooldownUntilMs := by
  have hnever : ¬ s.Expired := fun h => Nat.not_le_of_lt hrunning (h hopen)
  cases hm with
  | start => cases hother
  | finalize | openFailed | enterNoSession | enterIdleClosed => exact absurd hpre hnever
  | enterTerminalClosed => exact absurd hopen (hterminal rfl)
  | _ => rfl

theorem coolsDown_initial : CoolsDown (.initial mode) := by
  intro _ hrunning
  cases mode <;> cases hrunning

theorem DelayUntil.cooldown_eq (h : DelayUntil mode (NextOp DelayKept) until' r)
    (hopen : r.shared.control = .opened) (hrunning : r.shared.now < until') :
    r.shared.cooldownUntilMs = until' := by
  induction h with
  | started h hok hops hs =>
    cases ClientMove.of_step hs with
    | exec hops₁ hexec hops' =>
      obtain ⟨rfl, rfl⟩ := List.cons.inj (hops₁.symm.trans hops)
      have hshared := congrArg Prod.fst (Option.some.inj hexec)
      exact (congrArg RpcClient.cooldownUntilMs hshared).symm
  | @later until' r r' a h hok hother hs ih =>
    have hreach := h.reach
    have hholds := cooldownDiscipline_lawful.of_reach coolsDown_initial hreach
    cases ClientMove.of_step hs with
    | @exec t answer op rest next hops hexec hops' =>
      by_cases hop : ∃ o, op = .recovery o
      · obtain ⟨o, rfl⟩ := hop
        have hframe := RecoveryOp.exec_frame hexec
        rw [hframe] at hopen hrunning
        have hsame := ih hopen hrunning
        rw [← hsame]
        refine (RecoveryMove.of_exec hexec).cooldown (hholds.pre_of_head hops)
          (hother.of_ops hops) ?_ hopen (hsame ▸ hrunning)
        rintro rfl
        exact control_of_terminal hreach _ (hops ▸ List.mem_cons_self)
      · have hinterferes := ClientOp.interferes (fun o ho => hop ⟨o, ho⟩) hexec
        rw [hinterferes.cooldown]
        exact ih (hinterferes.control hopen) (hinterferes.now.trans_lt hrunning)
    | call hidle hshared hops' | retry hnew hidle hshared hops' =>
      rw [hshared] at hopen hrunning ⊢
      exact ih hopen hrunning
    | shutdown hcontrol hidle hshared hops' =>
      rw [hshared] at hopen
      cases hopen
    | tick hshared hops' =>
      rw [hshared] at hopen hrunning ⊢
      exact ih hopen ((Nat.le_add_right _ _).trans_lt hrunning)

/-- In every run whose steps keep a running delay, until the delay of the last recovery is
over no session is opened, and while the mutex is free the client is in `Cooldown` without
a session. -/
theorem cooling_of_delayUntil (h : DelayUntil mode (NextOp DelayKept) until' r)
    (hopen : r.shared.control = .opened) (hrunning : r.shared.now < until') : Cooling r := by
  have hholds := cooldownDiscipline_lawful.of_reach coolsDown_initial h.reach
  rw [← h.cooldown_eq hopen hrunning] at hrunning
  refine ⟨fun t reports rest hops => ?_, fun hfree => hholds.free hfree hopen hrunning⟩
  have hexpired : r.shared.Expired := hholds.pre_of_head hops
  exact Nat.not_le_of_lt hrunning (hexpired hopen)

/-! ## Schedules -/

/-- Execute a schedule up to a `StartRecovery` of thread `t`, and on without another one. -/
def delayRun (mode : ClientInitMode) (ok : ClientRuntime → ClientAction → Prop)
    [∀ r a, Decidable (ok r a)] (before : List ClientAction) (t : ClientThread)
    (after : List ClientAction) : Option (ℕ × ClientRuntime) :=
  ((rpcClient mode).runOk ok (rpcClient mode).init before).bind fun r =>
    match r.ops t with
    | .recovery (.startRecovery _ delayMs _) :: _ =>
      ((rpcClient mode).runOk ok r [.exec t {}]).bind fun r₁ =>
        ((rpcClient mode).runOk (fun r a => ok r a ∧ NextOp StartsNone r a) r₁ after).map
          fun r₂ => (r.shared.now + delayMs.toNat, r₂)
    | _ => none

section

variable {ok : ClientRuntime → ClientAction → Prop} [∀ r a, Decidable (ok r a)]

theorem DelayUntil.runOk {as : List ClientAction} (h : DelayUntil mode ok until' r)
    (hrun : (rpcClient mode).runOk (fun r a => ok r a ∧ NextOp StartsNone r a) r as = some r') :
    DelayUntil mode ok until' r' := by
  induction as generalizing r with
  | nil =>
    simp only [Machine.runOk, Option.some.injEq] at hrun
    exact hrun ▸ h
  | cons a as ih =>
    simp only [Machine.runOk, Option.ite_none_right_eq_some, Option.bind_eq_some_iff] at hrun
    obtain ⟨⟨hok, hother⟩, r₁, hs, hrest⟩ := hrun
    exact ih (.later h hok hother hs) hrest

theorem delayUntil_of_delayRun {before after : List ClientAction} {t : ClientThread}
    (h : delayRun mode ok before t after = some (until', r)) : DelayUntil mode ok until' r := by
  obtain ⟨r₀, hbefore, h⟩ := Option.bind_eq_some_iff.mp h
  split at h
  · rename_i hops
    obtain ⟨r₁, hstart, h⟩ := Option.bind_eq_some_iff.mp h
    obtain ⟨r₂, hafter, h⟩ := Option.map_eq_some_iff.mp h
    cases h
    simp only [Machine.runOk, Option.ite_none_right_eq_some, Option.bind_eq_some_iff,
      Option.some.injEq, exists_eq_right] at hstart
    have hreach := Machine.reach_of_runOk _ hbefore
    exact (DelayUntil.started hreach hstart.1 hops hstart.2).runOk hafter
  · cases h

end

/-- The engine dies, and the policy answers with a restart after 5 ms. -/
theorem cooling_restartedDeath :
    ∃ until' r, DelayUntil .eagerSession (NextOp DelayKept) until' r ∧
      r.shared.control = .opened ∧ r.shared.now < until' ∧ r.shared.lifecycleMutex = none ∧
      Cooling r := by
  have hrun : (delayRun .eagerSession (NextOp DelayKept)
      (.call 0 (.engineDied 1) ::
        List.replicate 8 (.exec (.external 0) { decision := some ⟨.restart, 5⟩ }))
      (.external 0) (List.replicate 4 (.exec (.external 0) {}) ++ [.tick 3])).any (fun p =>
        p.2.shared.control = .opened ∧ p.2.shared.now < p.1 ∧
          p.2.shared.lifecycleMutex = none) = true := by
    decide +kernel
  obtain ⟨⟨until', r⟩, hr, hopen, hrunning, hfree⟩ := Machine.exists_of_any hrun
  have hdelay := delayUntil_of_delayRun hr
  exact ⟨until', r, hdelay, hopen, hrunning, hfree, cooling_of_delayUntil hdelay hopen hrunning⟩

/-- A request fails as the open of a first session is refused, and waits for the mutex while
an external recovery is requested. -/
def failedOpenSchedule : List ClientAction :=
  invokeSchedule 0 ++ List.replicate 5 (.exec .submit {}) ++
    List.replicate 6 (.exec .submit { openStatus := .invalidArgument }) ++
    [.call 0 (.requestExternalRecovery ⟨0, 100⟩)] ++ List.replicate 4 (.exec (.external 0) {})

/-- The policy answers the failure with `IdleClose`, and the next request opens a session. -/
def idleCloseSchedule : List ClientAction :=
  List.replicate 5 (.exec (.external 0) {}) ++
    List.replicate 8 (.exec .submit { decision := some ⟨.idleClose, 0⟩ }) ++
    invokeSchedule 0 ++ List.replicate 6 (.exec .submit {})

/-- `EnterIdleClosed` clears a delay that is running. -/
theorem not_cooling_of_idleClose :
    ∃ until' r, DelayUntil .lazySession Machine.Always until' r ∧ r.shared.control = .opened ∧
      r.shared.now < until' ∧ ¬ Cooling r := by
  have hrun : (delayRun .lazySession Machine.Always failedOpenSchedule (.external 0)
      idleCloseSchedule).any (fun p => p.2.shared.control = .opened ∧ p.2.shared.now < p.1 ∧
        (p.2.ops .submit).head? = some (.recovery (.openSession true))) = true := by
    decide +kernel
  obtain ⟨⟨until', r⟩, hr, hopen, hrunning, hhead⟩ := Machine.exists_of_any hrun
  refine ⟨until', r, delayUntil_of_delayRun hr, hopen, hrunning, fun hcooling => ?_⟩
  obtain ⟨rest, hops⟩ := List.head?_eq_some_iff.mp hhead
  exact hcooling.unopened .submit true rest hops

end MemRpc
