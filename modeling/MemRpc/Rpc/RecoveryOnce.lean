import MemRpc.Rpc.Sections

/-!
# At most one recovery for a session

`StartRecovery` is given the session on which a failure was observed, and every function
that leads to it has checked under the mutex that this session is the live one. The session
is closed before the mutex is given back: behind `StartRecovery` in `ScheduleRecoveryLocked`,
or before it when the engine died. It is not live again, as the ids of sessions are new. So
when a recovery fails the pending requests and the policy is asked once more, the requests
were sent on a session that is gone, and a second recovery with its id is not started.

## Main results

* `recoveredOnce_of_reach`.
-/

namespace MemRpc

open Concurrency RpcClient

variable {mode : ClientInitMode} {answer : ClientAnswer} {s s' : RpcClient}
  {r : ClientRuntime} {next : List ClientOp} {n : ℕ}

namespace RpcClient

/-- `StartRecovery` was executed at most once with any id but zero. -/
def RecoveredOnce (s : RpcClient) : Prop := (s.restarts.filter (· ≠ 0)).Nodup

instance (s : RpcClient) : Decidable s.RecoveredOnce :=
  inferInstanceAs (Decidable (List.Nodup _))

/-- No recovery was started with the id of a session. -/
structure Fresh (s : RpcClient) (n : ℕ) : Prop where
  opened : n ≤ s.opened
  unstarted : n ≠ 0 → n ∉ s.restarts

/-- Recoveries were started once, with sessions that were opened. -/
structure Started (s : RpcClient) : Prop where
  once : s.RecoveredOnce
  opened : ∀ n ∈ s.restarts, n ≤ s.opened

theorem Fresh.of_interferes (h : s.Fresh n) (hs : Interferes s s') : s'.Fresh n :=
  ⟨hs.opened ▸ h.opened, hs.restarts ▸ h.unstarted⟩

theorem Started.of_interferes (h : s.Started) (hs : Interferes s s') : s'.Started := by
  refine ⟨?_, ?_⟩
  · unfold RecoveredOnce
    rw [hs.restarts]
    exact h.once
  · rw [hs.restarts, hs.opened]
    exact h.opened

theorem fresh_zero (s : RpcClient) : s.Fresh 0 := ⟨Nat.zero_le _, fun h => absurd rfl h⟩

/-- The functions that only touch other fields. -/
theorem Started.congr (h : s.Started) (hlog : s'.log = s.log) (hopened : s'.opened = s.opened) :
    s'.Started := by
  refine ⟨?_, ?_⟩
  · unfold RecoveredOnce restarts
    rw [hlog]
    exact h.once
  · unfold restarts
    rw [hlog, hopened]
    exact h.opened

theorem Fresh.congr (h : s.Fresh n) (hlog : s'.log = s.log) (hopened : s'.opened = s.opened) :
    s'.Fresh n := by
  refine ⟨hopened ▸ h.opened, ?_⟩
  unfold restarts
  rw [hlog]
  exact h.unstarted

theorem restarts_startRecovery (s : RpcClient) (observed : ℕ) (delayMs : UInt32)
    (cause : Option ℕ) : (s.startRecovery observed delayMs cause).restarts =
      observed :: s.restarts := rfl

theorem Started.startRecovery (h : s.Started) {observed : ℕ} (hfresh : s.Fresh observed)
    (delayMs : UInt32) (cause : Option ℕ) :
    (s.startRecovery observed delayMs cause).Started := by
  refine ⟨?_, ?_⟩
  · unfold RecoveredOnce
    rw [restarts_startRecovery]
    by_cases hzero : observed = 0
    · rw [List.filter_cons_of_neg (by simp [hzero])]
      exact h.once
    · rw [List.filter_cons_of_pos (by simp [hzero]), List.nodup_cons]
      exact ⟨fun hmem => hfresh.unstarted hzero (List.mem_of_mem_filter hmem), h.once⟩
  · rw [restarts_startRecovery]
    exact List.forall_mem_cons.mpr ⟨hfresh.opened, h.opened⟩

theorem Started.closeSession (h : s.Started) (cause : Option ℕ) : (s.closeSession cause).Started :=
  ⟨h.once, h.opened⟩

end RpcClient

/-! ## The discipline -/

/-- A session for which no recovery was started is live, or none. -/
def OnceInv (s : RpcClient) : Prop := s.Started ∧ s.Fresh s.session

/-- A recovery may be started with `observed`, which is live or was closed already. -/
def MayStart (observed : ℕ) (s : RpcClient) : Prop :=
  s.Started ∧ s.Fresh observed ∧ (s.session = observed ∨ s.session = 0)

theorem MayStart.inv {observed : ℕ} (h : MayStart observed s) : OnceInv s := by
  obtain ⟨hstarted, hfresh, hsession⟩ := h
  refine ⟨hstarted, ?_⟩
  rcases hsession with hsession | hsession <;> rw [hsession]
  · exact hfresh
  · exact s.fresh_zero

theorem OnceInv.mayStart (h : OnceInv s) : MayStart s.session s := ⟨h.1, h.2, .inl rfl⟩

/-- Sessions are closed before a second recovery with their id could be started. -/
def onceDiscipline : Discipline where
  inv := OnceInv
  pre
    | .deathDecision observed _ | .applyDecision _ observed _ _
    | .scheduleRecovery observed _ _ _ | .startRecovery observed _ _
    | .closeIfMatches .death observed _ => MayStart observed
    | .closeIfMatches .recovery observed _ => fun s =>
      s.Started ∧ (s.session = observed ∨ s.session = 0)
    | .resolveAll _ => fun _ => True
    | _ => OnceInv
  post
    | .startRecovery .. => fun s s' => s'.Started ∧ s'.session = s.session
    | .closeIfMatches .death observed _ => fun _ s' => MayStart observed s'
    | .resolveAll _ => Interferes
    | _ => fun _ => OnceInv

theorem OnceInv.of_interferes (h : OnceInv s) (hs : Interferes s s') : OnceInv s' :=
  ⟨h.1.of_interferes hs, hs.session ▸ h.2.of_interferes hs⟩

theorem MayStart.of_interferes {observed : ℕ} (h : MayStart observed s) (hs : Interferes s s') :
    MayStart observed s' :=
  ⟨h.1.of_interferes hs, h.2.1.of_interferes hs, hs.session ▸ h.2.2⟩

variable {o : RecoveryOp}

theorem onceDiscipline_pre (hs : Interferes s s') (h : onceDiscipline.pre o s) :
    onceDiscipline.pre o s' := by
  cases o with
  | deathDecision | applyDecision | scheduleRecovery | startRecovery =>
    exact MayStart.of_interferes h hs
  | closeIfMatches reason observed cause =>
    cases reason with
    | idle => exact OnceInv.of_interferes h hs
    | recovery => exact ⟨h.1.of_interferes hs, hs.session ▸ h.2⟩
    | death => exact MayStart.of_interferes h hs
  | resolveAll status => trivial
  | _ => exact OnceInv.of_interferes h hs

theorem onceDiscipline_post {s'' : RpcClient} (hs : Interferes s s')
    (h : onceDiscipline.post o s' s'') : onceDiscipline.post o s s'' := by
  cases o with
  | startRecovery observed delayMs cause => exact ⟨h.1, h.2.trans hs.session⟩
  | closeIfMatches reason observed cause => cases reason <;> exact h
  | resolveAll status => exact hs.trans h
  | _ => exact h

/-- A function that has nothing to do. -/
theorem onceDiscipline_skip (ho : o.conditional = true)
    (h : onceDiscipline.pre o s) : onceDiscipline.post o s s := by
  cases o with
  | applyDecision | scheduleRecovery => exact MayStart.inv h
  | deathDecision | startRecovery | closeIfMatches | resolveAll => cases ho
  | _ => exact h

theorem OnceInv.congr (h : OnceInv s) (hlog : s'.log = s.log) (hopened : s'.opened = s.opened)
    (hsession : s'.session = s.session) : OnceInv s' :=
  ⟨h.1.congr hlog hopened, hsession ▸ h.2.congr hlog hopened⟩

theorem OnceInv.closeSession (h : OnceInv s) (cause : Option ℕ) : OnceInv (s.closeSession cause) :=
  ⟨h.1.closeSession cause, fresh_zero _⟩

/-- A new session. -/
theorem OnceInv.opened (h : OnceInv s) :
    OnceInv { s with session := s.opened + 1, opened := s.opened + 1 } := by
  obtain ⟨hstarted, -⟩ := h
  refine ⟨⟨hstarted.once, fun n hn => (hstarted.opened n hn).trans (Nat.le_succ _)⟩, le_rfl, ?_⟩
  exact fun _ hmem => absurd (hstarted.opened _ hmem) (Nat.not_succ_le_self _)

theorem onceDiscipline_sound (hm : RecoveryMove s answer o s' next) (h : onceDiscipline.pre o s) :
    onceDiscipline.contract.Meets (onceDiscipline.post o s) next s' := by
  cases hm with
  | skip ho => exact onceDiscipline_skip ho h
  | failureDecided d hobs | idleDecided d hobs | external hobs =>
    refine ⟨?_, fun _ hpost => hpost⟩
    rw [hobs]
    exact OnceInv.mayStart h
  | death hobs hlive hdead =>
    have hstart : MayStart s.session s := OnceInv.mayStart h
    rw [← hobs] at hstart
    exact ⟨hstart, fun s₁ h₁ => ⟨trivial, fun s₂ h₂ => ⟨h₁.of_interferes h₂, fun _ h₃ => h₃⟩⟩⟩
  | deathIgnored => exact ⟨MayStart.inv h, fun _ hpost => hpost⟩
  | deathDecided d | restart => exact ⟨h, fun _ hpost => hpost⟩
  | idleClose => exact ⟨MayStart.inv h, fun _ hpost => hpost⟩
  | closeIdle => exact ⟨h, fun _ h₁ => ⟨h₁, fun _ h₂ => h₂⟩⟩
  | schedule =>
    refine ⟨h, fun s₁ h₁ => ⟨⟨h₁.1, h₁.2 ▸ h.2.2⟩, fun s₂ h₂ => ⟨h₂, fun s₃ h₃ => ?_⟩⟩⟩
    exact ⟨h₃, fun _ h₄ => h₄⟩
  | start => exact ⟨h.1.startRecovery h.2.1 _ _, rfl⟩
  | @close reason observed cause hfree hobs hlive =>
    cases reason with
    | idle => exact OnceInv.closeSession h cause
    | recovery => exact ⟨h.1.closeSession cause, fresh_zero _⟩
    | death => exact ⟨h.1.closeSession cause, ⟨h.2.1.opened, h.2.1.unstarted⟩, .inr rfl⟩
  | @stale reason observed cause hobs =>
    cases reason with
    | idle | death => exact h
    | recovery =>
      -- the session is not live, or there is none
      obtain ⟨hstarted, hsession⟩ := h
      have hnone : s.session = 0 := hsession.elim (fun hs => hs.trans (hobs hs)) id
      exact ⟨hstarted, hnone ▸ s.fresh_zero⟩
  | closeLive hfree hlive => exact OnceInv.closeSession h _
  | noneLive hnone => exact h
  | failPending =>
    refine Contract.meets_flatMap _ (fun p _ s₁ h₁ => ?_) (OnceInv.congr h rfl rfl rfl)
    exact ⟨h₁, fun s₂ h₂ => ⟨trivial, fun s₃ h₃ => OnceInv.of_interferes h₂ h₃⟩⟩
  | disconnectPending => exact ⟨trivial, fun s₁ h₁ => OnceInv.of_interferes h h₁⟩
  | resolveAll => exact onceDiscipline.meets_resolveAll s _
  | reconnect => exact ⟨h, fun _ hpost => hpost⟩
  | ensured hstatus => exact OnceInv.congr h rfl rfl rfl
  | ensureOpen hcontrol hnone => exact ⟨OnceInv.congr h rfl rfl rfl, fun _ hpost => hpost⟩
  | opened hfree => exact ⟨OnceInv.opened h, fun _ hpost => hpost⟩
  | openRefused => exact ⟨h, fun _ hpost => hpost⟩
  | finalize | openFailed | enterNoSession | enterIdleClosed | enterTerminalClosed =>
    exact OnceInv.congr h rfl rfl rfl

theorem onceDiscipline_lawful : onceDiscipline.Lawful fun _ _ _ => True where
  inv hs h := OnceInv.of_interferes h hs
  pre := onceDiscipline_pre
  post := onceDiscipline_post
  enter {o} s ho h := by cases o <;> first | exact h | cases ho
  leave {o} s s' ho h := by cases o <;> first | exact h | cases ho
  terminal h := h
  closed h := h
  sound hexec _ _ h := onceDiscipline_sound (.of_exec hexec) h

/-! ## Whole runs -/

theorem RecoveryMove.started (hm : RecoveryMove s answer o s' next)
    (h : s.Started) (hpre : onceDiscipline.pre o s) : s'.Started := by
  cases hm with
  | start => exact h.startRecovery hpre.2.1 _ _
  | opened hfree => exact ⟨h.once, fun n hn => (h.opened n hn).trans (Nat.le_succ _)⟩
  | close | closeLive => exact h.closeSession _
  | _ => exact h.congr rfl rfl

theorem onceInv_initial : OnceInv (.initial mode) := by
  cases mode with
  | eagerSession => exact ⟨⟨List.nodup_nil, by simp [restarts, initial]⟩, le_rfl, by decide⟩
  | lazySession => exact ⟨⟨List.nodup_nil, by simp [restarts, initial]⟩, fresh_zero _⟩

/-- In every run, `StartRecovery` is executed at most once with any id but zero. -/
theorem recoveredOnce_of_reach (h : (rpcClient mode).Reach Machine.Always r) :
    r.shared.RecoveredOnce := by
  have hnext : (rpcClient mode).Reach (NextOp fun _ _ _ => True) r := by
    refine h.mono fun r a _ => ?_
    cases a <;> simp [NextOp]
  refine (Machine.Reach.invariant_of_reach (I := fun r : ClientRuntime => r.shared.Started) ?_ ?_ hnext).once
  · exact onceInv_initial.1
  · intro r a r' hreach hstarted _ hs
    have hholds := onceDiscipline_lawful.of_reach onceInv_initial hreach
    cases ClientMove.of_step hs with
    | @exec t answer op rest next hops hexec hops' =>
      by_cases hop : ∃ o, op = .recovery o
      · obtain ⟨o, rfl⟩ := hop
        exact (RecoveryMove.of_exec hexec).started hstarted (hholds.pre_of_head hops)
      · exact hstarted.of_interferes (ClientOp.interferes (fun o ho => hop ⟨o, ho⟩) hexec)
    | call hidle hshared hops' | retry hnew hidle hshared hops'
    | shutdown hcontrol hidle hshared hops' | tick hshared hops' =>
      rw [hshared]
      exact hstarted.congr rfl rfl

/-- A request times out while another one is pending, and the policy answers both failures
with a restart. -/
def twoFailuresSchedule : List ClientAction :=
  invokeSchedule 1 ++ submitSchedule ++ [.exec .submit {}] ++ publishSchedule ++ [.tick 1] ++
    List.replicate 15 (.exec .watchdog { decision := some ⟨.restart, 5⟩ })

theorem recoveredOnce_twoFailures :
    ∃ r, (rpcClient .eagerSession).Reach Machine.Always r ∧ r.shared.restarts = [1] ∧
      r.shared.requestStore = [] ∧ r.shared.RecoveredOnce := by
  obtain ⟨r, hreach, hrestarts, hstore⟩ :=
    (rpcClient .eagerSession).exists_reach twoFailuresSchedule
    (P := fun r => r.shared.restarts = [1] ∧ r.shared.requestStore = []) (by decide +kernel)
  exact ⟨r, hreach, hrestarts, hstore, recoveredOnce_of_reach hreach⟩

end MemRpc
