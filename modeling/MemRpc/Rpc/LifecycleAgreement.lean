import MemRpc.Rpc.Sections

/-!
# The lifecycle state and the live session

A client reports `Active` exactly while a session is live. Lifecycle transitions and closing
the session are separate operations, which every path of recovery combines in its own way,
under the mutex. Two paths leave the client `Active` without a session:
`CloseLiveSessionForTransportFailure` closes the session and no more, and an engine death
that the policy answers with `ManualShutdown` closes the session and then does nothing. In
every other path both are in step when the mutex is given back.

## Main results

* `lifecycleAgrees_of_reach`.
-/

namespace MemRpc

open Concurrency RpcClient

variable {mode : ClientInitMode} {answer : ClientAnswer} {s s' : RpcClient}
  {r : ClientRuntime} {next : List ClientOp} {observed : ℕ}

namespace RpcClient

/-- The lifecycle state is `Active` exactly if a session is live. -/
def LifecycleAgrees (s : RpcClient) : Prop := s.lifecycle = .active ↔ s.session ≠ 0

instance (s : RpcClient) : Decidable s.LifecycleAgrees :=
  inferInstanceAs (Decidable (_ ↔ _))

/-- While the client is open. -/
def AgreesOpen (s : RpcClient) : Prop := s.control = .opened → s.LifecycleAgrees

/-- The session that was observed is live or closed already. -/
def Observed (observed : ℕ) (s : RpcClient) : Prop := s.session = observed ∨ s.session = 0

theorem agrees_of_none (hnone : s.session = 0) (hactive : s.lifecycle ≠ .active) :
    s.AgreesOpen :=
  fun _ => ⟨fun h => absurd h hactive, fun h => absurd hnone h⟩

theorem AgreesOpen.of_closed (h : s.control ≠ .opened) : s.AgreesOpen :=
  fun hopen => absurd hopen h

theorem AgreesOpen.of_interferes (h : s.AgreesOpen) (hs : Interferes s s') : s'.AgreesOpen := by
  intro hopen
  unfold LifecycleAgrees
  rw [hs.lifecycle, hs.session]
  exact h (hs.control hopen)

theorem Observed.of_interferes (h : s.Observed observed) (hs : Interferes s s') :
    s'.Observed observed := by
  unfold Observed
  rw [hs.session]
  exact h

theorem beginSessionOpen_ne_active (s : RpcClient) : s.beginSessionOpen.lifecycle ≠ .active := by
  unfold beginSessionOpen
  split <;> simp

theorem handleSessionOpenFailure_ne_active (h : s.lifecycle ≠ .active) :
    s.handleSessionOpenFailure.lifecycle ≠ .active := by
  unfold handleSessionOpenFailure
  split
  · simp
  · exact h

theorem startRecovery_ne_active (s : RpcClient) (observed : ℕ) (delayMs : UInt32)
    (cause : Option ℕ) : (s.startRecovery observed delayMs cause).lifecycle ≠ .active := by
  unfold startRecovery
  split <;> simp

end RpcClient

/-! ## The discipline -/

/-- Steps that keep the lifecycle in step: a transport failure finds no live session, and
the policy does not answer the death of the engine with `ManualShutdown`. -/
def LifecycleKept (s : RpcClient) (answer : ClientAnswer) : ClientOp → Prop
  | .recovery (.closeLive _) => s.control = .opened → s.session = 0
  | .recovery (.deathDecision _ _) => ∀ d ∈ answer.decision, d.action ≠ .manualShutdown
  | _ => True

instance (s : RpcClient) (answer : ClientAnswer) :
    (op : ClientOp) → Decidable (LifecycleKept s answer op)
  | .recovery (.closeLive _) =>
    inferInstanceAs (Decidable (s.control = .opened → s.session = 0))
  | .recovery (.deathDecision ..) =>
    inferInstanceAs (Decidable (∀ d ∈ answer.decision, d.action ≠ .manualShutdown))
  | .recovery (.applyFailure ..) | .recovery (.handleIdle _) | .recovery (.handleExternal ..)
  | .recovery (.handleDeath ..) | .recovery (.applyDecision ..) | .recovery (.closeIdle ..)
  | .recovery (.scheduleRecovery ..) | .recovery (.startRecovery ..)
  | .recovery (.closeIfMatches ..) | .recovery (.handlePending _) | .recovery (.resolveAll _)
  | .recovery (.reconnect _) | .recovery (.ensureLive _) | .recovery (.openSession _)
  | .recovery (.finalizeOpen _) | .recovery (.openFailed ..) | .recovery .enterNoSession
  | .recovery .enterIdleClosed | .recovery .enterTerminalClosed
  | .lock | .unlock | .resolve .. | .submit _ | .wait _ | .response _ | .watchdog _ | .caller _
  | .shutdown _ => inferInstanceAs (Decidable True)

/-- What the functions under the mutex do to the lifecycle and the session. -/
def agreeDiscipline : Discipline where
  inv := AgreesOpen
  pre
    | .closeIfMatches _ observed _ | .startRecovery observed _ _
    | .scheduleRecovery observed _ _ _ | .closeIdle observed _ => Observed observed
    | .applyDecision d observed _ _ => fun s => s.Observed observed ∧
        (d.action = .ignore ∨ d.action = .manualShutdown → s.AgreesOpen)
    | .deathDecision _ _ | .enterNoSession | .enterIdleClosed => fun s => s.session = 0
    | .openSession _ | .openFailed _ _ => fun s => s.session = 0 ∧ s.lifecycle ≠ .active
    | .finalizeOpen _ => fun s => s.session ≠ 0
    | .resolveAll _ => fun _ => True
    | _ => AgreesOpen
  post
    | .startRecovery .. => fun s s' => s'.session = s.session ∧ s'.lifecycle ≠ .active
    | .closeIfMatches .. => fun s s' => s'.session = 0 ∧ s'.lifecycle = s.lifecycle
    | .resolveAll _ => Interferes
    | _ => fun _ => AgreesOpen

variable {o : RecoveryOp}

theorem agreeDiscipline_pre (hs : Interferes s s')
    (h : agreeDiscipline.pre o s) : agreeDiscipline.pre o s' := by
  cases o with
  | closeIfMatches | startRecovery | scheduleRecovery | closeIdle =>
    exact Observed.of_interferes h hs
  | applyDecision d observed pending cause =>
    exact ⟨h.1.of_interferes hs, fun hd => (h.2 hd).of_interferes hs⟩
  | deathDecision | enterNoSession | enterIdleClosed => exact hs.session.trans h
  | openSession | openFailed => exact ⟨hs.session.trans h.1, hs.lifecycle ▸ h.2⟩
  | finalizeOpen reports => exact fun hnone => h (hs.session.symm.trans hnone)
  | resolveAll status => trivial
  | _ => exact AgreesOpen.of_interferes h hs

theorem agreeDiscipline_post {s'' : RpcClient} (hs : Interferes s s')
    (h : agreeDiscipline.post o s' s'') : agreeDiscipline.post o s s'' := by
  cases o with
  | startRecovery observed delayMs cause => exact ⟨h.1.trans hs.session, h.2⟩
  | closeIfMatches reason observed cause => exact ⟨h.1, h.2.trans hs.lifecycle⟩
  | resolveAll status => exact hs.trans h
  | _ => exact h

/-- A function that has nothing to do. -/
theorem agreeDiscipline_skip (ho : o.conditional = true) (hskips : o.Skips s)
    (h : agreeDiscipline.pre o s) : agreeDiscipline.post o s s := by
  cases o with
  | closeIdle | scheduleRecovery => exact .of_closed hskips
  | applyDecision d observed pending cause => exact fun hopen => h.2 (hskips hopen) hopen
  | enterNoSession =>
    -- the client was in `NoSession` already, or is not open any more
    intro hopen
    have hlifecycle : s.lifecycle = .noSession := congrArg lifecycle (hskips hopen).symm
    exact agrees_of_none h (by simp [hlifecycle]) hopen
  | deathDecision | startRecovery | closeIfMatches | resolveAll | closeLive | openSession
  | finalizeOpen | openFailed | enterIdleClosed => cases ho
  | _ => exact h

theorem agreeDiscipline_sound (hexec : o.exec s answer = some (s', next))
    (hok : LifecycleKept s answer (.recovery o))
    (hterminal : o = .enterTerminalClosed → s.control ≠ .opened) (h : agreeDiscipline.pre o s) :
    agreeDiscipline.contract.Meets (agreeDiscipline.post o s) next s' := by
  cases RecoveryMove.of_exec hexec with
  | skip ho => exact agreeDiscipline_skip ho (RecoveryOp.skips_of_exec hexec) h
  | failureDecided d hobs | idleDecided d hobs =>
    exact ⟨⟨.inl hobs.symm, fun _ => h⟩, fun _ hpost => hpost⟩
  | external hobs => exact ⟨.inl hobs.symm, fun _ hpost => hpost⟩
  | death hobs hlive hdead =>
    refine ⟨.inl hobs.symm, fun s₁ h₁ => ⟨trivial, fun s₂ h₂ => ⟨?_, fun _ h₃ => h₃⟩⟩⟩
    exact h₂.session.trans h₁.1
  | deathIgnored => exact ⟨h, fun _ hpost => hpost⟩
  | deathDecided d =>
    obtain ⟨hd, hignore⟩ := RecoveryOp.deathDecided_exec hexec
    exact ⟨⟨.inr h, fun hskip => absurd hskip (not_or.mpr ⟨hignore, hok d hd⟩)⟩,
      fun _ hpost => hpost⟩
  | idleClose | restart => exact ⟨h.1, fun _ hpost => hpost⟩
  | closeIdle => exact ⟨h, fun s₁ h₁ => ⟨h₁.1, fun _ h₂ => h₂⟩⟩
  | schedule =>
    refine ⟨h, fun s₁ h₁ => ⟨?_, fun s₂ h₂ => ⟨?_, fun s₃ h₃ => ⟨h₃, fun _ h₄ => h₄⟩⟩⟩⟩
    · change s₁.session = _ ∨ s₁.session = 0
      rw [h₁.1]
      exact h
    · exact agrees_of_none h₂.1 (h₂.2 ▸ h₁.2)
  | start => exact ⟨rfl, startRecovery_ne_active _ _ _ _⟩
  | close hfree hobs hlive => exact ⟨rfl, rfl⟩
  | stale hobs => exact ⟨h.elim (fun hs => hs.trans (hobs hs)) id, rfl⟩
  | closeLive hfree hlive => exact .of_closed fun hopen => hlive (hok hopen)
  | noneLive hnone => exact h
  | failPending =>
    refine Contract.meets_flatMap _ (fun p _ s₁ h₁ => ?_) h
    exact ⟨h₁, fun s₂ h₂ => ⟨trivial, fun s₃ h₃ => AgreesOpen.of_interferes h₂ h₃⟩⟩
  | disconnectPending => exact ⟨trivial, fun s₁ h₁ => AgreesOpen.of_interferes h h₁⟩
  | resolveAll => exact agreeDiscipline.meets_resolveAll s _
  | reconnect => exact ⟨h, fun _ hpost => hpost⟩
  | ensured hstatus => exact h
  | ensureOpen hcontrol hnone =>
    exact ⟨⟨hnone, beginSessionOpen_ne_active s⟩, fun _ hpost => hpost⟩
  | opened hfree => exact ⟨Nat.succ_ne_zero _, fun _ hpost => hpost⟩
  | openRefused => exact ⟨h, fun _ hpost => hpost⟩
  | finalize => exact fun _ => ⟨fun _ => h, fun _ => rfl⟩
  | openFailed => exact agrees_of_none h.1 (handleSessionOpenFailure_ne_active h.2)
  | enterNoSession | enterIdleClosed => exact agrees_of_none h (by simp [enter])
  | enterTerminalClosed => exact .of_closed (hterminal rfl)

theorem agreeDiscipline_lawful : agreeDiscipline.Lawful LifecycleKept where
  inv hs h := AgreesOpen.of_interferes h hs
  pre := agreeDiscipline_pre
  post := agreeDiscipline_post
  enter {o} s ho h := by cases o <;> first | exact h | cases ho
  leave {o} s s' ho h := by cases o <;> first | exact h | cases ho
  terminal h := h
  closed h := h
  sound := agreeDiscipline_sound

/-! ## Whole runs -/

/-- In every run whose steps keep the lifecycle in step, an open client whose mutex is free
is `Active` exactly if a session is live. -/
theorem lifecycleAgrees_of_reach (h : (rpcClient mode).Reach (NextOp LifecycleKept) r)
    (hfree : r.shared.lifecycleMutex = none) (hopen : r.shared.control = .opened) :
    r.shared.LifecycleAgrees := by
  refine (agreeDiscipline_lawful.of_reach ?_ h).free hfree hopen
  intro _
  cases mode <;> decide

/-- An engine death that the policy answers with a restart after a delay. -/
def restartedDeathSchedule : List ClientAction :=
  [.call 0 (.engineDied 1), .exec (.external 0) {}, .exec (.external 0) {}] ++
    List.replicate 11 (.exec (.external 0) { decision := some ⟨.restart, 5⟩ })

theorem lifecycleAgrees_restartedDeath :
    ∃ r, (rpcClient .eagerSession).Reach (NextOp LifecycleKept) r ∧
      r.shared.lifecycleMutex = none ∧ r.shared.control = .opened ∧
      r.shared.lifecycle = .cooldown ∧ r.shared.LifecycleAgrees := by
  obtain ⟨r, hreach, hfree, hopen, hlifecycle⟩ :=
    (rpcClient .eagerSession).exists_reachOk (NextOp LifecycleKept) restartedDeathSchedule
    (P := fun r => r.shared.lifecycleMutex = none ∧ r.shared.control = .opened ∧
      r.shared.lifecycle = .cooldown) (by decide +kernel)
  exact ⟨r, hreach, hfree, hopen, hlifecycle, lifecycleAgrees_of_reach hreach hfree hopen⟩

/-- The push of a request finds that the peer has disconnected. -/
def disconnectedPushSchedule : List ClientAction :=
  invokeSchedule 0 ++ submitSchedule ++
    List.replicate 6 (.exec .submit { pushStatus := .peerDisconnected })

/-- `CloseLiveSessionForTransportFailure` leaves the client `Active` without a session. -/
theorem not_lifecycleAgrees_of_transportFailure :
    ∃ r, (rpcClient .eagerSession).Reach Machine.Always r ∧ r.shared.lifecycleMutex = none ∧
      r.shared.control = .opened ∧ ¬ r.shared.LifecycleAgrees := by
  exact (rpcClient .eagerSession).exists_reach disconnectedPushSchedule (by decide +kernel)

-- so does a death notice that the policy answers with `ManualShutdown`
example : ((rpcClient .eagerSession).run (rpcClient .eagerSession).init
    ([.call 0 (.engineDied 1), .exec (.external 0) {}, .exec (.external 0) {}] ++
      List.replicate 6 (.exec (.external 0) { decision := some ⟨.manualShutdown, 0⟩ }))).any
      (fun r => r.shared.lifecycleMutex = none ∧ r.shared.control = .opened ∧
        ¬ r.shared.LifecycleAgrees) = true := by
  decide +kernel

end MemRpc
