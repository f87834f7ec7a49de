import MemRpc.Rpc.ClientMoves

/-!
# Failures of an old session

Every detector hands the session on which it saw a failure to the recovery, and
`lifecycleMutex_` holds no detector up: the session may be replaced before the recovery
looks. The recovery compares ids, so an operation that carries the right id is harmless.

Two detectors do not carry it. `DrainResponseRing` and `DeliverEvent` read the current id
after they popped the bad entry, and `CloseLiveSessionForTransportFailure` closes whatever
session is live when the poll on an eventfd has failed. `EvidenceCurrent` says that the
session was not replaced in between, and `staleIsolated_of_reach` that nothing else is
needed.
-/

namespace MemRpc

open Concurrency RpcClient

variable {mode : ClientInitMode} {t : ClientThread} {answer : ClientAnswer}
  {s s' : RpcClient} {r r' : ClientRuntime} {a : ClientAction} {next : List ClientOp}

/-- A session is closed or restarted only for failures observed on it. -/
def ClientEvent.Isolated : ClientEvent → Prop
  | .closed cause session | .restarted cause session => ∀ observed ∈ cause, session = observed
  | _ => True

instance (e : ClientEvent) : Decidable e.Isolated :=
  match e with
  | .closed cause _ | .restarted cause _ => inferInstanceAs (Decidable (∀ _ ∈ cause, _))
  | .pushed _ _ | .published _ _ | .resolved _ _ => inferInstanceAs (Decidable True)

/-- No failure of a session has closed or restarted another one. -/
def StaleIsolated (s : RpcClient) : Prop := ∀ e ∈ s.log, e.Isolated

instance (s : RpcClient) : Decidable (StaleIsolated s) :=
  List.decidableBAll _ _

/-- The session on which a bad entry or a failed poll was seen is still live when the
client acts on it, or none is. -/
def EvidenceCurrent (s : RpcClient) (_ : ClientAnswer) : ClientOp → Prop
  | .response (.observeDeath session) => s.session = session ∨ s.session = 0
  | .recovery (.closeLive cause) => s.session = 0 ∨ ∀ observed ∈ cause, s.session = observed
  | _ => True

instance (s : RpcClient) (answer : ClientAnswer) :
    (op : ClientOp) → Decidable (EvidenceCurrent s answer op)
  | .response (.observeDeath session) =>
    inferInstanceAs (Decidable (s.session = session ∨ s.session = 0))
  | .recovery (.closeLive cause) =>
    inferInstanceAs (Decidable (s.session = 0 ∨ ∀ observed ∈ cause, s.session = observed))
  | .response .run | .response (.drain _) | .response (.deliver ..)
  | .response (.resolveCompleted ..) | .response .pollSync | .response .poll
  | .recovery (.applyFailure ..) | .recovery (.handleIdle _) | .recovery (.handleExternal ..)
  | .recovery (.handleDeath ..) | .recovery (.deathDecision ..) | .recovery (.applyDecision ..)
  | .recovery (.closeIdle ..) | .recovery (.scheduleRecovery ..) | .recovery (.startRecovery ..)
  | .recovery (.closeIfMatches ..) | .recovery (.handlePending _) | .recovery (.resolveAll _)
  | .recovery (.reconnect _) | .recovery (.ensureLive _) | .recovery (.openSession _)
  | .recovery (.finalizeOpen _) | .recovery (.openFailed ..) | .recovery .enterNoSession
  | .recovery .enterIdleClosed | .recovery .enterTerminalClosed
  | .lock | .unlock | .resolve .. | .submit _ | .wait _ | .watchdog _ | .caller _ | .shutdown _ =>
    inferInstanceAs (Decidable True)

/-- An operation that acts on evidence names the session of the evidence, or finds that it
has nothing to do. -/
def RecoveryOp.Faithful : RecoveryOp → Prop
  | .applyFailure info _ cause => ∀ observed ∈ cause, info.sessionId = observed
  | .handleDeath session dead cause =>
    ∀ observed ∈ cause, session = observed ∨ session = 0 ∨ dead = observed ∧ dead ≠ 0
  | .handleExternal session _ cause | .deathDecision session cause
  | .applyDecision _ session _ cause | .closeIdle session cause
  | .scheduleRecovery session _ _ cause | .startRecovery session _ cause
  | .closeIfMatches _ session cause => ∀ observed ∈ cause, session = observed
  | _ => True

def ClientOp.Faithful : ClientOp → Prop
  | .recovery o => o.Faithful
  | _ => True

/-! ## The functions under the mutex -/

theorem StaleIsolated.cons {e : ClientEvent} (hs : s'.log = e :: s.log) (he : e.Isolated)
    (hlog : StaleIsolated s) : StaleIsolated s' := by
  unfold StaleIsolated
  rw [hs]
  exact List.forall_mem_cons.mpr ⟨he, hlog⟩

theorem faithful_failAndResolveLocked (status : StatusCode) (p : PendingRequest) :
    (failAndResolveLocked status p).Forall ClientOp.Faithful :=
  ⟨fun _ hc => Option.some.inj hc, trivial⟩

/-- A faithful function calls faithful ones. -/
theorem RecoveryMove.faithful {o : RecoveryOp} (hm : RecoveryMove s answer o s' next)
    (ho : o.Faithful) : next.Forall ClientOp.Faithful := by
  cases hm with
  | failureDecided d hobs | external hobs | restart | idleClose | deathDecided d => exact ho
  | idleDecided d hobs => exact fun _ hnone => absurd hnone (Option.not_mem_none _)
  | @death session dead cause hobs hlive hdead =>
    -- the notice was not ignored, so it is one of the observed session
    have hsession : ∀ observed ∈ cause, session = observed := by
      intro observed hc
      rcases ho observed hc with h | h | ⟨h, hdead0⟩
      · exact h
      · exact absurd h hlive
      · exact (hdead.resolve_left hdead0).symm.trans h
    exact ⟨hsession, trivial, hsession⟩
  | schedule => exact ⟨ho, ho, trivial, trivial⟩
  | closeIdle => exact ⟨ho, trivial⟩
  | failPending => exact forall_flatMap fun p => faithful_failAndResolveLocked _ p
  | resolveAll => exact forall_map fun p => trivial
  | _ => trivial

/-- A faithful function closes and restarts the session of its evidence only. -/
theorem RecoveryMove.staleIsolated {o : RecoveryOp} (hm : RecoveryMove s answer o s' next)
    (ho : o.Faithful) (hok : EvidenceCurrent s answer (.recovery o)) (hlog : StaleIsolated s) :
    StaleIsolated s' := by
  cases hm with
  | start => exact .cons rfl ho hlog
  | close hfree hobs hlive =>
    exact .cons rfl (fun observed hc => hobs.trans (ho observed hc)) hlog
  | closeLive hfree hlive => exact .cons rfl (hok.resolve_left hlive) hlog
  | _ => exact hlog

/-! ## The detectors -/

theorem faithful_handleEngineDeath {session dead : ℕ} {cause : Option ℕ}
    (h : ∀ observed ∈ cause, session = observed ∨ session = 0 ∨ dead = observed ∧ dead ≠ 0) :
    (handleEngineDeath session dead cause).Forall ClientOp.Faithful :=
  ⟨trivial, h, trivial⟩

theorem faithful_failAndResolve {info : PendingInfo} {status : StatusCode} {cause : Option ℕ}
    {call : ℕ} (h : ∀ observed ∈ cause, info.sessionId = observed) :
    (failAndResolve info status cause call).Forall ClientOp.Faithful :=
  ⟨trivial, h, trivial, trivial⟩

theorem SubmitMove.faithful {o : SubmitOp} (hm : SubmitMove s answer o s' next) :
    next.Forall ClientOp.Faithful := by
  cases hm with
  | @pass _ _ _ op credit ho hpush hdetour hop hpush' =>
    have hfaithful : op.Faithful := by
      cases op with
      | recovery o => cases hop
      | _ => trivial
    cases hdetour with
    | none => exact hfaithful
    | ensureLive | closeLive cause => exact ⟨trivial, trivial, trivial, hfaithful⟩
  | dequeue hqueue => exact ⟨trivial, trivial⟩
  | fail => exact faithful_failAndResolve fun _ hnone => absurd hnone (Option.not_mem_none _)
  | _ => trivial

theorem WaitOp.faithful {o : WaitOp} (h : o.exec s answer = some (s', next)) :
    next.Forall ClientOp.Faithful := by
  rcases WaitOp.exec_next h with ⟨o', rfl, -⟩ | ⟨status, rfl⟩
  · trivial
  · cases o.waiter <;> unfold Waiter.resume <;> dsimp only <;> split <;> trivial

theorem ReceiveMove.faithful {o : ResponseOp} (hm : ReceiveMove s o s' next)
    (hok : EvidenceCurrent s answer (.response o)) : next.Forall ClientOp.Faithful := by
  cases hm with
  | run => exact ⟨trivial, trivial⟩
  | pass poll ho hl => exact forall_map fun o => trivial
  | badEntry =>
    refine faithful_handleEngineDeath fun observed hc => ?_
    obtain rfl := Option.some.inj hc
    exact hok.imp_right .inl
  | pollFailed => exact faithful_handleEngineDeath fun _ hc => .inl (Option.some.inj hc)
  | takeFailed hfind hreply =>
    exact ⟨trivial, fun _ hc => Option.some.inj hc, trivial, trivial⟩
  | exit | take => trivial

theorem WatchdogMove.faithful {o : WatchdogOp} (hm : WatchdogMove s o s' next) :
    next.Forall ClientOp.Faithful := by
  cases hm with
  | run ho => exact ⟨trivial, trivial⟩
  | exit => trivial
  | pass ho hl => exact forall_map fun o => trivial
  | takeExpired =>
    exact forall_flatMap fun p => faithful_failAndResolve fun _ hc => Option.some.inj hc
  | unhealthy => exact ⟨trivial, fun _ hc => Option.some.inj hc, trivial⟩
  | idle => exact ⟨trivial, trivial, trivial⟩

theorem CallMove.faithful {o : CallerOp} (hm : CallMove t s o s' next) :
    next.Forall ClientOp.Faithful := by
  cases hm with
  | external => exact ⟨trivial, fun _ hnone => absurd hnone (Option.not_mem_none _), trivial⟩
  | engineDied =>
    refine faithful_handleEngineDeath fun observed hc => ?_
    split at hc
    · cases hc
    · rename_i hdead
      exact .inr (.inr ⟨Option.some.inj hc, hdead⟩)
  | enqueue | reject => cases t <;> trivial
  | _ => trivial

theorem ShutdownMove.faithful {o : ShutdownOp} (hm : ShutdownMove s o s' next) :
    next.Forall ClientOp.Faithful := by
  cases hm with
  | failAllPending =>
    exact forall_flatMap fun p => faithful_failAndResolve fun _ hc => Option.some.inj hc
  | failQueued hfree => exact forall_map fun job => trivial
  | _ => trivial

/-! ## Runs -/

/-- The functions that threads have still to run are faithful, and those that ran were. -/
structure StaleInv (r : ClientRuntime) : Prop where
  faithful : ∀ t, (r.ops t).Forall ClientOp.Faithful
  isolated : StaleIsolated r.shared

theorem StaleIsolated.resolveState (h : StaleIsolated s) (call : ℕ) (reply : RpcReply) :
    StaleIsolated (s.resolveState call reply) := by
  by_cases hready : (s.future call).isSome
  · simpa [StaleIsolated, RpcClient.resolveState, hready] using h
  · refine .cons (e := .resolved call reply) ?_ trivial h
    simp [RpcClient.resolveState, hready]

theorem SubmitMove.staleIsolated {o : SubmitOp} (hm : SubmitMove s answer o s' next)
    (h : StaleIsolated s) : StaleIsolated s' := by
  cases hm with
  | @published job info =>
    have hpushed : StaleIsolated { s with log := .pushed job.call s.session :: s.log } :=
      .cons rfl trivial h
    exact .cons (e := .published job.call s.session) rfl trivial hpushed
  | broke => exact .cons rfl trivial h
  | _ => exact h

theorem CallMove.staleIsolated {o : CallerOp} (hm : CallMove t s o s' next)
    (h : StaleIsolated s) : StaleIsolated s' := by
  cases hm with
  | reject => exact h.resolveState _ _
  | _ => exact h

/-- What one operation does about the evidence. -/
theorem ClientOp.stale {op : ClientOp} (h : op.exec t answer s = some (s', next))
    (hop : op.Faithful) (hok : EvidenceCurrent s answer op) (hlog : StaleIsolated s) :
    next.Forall ClientOp.Faithful ∧ StaleIsolated s' := by
  cases op with
  | lock =>
    simp only [ClientOp.exec] at h
    split at h <;> cases h
    exact ⟨trivial, hlog⟩
  | unlock =>
    cases h
    exact ⟨trivial, hlog⟩
  | resolve call reply =>
    cases h
    exact ⟨trivial, hlog.resolveState call reply⟩
  | recovery o =>
    have hm := RecoveryMove.of_exec h
    exact ⟨hm.faithful hop, hm.staleIsolated hop hok hlog⟩
  | submit o =>
    have hm := SubmitMove.of_exec h
    exact ⟨hm.faithful, hm.staleIsolated hlog⟩
  | wait o => exact ⟨WaitOp.faithful h, (WaitOp.exec_frame h).symm ▸ hlog⟩
  | response o =>
    refine ⟨(ReceiveMove.of_exec h).faithful hok, ?_⟩
    rw [ResponseOp.exec_frame h]
    exact hlog
  | watchdog o =>
    refine ⟨(WatchdogMove.of_exec h).faithful, ?_⟩
    rw [WatchdogOp.exec_frame h]
    exact hlog
  | caller o =>
    have hm := CallMove.of_exec h
    exact ⟨hm.faithful, hm.staleIsolated hlog⟩
  | shutdown o =>
    refine ⟨(ShutdownMove.of_exec h).faithful, ?_⟩
    rw [ShutdownOp.exec_frame h]
    exact hlog

theorem ClientEntry.faithful (entry : ClientEntry) :
    entry.program.Forall ClientOp.Faithful := by
  cases entry with
  | init => exact ⟨trivial, trivial, trivial⟩
  | _ => trivial

theorem faithful_shutdownProgram : shutdownProgram.Forall ClientOp.Faithful := by
  repeat' constructor

theorem StaleInv.step (h : StaleInv r) (hok : NextOp EvidenceCurrent r a)
    (hs : (rpcClient mode).step r a = some r') : StaleInv r' := by
  cases ClientMove.of_step hs with
  | @exec t answer op rest next hops hexec hops' =>
    obtain ⟨hop, -⟩ := (List.forall_cons _ _ _).mp (hops ▸ h.faithful t)
    obtain ⟨hnext, hlog⟩ := ClientOp.stale hexec hop (hok.of_ops hops) h.isolated
    exact ⟨fun u => hops' ▸ Pool.forall_update h.faithful hops hnext u, hlog⟩
  | call hidle hshared hops' =>
    exact ⟨fun u => hops' ▸ Pool.forall_start h.faithful (ClientEntry.faithful _) u,
      hshared ▸ h.isolated⟩
  | retry hnew hidle hshared hops' =>
    have hprogram : [ClientOp.caller .invoke].Forall ClientOp.Faithful := trivial
    exact ⟨fun u => hops' ▸ Pool.forall_start h.faithful hprogram u, hshared ▸ h.isolated⟩
  | shutdown hcontrol hidle hshared hops' =>
    exact ⟨fun u => hops' ▸ Pool.forall_start h.faithful faithful_shutdownProgram u,
      hshared ▸ h.isolated⟩
  | tick hshared hops' => exact ⟨hops' ▸ h.faithful, hshared ▸ h.isolated⟩

theorem StaleInv.init : StaleInv (rpcClient mode).init := by
  refine ⟨fun t => ?_, ?_⟩
  · cases t <;> trivial
  · cases mode <;> simp [rpcClient, RpcClient.initial, StaleIsolated]

/-- **Stale-session isolation**, in every run in which the session of a bad entry or of a
failed credit poll is not replaced before the client acts on it: failures observed on a
session never close or restart another one. -/
theorem staleIsolated_of_reach (h : (rpcClient mode).Reach (NextOp EvidenceCurrent) r) :
    StaleIsolated r.shared :=
  (Machine.Reach.invariant StaleInv.init (fun _ _ _ hi hok hs => hi.step hok hs) h).isolated

/-- An oversized entry of the first session is popped, the session is restarted by an
external request, and only then does the response thread read the current id. -/
def staleDeathSchedule : List ClientAction :=
  [.exec .response {}, .exec .response { popped := some .oversized }, .exec .response {},
    .call 0 (.requestExternalRecovery {})] ++
  List.replicate 13 (.exec (.external 0) {}) ++ List.replicate 4 (.exec .response {})

/-- The second session is closed for an entry of the first one. -/
theorem not_staleIsolated_of_badEntry :
    ∃ r, (rpcClient .eagerSession).Reach Machine.Always r ∧
      .closed (some 1) 2 ∈ r.shared.log ∧ ¬ StaleIsolated r.shared := by
  exact (rpcClient .eagerSession).exists_reach staleDeathSchedule (by decide +kernel)

/-- A run in which the entry and the read belong to one session, which is closed. -/
def badEntrySchedule : List ClientAction :=
  [.exec .response {}, .exec .response { popped := some .oversized }] ++
    List.replicate 5 (.exec .response {})

theorem staleIsolated_closed :
    ∃ r, (rpcClient .eagerSession).Reach (NextOp EvidenceCurrent) r ∧
      .closed (some 1) 1 ∈ r.shared.log ∧ StaleIsolated r.shared := by
  obtain ⟨r, hreach, hclosed⟩ :=
    (rpcClient .eagerSession).exists_reachOk (NextOp EvidenceCurrent) badEntrySchedule
    (P := fun r => .closed (some 1) 1 ∈ r.shared.log) (by decide +kernel)
  exact ⟨r, hreach, hclosed, staleIsolated_of_reach hreach⟩

end MemRpc
