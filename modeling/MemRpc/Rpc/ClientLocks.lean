import MemRpc.Rpc.ClientMoves

/-!
# The mutexes of the client

The operations of a component stay on the threads that run it (`OnThread`). A thread
executes recovery functions between its `lock` and its `unlock` only (`Guarded`), so the
live session changes under the lifecycle mutex only. Under it, requests are taken out of
the store only when no session is live, and a session that is closed for a recovery or a
death is closed right before that (`Ordered`). `sessionMutex_` is held exactly while the
submit thread is inside `TryPushRequest`, and a session is live then.

## Main results

* `onThread_of_reach`: which thread executes what.
* `LockInv.of_reach`: the discipline of the two mutexes.
-/

namespace MemRpc

open Concurrency RpcClient

variable {mode : ClientInitMode} {t : ClientThread} {answer : ClientAnswer}
  {s s' : RpcClient} {r r' : ClientRuntime} {a : ClientAction} {next rest : List ClientOp}

/-! ## Threads -/

/-- The threads that make public calls. -/
def ClientThread.isCaller : ClientThread → Bool
  | .external _ | .retrier _ => true
  | _ => false

def ClientThread.isRetrier : ClientThread → Bool
  | .retrier _ => true
  | _ => false

def Waiter.OnThread (t : ClientThread) : Waiter → Prop
  | .submit _ _ => t = .submit
  | .retry _ _ => t.isRetrier = true

/-- Where an operation may stand. -/
def ClientOp.OnThread (t : ClientThread) : ClientOp → Prop
  | .submit _ => t = .submit
  | .wait o => o.waiter.OnThread t
  | .response _ => t = .response
  | .watchdog _ => t = .watchdog
  | .caller (.retryAwait _) | .caller (.retrySnapshot _ _) => t.isRetrier = true
  | .caller _ => t.isCaller = true
  | .shutdown _ => t = .shutdown
  | .lock | .unlock | .resolve _ _ | .recovery _ => True

theorem ClientThread.isCaller_of_isRetrier (h : t.isRetrier = true) : t.isCaller = true := by
  cases t <;> first | rfl | cases h

variable {o : RecoveryOp}

theorem RecoveryMove.onThread (hm : RecoveryMove s answer o s' next) :
    next.Forall (ClientOp.OnThread t) := by
  cases hm with
  | failPending => exact forall_flatMap fun p => by trivial
  | resolveAll => exact forall_map fun p => trivial
  | _ => trivial

variable {op : ClientOp}

theorem ClientOp.onThread_of_job {job : SubmitJob} (h : op.job? = some job) :
    op.OnThread .submit := by
  cases op with
  | wait o =>
    change o.waiter.OnThread .submit
    change o.waiter.job? = some job at h
    cases hw : o.waiter with
    | submit _ _ => rfl
    | retry _ _ =>
      rw [hw] at h
      cases h
  | submit o => rfl
  | _ => cases h

theorem SubmitMove.onThread {o : SubmitOp} (hm : SubmitMove s answer o s' next) :
    next.Forall (ClientOp.OnThread .submit) := by
  cases hm with
  | dequeue hqueue => exact ⟨rfl, rfl⟩
  | exit hqueue | published => trivial
  | pass credit ho hpush hdetour hop hpush' =>
    have hop' := ClientOp.onThread_of_job hop
    cases hdetour with
    | none => exact hop'
    | ensureLive | closeLive cause => exact ⟨trivial, trivial, trivial, hop'⟩
  | fail => exact ⟨trivial, trivial, trivial, trivial⟩
  | _ => exact rfl

theorem Waiter.onThread_resume {w : Waiter} (hw : w.OnThread t) (status : StatusCode) :
    (w.resume status).Forall (ClientOp.OnThread t) := by
  cases w with
  | submit job info =>
    rcases resume_submit job info status with h | h <;> rw [h] <;> exact hw
  | retry call st =>
    rcases resume_retry call st status with h | h <;> rw [h]
    · exact ClientThread.isCaller_of_isRetrier hw
    · trivial

theorem WaitOp.onThread {o : WaitOp} (h : o.exec s answer = some (s', next))
    (ho : o.waiter.OnThread t) : next.Forall (ClientOp.OnThread t) := by
  rcases WaitOp.exec_next h with ⟨o', rfl, hw⟩ | ⟨status, rfl⟩
  · change o'.waiter.OnThread t
    exact hw ▸ ho
  · exact o.waiter.onThread_resume ho status

theorem ReceiveMove.onThread {o : ResponseOp} (hm : ReceiveMove s o s' next) :
    next.Forall (ClientOp.OnThread .response) := by
  cases hm with
  | run => exact ⟨rfl, rfl⟩
  | exit | take => trivial
  | pass poll ho hl => exact forall_map fun o => rfl
  | badEntry | pollFailed => exact ⟨trivial, trivial, trivial⟩
  | takeFailed hfind hreply => exact ⟨trivial, trivial, trivial, trivial⟩

theorem WatchdogMove.onThread {o : WatchdogOp} (hm : WatchdogMove s o s' next) :
    next.Forall (ClientOp.OnThread .watchdog) := by
  cases hm with
  | run ho => exact ⟨rfl, rfl⟩
  | exit => trivial
  | pass ho hl => exact forall_map fun o => rfl
  | takeExpired => exact forall_flatMap fun p => ⟨trivial, trivial, trivial, trivial⟩
  | unhealthy | idle => exact ⟨trivial, trivial, trivial⟩

theorem CallMove.onThread {o : CallerOp} (hm : CallMove t s o s' next)
    (ho : (ClientOp.caller o).OnThread t) : next.Forall (ClientOp.OnThread t) := by
  cases hm with
  | skip => trivial
  | accept | refuse => exact ho
  | enqueue | reject => cases t <;> trivial
  | external | engineDied => exact ⟨trivial, trivial, trivial⟩
  | ready hready => exact ho
  | wait hstatus hwaiter =>
    change Waiter.OnThread t _
    rw [hwaiter]
    exact ho

theorem ShutdownMove.onThread {o : ShutdownOp} (hm : ShutdownMove s o s' next) :
    next.Forall (ClientOp.OnThread t) := by
  cases hm with
  | failAllPending => exact forall_flatMap fun p => ⟨trivial, trivial, trivial, trivial⟩
  | failQueued hfree => exact forall_map fun job => trivial
  | _ => trivial

theorem ClientOp.onThread_exec (h : op.exec t answer s = some (s', next))
    (hop : op.OnThread t) : next.Forall (ClientOp.OnThread t) := by
  cases op with
  | lock =>
    simp only [ClientOp.exec] at h
    split at h <;> cases h
    trivial
  | unlock | resolve call reply =>
    cases h
    trivial
  | recovery o => exact (RecoveryMove.of_exec h).onThread
  | submit o =>
    obtain rfl : t = .submit := hop
    exact (SubmitMove.of_exec h).onThread
  | wait o => exact WaitOp.onThread h hop
  | response o =>
    obtain rfl : t = .response := hop
    exact (ReceiveMove.of_exec h).onThread
  | watchdog o =>
    obtain rfl : t = .watchdog := hop
    exact (WatchdogMove.of_exec h).onThread
  | caller o => exact (CallMove.of_exec h).onThread hop
  | shutdown o => exact (ShutdownMove.of_exec h).onThread

theorem onThread_of_reach {ok : ClientRuntime → ClientAction → Prop}
    (h : (rpcClient mode).Reach ok r) : ∀ t, (r.ops t).Forall (ClientOp.OnThread t) := by
  refine Machine.Reach.invariant (I := fun r => ∀ t, (r.ops t).Forall (ClientOp.OnThread t))
    ?_ ?_ h
  · intro t
    cases t <;> first | rfl | trivial
  · intro r a r' hinv _ hs
    cases ClientMove.of_step hs with
    | @exec t answer op rest next hops hexec hops' =>
      obtain ⟨hop, -⟩ := (List.forall_cons _ _ _).mp (hops ▸ hinv t)
      have hnext := ClientOp.onThread_exec hexec hop
      exact fun u => hops' ▸ Pool.forall_update hinv hops hnext u
    | @call n entry hidle hshared hops' =>
      have hprogram : entry.program.Forall (ClientOp.OnThread (.external n)) := by
        cases entry with
        | init => exact ⟨trivial, trivial, trivial⟩
        | _ => exact rfl
      exact fun u => hops' ▸ Pool.forall_start hinv hprogram u
    | @retry k hnew hidle hshared hops' =>
      have hprogram : [ClientOp.caller .invoke].Forall (ClientOp.OnThread (.retrier k)) := rfl
      exact fun u => hops' ▸ Pool.forall_start hinv hprogram u
    | shutdown hcontrol hidle hshared hops' =>
      have hprogram : shutdownProgram.Forall (ClientOp.OnThread .shutdown) := by
        repeat' constructor
      exact fun u => hops' ▸ Pool.forall_start hinv hprogram u
    | tick hshared hops' => exact hops' ▸ hinv

/-! ## The lifecycle mutex -/

/-- The next function takes every request out of the store. -/
def Due : List ClientOp → Prop
  | .recovery (.resolveAll _) :: _ => True
  | .recovery (.handlePending pending) :: _ => pending ≠ .keepCurrentState
  | _ => False

namespace RecoveryOp

/-- What must hold where a function starts: `live` is the live session, and `rest` is what
follows under the mutex. -/
def Ready (live : ℕ) (rest : List ClientOp) : RecoveryOp → Prop
  | .closeIfMatches reason observed _ =>
    reason ≠ .idle → live = observed → observed ≠ 0 → Due rest
  | .resolveAll _ | .deathDecision _ _ | .openSession _ => live = 0
  | .handlePending pending => pending ≠ .keepCurrentState → live = 0
  | .applyDecision _ observed pending _ | .scheduleRecovery observed _ pending _ =>
    if pending = .keepCurrentState then live = 0 else live = observed
  | _ => True

/-- The sessions that may be live when a function is over, with all its calls. -/
def Leads (live live' : ℕ) : RecoveryOp → Prop
  | .closeIfMatches _ observed _ => live' = if live = observed then 0 else live
  | .closeLive _ => live' = 0
  | .applyFailure info _ _ => info.sessionId = live ∨ live' = live
  | .startRecovery .. | .handlePending _ | .resolveAll _ | .finalizeOpen _ | .openFailed ..
  | .enterNoSession | .enterIdleClosed | .enterTerminalClosed => live' = live
  | _ => True

end RecoveryOp

/-- Up to the next `unlock`, every function starts as it must if `live` is live now. -/
def Ordered : ℕ → List ClientOp → Prop
  | _, [] => True
  | _, .unlock :: _ => True
  | live, .recovery o :: rest => o.Ready live rest ∧ ∀ live', o.Leads live live' → Ordered live' rest
  | live, _ :: rest => Ordered live rest

/-- The functions of recovery stand between `lock` and `unlock`, and in the right order
whatever session is live at the `lock`. -/
def Guarded : Bool → List ClientOp → Prop
  | held, [] => held = false
  | held, .lock :: rest => held = false ∧ Guarded true rest ∧ ∀ live, Ordered live rest
  | held, .unlock :: rest => held = true ∧ Guarded false rest
  | held, .recovery _ :: rest => held = true ∧ Guarded true rest
  | held, .resolve _ _ :: rest => Guarded held rest
  | held, _ :: rest => held = false ∧ Guarded false rest

variable {ops : List ClientOp}

theorem Due.append (h : Due ops) (rest : List ClientOp) :
    Due (ops ++ rest) := by
  match ops with
  | .recovery (.resolveAll _) :: _ => trivial
  | .recovery (.handlePending _) :: _ => exact h

theorem RecoveryOp.Ready.append {live : ℕ}
    (h : o.Ready live ops) (rest : List ClientOp) : o.Ready live (ops ++ rest) := by
  cases o with
  | closeIfMatches reason observed cause => exact fun h1 h2 h3 => (h h1 h2 h3).append rest
  | _ => exact h

theorem Ordered.append {live : ℕ} (hg : Guarded true ops)
    (h : Ordered live ops) (rest : List ClientOp) : Ordered live (ops ++ rest) := by
  induction ops generalizing live with
  | nil => cases hg
  | cons op ops ih =>
    cases op with
    | unlock => trivial
    | recovery o => exact ⟨h.1.append rest, fun live' hl => ih hg.2 (h.2 live' hl)⟩
    | resolve call reply => exact ih hg h
    | _ => cases hg.1

theorem Guarded.append {held : Bool} (h : Guarded held ops)
    (hrest : Guarded false rest) : Guarded held (ops ++ rest) := by
  induction ops generalizing held with
  | nil =>
    obtain rfl : held = false := h
    exact hrest
  | cons op ops ih =>
    cases op with
    | lock => exact ⟨h.1, ih h.2.1, fun live => (h.2.2 live).append h.2.1 rest⟩
    | unlock | recovery => exact ⟨h.1, ih h.2⟩
    | resolve call reply => exact ih h
    | submit o | wait o | response o | watchdog o | caller o | shutdown o => exact ⟨h.1, ih h.2⟩

theorem Guarded.flatMap {α : Type*} {l : List α} {f : α → List ClientOp}
    (h : ∀ x, Guarded false (f x)) : Guarded false (l.flatMap f) := by
  induction l with
  | nil => rfl
  | cons x l ih => exact (h x).append ih

/-- The operations that a function under the mutex leaves behind. -/
def ClientOp.isLocked : ClientOp → Prop
  | .recovery _ | .resolve _ _ => True
  | _ => False

theorem Guarded.locked (hops : ops.Forall ClientOp.isLocked)
    (h : Guarded true rest) : Guarded true (ops ++ rest) := by
  induction ops with
  | nil => exact h
  | cons op ops ih =>
    obtain ⟨hop, htail⟩ := (List.forall_cons _ _ _).mp hops
    cases op with
    | recovery o => exact ⟨rfl, ih htail⟩
    | resolve call reply => exact ih htail
    | _ => cases hop

theorem RecoveryMove.locked (hm : RecoveryMove s answer o s' next) :
    next.Forall ClientOp.isLocked := by
  cases hm with
  | failPending => exact forall_flatMap fun p => by trivial
  | resolveAll => exact forall_map fun p => trivial
  | _ => trivial

theorem RecoveryOp.leads_self (h : o.conditional = true) (live : ℕ) :
    o.Leads live live := by
  cases o with
  | applyFailure info status cause => exact .inr rfl
  | handlePending | enterNoSession => rfl
  | handleIdle | handleExternal | handleDeath | applyDecision | closeIdle | scheduleRecovery
  | reconnect => trivial
  | _ => cases h

theorem Ordered.failPending {l : List PendingRequest} (hl : ∀ p ∈ l, p.info.sessionId ≠ 0)
    (h : Ordered 0 rest) :
    Ordered 0 (l.flatMap (failAndResolveLocked .peerDisconnected) ++ rest) := by
  induction l with
  | nil => exact h
  | cons p l ih =>
    obtain ⟨hp, hl⟩ := List.forall_mem_cons.mp hl
    refine ⟨trivial, fun live' hlive => ?_⟩
    -- the request was published on a session that is no longer live
    obtain rfl : live' = 0 := hlive.resolve_left hp
    exact ih hl

theorem Ordered.resolveAll {l : List PendingRequest} {live : ℕ} {status : StatusCode}
    (h : Ordered live rest) :
    Ordered live ((l.map fun p => ClientOp.resolve p.call { status }) ++ rest) := by
  induction l with
  | nil => exact h
  | cons p l ih => exact ih

/-- Executing a function under the mutex keeps the order. -/
theorem RecoveryMove.ordered (hm : RecoveryMove s answer o s' next)
    (h : Ordered s.session (.recovery o :: rest))
    (hstore : ∀ p ∈ s.requestStore, p.info.sessionId ≠ 0) : Ordered s'.session (next ++ rest) := by
  obtain ⟨hready, hleads⟩ := h
  cases hm with
  | skip hskip => exact hleads _ (RecoveryOp.leads_self hskip _)
  | failureDecided d hobs =>
    exact ⟨hobs.symm, fun live' _ => hleads live' (.inl hobs)⟩
  | idleDecided d hobs | external hobs => exact ⟨hobs.symm, fun live' _ => hleads live' trivial⟩
  | death hobs hlive hdead =>
    refine ⟨fun _ _ _ => trivial, ?_⟩
    rintro _ rfl
    rw [if_pos hobs.symm]
    refine ⟨rfl, ?_⟩
    rintro _ rfl
    exact ⟨rfl, fun live' _ => hleads live' trivial⟩
  | deathIgnored =>
    refine ⟨trivial, fun live' hlive => ?_⟩
    exact hleads live' trivial
  | deathDecided d => exact ⟨hready, fun live' _ => hleads live' trivial⟩
  | idleClose => exact ⟨trivial, fun live' _ => hleads live' trivial⟩
  | restart => exact ⟨hready, fun live' _ => hleads live' trivial⟩
  | closeIdle =>
    refine ⟨fun hidle => absurd rfl hidle, fun _ _ => ⟨trivial, fun live' _ => ?_⟩⟩
    exact hleads live' trivial
  | @schedule observed delayMs pending cause =>
    refine ⟨trivial, ?_⟩
    rintro _ rfl
    by_cases hkeep : pending = .keepCurrentState
    · subst hkeep
      have hnone : s.session = 0 := hready
      refine ⟨fun _ hobs hlive => absurd (hobs.symm.trans hnone) hlive, fun live₁ _ => ?_⟩
      exact ⟨fun hk => absurd rfl hk,
        fun _ _ => ⟨trivial, fun live' _ => hleads live' trivial⟩⟩
    · have hobs : s.session = observed := by simpa [RecoveryOp.Ready, hkeep] using hready
      refine ⟨fun _ _ _ => hkeep, ?_⟩
      rintro _ rfl
      rw [if_pos hobs]
      exact ⟨fun _ => rfl, fun _ _ => ⟨trivial, fun live' _ => hleads live' trivial⟩⟩
  | start => exact hleads _ rfl
  | close hfree hobs hlive => exact hleads 0 (if_pos hobs).symm
  | @stale reason observed cause hobs =>
    refine hleads _ ?_
    by_cases hlive : s.session = observed
    · exact (hlive.trans (hobs hlive)).trans (if_pos hlive).symm
    · exact (if_neg hlive).symm
  | closeLive hfree hlive => exact hleads 0 rfl
  | noneLive hnone => exact hleads _ hnone
  | failPending =>
    have hnone : s.session = 0 := hready (by simp)
    rw [show ({ s with requestStore := [] } : RpcClient).session = 0 from hnone]
    exact .failPending hstore (hnone ▸ hleads _ rfl)
  | disconnectPending =>
    refine ⟨hready (by simp), ?_⟩
    rintro _ rfl
    exact hleads _ rfl
  | resolveAll => exact .resolveAll (hleads _ rfl)
  | reconnect => exact ⟨trivial, fun live' _ => hleads live' trivial⟩
  | ensured hstatus => exact hleads _ trivial
  | ensureOpen hcontrol hnone => exact ⟨hnone, fun live' _ => hleads live' trivial⟩
  | opened | openRefused => exact ⟨trivial, fun live' _ => hleads live' trivial⟩
  | finalize | openFailed | enterNoSession | enterIdleClosed | enterTerminalClosed =>
    exact hleads _ rfl

/-! ## The operations outside the mutex -/

/-- One function under the mutex that asks for nothing. -/
theorem Guarded.single (ho : ∀ live, o.Ready live [.unlock]) :
    Guarded false [.lock, .recovery o, .unlock] :=
  ⟨rfl, ⟨rfl, rfl, rfl⟩, fun live => ⟨ho live, fun _ _ => trivial⟩⟩

theorem Guarded.failAndResolve (info : PendingInfo) (status : StatusCode) (cause : Option ℕ)
    (call : ℕ) : Guarded false (failAndResolve info status cause call) := by
  have hlocked : Guarded false [.lock, .recovery (.applyFailure info status cause), .unlock] :=
    .single fun _ => trivial
  exact hlocked.append rfl

theorem Guarded.detour {detour : List ClientOp} (h : Detour detour) : Guarded false detour := by
  cases h with
  | none => rfl
  | ensureLive | closeLive => exact .single fun _ => trivial

theorem Guarded.map {α : Type*} {l : List α} {f : α → ClientOp} (h : ∀ x, Guarded false [f x]) :
    Guarded false (l.map f) := by
  induction l with
  | nil => rfl
  | cons x l ih => exact (h x).append ih

theorem ClientOp.guarded_of_job {job : SubmitJob} (h : op.job? = some job) :
    Guarded false [op] := by
  cases op with
  | submit o | wait o => exact ⟨rfl, rfl⟩
  | _ => cases h

theorem SubmitMove.guarded {o : SubmitOp} (hm : SubmitMove s answer o s' next) :
    Guarded false next := by
  cases hm with
  | dequeue hqueue => exact ⟨rfl, rfl, rfl⟩
  | exit hqueue | published => rfl
  | pass credit ho hpush hdetour hop hpush' =>
    exact (Guarded.detour hdetour).append (ClientOp.guarded_of_job hop)
  | fail => exact .failAndResolve _ _ _ _
  | _ => exact ⟨rfl, rfl⟩

theorem WaitOp.guarded {o : WaitOp} (h : o.exec s answer = some (s', next)) :
    Guarded false next := by
  rcases WaitOp.exec_next h with ⟨o', rfl, -⟩ | ⟨status, rfl⟩
  · exact ⟨rfl, rfl⟩
  · cases o.waiter with
    | submit job info =>
      rcases Waiter.resume_submit job info status with h | h <;> rw [h] <;> exact ⟨rfl, rfl⟩
    | retry call st =>
      rcases Waiter.resume_retry call st status with h | h <;> rw [h]
      · exact ⟨rfl, rfl⟩
      · rfl

theorem ReceiveMove.guarded {o : ResponseOp} (hm : ReceiveMove s o s' next) :
    Guarded false next := by
  cases hm with
  | run => exact ⟨rfl, rfl, rfl⟩
  | exit | take => rfl
  | pass poll ho hl => exact .map fun o => ⟨rfl, rfl⟩
  | badEntry | pollFailed => exact .single fun _ => trivial
  | takeFailed hfind hreply => exact ⟨rfl, ⟨rfl, rfl, rfl⟩, fun _ => ⟨trivial, fun _ _ => trivial⟩⟩

theorem WatchdogMove.guarded {o : WatchdogOp} (hm : WatchdogMove s o s' next) :
    Guarded false next := by
  cases hm with
  | run ho => exact ⟨rfl, rfl, rfl⟩
  | exit => rfl
  | pass ho hl => exact .map fun o => ⟨rfl, rfl⟩
  | takeExpired => exact .flatMap fun p => .failAndResolve _ _ _ _
  | unhealthy | idle => exact .single fun _ => trivial

theorem CallMove.guarded {o : CallerOp} (hm : CallMove t s o s' next) : Guarded false next := by
  cases hm with
  | skip => rfl
  | enqueue | reject => cases t <;> first | rfl | exact ⟨rfl, rfl⟩
  | external | engineDied => exact .single fun _ => trivial
  | accept hfree hopen | refuse hfree hclosed | ready hready | wait hstatus hwaiter =>
    exact ⟨rfl, rfl⟩

theorem ShutdownMove.guarded {o : ShutdownOp} (hm : ShutdownMove s o s' next) :
    Guarded false next := by
  cases hm with
  | failAllPending => exact .flatMap fun p => .failAndResolve _ _ _ _
  | failQueued hfree => exact .map fun job => rfl
  | _ => rfl

/-- The operations that are executed without the mutex. -/
def ClientOp.isPlain : ClientOp → Bool
  | .lock | .unlock | .resolve _ _ | .recovery _ => false
  | _ => true

/-- What an operation outside the mutex leaves to do takes the mutex and gives it back. -/
theorem ClientOp.guarded_exec (hop : op.isPlain = true)
    (h : op.exec t answer s = some (s', next)) : Guarded false next := by
  cases op with
  | submit o => exact (SubmitMove.of_exec h).guarded
  | wait o => exact WaitOp.guarded h
  | response o => exact (ReceiveMove.of_exec h).guarded
  | watchdog o => exact (WatchdogMove.of_exec h).guarded
  | caller o => exact (CallMove.of_exec h).guarded
  | shutdown o => exact (ShutdownMove.of_exec h).guarded
  | _ => cases hop

/-- Whether another thread holds the mutex is not changed by a step. -/
theorem ClientOp.mutex_exec {u : ClientThread}
    (hg : Guarded (decide (s.lifecycleMutex = some t)) (op :: rest))
    (h : op.exec t answer s = some (s', next)) (hut : u ≠ t) :
    s'.lifecycleMutex = some u ↔ s.lifecycleMutex = some u := by
  cases op with
  | lock =>
    obtain ⟨hfree, hmutex, -⟩ := lock_exec h
    simp [hfree, hmutex, Ne.symm hut]
  | unlock =>
    have hheld : s.lifecycleMutex = some t := of_decide_eq_true hg.1
    obtain ⟨hmutex, -⟩ := unlock_exec h
    simp [hheld, hmutex, Ne.symm hut]
  | _ => rw [(framed h).lifecycleMutex nofun nofun]

/-! ## The session mutex -/

/-- `sessionMutex_` is held while the submit thread is inside `TryPushRequest`, and the
session it pushes to is live. -/
structure PushInv (r : ClientRuntime) : Prop where
  mutex : r.shared.sessionMutex = (r.ops .submit).head?.any ClientOp.pushing
  tail : (r.ops .submit).tail.Forall fun op => op.pushing = false
  live : r.shared.sessionMutex = true → r.shared.session ≠ 0

theorem RecoveryMove.session (hm : RecoveryMove s answer o s' next)
    (hmutex : s.sessionMutex = true) : s'.session = s.session := by
  cases hm with
  | close hfree | closeLive hfree | opened hfree =>
    rw [hfree] at hmutex
    cases hmutex
  | _ => rfl

/-- No session is opened or closed while the submit thread holds the session mutex. -/
theorem ClientOp.session_exec (h : op.exec t answer s = some (s', next))
    (hmutex : s.sessionMutex = true) : s'.session = s.session := by
  cases op with
  | recovery o => exact (RecoveryMove.of_exec h).session hmutex
  | _ => exact (framed h).session nofun

theorem Waiter.pushing_resume (w : Waiter) (status : StatusCode) :
    (w.resume status).Forall fun op => op.pushing = false := by
  cases w with
  | submit job info =>
    rcases resume_submit job info status with h | h <;> rw [h] <;> exact rfl
  | retry call st => rcases resume_retry call st status with h | h <;> rw [h] <;> trivial

/-- What the submit thread executes on behalf of others does not enter `TryPushRequest`. -/
theorem ClientOp.pushing_exec (hop : ∀ o, op ≠ .submit o)
    (hthread : op.OnThread .submit) (h : op.exec .submit answer s = some (s', next)) :
    next.Forall fun o => o.pushing = false := by
  cases op with
  | lock =>
    simp only [ClientOp.exec] at h
    split at h <;> cases h
    trivial
  | unlock | resolve call reply =>
    cases h
    trivial
  | recovery o =>
    refine List.Forall.imp ?_ (RecoveryMove.of_exec h).locked
    intro o' ho'
    cases o' <;> first | rfl | cases ho'
  | submit o => exact absurd rfl (hop o)
  | wait o =>
    rcases WaitOp.exec_next h with ⟨o', rfl, -⟩ | ⟨status, rfl⟩
    · exact rfl
    · exact o.waiter.pushing_resume status
  | caller o => cases o <;> cases hthread
  | response o | watchdog o | shutdown o => cases hthread

theorem head_pushing (h : ops.Forall fun op => op.pushing = false) :
    ops.head?.any ClientOp.pushing = false ∧ ops.tail.Forall fun op => op.pushing = false := by
  cases ops with
  | nil => exact ⟨rfl, trivial⟩
  | cons op ops => exact (List.forall_cons _ _ _).mp h

theorem SubmitMove.pushInv {o : SubmitOp} (hm : SubmitMove s answer o s' next)
    (hrest : rest.Forall fun op => op.pushing = false) (hmutex : s.sessionMutex = o.pushing) :
    s'.sessionMutex = (next ++ rest).head?.any ClientOp.pushing ∧
      (next ++ rest).tail.Forall fun op => op.pushing = false := by
  cases hm with
  | dequeue hqueue => exact ⟨hmutex, (List.forall_cons _ _ _).mpr ⟨rfl, hrest⟩⟩
  | exit hqueue =>
    obtain ⟨hhead, htail⟩ := head_pushing hrest
    exact ⟨hmutex.trans hhead.symm, htail⟩
  | @pass _ _ detour op credit ho hpush hdetour hop hpush' =>
    have hnext : (detour ++ [op]).Forall fun op => op.pushing = false := by
      cases hdetour with
      | none => exact hpush'
      | ensureLive | closeLive cause => exact ⟨rfl, rfl, rfl, hpush'⟩
    obtain ⟨hhead, htail⟩ := head_pushing (List.forall_append.mpr ⟨hnext, hrest⟩)
    exact ⟨(hmutex.trans hpush).trans hhead.symm, htail⟩
  | published =>
    obtain ⟨hhead, htail⟩ := head_pushing hrest
    exact ⟨hhead.symm, htail⟩
  | @fail job info status =>
    have hnext : (failAndResolve info status none job.call).Forall
        fun op => op.pushing = false := ⟨rfl, rfl, rfl, rfl⟩
    obtain ⟨hhead, htail⟩ := head_pushing (List.forall_append.mpr ⟨hnext, hrest⟩)
    exact ⟨hmutex.trans hhead.symm, htail⟩
  | enter hlive | unprepared | unput => exact ⟨rfl, hrest⟩
  | prepared | put | broke | refused => exact ⟨hmutex, hrest⟩

theorem SubmitMove.live {o : SubmitOp} (hm : SubmitMove s answer o s' next)
    (hlive : s.sessionMutex = true → s.session ≠ 0) (hmutex : s'.sessionMutex = true) :
    s'.session ≠ 0 := by
  cases hm with
  | enter hsession => exact hsession
  | unprepared | published | unput => cases hmutex
  | _ => exact hlive hmutex

theorem PushInv.frame (h : PushInv r) (hsubmit : r'.ops .submit = r.ops .submit)
    (hmutex : r'.shared.sessionMutex = r.shared.sessionMutex)
    (hlive : r.shared.sessionMutex = true → r'.shared.session = r.shared.session) :
    PushInv r' := by
  refine ⟨?_, hsubmit ▸ h.tail, fun hm => ?_⟩
  · rw [hmutex, hsubmit]
    exact h.mutex
  · rw [hmutex] at hm
    rw [hlive hm]
    exact h.live hm

theorem PushInv.step (h : PushInv r) (hthread : ∀ t, (r.ops t).Forall (ClientOp.OnThread t))
    (hs : (rpcClient mode).step r a = some r') : PushInv r' := by
  cases ClientMove.of_step hs with
  | @exec t answer op rest next hops hexec hops' =>
    have hop : op.OnThread t := ((List.forall_cons _ _ _).mp (hops ▸ hthread t)).1
    by_cases ht : t = .submit
    · subst ht
      have hmutex : r.shared.sessionMutex = op.pushing := by
        rw [h.mutex, hops]
        rfl
      have hrest : rest.Forall fun o => o.pushing = false := by
        have htail := h.tail
        rwa [hops] at htail
      by_cases hsubmit : ∃ o, op = .submit o
      · obtain ⟨o, rfl⟩ := hsubmit
        have hm := SubmitMove.of_exec hexec
        obtain ⟨hhead, htail⟩ := hm.pushInv hrest hmutex
        refine ⟨?_, ?_, hm.live h.live⟩
        · rw [hops', Function.update_self]
          exact hhead
        · rw [hops', Function.update_self]
          exact htail
      · have hother : ∀ o, op ≠ .submit o := fun o ho => hsubmit ⟨o, ho⟩
        have hsame := (ClientOp.framed hexec).sessionMutex hother
        have hfalse : op.pushing = false := by
          cases op with
          | submit o => exact absurd rfl (hother o)
          | _ => rfl
        have hnext := ClientOp.pushing_exec hother hop hexec
        obtain ⟨hhead, htail⟩ := head_pushing (List.forall_append.mpr ⟨hnext, hrest⟩)
        refine ⟨?_, ?_, fun hm => ?_⟩
        · rw [hops', Function.update_self, hsame, hmutex, hfalse]
          exact hhead.symm
        · rw [hops', Function.update_self]
          exact htail
        · rw [hsame, hmutex, hfalse] at hm
          cases hm
    · have hother : ∀ o, op ≠ .submit o := by
        rintro o rfl
        exact ht hop
      refine h.frame ?_ ((ClientOp.framed hexec).sessionMutex hother) (ClientOp.session_exec hexec)
      rw [hops', Function.update_of_ne (Ne.symm ht)]
  | call hidle hshared hops' | retry hnew hidle hshared hops'
  | shutdown hcontrol hidle hshared hops' =>
    refine h.frame ?_ (by rw [hshared]) (by rw [hshared]; exact fun _ => rfl)
    rw [hops', Function.update_of_ne (by simp)]
  | tick hshared hops' =>
    exact h.frame (by rw [hops']) (by rw [hshared]) (by rw [hshared]; exact fun _ => rfl)

theorem PushInv.of_reach {ok : ClientRuntime → ClientAction → Prop}
    (h : (rpcClient mode).Reach ok r) : PushInv r := by
  refine Machine.Reach.invariant_of_reach ?_ ?_ h
  · refine ⟨?_, trivial, fun hm => ?_⟩ <;> cases mode
    · rfl
    · rfl
    · cases hm
    · cases hm
  · exact fun r a r' hreach hinv _ hs => hinv.step (onThread_of_reach hreach) hs

/-! ## Both mutexes -/

/-- The discipline of the two mutexes. -/
structure LockInv (r : ClientRuntime) : Prop where
  guarded : ∀ t, Guarded (decide (r.shared.lifecycleMutex = some t)) (r.ops t)
  ordered : ∀ t, r.shared.lifecycleMutex = some t → Ordered r.shared.session (r.ops t)
  sessions : ∀ p ∈ r.shared.requestStore, p.info.sessionId ≠ 0

/-- A function under the mutex is executed by its holder. -/
theorem LockInv.holder (h : LockInv r) (hops : r.ops t = .recovery o :: rest) :
    r.shared.lifecycleMutex = some t := by
  have hg := h.guarded t
  rw [hops] at hg
  exact of_decide_eq_true hg.1

theorem LockInv.update (h : LockInv r) (hops' : r'.ops = Function.update r.ops t ops)
    (hothers : ∀ u, u ≠ t →
      (r'.shared.lifecycleMutex = some u ↔ r.shared.lifecycleMutex = some u))
    (hsession : r'.shared.session = r.shared.session ∨ r.shared.lifecycleMutex = some t)
    (hguarded : Guarded (decide (r'.shared.lifecycleMutex = some t)) ops)
    (hordered : r'.shared.lifecycleMutex = some t → Ordered r'.shared.session ops)
    (hsessions : ∀ p ∈ r'.shared.requestStore, p.info.sessionId ≠ 0) : LockInv r' := by
  refine ⟨fun u => ?_, fun u hu => ?_, hsessions⟩
  · by_cases hut : u = t
    · subst hut
      rw [hops', Function.update_self]
      exact hguarded
    · rw [hops', Function.update_of_ne hut, decide_eq_decide.mpr (hothers u hut)]
      exact h.guarded u
  · by_cases hut : u = t
    · subst hut
      rw [hops', Function.update_self]
      exact hordered hu
    · have hold := (hothers u hut).mp hu
      have hsame : r'.shared.session = r.shared.session :=
        hsession.resolve_right fun ht => hut (Option.some.inj (hold.symm.trans ht))
      rw [hops', Function.update_of_ne hut, hsame]
      exact h.ordered u hold

/-- A call starts outside the mutex. -/
theorem LockInv.start (h : LockInv r) (hidle : r.ops t = []) {program : List ClientOp}
    (hops' : r'.ops = Function.update r.ops t program) (hprogram : Guarded false program)
    (hmutex : r'.shared.lifecycleMutex = r.shared.lifecycleMutex)
    (hsession : r'.shared.session = r.shared.session)
    (hstore : r'.shared.requestStore = r.shared.requestStore) : LockInv r' := by
  have hfree : ¬ r.shared.lifecycleMutex = some t := by
    have hg := h.guarded t
    rw [hidle] at hg
    exact of_decide_eq_false hg
  refine h.update hops' (fun u _ => by rw [hmutex]) (.inl hsession) ?_
    (fun ht => absurd (hmutex ▸ ht) hfree) (hstore ▸ h.sessions)
  rw [hmutex, decide_eq_false hfree]
  exact hprogram

/-- While a request is pushed, the session it is pushed to is live. -/
theorem PushInv.session_ne_zero (h : PushInv r) {o : SubmitOp}
    (hops : r.ops .submit = .submit o :: rest) (ho : o.pushing = true) : r.shared.session ≠ 0 := by
  refine h.live ?_
  rw [h.mutex, hops]
  exact ho

theorem LockInv.exec (h : LockInv r) (hpush : PushInv r)
    (hthread : op.OnThread t) (hops : r.ops t = op :: rest)
    (hexec : op.exec t answer r.shared = some (r'.shared, next))
    (hops' : r'.ops = Function.update r.ops t (next ++ rest)) : LockInv r' := by
  have hg := h.guarded t
  rw [hops] at hg
  have hsessions : ∀ p ∈ r'.shared.requestStore, p.info.sessionId ≠ 0 := by
    rcases ClientOp.store hexec with hsub | ⟨job, info, rfl, hput⟩
    · exact fun p hp => h.sessions p (hsub hp)
    · obtain rfl : t = .submit := hthread
      intro p hp
      rw [hput, RpcClient.put, List.mem_append, List.mem_singleton] at hp
      rcases hp with hold | rfl
      · exact h.sessions p (List.mem_of_mem_filter hold)
      · exact hpush.session_ne_zero hops rfl
  have hframed := ClientOp.framed hexec
  have hothers : ∀ u, u ≠ t →
      (r'.shared.lifecycleMutex = some u ↔ r.shared.lifecycleMutex = some u) :=
    fun u hu => ClientOp.mutex_exec hg hexec hu
  cases op with
  | lock =>
    obtain ⟨-, hmutex, rfl⟩ := ClientOp.lock_exec hexec
    refine h.update hops' hothers (.inl (hframed.session nofun)) ?_ (fun _ => hg.2.2 _) hsessions
    rw [decide_eq_true hmutex]
    exact hg.2.1
  | unlock =>
    obtain ⟨hmutex, rfl⟩ := ClientOp.unlock_exec hexec
    refine h.update hops' hothers (.inl (hframed.session nofun)) ?_ (fun ht => ?_) hsessions
    · rw [hmutex]
      exact hg.2
    · rw [hmutex] at ht
      cases ht
  | resolve call reply =>
    obtain rfl : [] = next := congrArg Prod.snd (Option.some.inj hexec)
    have hmutex := hframed.lifecycleMutex nofun nofun
    have hsession := hframed.session nofun
    refine h.update hops' hothers (.inl hsession) ?_ (fun ht => ?_) hsessions
    · rw [hmutex]
      exact hg
    · have hord := h.ordered t (hmutex ▸ ht)
      rw [hops] at hord
      rw [hsession]
      exact hord
  | recovery o =>
    have hm := RecoveryMove.of_exec hexec
    have hheld := h.holder hops
    have hord := h.ordered t hheld
    rw [hops] at hord
    refine h.update hops' hothers (.inr hheld) ?_ (fun _ => hm.ordered hord h.sessions) hsessions
    rw [hframed.lifecycleMutex nofun nofun, decide_eq_true hheld]
    exact .locked hm.locked hg.2
  | submit o | wait o | response o | watchdog o | caller o | shutdown o =>
    have hmutex := hframed.lifecycleMutex nofun nofun
    have hfree := hg.1
    refine h.update hops' hothers (.inl (hframed.session nofun)) ?_ (fun ht => ?_) hsessions
    · rw [hmutex, hfree]
      exact (ClientOp.guarded_exec rfl hexec).append hg.2
    · rw [hmutex] at ht
      exact absurd ht (of_decide_eq_false hfree)

theorem ClientEntry.guarded (entry : ClientEntry) : Guarded false entry.program := by
  cases entry with
  | init => exact .single fun _ => trivial
  | _ => exact ⟨rfl, rfl⟩

theorem guarded_shutdownProgram : Guarded false shutdownProgram := by
  have hlocked : Guarded false [.lock, .recovery (.closeLive none),
      .recovery .enterTerminalClosed, .unlock] :=
    ⟨rfl, ⟨rfl, rfl, rfl, rfl⟩, fun _ => ⟨trivial, fun _ _ => ⟨trivial, fun _ _ => trivial⟩⟩⟩
  exact hlocked.append (.map fun o => ⟨rfl, rfl⟩)

theorem LockInv.step (h : LockInv r) (hpush : PushInv r)
    (hthread : ∀ t, (r.ops t).Forall (ClientOp.OnThread t))
    (hs : (rpcClient mode).step r a = some r') : LockInv r' := by
  cases ClientMove.of_step hs with
  | @exec t answer op rest next hops hexec hops' =>
    have hop : op.OnThread t := ((List.forall_cons _ _ _).mp (hops ▸ hthread t)).1
    exact h.exec hpush hop hops hexec hops'
  | call hidle hshared hops' =>
    exact h.start hidle hops' (ClientEntry.guarded _) (by rw [hshared]) (by rw [hshared])
      (by rw [hshared])
  | retry hnew hidle hshared hops' =>
    exact h.start hidle hops' ⟨rfl, rfl⟩ (by rw [hshared]) (by rw [hshared]) (by rw [hshared])
  | shutdown hcontrol hidle hshared hops' =>
    exact h.start hidle hops' guarded_shutdownProgram (by rw [hshared]) (by rw [hshared])
      (by rw [hshared])
  | tick hshared hops' =>
    refine ⟨?_, ?_, ?_⟩
    · rw [hshared, hops']
      exact h.guarded
    · rw [hshared, hops']
      exact h.ordered
    · rw [hshared]
      exact h.sessions

theorem LockInv.of_reach {ok : ClientRuntime → ClientAction → Prop}
    (h : (rpcClient mode).Reach ok r) : LockInv r := by
  refine Machine.Reach.invariant_of_reach ?_ ?_ h
  · refine ⟨fun t => ?_, fun t ht => ?_, fun p hp => ?_⟩ <;> cases mode
    · cases t <;> first | exact rfl | exact ⟨rfl, rfl⟩
    · cases t <;> first | exact rfl | exact ⟨rfl, rfl⟩
    · cases ht
    · cases ht
    · cases hp
    · cases hp
  · exact fun r a r' hreach hinv _ hs =>
      hinv.step (.of_reach hreach) (onThread_of_reach hreach) hs

/-- Requests are taken out of the store under the mutex only when no session is live. -/
theorem LockInv.session_eq_zero (h : LockInv r) (hops : r.ops t = ops)
    (hdue : Due ops) : r.shared.session = 0 := by
  match ops, hdue with
  | .recovery (.resolveAll _) :: _, _ => exact (hops ▸ h.ordered t (h.holder hops)).1
  | .recovery (.handlePending _) :: _, hkeep => exact (hops ▸ h.ordered t (h.holder hops)).1 hkeep

end MemRpc
