import MemRpc.Lib.Contract
import MemRpc.Rpc.ClientFutures

/-!
# Critical sections of the lifecycle mutex

Recovery runs under `lifecycleMutex_`, one function after the other, while the threads that
do not hold the mutex go on: they can begin `Shutdown`, let time pass and write to the log,
but they neither open nor close a session and leave the lifecycle alone (`Interferes`).

A `Discipline` is an invariant of the mutex together with a contract of the functions under
it. If every function keeps its contract (`Discipline.Lawful`), the invariant holds whenever
the mutex is free, and inside a section every function starts as its contract says
(`Discipline.Lawful.of_reach`).

## Main definitions

* `Interferes`, `Outside`, `Discipline`.

## Main results

* `Discipline.Lawful.of_reach`.
-/

namespace MemRpc

open Concurrency RpcClient

variable {mode : ClientInitMode} {t u : ClientThread} {answer : ClientAnswer}
  {s s' s'' : RpcClient} {r r' : ClientRuntime} {a : ClientAction}
  {next rest ops : List ClientOp}

/-! ## What other threads do meanwhile -/

/-- The session that a recovery is started with. -/
def ClientEvent.restarted? : ClientEvent → Option ℕ
  | .restarted _ session => some session
  | _ => none

/-- The sessions with which `StartRecovery` was executed, newest first. -/
def RpcClient.restarts (s : RpcClient) : List ℕ := s.log.filterMap ClientEvent.restarted?

/-- What a thread can do without the mutex. -/
structure Interferes (s s' : RpcClient) : Prop where
  session : s'.session = s.session
  opened : s'.opened = s.opened
  lifecycle : s'.lifecycle = s.lifecycle
  cooldown : s'.cooldownUntilMs = s.cooldownUntilMs
  now : s.now ≤ s'.now
  control : s'.control = .opened → s.control = .opened
  restarts : s'.restarts = s.restarts

theorem Interferes.refl (s : RpcClient) : Interferes s s :=
  ⟨rfl, rfl, rfl, rfl, le_rfl, id, rfl⟩

theorem Interferes.trans (h : Interferes s s') (h' : Interferes s' s'') : Interferes s s'' :=
  ⟨h'.session.trans h.session, h'.opened.trans h.opened, h'.lifecycle.trans h.lifecycle,
    h'.cooldown.trans h.cooldown, h.now.trans h'.now, h.control ∘ h'.control,
    h'.restarts.trans h.restarts⟩

variable {op : ClientOp}

theorem ClientOp.restarts_exec (hop : ∀ o, op ≠ .recovery o)
    (h : op.exec t answer s = some (s', next)) : s'.restarts = s.restarts := by
  unfold restarts
  cases ClientOp.logged h with
  | nothing hlog => rw [hlog]
  | session he hlog => exact absurd rfl (hop _)
  | resolved hres hlog | pushed hlog => rw [hlog, List.filterMap_cons_none rfl]
  | published hqueue hlog =>
    rw [hlog, List.filterMap_cons_none rfl, List.filterMap_cons_none rfl]

/-- Everything but the functions under the mutex. -/
theorem ClientOp.interferes (hop : ∀ o, op ≠ .recovery o)
    (h : op.exec t answer s = some (s', next)) : Interferes s s' := by
  have hframed := framed h
  have hcontrol : s'.control = .opened → s.control = .opened := by
    rcases ClientOp.control h with hc | ⟨hc, -⟩ <;> rw [hc]
    · exact id
    · exact fun hopen => ApiLifecycleState.noConfusion hopen
  have hrest : s'.opened = s.opened ∧ s'.lifecycle = s.lifecycle ∧
      s'.cooldownUntilMs = s.cooldownUntilMs ∧ s'.now = s.now := by
    cases op with
    | lock =>
      simp only [ClientOp.exec] at h
      split at h <;> cases h
      exact ⟨rfl, rfl, rfl, rfl⟩
    | unlock | resolve call reply =>
      cases h
      exact ⟨rfl, rfl, rfl, rfl⟩
    | recovery o => exact absurd rfl (hop o)
    | submit o =>
      rw [SubmitOp.exec_frame h]
      exact ⟨rfl, rfl, rfl, rfl⟩
    | wait o =>
      rw [WaitOp.exec_frame h]
      exact ⟨rfl, rfl, rfl, rfl⟩
    | response o =>
      rw [ResponseOp.exec_frame h]
      exact ⟨rfl, rfl, rfl, rfl⟩
    | watchdog o =>
      rw [WatchdogOp.exec_frame h]
      exact ⟨rfl, rfl, rfl, rfl⟩
    | caller o =>
      rw [CallerOp.exec_frame h]
      exact ⟨rfl, rfl, rfl, rfl⟩
    | shutdown o =>
      rw [ShutdownOp.exec_frame h]
      exact ⟨rfl, rfl, rfl, rfl⟩
  obtain ⟨hopened, hlifecycle, hcooldown, hnow⟩ := hrest
  exact ⟨hframed.session hop, hopened, hlifecycle, hcooldown, hnow.ge, hcontrol,
    restarts_exec hop h⟩

/-! ## When a function has nothing to do -/

/-- Why a function under the mutex returned without doing anything. -/
def RecoveryOp.Skips (s : RpcClient) : RecoveryOp → Prop
  | .closeIdle .. | .scheduleRecovery .. => s.control ≠ .opened
  | .applyDecision d .. =>
    s.control = .opened → d.action = .ignore ∨ d.action = .manualShutdown
  | .enterNoSession => s.control = .opened → s.enter .noSession = s
  | _ => True

theorem RecoveryOp.skips_of_exec {o : RecoveryOp} (h : o.exec s answer = some (s, [])) :
    o.Skips s := by
  cases o with
  | closeIdle | scheduleRecovery =>
    intro hopen
    simp [RecoveryOp.exec, hopen] at h
  | applyDecision d observed pending cause =>
    intro hopen
    cases hd : d.action with
    | ignore => exact .inl rfl
    | manualShutdown => exact .inr rfl
    | _ => simp [RecoveryOp.exec, hopen, hd] at h
  | enterNoSession =>
    intro hopen
    simpa [RecoveryOp.exec, hopen] using h
  | _ => trivial

/-- The decision about the death of the engine that is applied. -/
theorem RecoveryOp.deathDecided_exec {observed observed' : ℕ} {cause cause' : Option ℕ}
    {d : RecoveryDecision} {pending : PendingRequestRecoveryAction}
    (h : (RecoveryOp.deathDecision observed cause).exec s answer =
      some (s', [.recovery (.applyDecision d observed' pending cause')])) :
    answer.decision = some d ∧ d.action ≠ .ignore := by
  simp only [RecoveryOp.exec] at h
  split at h
  · rename_i d' hd
    split at h
    · cases h
    · rename_i hignore
      cases h
      exact ⟨hd, hignore⟩
  · cases h

theorem RecoveryOp.idleClose_exec {observed observed' : ℕ} {cause cause' : Option ℕ}
    {d : RecoveryDecision} {pending : PendingRequestRecoveryAction}
    (h : (RecoveryOp.applyDecision d observed pending cause).exec s answer =
      some (s', [.recovery (.closeIdle observed' cause')])) : d.action = .idleClose := by
  simp only [RecoveryOp.exec] at h
  split at h
  · cases hd : d.action <;> simp [hd] at h ⊢
  · cases h

/-- A session is opened when no cooldown is running. -/
theorem RecoveryOp.ensureOpen_exec {reports reports' : Bool}
    (h : (RecoveryOp.ensureLive reports).exec s answer =
      some (s', [.recovery (.openSession reports')])) : s.cooldownUntilMs ≤ s.now := by
  simp only [RecoveryOp.exec] at h
  split at h
  · cases h
  · split at h
    · cases h
    · rename_i hcooldown
      exact Nat.le_of_not_lt hcooldown

/-! ## What a thread outside the mutex has to do -/

/-- The functions that sections consist of. -/
def RecoveryOp.isSection : RecoveryOp → Bool
  | .applyFailure .. | .handleIdle _ | .handleExternal .. | .handleDeath .. | .ensureLive _
  | .closeLive _ => true
  | _ => false

/-- Operations outside the mutex, and sections of one function. -/
inductive Outside : List ClientOp → Prop
  | nil : Outside []
  | plain {op : ClientOp} {rest : List ClientOp} (hop : op.isPlain = true) (h : Outside rest) :
      Outside (op :: rest)
  | resolve {call : ℕ} {reply : RpcReply} {rest : List ClientOp} (h : Outside rest) :
      Outside (.resolve call reply :: rest)
  | enter {o : RecoveryOp} {rest : List ClientOp} (ho : o.isSection = true) (h : Outside rest) :
      Outside (.lock :: .recovery o :: .unlock :: rest)

theorem Outside.append (h : Outside ops) (hrest : Outside rest) : Outside (ops ++ rest) := by
  induction h with
  | nil => exact hrest
  | plain hop _ ih => exact .plain hop ih
  | resolve _ ih => exact .resolve ih
  | enter ho _ ih => exact .enter ho ih

theorem Outside.flatMap {α : Type*} {l : List α} {f : α → List ClientOp}
    (h : ∀ x, Outside (f x)) : Outside (l.flatMap f) := by
  induction l with
  | nil => exact .nil
  | cons x l ih => exact (h x).append ih

theorem Outside.map {α : Type*} {l : List α} {f : α → ClientOp}
    (h : ∀ x, Outside [f x]) : Outside (l.map f) := by
  induction l with
  | nil => exact .nil
  | cons x l ih => exact (h x).append ih

theorem Outside.failAndResolve (info : PendingInfo) (status : StatusCode) (cause : Option ℕ)
    (call : ℕ) : Outside (failAndResolve info status cause call) :=
  .enter rfl (.resolve .nil)

theorem SubmitMove.outside {o : SubmitOp} (hm : SubmitMove s answer o s' next) :
    Outside next := by
  cases hm with
  | dequeue hqueue => exact .plain rfl (.plain rfl .nil)
  | exit hqueue | published => exact .nil
  | @pass _ job detour op credit ho hpush hdetour hop hpush' =>
    have hplain : op.isPlain = true := by
      cases op <;> first | rfl | cases hop
    cases hdetour with
    | none => exact .plain hplain .nil
    | ensureLive | closeLive => exact .enter rfl (.plain hplain .nil)
  | fail => exact .failAndResolve _ _ _ _
  | _ => exact .plain rfl .nil

theorem WaitOp.outside {o : WaitOp} (h : o.exec s answer = some (s', next)) : Outside next := by
  rcases WaitOp.exec_next h with ⟨o', rfl, -⟩ | ⟨status, rfl⟩
  · exact .plain rfl .nil
  · cases o.waiter with
    | submit job info =>
      rcases Waiter.resume_submit job info status with h | h <;> rw [h] <;> exact .plain rfl .nil
    | retry call st =>
      rcases Waiter.resume_retry call st status with h | h <;> rw [h]
      · exact .plain rfl .nil
      · exact .nil

theorem ReceiveMove.outside {o : ResponseOp} (hm : ReceiveMove s o s' next) : Outside next := by
  cases hm with
  | run => exact .plain rfl (.plain rfl .nil)
  | exit => exact .nil
  | take hfind hreply => exact .resolve .nil
  | pass poll ho hl => exact .map fun o => .plain rfl .nil
  | badEntry | pollFailed => exact .enter rfl .nil
  | takeFailed hfind hreply => exact .enter rfl (.resolve .nil)

theorem WatchdogMove.outside {o : WatchdogOp} (hm : WatchdogMove s o s' next) :
    Outside next := by
  cases hm with
  | run ho => exact .plain rfl (.plain rfl .nil)
  | exit => exact .nil
  | pass ho hl => exact .map fun o => .plain rfl .nil
  | takeExpired => exact .flatMap fun p => .failAndResolve _ _ _ _
  | unhealthy | idle => exact .enter rfl .nil

theorem CallMove.outside {o : CallerOp} (hm : CallMove t s o s' next) : Outside next := by
  cases hm with
  | skip => exact .nil
  | enqueue | reject => cases t <;> first | exact .nil | exact .plain rfl .nil
  | external | engineDied => exact .enter rfl .nil
  | accept | refuse | ready | wait => exact .plain rfl .nil

theorem ShutdownMove.outside {o : ShutdownOp} (hm : ShutdownMove s o s' next) :
    Outside next := by
  cases hm with
  | failAllPending => exact .flatMap fun p => .failAndResolve _ _ _ _
  | failQueued hfree => exact .map fun job => .resolve .nil
  | _ => exact .nil

theorem ClientOp.outside_exec (hop : op.isPlain = true)
    (h : op.exec t answer s = some (s', next)) : Outside next := by
  cases op with
  | submit o => exact (SubmitMove.of_exec h).outside
  | wait o => exact WaitOp.outside h
  | response o => exact (ReceiveMove.of_exec h).outside
  | watchdog o => exact (WatchdogMove.of_exec h).outside
  | caller o => exact (CallMove.of_exec h).outside
  | shutdown o => exact (ShutdownMove.of_exec h).outside
  | _ => cases hop

theorem ClientEntry.outside (entry : ClientEntry) : Outside entry.program := by
  cases entry with
  | init => exact .enter rfl .nil
  | _ => exact .plain rfl .nil

/-! ## `EnterTerminalClosed` -/

theorem Outside.not_terminal (h : Outside ops) : .recovery .enterTerminalClosed ∉ ops := by
  induction h with
  | nil => exact List.not_mem_nil
  | plain hop _ ih =>
    refine List.not_mem_cons_of_ne_of_not_mem ?_ ih
    rintro rfl
    cases hop
  | resolve _ ih => exact List.not_mem_cons_of_ne_of_not_mem (by simp) ih
  | @enter o rest ho _ ih =>
    have hne : RecoveryOp.enterTerminalClosed ≠ o := by
      rintro rfl
      cases ho
    simp [hne, ih]

theorem RecoveryMove.not_terminal {o : RecoveryOp} (hm : RecoveryMove s answer o s' next) :
    .recovery .enterTerminalClosed ∉ next := by
  cases hm with
  | failPending => simp [failAndResolveLocked]
  | _ => simp

theorem ClientOp.not_terminal_exec (h : op.exec t answer s = some (s', next)) :
    .recovery .enterTerminalClosed ∉ next := by
  cases op with
  | lock =>
    obtain ⟨-, -, rfl⟩ := lock_exec h
    exact List.not_mem_nil
  | unlock =>
    obtain ⟨-, rfl⟩ := unlock_exec h
    exact List.not_mem_nil
  | resolve call reply =>
    cases h
    exact List.not_mem_nil
  | recovery o => exact (RecoveryMove.of_exec h).not_terminal
  | submit o | wait o | response o | watchdog o | caller o | shutdown o =>
    exact (outside_exec rfl h).not_terminal

/-- Only `Shutdown` closes for good. -/
theorem control_of_terminal {ok : ClientRuntime → ClientAction → Prop}
    (h : (rpcClient mode).Reach ok r) :
    ∀ t, .recovery .enterTerminalClosed ∈ r.ops t → r.shared.control ≠ .opened := by
  refine Machine.Reach.invariant (I := fun r => ∀ t,
    .recovery .enterTerminalClosed ∈ r.ops t → r.shared.control ≠ .opened) ?_ ?_ h
  · intro t ht
    cases t <;> simp [rpcClient, initialOps] at ht
  · intro r a r' hinv _ hs t ht
    cases ClientMove.of_step hs with
    | exec hops hexec hops' =>
      rw [hops'] at ht
      rcases Pool.mem_update hops ht with hold | ⟨-, hnew⟩
      · rcases ClientOp.control hexec with hc | ⟨hc, -⟩ <;> rw [hc]
        · exact hinv t hold
        · exact ApiLifecycleState.noConfusion
      · exact absurd hnew (ClientOp.not_terminal_exec hexec)
    | call hidle hshared hops' =>
      rw [hshared]
      rcases Pool.mem_start (hops' ▸ ht) with hold | ⟨-, hnew⟩
      · exact hinv t hold
      · exact absurd hnew (ClientEntry.outside _).not_terminal
    | retry hnew hidle hshared hops' =>
      rw [hshared]
      rcases Pool.mem_start (hops' ▸ ht) with hold | ⟨-, hnew⟩
      · exact hinv t hold
      · exact absurd hnew (Outside.plain rfl .nil).not_terminal
    | shutdown hcontrol hidle hshared hops' =>
      rw [hshared]
      exact ApiLifecycleState.noConfusion
    | tick hshared hops' =>
      rw [hshared]
      exact hinv t (hops' ▸ ht)

/-! ## Disciplines -/

/-- An invariant of the mutex with a contract of the functions under it. -/
structure Discipline where
  inv : RpcClient → Prop
  pre : RecoveryOp → RpcClient → Prop
  post : RecoveryOp → RpcClient → RpcClient → Prop

namespace Discipline

variable {D : Discipline} {ok : RpcClient → ClientAnswer → ClientOp → Prop}

/-- Who takes the mutex finds the invariant, and who gives it back restores it. -/
def contract (D : Discipline) : Contract RpcClient ClientOp where
  pre
    | .recovery o => D.pre o
    | .unlock => D.inv
    | _ => fun _ => True
  post
    | .lock => fun _ s' => D.inv s'
    | .recovery o => D.post o
    | .resolve _ _ => Interferes
    | _ => fun _ _ => True

/-- `ResolveAllPending` only resolves futures. -/
theorem meets_resolveAll (D : Discipline) (s : RpcClient) (status : StatusCode) :
    D.contract.Meets (Interferes s) (s.requestStore.map fun p => .resolve p.call { status })
      { s with requestStore := [] } := by
  refine Contract.meets_map _ (fun p _ s₁ h₁ => ⟨trivial, fun s₂ h₂ => h₁.trans h₂⟩) ?_
  exact ⟨rfl, rfl, rfl, rfl, le_rfl, id, rfl⟩

/-- Every function under the mutex keeps its contract, in the steps that meet `ok`. -/
structure Lawful (D : Discipline) (ok : RpcClient → ClientAnswer → ClientOp → Prop) :
    Prop where
  inv : ∀ {s s'}, Interferes s s' → D.inv s → D.inv s'
  pre : ∀ {o s s'}, Interferes s s' → D.pre o s → D.pre o s'
  post : ∀ {o s s' s''}, Interferes s s' → D.post o s' s'' → D.post o s s''
  enter : ∀ {o s}, o.isSection = true → D.inv s → D.pre o s
  leave : ∀ {o s s'}, o.isSection = true → D.post o s s' → D.inv s'
  terminal : ∀ {s}, D.inv s → D.pre .enterTerminalClosed s
  closed : ∀ {s s'}, D.post .enterTerminalClosed s s' → D.inv s'
  sound : ∀ {o s answer s' next}, o.exec s answer = some (s', next) →
    ok s answer (.recovery o) → (o = .enterTerminalClosed → s.control ≠ .opened) → D.pre o s →
    D.contract.Meets (D.post o s) next s'

theorem Lawful.stable (hD : D.Lawful ok) (op : ClientOp) :
    D.contract.Stable Interferes op := by
  cases op with
  | recovery o => exact ⟨hD.pre, hD.post⟩
  | unlock => exact ⟨hD.inv, fun _ h => h⟩
  | lock => exact ⟨fun _ h => h, fun _ h => h⟩
  | resolve call reply => exact ⟨fun _ h => h, fun h h' => h.trans h'⟩
  | submit o | wait o | response o | watchdog o | caller o | shutdown o =>
    exact ⟨fun _ h => h, fun _ h => h⟩

/-- What a thread does outside the mutex meets the contract from every state. -/
theorem Lawful.meets_of_outside (hD : D.Lawful ok) (h : Outside ops) (s : RpcClient) :
    D.contract.Meets (fun _ => True) ops s := by
  induction h generalizing s with
  | nil => trivial
  | @plain op rest hop _ ih =>
    refine ⟨?_, fun s' _ => ih s'⟩
    cases op <;> trivial
  | resolve _ ih => exact ⟨trivial, fun s' _ => ih s'⟩
  | enter ho _ ih =>
    refine ⟨trivial, fun s₁ hinv => ⟨hD.enter ho hinv, fun s₂ hpost => ⟨hD.leave ho hpost, ?_⟩⟩⟩
    exact fun s₃ _ => ih s₃

theorem Lawful.meets_shutdownProgram (hD : D.Lawful ok) (s : RpcClient) :
    D.contract.Meets (fun _ => True) shutdownProgram s := by
  have hpoints : Outside (shutdownOps.map ClientOp.shutdown) := .map fun o => .plain rfl .nil
  refine ⟨trivial, fun s₁ hinv => ⟨hD.enter rfl hinv, fun s₂ hpost => ?_⟩⟩
  refine ⟨hD.terminal (hD.leave rfl hpost), fun s₃ hclosed => ⟨hD.closed hclosed, ?_⟩⟩
  exact fun s₄ _ => hD.meets_of_outside hpoints s₄

/-- A thread without the mutex does not depend on the state. -/
theorem meets_of_guarded (hg : Guarded false ops)
    (h : D.contract.Meets (fun _ => True) ops s) (s' : RpcClient) :
    D.contract.Meets (fun _ => True) ops s' := by
  induction ops generalizing s s' with
  | nil => trivial
  | cons op ops ih =>
    cases op with
    | lock => exact ⟨trivial, h.2⟩
    | unlock | recovery o => cases hg.1
    | resolve call reply =>
      exact ⟨trivial, fun s'' _ => ih hg (h.2 s (.refl s)) s''⟩
    | submit o | wait o | response o | watchdog o | caller o | shutdown o =>
      exact ⟨trivial, fun s'' _ => h.2 s'' trivial⟩

/-- What holds in every state: the invariant while the mutex is free, and the contract in
every thread. -/
structure Holds (D : Discipline) (r : ClientRuntime) : Prop where
  free : r.shared.lifecycleMutex = none → D.inv r.shared
  meets : ∀ t, D.contract.Meets (fun _ => True) (r.ops t) r.shared

/-- A thread is not disturbed by the steps of others. -/
theorem Lawful.undisturbed (hD : D.Lawful ok) (hlock : LockInv r) (h : D.Holds r)
    (hother : r.shared.lifecycleMutex = some u → Interferes r.shared s') :
    D.contract.Meets (fun _ => True) (r.ops u) s' := by
  by_cases hu : r.shared.lifecycleMutex = some u
  · have hmeets := h.meets u
    cases hops : r.ops u with
    | nil => trivial
    | cons op rest =>
      rw [hops] at hmeets
      exact hmeets.interfere (hD.stable op) (hother hu)
  · have hg := hlock.guarded u
    rw [decide_eq_false hu] at hg
    exact meets_of_guarded hg (h.meets u) s'

theorem Lawful.exec (hD : D.Lawful ok) (hlock : LockInv r) (h : D.Holds r)
    (hops : r.ops t = op :: rest) (hexec : op.exec t answer r.shared = some (r'.shared, next))
    (hops' : r'.ops = Function.update r.ops t (next ++ rest)) (hok : ok r.shared answer op)
    (hterminal : op = .recovery .enterTerminalClosed → r.shared.control ≠ .opened) :
    D.Holds r' := by
  have hg := hlock.guarded t
  rw [hops] at hg
  obtain ⟨hpre, hrest⟩ := hops ▸ h.meets t
  -- a thread without the mutex only interferes
  have hothers : ∀ u, u ≠ t → r.shared.lifecycleMutex = some u →
      Interferes r.shared r'.shared := by
    intro u hut hu
    refine ClientOp.interferes ?_ hexec
    rintro o rfl
    exact hut (Option.some.inj (hu.symm.trans (hlock.holder hops)))
  have hmine : D.contract.Meets (fun _ => True) (next ++ rest) r'.shared := by
    cases op with
    | lock =>
      obtain ⟨hfree, -, rfl⟩ := ClientOp.lock_exec hexec
      exact hrest _ (hD.inv (ClientOp.interferes (by simp) hexec) (h.free hfree))
    | unlock =>
      obtain ⟨-, rfl⟩ := ClientOp.unlock_exec hexec
      exact hrest _ trivial
    | resolve call reply =>
      obtain rfl : [] = next := congrArg Prod.snd (Option.some.inj hexec)
      exact hrest _ (ClientOp.interferes (by simp) hexec)
    | recovery o =>
      exact (hD.sound hexec hok (fun ho => hterminal (congrArg _ ho)) hpre).append hrest
    | submit o | wait o | response o | watchdog o | caller o | shutdown o =>
      exact (hD.meets_of_outside (ClientOp.outside_exec rfl hexec) _).append hrest
  refine ⟨fun hfree => ?_, fun u => ?_⟩
  · by_cases hrecovery : ∃ o, op = .recovery o
    · obtain ⟨o, rfl⟩ := hrecovery
      rw [(ClientOp.framed hexec).lifecycleMutex nofun nofun, hlock.holder hops] at hfree
      cases hfree
    · have hinterferes := ClientOp.interferes (fun o ho => hrecovery ⟨o, ho⟩) hexec
      refine hD.inv hinterferes ?_
      cases op with
      | unlock => exact hpre
      | lock =>
        rw [(ClientOp.lock_exec hexec).2.1] at hfree
        cases hfree
      | _ => exact h.free (((ClientOp.framed hexec).lifecycleMutex nofun nofun).symm.trans hfree)
  · by_cases hut : u = t
    · subst hut
      rw [hops', Function.update_self]
      exact hmine
    · rw [hops', Function.update_of_ne hut]
      exact hD.undisturbed hlock h (hothers u hut)

/-- A call starts, `Shutdown` begins, or time passes. -/
theorem Lawful.start {program : List ClientOp} (hD : D.Lawful ok) (hlock : LockInv r)
    (h : D.Holds r) (hops' : r'.ops = Function.update r.ops t program)
    (hprogram : D.contract.Meets (fun _ => True) program r'.shared)
    (hshared : Interferes r.shared r'.shared)
    (hmutex : r'.shared.lifecycleMutex = r.shared.lifecycleMutex) : D.Holds r' := by
  refine ⟨fun hfree => hD.inv hshared (h.free (hmutex ▸ hfree)), fun u => ?_⟩
  by_cases hut : u = t
  · subst hut
    rw [hops', Function.update_self]
    exact hprogram
  · rw [hops', Function.update_of_ne hut]
    exact hD.undisturbed hlock h fun _ => hshared

/-- The invariant of a lawful discipline holds whenever the mutex is free, and every
function under the mutex starts as its contract says. -/
theorem Lawful.of_reach (hD : D.Lawful ok) (hinit : D.inv (.initial mode))
    (h : (rpcClient mode).Reach (NextOp ok) r) : D.Holds r := by
  refine Machine.Reach.invariant_of_reach ?_ ?_ h
  · refine ⟨fun _ => hinit, fun t => hD.meets_of_outside ?_ _⟩
    cases t <;> first | exact .nil | exact .plain rfl .nil
  · intro r a r' hreach hinv hok hs
    have hlock : LockInv r := .of_reach hreach
    cases ClientMove.of_step hs with
    | exec hops hexec hops' =>
      refine hD.exec hlock hinv hops hexec hops' (hok.of_ops hops) ?_
      rintro rfl
      exact control_of_terminal hreach _ (hops ▸ List.mem_cons_self)
    | call hidle hshared hops' =>
      exact hD.start hlock hinv hops' (hD.meets_of_outside (ClientEntry.outside _) _)
        (hshared ▸ .refl _) (by rw [hshared])
    | retry hnew hidle hshared hops' =>
      exact hD.start hlock hinv hops' (hD.meets_of_outside (.plain rfl .nil) _)
        (hshared ▸ .refl _) (by rw [hshared])
    | shutdown hcontrol hidle hshared hops' =>
      refine hD.start hlock hinv hops' (hD.meets_shutdownProgram _) ?_ (by rw [hshared])
      rw [hshared]
      exact ⟨rfl, rfl, rfl, rfl, le_rfl, fun hopen => ApiLifecycleState.noConfusion hopen, rfl⟩
    | tick hshared hops' =>
      have hinterferes : Interferes r.shared r'.shared := by
        rw [hshared]
        exact ⟨rfl, rfl, rfl, rfl, Nat.le_add_right _ _, id, rfl⟩
      refine ⟨fun hfree => hD.inv hinterferes (hinv.free ?_), fun u => ?_⟩
      · rw [hshared] at hfree
        exact hfree
      · rw [hops']
        exact hD.undisturbed hlock hinv fun _ => hinterferes

/-- What a function relies on when its turn comes. -/
theorem Holds.pre_of_head {o : RecoveryOp} (h : D.Holds r)
    (hops : r.ops t = .recovery o :: rest) : D.pre o r.shared :=
  (hops ▸ h.meets t).1

end Discipline

end MemRpc
