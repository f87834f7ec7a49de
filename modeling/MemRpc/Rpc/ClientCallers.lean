import MemRpc.Rpc.ClientFutures

/-!
# Public calls and `Shutdown`

A thread that makes a public call has one thing to do at a time: the next point of the call,
or a function under `lifecycleMutex_` (`CallerOps`). Replies are carried inside the mutex
only. `Shutdown` takes the mutex after it has left `Open`, so every public call that gets
the mutex later finds nothing to do, and none carries a reply any more (`Inert`).

`Passed` says that `Shutdown` is beyond one of its operations. A fact that the operation
establishes and every later step keeps holds from then on (`Passed.invariant`).

## Main results

* `CallerInv.of_reach`.
* `inert_of_passed`, `store_of_passed`, `queue_of_passed`.
-/

namespace MemRpc

open Concurrency RpcClient

variable {mode : ClientInitMode} {t : ClientThread} {answer : ClientAnswer}
  {s s' : RpcClient} {r r' : ClientRuntime} {a : ClientAction} {next rest : List ClientOp}

/-! ## What a caller has to do -/

/-- The functions under the mutex that public calls start with. -/
def RecoveryOp.isEntry : RecoveryOp → Bool
  | .handleExternal .. | .handleDeath .. | .ensureLive _ => true
  | _ => false

/-- What a thread that makes public calls has still to do. The flag says whether it holds
the lifecycle mutex. -/
inductive CallerOps : Bool → List ClientOp → Prop
  | done : CallerOps false []
  | call (o : CallerOp) : CallerOps false [.caller o]
  | wait (o : WaitOp) : CallerOps false [.wait o]
  | entering {o : RecoveryOp} (ho : o.isEntry = true) :
      CallerOps false [.lock, .recovery o, .unlock]
  | inside {l : List ClientOp} (hl : l.Forall ClientOp.isLocked) :
      CallerOps true (l ++ [.unlock])

theorem ClientThread.callerOps_await (t : ClientThread) (n : ℕ) : CallerOps false (t.await n) := by
  cases t with
  | retrier k => exact .call _
  | _ => exact .done

theorem CallMove.callerOps {o : CallerOp} (hm : CallMove t s o s' next) :
    CallerOps false next := by
  cases hm with
  | skip => exact .done
  | enqueue | reject => exact t.callerOps_await _
  | external | engineDied => exact .entering rfl
  | wait hstatus ho => exact .wait _
  | accept | refuse | ready => exact .call _

theorem WaitOp.callerOps {o : WaitOp} (h : o.exec s answer = some (s', next))
    (ho : o.waiter.OnThread t) (ht : t.isCaller = true) : CallerOps false next := by
  rcases WaitOp.exec_next h with ⟨o', rfl, -⟩ | ⟨status, rfl⟩
  · exact .wait _
  · cases hw : o.waiter with
    | submit job info =>
      rw [hw] at ho
      obtain rfl : t = .submit := ho
      cases ht
    | retry n st =>
      rcases Waiter.resume_retry n st status with hr | hr <;> rw [hr]
      · exact .call _
      · exact .done

variable {op : ClientOp}

/-- A caller goes on. -/
theorem CallerOps.exec {held : Bool} (h : CallerOps held (op :: rest))
    (hheld : decide (s.lifecycleMutex = some t) = held) (ht : t.isCaller = true)
    (hop : op.OnThread t) (hexec : op.exec t answer s = some (s', next)) :
    CallerOps (decide (s'.lifecycleMutex = some t)) (next ++ rest) := by
  have hframed := ClientOp.framed hexec
  generalize hops : op :: rest = ops at h
  cases h with
  | done => cases hops
  | call o =>
    cases hops
    rw [hframed.lifecycleMutex nofun nofun, hheld, List.append_nil]
    exact (CallMove.of_exec hexec).callerOps
  | wait o =>
    cases hops
    rw [hframed.lifecycleMutex nofun nofun, hheld, List.append_nil]
    exact WaitOp.callerOps hexec hop ht
  | @entering o ho =>
    cases hops
    obtain ⟨-, hmutex, rfl⟩ := ClientOp.lock_exec hexec
    have hl : [ClientOp.recovery o].Forall ClientOp.isLocked := trivial
    rw [decide_eq_true hmutex]
    exact .inside hl
  | @inside l hl =>
    cases l with
    | nil =>
      cases hops
      obtain ⟨hmutex, rfl⟩ := ClientOp.unlock_exec hexec
      rw [hmutex]
      exact .done
    | cons op' l =>
      obtain ⟨rfl, rfl⟩ := List.cons.inj hops
      obtain ⟨hlocked, htail⟩ := (List.forall_cons _ _ _).mp hl
      rw [List.append_eq, ← List.append_assoc]
      cases op with
      | recovery o =>
        rw [hframed.lifecycleMutex nofun nofun, hheld]
        exact .inside (List.forall_append.mpr ⟨(RecoveryMove.of_exec hexec).locked, htail⟩)
      | resolve n reply =>
        rw [hframed.lifecycleMutex nofun nofun, hheld]
        obtain rfl : [] = next := congrArg Prod.snd (Option.some.inj hexec)
        exact .inside htail
      | _ => cases hlocked

/-! ## Calls that find nothing to do -/

/-- The operations of a caller that does not hold the mutex. -/
def ClientOp.Inert : ClientOp → Prop
  | .lock | .unlock | .caller _ | .wait _ => True
  | .recovery o => o.isEntry = true
  | _ => False

theorem CallerOps.inert {ops : List ClientOp} (h : CallerOps false ops) :
    ops.Forall ClientOp.Inert := by
  cases h with
  | entering ho => exact ⟨trivial, ho, trivial⟩
  | _ => trivial

/-- Once `Shutdown` has begun, a public call has nothing to do under the mutex. -/
theorem RecoveryOp.entry_exec {o : RecoveryOp} (ho : o.isEntry = true)
    (hcontrol : s.control = .closing ∨ s.control = .closed)
    (h : o.exec s answer = some (s', next)) : next = [] := by
  have hclosed : s.control ≠ .opened := by
    rcases hcontrol with hc | hc <;> rw [hc] <;> exact ApiLifecycleState.noConfusion
  cases o with
  | handleExternal | handleDeath =>
    simp only [RecoveryOp.exec, hclosed, false_and, if_false] at h
    cases h
    rfl
  | ensureLive reports =>
    simp only [RecoveryOp.exec, hcontrol, if_true] at h
    cases h
    rfl
  | _ => cases ho

theorem ClientOp.inert_exec (hinert : op.Inert) (ht : t.isCaller = true)
    (hop : op.OnThread t) (hcontrol : s.control = .closing ∨ s.control = .closed)
    (h : op.exec t answer s = some (s', next)) : next.Forall ClientOp.Inert := by
  cases op with
  | lock =>
    obtain ⟨-, -, rfl⟩ := lock_exec h
    trivial
  | unlock =>
    obtain ⟨-, rfl⟩ := unlock_exec h
    trivial
  | recovery o =>
    obtain rfl := RecoveryOp.entry_exec hinert hcontrol h
    trivial
  | wait o => exact (WaitOp.callerOps h hop ht).inert
  | caller o => exact (CallMove.of_exec h).callerOps.inert
  | _ => cases hinert

/-! ## The submit mutex -/

/-- The points of `InvokeAsync` under `submitMutex_`. -/
def ClientOp.enqueues : ClientOp → Bool
  | .caller (.enqueue _) | .caller .reject => true
  | _ => false

theorem CallerOps.rest_of_caller {o : CallerOp} {held : Bool}
    (h : CallerOps held (.caller o :: rest)) : rest = [] := by
  generalize hops : ClientOp.caller o :: rest = ops at h
  cases h with
  | call o => cases hops; rfl
  | @inside l hl =>
    cases l with
    | nil => cases hops
    | cons op l =>
      cases hops
      cases ((List.forall_cons _ _ _).mp hl).1
  | _ => cases hops

/-- `InvokeAsync` takes the submit mutex before it enqueues or rejects. -/
theorem ClientOp.enqueues_exec {op op' : ClientOp} (hop : op.OnThread t)
    (h : op.exec t answer s = some (s', next)) (hmem : op' ∈ next) (henq : op'.enqueues = true) :
    op = .caller .invoke ∧ s.submitMutex = none ∧ s'.submitMutex = some t ∧
      (s.control ≠ .opened → op' = .caller .reject) := by
  have hcaller : t.isCaller = true := by
    have hthread := List.forall_iff_forall_mem.mp (onThread_exec h hop) op' hmem
    match op', henq, hthread with
    | .caller (.enqueue _), _, ht | .caller .reject, _, ht => exact ht
  cases op with
  | lock =>
    obtain ⟨-, -, rfl⟩ := lock_exec h
    cases hmem
  | unlock =>
    obtain ⟨-, rfl⟩ := unlock_exec h
    cases hmem
  | resolve n reply =>
    cases h
    cases hmem
  | recovery o =>
    have hlocked := List.forall_iff_forall_mem.mp (RecoveryMove.of_exec h).locked op' hmem
    match op', henq, hlocked with
    | .caller _, _, hl => cases hl
  | wait o =>
    rcases WaitOp.exec_next h with ⟨o', rfl, -⟩ | ⟨status, rfl⟩
    · obtain rfl := List.mem_singleton.mp hmem
      cases henq
    · cases hw : o.waiter with
      | submit job info =>
        rw [hw] at hmem
        rcases Waiter.resume_submit job info status with hr | hr <;> rw [hr] at hmem <;>
          obtain rfl := List.mem_singleton.mp hmem <;> cases henq
      | retry n st =>
        rw [hw] at hmem
        rcases Waiter.resume_retry n st status with hr | hr <;> rw [hr] at hmem
        · obtain rfl := List.mem_singleton.mp hmem
          cases henq
        · cases hmem
  | caller o =>
    cases CallMove.of_exec h with
    | skip => cases hmem
    | accept hfree hopen =>
      obtain rfl := List.mem_singleton.mp hmem
      exact ⟨rfl, hfree, rfl, fun hc => absurd hopen hc⟩
    | refuse hfree hclosed =>
      obtain rfl := List.mem_singleton.mp hmem
      exact ⟨rfl, hfree, rfl, fun _ => rfl⟩
    | enqueue | reject =>
      cases t with
      | retrier k =>
        obtain rfl := List.mem_singleton.mp hmem
        cases henq
      | _ => cases hmem
    | external | engineDied =>
      simp only [handleEngineDeath, List.mem_cons, List.not_mem_nil, or_false] at hmem
      rcases hmem with rfl | rfl | rfl <;> cases henq
    | ready | wait =>
      obtain rfl := List.mem_singleton.mp hmem
      cases henq
  | submit o | response o | watchdog o | shutdown o =>
    obtain rfl := hop
    cases hcaller

/-- What executing an operation does to the submit mutex. -/
theorem ClientOp.submitMutex_exec (h : op.exec t answer s = some (s', next)) :
    s'.submitMutex = s.submitMutex ∨ op = .caller .invoke ∧ s.submitMutex = none ∨
      op.enqueues = true := by
  cases op with
  | caller o =>
    cases CallMove.of_exec h with
    | accept hfree | refuse hfree => exact .inr (.inl ⟨rfl, hfree⟩)
    | enqueue | reject => exact .inr (.inr rfl)
    | _ => exact .inl rfl
  | _ => exact .inl ((framed h).submitMutex nofun)

/-! ## The invariant -/

/-- The threads that make public calls. -/
structure CallerInv (r : ClientRuntime) : Prop where
  control : r.shared.control ≠ .uninitialized
  callers : ∀ t, t.isCaller = true →
    CallerOps (decide (r.shared.lifecycleMutex = some t)) (r.ops t)
  mutex : ∀ t, ∀ op ∈ r.ops t, op.enqueues = true → r.shared.submitMutex = some t

theorem ClientOp.isCaller_of_enqueues (hop : op.OnThread t)
    (h : op.enqueues = true) : t.isCaller = true := by
  match op, h, hop with
  | .caller (.enqueue _), _, ht | .caller .reject, _, ht => exact ht

/-- Who enqueues or rejects holds the submit mutex. -/
theorem CallerInv.mutex_exec (h : CallerInv r) (hinv : ClientInv r)
    (hops : r.ops t = op :: rest) (hexec : op.exec t answer r.shared = some (s', next))
    {u : ClientThread} {op' : ClientOp}
    (hmem : op' ∈ Function.update r.ops t (next ++ rest) u) (henq : op'.enqueues = true) :
    s'.submitMutex = some u := by
  have hop := hinv.onThread hops
  by_cases hnew : u = t ∧ op' ∈ next
  · obtain ⟨rfl, hnew⟩ := hnew
    exact (ClientOp.enqueues_exec hop hexec hnew henq).2.2.1
  · have hold : op' ∈ r.ops u := (Pool.mem_update hops hmem).resolve_right hnew
    have hmutex := h.mutex u op' hold henq
    rcases ClientOp.submitMutex_exec hexec with hsame | ⟨-, hfree⟩ | hdone
    · exact hsame.trans hmutex
    · rw [hfree] at hmutex
      cases hmutex
    · -- the thread that enqueues has nothing else to do
      have ht := h.mutex t op (hops ▸ List.mem_cons_self) hdone
      obtain rfl : t = u := Option.some.inj (ht.symm.trans hmutex)
      have hcaller := h.callers t (ClientOp.isCaller_of_enqueues hop hdone)
      rw [hops] at hcaller
      match op, hdone with
      | .caller o, _ =>
        obtain rfl := hcaller.rest_of_caller
        rw [Function.update_self, List.append_nil] at hmem
        exact absurd ⟨rfl, hmem⟩ hnew

theorem CallerInv.exec (h : CallerInv r) (hinv : ClientInv r)
    (hops : r.ops t = op :: rest) (hexec : op.exec t answer r.shared = some (r'.shared, next))
    (hops' : r'.ops = Function.update r.ops t (next ++ rest)) : CallerInv r' := by
  have hop := hinv.onThread hops
  refine ⟨?_, fun u hu => ?_, fun u op' hmem henq => ?_⟩
  · rcases ClientOp.control hexec with hc | ⟨hc, -⟩ <;> rw [hc]
    · exact h.control
    · exact ApiLifecycleState.noConfusion
  · by_cases hut : u = t
    · subst hut
      rw [hops', Function.update_self]
      exact (hops ▸ h.callers u hu).exec rfl hu hop hexec
    · rw [hops', Function.update_of_ne hut, decide_eq_decide.mpr
        (ClientOp.mutex_exec (hops ▸ hinv.lock.guarded t) hexec hut)]
      exact h.callers u hu
  · rw [hops'] at hmem
    exact h.mutex_exec hinv hops hexec hmem henq

/-- A thread starts with a call, or with `Shutdown`. -/
theorem CallerInv.start {program : List ClientOp} (h : CallerInv r) (hinv : ClientInv r)
    (hidle : r.ops t = []) (hops' : r'.ops = Function.update r.ops t program)
    (hcontrol : r'.shared.control ≠ .uninitialized)
    (hmutex : r'.shared.lifecycleMutex = r.shared.lifecycleMutex)
    (hsubmit : r'.shared.submitMutex = r.shared.submitMutex)
    (hprogram : t.isCaller = true → CallerOps false program)
    (henqueues : ∀ op ∈ program, op.enqueues = false) : CallerInv r' := by
  refine ⟨hcontrol, fun u hu => ?_, fun u op hmem henq => ?_⟩
  · rw [hmutex]
    by_cases hut : u = t
    · subst hut
      have hfree : Guarded (decide (r.shared.lifecycleMutex = some u)) [] :=
        hidle ▸ hinv.lock.guarded u
      rw [hops', Function.update_self, show decide (r.shared.lifecycleMutex = some u) = false
        from hfree]
      exact hprogram hu
    · rw [hops', Function.update_of_ne hut]
      exact h.callers u hu
  · rw [hsubmit]
    rw [hops'] at hmem
    rcases Pool.mem_start hmem with hold | ⟨-, hnew⟩
    · exact h.mutex u op hold henq
    · rw [henqueues op hnew] at henq
      cases henq

theorem ClientEntry.callerOps (entry : ClientEntry) : CallerOps false entry.program := by
  cases entry with
  | init => exact .entering rfl
  | _ => exact .call _

theorem ClientEntry.enqueues_program (entry : ClientEntry) :
    ∀ op ∈ entry.program, op.enqueues = false := by
  cases entry with
  | init => decide
  | _ => exact List.forall_mem_singleton.mpr rfl

theorem CallerInv.step (h : CallerInv r) (hinv : ClientInv r)
    (hs : (rpcClient mode).step r a = some r') : CallerInv r' := by
  cases ClientMove.of_step hs with
  | exec hops hexec hops' => exact h.exec hinv hops hexec hops'
  | call hidle hshared hops' =>
    exact h.start hinv hidle hops' (hshared ▸ h.control) (by rw [hshared]) (by rw [hshared])
      (fun _ => ClientEntry.callerOps _) (ClientEntry.enqueues_program _)
  | retry hnew hidle hshared hops' =>
    exact h.start hinv hidle hops' (hshared ▸ h.control) (by rw [hshared]) (by rw [hshared])
      (fun _ => .call _) (List.forall_mem_singleton.mpr rfl)
  | shutdown hcontrol hidle hshared hops' =>
    exact h.start hinv hidle hops' (hshared ▸ ApiLifecycleState.noConfusion) (by rw [hshared])
      (by rw [hshared]) (fun ht => by cases ht) (by decide)
  | tick hshared hops' =>
    refine ⟨hshared ▸ h.control, ?_, ?_⟩
    · rw [hshared, hops']
      exact h.callers
    · rw [hshared, hops']
      exact h.mutex

theorem CallerInv.of_reach {ok : ClientRuntime → ClientAction → Prop}
    (h : (rpcClient mode).Reach ok r) : CallerInv r := by
  refine Machine.Reach.invariant_of_reach ?_ ?_ h
  · refine ⟨?_, fun t ht => ?_, fun t op hmem henq => ?_⟩
    · cases mode <;> exact ApiLifecycleState.noConfusion
    · cases mode <;> cases t <;> first | exact .done | cases ht
    · cases t <;> simp [rpcClient, initialOps] at hmem <;> subst hmem <;> cases henq
  · exact fun r a r' hreach hinv _ hs => hinv.step (.of_reach hreach) hs

/-! ## Beyond a point of `Shutdown` -/

/-- `Shutdown` has executed one of its operations. -/
def Passed (r : ClientRuntime) (op : ClientOp) : Prop :=
  r.shared.control ≠ .opened ∧ op ∉ r.ops .shutdown

theorem ClientInv.control_exec (h : ClientInv r) (hops : r.ops t = op :: rest)
    (hexec : op.exec t answer r.shared = some (s', next)) (hclosed : s'.control ≠ .opened) :
    r.shared.control ≠ .opened := by
  rcases ClientOp.control hexec with hc | ⟨-, rfl⟩
  · rwa [hc] at hclosed
  · intro hopen
    obtain rfl : t = .shutdown := h.onThread hops
    rw [h.shutdown.unstarted hopen] at hops
    cases hops

/-- An operation of `Shutdown` is passed when it is executed. -/
theorem Passed.of_step (h : Passed r' op) (hop : op ∈ shutdownProgram)
    (hinv : ClientInv r) (hs : (rpcClient mode).step r a = some r') :
    Passed r op ∨ ∃ answer rest, a = .exec .shutdown answer ∧ r.ops .shutdown = op :: rest := by
  obtain ⟨hclosed, hnot⟩ := h
  cases ClientMove.of_step hs with
  | @exec t answer op' rest next hops hexec hops' =>
    have hclosed' := hinv.control_exec hops hexec hclosed
    rw [hops'] at hnot
    by_cases ht : ClientThread.shutdown = t
    · subst ht
      rw [Function.update_self] at hnot
      by_cases heq : op' = op
      · subst heq
        exact .inr ⟨answer, rest, rfl, hops⟩
      · refine .inl ⟨hclosed', fun hmem => ?_⟩
        rw [hops] at hmem
        exact hnot (List.mem_append_right _ ((List.mem_cons.mp hmem).resolve_left (Ne.symm heq)))
    · rw [Function.update_of_ne ht] at hnot
      exact .inl ⟨hclosed', hnot⟩
  | call hidle hshared hops' | retry hnew hidle hshared hops' =>
    rw [hshared] at hclosed
    rw [hops', Function.update_of_ne (by simp)] at hnot
    exact .inl ⟨hclosed, hnot⟩
  | shutdown hcontrol hidle hshared hops' =>
    rw [hops', Function.update_self] at hnot
    exact absurd hop hnot
  | tick hshared hops' =>
    rw [hshared] at hclosed
    rw [hops'] at hnot
    exact .inl ⟨hclosed, hnot⟩

/-- What an operation of `Shutdown` establishes and later steps keep holds once the
operation is passed. -/
theorem Passed.invariant {ok : ClientRuntime → ClientAction → Prop} {P : ClientRuntime → Prop}
    (hop : op ∈ shutdownProgram)
    (hexec : ∀ r r' answer rest, (rpcClient mode).Reach ok r → r.ops .shutdown = op :: rest →
      (rpcClient mode).step r (.exec .shutdown answer) = some r' → P r')
    (hstep : ∀ r a r', (rpcClient mode).Reach ok r → Passed r op → P r →
      (rpcClient mode).step r a = some r' → P r')
    (h : (rpcClient mode).Reach ok r) (hpassed : Passed r op) : P r := by
  revert hpassed
  refine Machine.Reach.invariant_of_reach (I := fun r => Passed r op → P r) ?_ ?_ h
  · rintro ⟨hclosed, -⟩
    cases mode <;> exact absurd rfl hclosed
  · intro r a r' hreach hinv _ hs hpassed
    rcases hpassed.of_step hop (.of_reach hreach) hs with hold | ⟨answer, rest, rfl, hops⟩
    · exact hstep r a r' hreach hold (hinv hold) hs
    · exact hexec r r' answer rest hreach hops hs

section

variable {ok : ClientRuntime → ClientAction → Prop}

theorem Passed.closing (h : Passed r op) (hcaller : CallerInv r) :
    r.shared.control = .closing ∨ r.shared.control = .closed := by
  have hopen := h.1
  have hinit := hcaller.control
  cases hc : r.shared.control with
  | uninitialized => exact absurd hc hinit
  | opened => exact absurd hc hopen
  | closing => exact .inl rfl
  | closed => exact .inr rfl

/-- Once `Shutdown` has closed the session for good, no public call finds anything to do. -/
theorem inert_of_passed (h : (rpcClient mode).Reach ok r)
    (hpassed : Passed r (.recovery .enterTerminalClosed)) :
    ∀ t, t.isCaller = true → (r.ops t).Forall ClientOp.Inert := by
  refine Passed.invariant (P := fun r => ∀ t, t.isCaller = true → (r.ops t).Forall ClientOp.Inert)
    (by decide) ?_ ?_ h hpassed
  · intro r r' answer rest hreach hops hs t ht
    have hinv : ClientInv r := .of_reach hreach
    have hts : t ≠ .shutdown := by
      rintro rfl
      cases ht
    -- `Shutdown` holds the mutex, so the caller does not
    have hfree : decide (r.shared.lifecycleMutex = some t) = false := by
      rw [hinv.lock.holder hops]
      exact decide_eq_false fun heq => hts (Option.some.inj heq).symm
    cases ClientMove.of_step hs with
    | exec hops hexec hops' =>
      rw [hops', Function.update_of_ne hts]
      exact (hfree ▸ (CallerInv.of_reach hreach).callers t ht).inert
  · intro r a r' hreach hpassed hinert hs t ht
    have hinv : ClientInv r := .of_reach hreach
    cases ClientMove.of_step hs with
    | @exec u answer op rest next hops hexec hops' =>
      by_cases htu : t = u
      · subst htu
        obtain ⟨hop, hrest⟩ := (List.forall_cons _ _ _).mp (hops ▸ hinert t ht)
        rw [hops', Function.update_self]
        exact List.forall_append.mpr ⟨ClientOp.inert_exec hop ht (hinv.onThread hops)
          (hpassed.closing (.of_reach hreach)) hexec, hrest⟩
      · rw [hops', Function.update_of_ne htu]
        exact hinert t ht
    | @call n entry hidle hshared hops' =>
      by_cases htu : t = .external n
      · subst htu
        rw [hops', Function.update_self]
        exact entry.callerOps.inert
      · rw [hops', Function.update_of_ne htu]
        exact hinert t ht
    | @retry k hnew hidle hshared hops' =>
      by_cases htu : t = .retrier k
      · subst htu
        rw [hops', Function.update_self]
        trivial
      · rw [hops', Function.update_of_ne htu]
        exact hinert t ht
    | shutdown hcontrol hidle hshared hops' =>
      have htu : t ≠ .shutdown := by
        rintro rfl
        cases ht
      rw [hops', Function.update_of_ne htu]
      exact hinert t ht
    | tick hshared hops' => exact hops' ▸ hinert t ht

theorem ShutdownMove.store_of_failAllPending (hm : ShutdownMove s .failAllPending s' next) :
    s'.requestStore = [] := by
  cases hm with
  | failAllPending => rfl

/-- Once `Shutdown` has failed the pending requests, none is pending any more. -/
theorem store_of_passed (h : (rpcClient mode).Reach ok r)
    (hpassed : Passed r (.shutdown .failAllPending)) :
    r.shared.requestStore = [] ∧ r.ops .submit = [] := by
  refine Passed.invariant (P := fun r => r.shared.requestStore = [] ∧ r.ops .submit = [])
    (by decide) ?_ ?_ h hpassed
  · intro r r' answer rest hreach hops hs
    have hinv : ClientInv r := .of_reach hreach
    have hidle := hinv.shutdown.idle_of_failing hops (by decide) (t := .submit) (by decide)
    cases ClientMove.of_step hs with
    | exec hops₁ hexec hops' =>
      obtain ⟨rfl, rfl⟩ := List.cons.inj (hops₁.symm.trans hops)
      refine ⟨ShutdownMove.store_of_failAllPending (.of_exec hexec), ?_⟩
      rw [hops', Function.update_of_ne (by simp), hidle]
  · rintro r a r' hreach - ⟨hstore, hidle⟩ hs
    cases ClientMove.of_step hs with
    | @exec t answer op rest next hops hexec hops' =>
      have hts : ClientThread.submit ≠ t := by
        rintro rfl
        rw [hidle] at hops
        cases hops
      rcases ClientOp.store hexec with hsub | ⟨job, info, rfl, -⟩
      · refine ⟨List.subset_nil.mp (hstore ▸ hsub), ?_⟩
        rw [hops', Function.update_of_ne hts, hidle]
      · exact absurd ((ClientInv.of_reach hreach).onThread hops).symm hts
    | call hidle' hshared hops' | retry hnew hidle' hshared hops'
    | shutdown hcontrol hidle' hshared hops' =>
      rw [hops', Function.update_of_ne (by simp), hshared]
      exact ⟨hstore, hidle⟩
    | tick hshared hops' =>
      rw [hops', hshared]
      exact ⟨hstore, hidle⟩

theorem ClientOp.queue_nil (hexec : op.exec t answer s = some (s', next))
    (hqueue : s.submitQueue = []) (henqueue : ∀ ms, op ≠ .caller (.enqueue ms)) :
    s'.submitQueue = [] := by
  by_cases hsubmit : ∃ o, op = .submit o
  · obtain ⟨o, rfl⟩ := hsubmit
    cases SubmitMove.of_exec hexec with
    | dequeue hjob =>
      rw [hqueue] at hjob
      cases hjob
    | _ => exact hqueue
  · rcases queue_exec (fun o ho => hsubmit ⟨o, ho⟩) henqueue hexec with hsame | ⟨-, hnil⟩
    · exact hsame.trans hqueue
    · exact hnil

theorem ShutdownMove.submitMutex_of_failQueued (hm : ShutdownMove s .failQueued s' next) :
    s.submitMutex = none := by
  cases hm with
  | failQueued hfree => exact hfree

/-- Once `Shutdown` has failed the queued requests, none is queued any more. -/
theorem queue_of_passed (h : (rpcClient mode).Reach ok r)
    (hpassed : Passed r (.shutdown .failQueued)) :
    r.shared.submitQueue = [] ∧ ∀ t ms, ClientOp.caller (.enqueue ms) ∉ r.ops t := by
  refine Passed.invariant (P := fun r => r.shared.submitQueue = [] ∧
    ∀ t ms, ClientOp.caller (.enqueue ms) ∉ r.ops t) (by decide) ?_ ?_ h hpassed
  · intro r r' answer rest hreach hops hs
    have hcaller : CallerInv r := .of_reach hreach
    cases ClientMove.of_step hs with
    | exec hops₁ hexec hops' =>
      obtain ⟨rfl, rfl⟩ := List.cons.inj (hops₁.symm.trans hops)
      -- the mutex is free, so nobody is about to enqueue
      have hfree := ShutdownMove.submitMutex_of_failQueued (.of_exec hexec)
      refine ⟨ShutdownMove.queue_of_failQueued (.of_exec hexec), fun t ms hmem => ?_⟩
      rw [hops'] at hmem
      rcases Pool.mem_update hops hmem with hold | ⟨rfl, hnew⟩
      · have hheld := hcaller.mutex t _ hold rfl
        rw [hfree] at hheld
        cases hheld
      · have hop := (ClientInv.of_reach hreach).onThread hops
        cases (ClientOp.enqueues_exec hop hexec hnew rfl).1
  · rintro r a r' hreach hpassed ⟨hqueue, hnone⟩ hs
    cases ClientMove.of_step hs with
    | @exec t answer op rest next hops hexec hops' =>
      have henqueue : ∀ ms, op ≠ .caller (.enqueue ms) := by
        rintro ms rfl
        exact hnone t ms (hops ▸ List.mem_cons_self)
      refine ⟨ClientOp.queue_nil hexec hqueue henqueue, fun u ms hmem => ?_⟩
      rw [hops'] at hmem
      rcases Pool.mem_update hops hmem with hold | ⟨rfl, hnew⟩
      · exact hnone u ms hold
      · have hop := (ClientInv.of_reach hreach).onThread hops
        cases (ClientOp.enqueues_exec hop hexec hnew rfl).2.2.2 hpassed.1
    | call hidle hshared hops' =>
      refine ⟨hshared ▸ hqueue, fun u ms hmem => ?_⟩
      rcases Pool.mem_start (hops' ▸ hmem) with hold | ⟨-, hnew⟩
      · exact hnone u ms hold
      · cases ClientEntry.enqueues_program _ _ hnew
    | retry hnew hidle hshared hops' =>
      refine ⟨hshared ▸ hqueue, fun u ms hmem => ?_⟩
      rcases Pool.mem_start (hops' ▸ hmem) with hold | ⟨-, hnew⟩
      · exact hnone u ms hold
      · cases List.mem_singleton.mp hnew
    | shutdown hcontrol hidle hshared hops' =>
      rcases hcontrol with hc | hc
      · exact absurd hc hpassed.1
      · exact absurd hc (CallerInv.of_reach hreach).control
    | tick hshared hops' =>
      rw [hops', hshared]
      exact ⟨hqueue, hnone⟩

end

end MemRpc
