import MemRpc.Rpc.LifetimeShutdown

/-!
# `Closed` as a terminal state

`Shutdown` closes the session, enters `Closed`, and joins the worker threads. `Init` looks at
the API state and at `workersRunning_`, and only then sets the lifecycle state and starts the
threads. None of this is under one lock: a `Shutdown` that fits between these steps leaves a
client whose state is not `Closed` and whose threads run (`not_closed_terminal`).

If `Shutdown` begins at no such moment, and no `Init` gets past its look at `workersRunning_`
after it (`Serialised`), then `Closed` is terminal: the state does not change any more, no session
is opened, and no worker runs once the call of `Shutdown` has returned.

## Main definitions

* `Serialised`: the steps in which `Init` and `Shutdown` do not overlap.
* `StartInv`: what a call of `Init` has still to do while it starts the threads.
* `JoinInv`: who joins the threads that are started.

## Main results

* `closed_terminal`.
-/

namespace MemRpc

open Concurrency RpcClient

variable {t u w : ClientThread} {answer : ClientAnswer} {s s' : Lifetime}
  {r r' : LifetimeRuntime} {a : LifetimeAction} {op o : LifetimeOp}
  {ops next rest : List LifetimeOp} {ok : LifetimeRuntime → LifetimeAction → Prop}

/-! ## The start of the threads -/

/-- The points of `Init` from the lifecycle state to the end of `StartThreads`. -/
def LifetimeOp.isStarting : LifetimeOp → Bool
  | .prepareForInitOpen _ | .startRuntime | .spawn _ | .threadsStarted => true
  | _ => false

/-- Where a thread has points of `StartThreads` to do, their end is among them. -/
def Followed : List LifetimeOp → Prop
  | [] => True
  | op :: rest =>
    (op.isStarting = true → op = .threadsStarted ∨ .threadsStarted ∈ rest) ∧ Followed rest

theorem Followed.mem (h : Followed ops) (ho : o ∈ ops) (hstarting : o.isStarting = true) :
    .threadsStarted ∈ ops := by
  induction ops with
  | nil => cases ho
  | cons op rest ih =>
    rcases List.mem_cons.mp ho with rfl | hrest
    · rcases h.1 hstarting with rfl | hend
      · exact List.mem_cons_self
      · exact List.mem_cons_of_mem _ hend
    · exact List.mem_cons_of_mem _ (ih h.2 hrest)

theorem Followed.append (hops : ops.Forall fun op => op.isStarting = false) (h : Followed rest) :
    Followed (ops ++ rest) := by
  induction ops with
  | nil => exact h
  | cons op ops ih =>
    obtain ⟨hop, htail⟩ := (List.forall_cons _ _ _).mp hops
    refine ⟨fun hstarting => ?_, ih htail⟩
    rw [hop] at hstarting
    cases hstarting

theorem ClientOp.not_starting (l : List ClientOp) :
    (l.map LifetimeOp.client).Forall fun op => op.isStarting = false :=
  forall_map fun _ => rfl

theorem count_threadsStarted (h : ops.Forall fun op => op.isStarting = false) :
    ops.count .threadsStarted = 0 := by
  rw [List.count_eq_zero]
  intro hmem
  cases List.forall_iff_forall_mem.mp h _ hmem

/-- The points of `StartThreads` come from an `Init` that has found no workers running, and from
`StartRuntime`. -/
theorem LifetimeMove.not_starting (hm : LifetimeMove t answer s op s' next)
    (hworkers : ∀ mode, op ≠ .initWorkers mode) (hruntime : op ≠ .startRuntime) :
    next.Forall fun op => op.isStarting = false := by
  cases hm with
  | recovery ho h hovertaken =>
    exact List.forall_append.mpr
      ⟨s.forall_deliveries _ _ fun _ => rfl, ClientOp.not_starting _⟩
  | other ho h => exact ClientOp.not_starting _
  | initAgain | initFirst => exact absurd rfl (hworkers _)
  | startedBefore | startRuntime => exact absurd rfl hruntime
  | beginShutdown => exact ⟨rfl, rfl, rfl, rfl, rfl, rfl, rfl, rfl, rfl⟩
  | stopRuntime => exact ⟨rfl, rfl, rfl, rfl, rfl⟩
  | bootstrap | refused | attached | attachFailed | initAdmitted | initEnsured | initFailed =>
    exact rfl
  | _ => trivial

theorem LifetimeMove.followed (hm : LifetimeMove t answer s op s' next)
    (h : Followed (op :: rest)) : Followed (next ++ rest) := by
  by_cases hworkers : ∃ mode, op = .initWorkers mode
  · obtain ⟨mode, rfl⟩ := hworkers
    cases hm with
    | initAgain hrunning hl =>
      rcases hl with rfl | rfl
      · exact h.2
      · exact .append ⟨rfl, rfl, rfl⟩ h.2
    | initFirst hrunning =>
      cases mode with
      | eagerSession =>
        refine ⟨fun _ => .inr ?_, fun _ => .inr ?_, fun _ => .inl rfl, ?_⟩
        · simp
        · simp
        · exact .append ⟨rfl, rfl, rfl, rfl⟩ h.2
      | lazySession =>
        refine ⟨fun _ => .inr ?_, fun _ => .inr ?_, fun _ => .inl rfl, ?_⟩
        · simp
        · simp
        · have hfinish : [LifetimeOp.finishInit].Forall fun op => op.isStarting = false := rfl
          exact .append hfinish h.2
  · by_cases hruntime : op = .startRuntime
    · subst hruntime
      obtain hcontra | hend := h.1 rfl
      · cases hcontra
      cases hm with
      | startedBefore => exact h.2
      | startRuntime =>
        refine ⟨fun _ => .inr ?_, fun _ => .inr ?_, fun _ => .inr ?_, h.2⟩
        · simp [hend]
        · simp [hend]
        · exact hend
    · exact .append (hm.not_starting (fun mode h => hworkers ⟨mode, h⟩) hruntime) h.2

/-- How `starting` keeps up with the calls of `Init`. -/
inductive StartMove (t : ClientThread) (s s' : Lifetime) (next : List LifetimeOp) :
    LifetimeOp → Prop
  | begins {mode : ClientInitMode} (hstarting : s'.starting = t :: s.starting)
      (hnext : next.count .threadsStarted = 1) (hrunning : s.client.workersRunning = false) :
      StartMove t s s' next (.initWorkers mode)
  | ends (hstarting : s'.starting = s.starting.erase t) (hnext : next = []) :
      StartMove t s s' next .threadsStarted
  | other {op : LifetimeOp} (hop : op ≠ .threadsStarted) (hstarting : s'.starting = s.starting)
      (hnext : next.count .threadsStarted = 0) : StartMove t s s' next op

theorem LifetimeMove.startMove (hm : LifetimeMove t answer s op s' next) :
    StartMove t s s' next op := by
  by_cases hworkers : ∃ mode, op = .initWorkers mode
  · obtain ⟨mode, rfl⟩ := hworkers
    cases hm with
    | initAgain hrunning hl =>
      refine .other nofun rfl ?_
      rcases hl with rfl | rfl <;> rfl
    | initFirst hrunning =>
      refine .begins rfl ?_ hrunning
      cases mode <;> rfl
  · by_cases hruntime : op = .startRuntime
    · subst hruntime
      cases hm with
      | startedBefore | startRuntime => exact .other nofun rfl rfl
    · have hnot := hm.not_starting (fun mode h => hworkers ⟨mode, h⟩) hruntime
      have hcount := count_threadsStarted hnot
      cases hm with
      | threadsStarted => exact .ends rfl rfl
      | initAgain | initFirst => exact absurd ⟨_, rfl⟩ hworkers
      | _ => exact .other nofun rfl hcount

/-- The calls of `Init` that start threads are those in `starting`. -/
structure StartInv (r : LifetimeRuntime) : Prop where
  followed : ∀ t, Followed (r.ops t)
  counted : ∀ t, (r.ops t).count .threadsStarted = r.shared.starting.count t

namespace StartInv

theorem mem_starting (h : StartInv r) (ho : o ∈ r.ops t) (hstarting : o.isStarting = true) :
    t ∈ r.shared.starting := by
  have hend := (h.followed t).mem ho hstarting
  rw [← List.count_pos_iff, h.counted t] at hend
  exact List.count_pos_iff.mp hend

theorem exec (h : StartInv r) (hops : r.ops t = op :: rest)
    (hm : LifetimeMove t answer r.shared op r'.shared next)
    (hops' : r'.ops = Function.update r.ops t (next ++ rest)) : StartInv r' := by
  refine ⟨fun u => ?_, fun u => ?_⟩
  · by_cases hut : u = t
    · subst hut
      rw [hops', Function.update_self]
      exact hm.followed (hops ▸ h.followed u)
    · rw [hops', Function.update_of_ne hut]
      exact h.followed u
  · have hcount := h.counted u
    by_cases hut : u = t
    · subst hut
      rw [hops', Function.update_self, List.count_append]
      rw [hops] at hcount
      cases hm.startMove with
      | @begins mode hstarting hnext hrunning =>
        have hne : LifetimeOp.initWorkers mode ≠ .threadsStarted := nofun
        rw [hstarting, hnext, List.count_cons_self, ← hcount, List.count_cons_of_ne hne, add_comm]
      | ends hstarting hnext =>
        rw [hstarting, hnext, List.count_erase_self, ← hcount, List.count_cons_self]
        simp
      | other hop hstarting hnext =>
        rw [hstarting, hnext, ← hcount, List.count_cons_of_ne hop, zero_add]
    · rw [hops', Function.update_of_ne hut, hcount]
      cases hm.startMove with
      | begins hstarting hnext hrunning => rw [hstarting, List.count_cons_of_ne (Ne.symm hut)]
      | ends hstarting hnext => rw [hstarting, List.count_erase_of_ne hut]
      | other hop hstarting hnext => rw [hstarting]

end StartInv

theorem Starts.not_starting {program : List LifetimeOp} (h : Starts s t program) :
    program.Forall fun o => o.isStarting = false := by
  cases h with
  | @call n entry henabled =>
    cases entry with
    | engineDied dead => exact ⟨rfl, rfl⟩
    | _ => exact rfl
  | retry => exact rfl
  | run hw => exact ClientOp.not_starting _

theorem StartInv.step (h : StartInv r) (hs : LifetimeStep r r' a) : StartInv r' := by
  cases hs with
  | exec hops hmove hops' => exact h.exec hops hmove hops'
  | @start _ t program created hidle hprogram hcreated hshared hops' =>
    have hnot := hprogram.not_starting
    refine ⟨fun u => ?_, fun u => ?_⟩
    · by_cases hut : u = t
      · subst hut
        rw [hops', Function.update_self, ← List.append_nil program]
        exact .append hnot trivial
      · rw [hops', Function.update_of_ne hut]
        exact h.followed u
    · rw [hshared]
      by_cases hut : u = t
      · subst hut
        rw [hops', Function.update_self, count_threadsStarted hnot, ← h.counted u, hidle,
          List.count_nil]
      · rw [hops', Function.update_of_ne hut]
        exact h.counted u
  | tick hshared hops' =>
    refine ⟨hops' ▸ h.followed, ?_⟩
    rw [hops', hshared]
    exact h.counted

theorem StartInv.of_reach (h : clientLifetime.Reach ok r) : StartInv r := by
  refine Machine.Reach.invariant (I := StartInv) ?_ ?_ h
  · exact ⟨fun _ => trivial, fun _ => rfl⟩
  · exact fun _ _ _ hinv _ hs => hinv.step (.of_step hs)

/-! ## Runs in which `Init` and `Shutdown` do not overlap -/

/-- `Shutdown` begins while no `Init` starts threads, and an `Init` after it does not find the
workers stopped. -/
def NoOverlap (s : Lifetime) (_ : ClientThread) : LifetimeOp → Prop
  | .beginShutdown => s.ending ∨ s.starting = []
  | .initWorkers _ => s.client.workersRunning = true ∨ ¬ s.ending
  | _ => True

instance (s : Lifetime) (t : ClientThread) (op : LifetimeOp) : Decidable (NoOverlap s t op) :=
  match op with
  | .beginShutdown => inferInstanceAs (Decidable (s.ending ∨ s.starting = []))
  | .initWorkers _ => inferInstanceAs (Decidable (s.client.workersRunning = true ∨ ¬ s.ending))
  | .client _ | .attach .. | .deliver _ | .initTerminal _ | .prepareForInitOpen _ | .startRuntime
  | .spawn _ | .threadsStarted | .initEnsured | .finishInit | .clearCallbacks | .stopRuntime
  | .join _ | .deathReturned _ => inferInstanceAs (Decidable True)

/-- The steps of the runs in which `Init` and `Shutdown` do not overlap. -/
abbrev Serialised : LifetimeRuntime → LifetimeAction → Prop := NextLifetimeOp NoOverlap

theorem LifetimeMove.starting_of_ending (hm : LifetimeMove t answer s op s' next)
    (hok : NoOverlap s t op) (hclosing : op.isClosing = true → s.ending)
    (h : s.ending → s.starting = []) (hending' : s'.ending) : s'.starting = [] := by
  by_cases hending : s.ending
  · cases hm.startMove with
    | begins hstarting hnext hrunning =>
      rcases hok with hworkers | hnot
      · rw [hrunning] at hworkers
        cases hworkers
      · exact absurd hending hnot
    | ends hstarting hnext =>
      rw [hstarting, h hending]
      rfl
    | other hop hstarting hnext => exact hstarting.trans (h hending)
  · rcases hm.begun hending hending' with ⟨rfl, -⟩ | rfl
    · cases hm.startMove with
      | other hop hstarting hnext => exact hstarting.trans (hok.resolve_left hending)
    · exact absurd (hclosing rfl) hending

/-- Once `Shutdown` has begun, no `Init` starts threads. -/
theorem starting_of_reach (h : clientLifetime.Reach Serialised r) (hending : r.shared.ending) :
    r.shared.starting = [] := by
  refine Machine.Reach.invariant_of_reach (I := fun r => r.shared.ending → r.shared.starting = [])
    (fun _ => rfl) ?_ h hending
  intro r a r' hreach hinv hok hs hending'
  cases LifetimeStep.of_step hs with
  | @exec t answer op rest next hops hmove hops' =>
    have hclosing : ClosingInv r := .of_reach hreach
    refine hmove.starting_of_ending (hok.of_ops hops) (fun hop => ?_) hinv hending'
    exact hclosing.ending t op (hops ▸ List.mem_cons_self) hop
  | start hidle hprogram hcreated hshared | tick hshared =>
    rw [hshared] at hending' ⊢
    exact hinv hending'

theorem not_starting_of_reach (h : clientLifetime.Reach Serialised r) (hending : r.shared.ending)
    (ho : o ∈ r.ops t) : o.isStarting = false := by
  have hstart : StartInv r := .of_reach h
  refine Bool.eq_false_of_not_eq_true fun hstarting => ?_
  have hmem := hstart.mem_starting ho hstarting
  rw [starting_of_reach h hending] at hmem
  cases hmem

/-! ## The join of the threads -/

/-- What a step does to the worker threads. -/
inductive WorkerMove (s s' : Lifetime) (next : List LifetimeOp) : LifetimeOp → Prop
  | start (hrunning : s'.client.workersRunning = true) (hjoinable : s'.joinable = s.joinable)
      (hnext : next = [.spawn .submit, .spawn .response, .spawn .watchdog]) :
      WorkerMove s s' next .startRuntime
  | stop (hrunning : s'.client.workersRunning = false) (hjoinable : s'.joinable = s.joinable)
      (hnext : s.client.workersRunning = true → next = stopThreads) :
      WorkerMove s s' next .stopRuntime
  | spawn {w : ClientThread} (hrunning : s'.client.workersRunning = s.client.workersRunning)
      (hjoinable : s'.joinable = w :: s.joinable) : WorkerMove s s' next (.spawn w)
  | join {w : ClientThread} (hrunning : s'.client.workersRunning = s.client.workersRunning)
      (hjoinable : s'.joinable ⊆ s.joinable) (hw : w ∉ s'.joinable) : WorkerMove s s' next (.join w)
  | other {op : LifetimeOp} (hrunning : s'.client.workersRunning = s.client.workersRunning)
      (hjoinable : s'.joinable = s.joinable) (hop : op ≠ .stopRuntime) (hjoin : ∀ w, op ≠ .join w) :
      WorkerMove s s' next op

theorem LifetimeMove.workerMove (hm : LifetimeMove t answer s op s' next)
    (hop : op ≠ .client (.shutdown .stopRuntime)) : WorkerMove s s' next op := by
  cases hm with
  | recovery ho h hovertaken =>
    refine .other ?_ rfl nofun nofun
    rw [RecoveryOp.exec_frame h]
  | other ho h =>
    refine .other ?_ rfl nofun nofun
    rcases ClientOp.workersRunning_exec h with hsame | ⟨rfl, -⟩
    · exact hsame
    · exact absurd rfl hop
  | startRuntime hrunning => exact .start rfl rfl rfl
  | spawn hw => exact .spawn rfl rfl
  | stoppedBefore hrunning =>
    refine .stop hrunning rfl fun h => ?_
    rw [hrunning] at h
    cases h
  | stopRuntime hrunning => exact .stop rfl rfl fun _ => rfl
  | joinedBefore hw => exact .join rfl (List.Subset.refl _) hw
  | join hw => exact .join rfl (List.filter_subset_self _) (by simp)
  | _ => exact .other rfl rfl nofun nofun

theorem LifetimeMove.shutdownReturned (hm : LifetimeMove t answer s op s' next) :
    s'.client.shutdownReturned = s.client.shutdownReturned ∨
      op = .client (.shutdown .finishShutdown) := by
  cases hm with
  | recovery ho h hovertaken =>
    rw [RecoveryOp.exec_frame h]
    exact .inl rfl
  | @other o c next ho h =>
    cases o with
    | shutdown o =>
      cases ShutdownMove.of_exec h with
      | finish => exact .inr rfl
      | _ => exact .inl rfl
    | _ => exact .inl ((ClientOp.framed h).shutdownReturned nofun)
  | _ => exact .inl rfl

theorem LifetimeMove.spawn_mem (hm : LifetimeMove t answer s op s' next)
    (hmem : .spawn w ∈ next) : s'.client.workersRunning = true ∧ w ∈ workers := by
  by_cases hworkers : ∃ mode, op = .initWorkers mode
  · obtain ⟨mode, rfl⟩ := hworkers
    cases hm with
    | initAgain hrunning hl => rcases hl with rfl | rfl <;> simp [ensureLiveSession] at hmem
    | initFirst hrunning => cases mode <;> simp [initProgram, ensureLiveSession] at hmem
  · by_cases hruntime : op = .startRuntime
    · subst hruntime
      cases hm with
      | startedBefore => cases hmem
      | startRuntime => exact ⟨rfl, by simpa [workers] using hmem⟩
    · have hnot := hm.not_starting (fun mode h => hworkers ⟨mode, h⟩) hruntime
      cases List.forall_iff_forall_mem.mp hnot _ hmem

theorem LifetimeMove.stopRuntime_mem (hm : LifetimeMove t answer s .beginShutdown s' next)
    (h : ¬ s.ending) : .stopRuntime ∈ next := by
  cases hm with
  | endingBefore hending => exact absurd hending h
  | beginShutdown => simp [shutdownTail]

/-- `StopRuntime` is one of the steps of this machine. -/
theorem LifetimeMove.not_stopRuntime (hm : LifetimeMove t answer s op s' next) :
    .client (.shutdown .stopRuntime) ∉ next := by
  intro hmem
  by_cases hbegin : op = .beginShutdown
  · subst hbegin
    cases hm with
    | endingBefore => cases hmem
    | beginShutdown => simp [closeSection, shutdownTail] at hmem
  · by_cases hstop : op = .stopRuntime
    · subst hstop
      cases hm with
      | stoppedBefore => cases hmem
      | stopRuntime => simp [stopThreads] at hmem
    · cases List.forall_iff_forall_mem.mp (hm.not_closing hbegin hstop) _ hmem

/-- Who joins the threads that are started. -/
structure JoinInv (r : LifetimeRuntime) : Prop where
  /-- A thread is started while the workers run. -/
  spawns : ∀ t w, .spawn w ∈ r.ops t → r.shared.client.workersRunning = true ∧ w ∈ workers
  joins : ∀ w ∈ r.shared.joinable, w ∈ workers ∧
    (r.shared.client.workersRunning = true ∨ ∃ t, .join w ∈ r.ops t)
  /-- `Shutdown` has the workers to stop, or has stopped them. -/
  stops : ∀ t, ∀ op ∈ r.ops t, op.isClosing = true →
    .stopRuntime ∈ r.ops t ∨ r.shared.client.workersRunning = false
  points : ∀ t, .client (.shutdown .stopRuntime) ∉ r.ops t
  returned : r.shared.client.shutdownReturned = true → r.shared.ending ∧ r.shared.joinable = []

namespace JoinInv

/-- An operation stays in its thread while another is executed. -/
theorem mem_of_exec (hops : r.ops t = op :: rest)
    (hops' : r'.ops = Function.update r.ops t (next ++ rest)) (ho : o ∈ r.ops u) (hne : o ≠ op) :
    o ∈ r'.ops u := by
  rw [hops']
  by_cases hut : u = t
  · subst hut
    rw [hops] at ho
    rw [Function.update_self]
    exact List.mem_append_right _ (List.mem_of_ne_of_mem hne ho)
  · rw [Function.update_of_ne hut]
    exact ho

section

variable (h : JoinInv r) (hclosing : ClosingInv r)
  (hnot : r.shared.ending → ∀ t, ∀ o ∈ r.ops t, o.isStarting = false)
  (hops : r.ops t = op :: rest) (hm : LifetimeMove t answer r.shared op r'.shared next)
  (hops' : r'.ops = Function.update r.ops t (next ++ rest))

include h hops hm in
theorem workerMove : WorkerMove r.shared r'.shared next op := by
  refine hm.workerMove ?_
  rintro rfl
  exact h.points t (hops ▸ List.mem_cons_self)

include h hclosing hnot hops hm hops' in
theorem exec_spawns (hmem : .spawn w ∈ r'.ops u) :
    r'.shared.client.workersRunning = true ∧ w ∈ workers := by
  rcases Pool.mem_update hops (hops' ▸ hmem) with hold | ⟨rfl, hnew⟩
  · obtain ⟨hrunning, hw⟩ := h.spawns u w hold
    refine ⟨?_, hw⟩
    cases h.workerMove hops hm with
    | start hstart hjoinable hnext => exact hstart
    | stop hstop hjoinable hnext =>
      have hending := hclosing.ending t _ (hops ▸ List.mem_cons_self) rfl
      cases hnot hending u _ hold
    | spawn hsame | join hsame | other hsame => exact hsame.trans hrunning
  · exact hm.spawn_mem hnew

include h hops hm hops' in
theorem exec_joins (hw : w ∈ r'.shared.joinable) :
    w ∈ workers ∧ (r'.shared.client.workersRunning = true ∨ ∃ t, .join w ∈ r'.ops t) := by
  cases h.workerMove hops hm with
  | start hstart hjoinable hnext => exact ⟨(h.joins w (hjoinable ▸ hw)).1, .inl hstart⟩
  | stop hstop hjoinable hnext =>
    obtain ⟨hworker, hrunning | ⟨u, hu⟩⟩ := h.joins w (hjoinable ▸ hw)
    · refine ⟨hworker, .inr ⟨t, ?_⟩⟩
      rw [hops', Function.update_self, hnext hrunning]
      refine List.mem_append_left _ ?_
      simp only [workers, List.mem_cons, List.not_mem_nil, or_false] at hworker
      rcases hworker with rfl | rfl | rfl <;> simp [stopThreads]
    · exact ⟨hworker, .inr ⟨u, mem_of_exec hops hops' hu (by simp)⟩⟩
  | @spawn w' hsame hjoinable =>
    rw [hjoinable] at hw
    rcases List.mem_cons.mp hw with rfl | hold
    · obtain ⟨hrunning, hworker⟩ := h.spawns t w (hops ▸ List.mem_cons_self)
      exact ⟨hworker, .inl (hsame.trans hrunning)⟩
    · obtain ⟨hworker, hrunning | ⟨u, hu⟩⟩ := h.joins w hold
      · exact ⟨hworker, .inl (hsame.trans hrunning)⟩
      · exact ⟨hworker, .inr ⟨u, mem_of_exec hops hops' hu (by simp)⟩⟩
  | @join w' hsame hjoinable hw' =>
    obtain ⟨hworker, hrunning | ⟨u, hu⟩⟩ := h.joins w (hjoinable hw)
    · exact ⟨hworker, .inl (hsame.trans hrunning)⟩
    · refine ⟨hworker, .inr ⟨u, mem_of_exec hops hops' hu ?_⟩⟩
      rintro heq
      cases heq
      exact hw' hw
  | other hsame hjoinable hstop hjoin =>
    obtain ⟨hworker, hrunning | ⟨u, hu⟩⟩ := h.joins w (hjoinable ▸ hw)
    · exact ⟨hworker, .inl (hsame.trans hrunning)⟩
    · exact ⟨hworker, .inr ⟨u, mem_of_exec hops hops' hu (Ne.symm (hjoin w))⟩⟩

include h hclosing hnot hops hm hops' in
/-- `Shutdown` goes on. -/
theorem stops_of_closing (ho : o ∈ r.ops u) (hpoint : o.isClosing = true) :
    .stopRuntime ∈ r'.ops u ∨ r'.shared.client.workersRunning = false := by
  have hkept : op ≠ .stopRuntime →
      r'.shared.client.workersRunning = r.shared.client.workersRunning →
      .stopRuntime ∈ r'.ops u ∨ r'.shared.client.workersRunning = false := by
    intro hop hsame
    rcases h.stops u o ho hpoint with hmem | hstopped
    · exact .inl (mem_of_exec hops hops' hmem (Ne.symm hop))
    · exact .inr (hsame.trans hstopped)
  cases h.workerMove hops hm with
  | start hstart hjoinable hnext =>
    cases hnot (hclosing.ending u o ho hpoint) t _ (hops ▸ List.mem_cons_self)
  | stop hstop hjoinable hnext => exact .inr hstop
  | spawn hsame | join hsame => exact hkept nofun hsame
  | other hsame hjoinable hstop hjoin => exact hkept hstop hsame

include h hclosing hnot hops hm hops' in
theorem exec_stops (ho : o ∈ r'.ops u) (hpoint : o.isClosing = true) :
    .stopRuntime ∈ r'.ops u ∨ r'.shared.client.workersRunning = false := by
  rcases Pool.mem_update hops (hops' ▸ ho) with hold | ⟨rfl, hnew⟩
  · exact h.stops_of_closing hclosing hnot hops hm hops' hold hpoint
  · rcases hm.closing hnew hpoint with hop | ⟨hending, -, rfl⟩
    · exact h.stops_of_closing hclosing hnot hops hm hops' (hops ▸ List.mem_cons_self) hop
    · rw [hops', Function.update_self]
      exact .inl (List.mem_append_left _ (hm.stopRuntime_mem hending))

include h hclosing in
/-- When `Shutdown` comes to its end, every thread is joined. -/
theorem joinable_of_finish (hops : r.ops t = .client (.shutdown .finishShutdown) :: rest) :
    r.shared.joinable = [] := by
  have horder := hclosing.order t
  rw [hops, List.pairwise_cons] at horder
  have hmem : .client (.shutdown .finishShutdown) ∈ r.ops t := hops ▸ List.mem_cons_self
  -- no point of `Shutdown` is left, in this thread or in another
  have hlast : ∀ u, ∀ o ∈ r.ops u, o.isClosing = true →
      o = .client (.shutdown .finishShutdown) := by
    intro u o ho hpoint
    obtain rfl := hclosing.one u t o ho _ hmem hpoint rfl
    rw [hops] at ho
    rcases List.mem_cons.mp ho with rfl | hrest
    · rfl
    · rw [(horder.1 o hrest).2 rfl] at hpoint
      cases hpoint
  refine List.eq_nil_iff_forall_not_mem.mpr fun w hw => ?_
  obtain ⟨-, hrunning | ⟨u, hu⟩⟩ := h.joins w hw
  · rcases h.stops t _ hmem rfl with hstop | hstopped
    · cases hlast t _ hstop rfl
    · rw [hrunning] at hstopped
      cases hstopped
  · cases hlast u _ hu rfl

include h hclosing hnot hops hm in
theorem exec_returned (hreturned : r'.shared.client.shutdownReturned = true) :
    r'.shared.ending ∧ r'.shared.joinable = [] := by
  have hdone : r.shared.ending ∧ r.shared.joinable = [] := by
    rcases hm.shutdownReturned with hsame | rfl
    · exact h.returned (hsame ▸ hreturned)
    · exact ⟨hclosing.ending t _ (hops ▸ List.mem_cons_self) rfl,
        h.joinable_of_finish hclosing hops⟩
  refine ⟨hm.ending hdone.1, ?_⟩
  cases h.workerMove hops hm with
  | start hstart hjoinable | stop hstop hjoinable => exact hjoinable.trans hdone.2
  | spawn => cases hnot hdone.1 t _ (hops ▸ List.mem_cons_self)
  | join hsame hjoinable hw => exact List.subset_nil.mp (hdone.2 ▸ hjoinable)
  | other hsame hjoinable => exact hjoinable.trans hdone.2

include h hclosing hnot hops hm hops' in
theorem exec : JoinInv r' := by
  refine ⟨fun u w hmem => ?_, fun w hw => ?_, fun u o ho hpoint => ?_, fun u hmem => ?_, ?_⟩
  · exact h.exec_spawns hclosing hnot hops hm hops' hmem
  · exact h.exec_joins hops hm hops' hw
  · exact h.exec_stops hclosing hnot hops hm hops' ho hpoint
  · rcases Pool.mem_update hops (hops' ▸ hmem) with hold | ⟨rfl, hnew⟩
    · exact h.points u hold
    · exact hm.not_stopRuntime hnew
  · exact h.exec_returned hclosing hnot hops hm

end

/-- A step that has nothing to do with the worker threads. -/
theorem congr (h : JoinInv r)
    (hrunning : r'.shared.client.workersRunning = r.shared.client.workersRunning)
    (hjoinable : r'.shared.joinable = r.shared.joinable)
    (hcontrol : r'.shared.client.control = r.shared.client.control)
    (hreturned : r'.shared.client.shutdownReturned = r.shared.client.shutdownReturned)
    (hold : ∀ u, ∀ o ∈ r.ops u, o ∈ r'.ops u)
    (hnew : ∀ u, ∀ o ∈ r'.ops u, o ∈ r.ops u ∨ o.isClosing = false ∧ o.isStarting = false) :
    JoinInv r' := by
  refine ⟨fun u w hmem => ?_, fun w hw => ?_, fun u o ho hpoint => ?_, fun u hmem => ?_, ?_⟩
  · rw [hrunning]
    rcases hnew u _ hmem with hmem | ⟨-, hcontra⟩
    · exact h.spawns u w hmem
    · cases hcontra
  · rw [hrunning]
    obtain ⟨hworker, hruns | ⟨u, hu⟩⟩ := h.joins w (hjoinable ▸ hw)
    · exact ⟨hworker, .inl hruns⟩
    · exact ⟨hworker, .inr ⟨u, hold u _ hu⟩⟩
  · rw [hrunning]
    rcases hnew u o ho with ho | ⟨hcontra, -⟩
    · exact (h.stops u o ho hpoint).imp_left (hold u _)
    · rw [hcontra] at hpoint
      cases hpoint
  · rcases hnew u _ hmem with hmem | ⟨hcontra, -⟩
    · exact h.points u hmem
    · cases hcontra
  · unfold Lifetime.ending
    rw [hreturned, hcontrol, hjoinable]
    exact h.returned

end JoinInv

theorem JoinInv.of_reach (h : clientLifetime.Reach Serialised r) : JoinInv r := by
  refine Machine.Reach.invariant_of_reach (I := JoinInv) ?_ ?_ h
  · exact ⟨fun _ _ hmem => absurd hmem List.not_mem_nil, fun _ hw => absurd hw List.not_mem_nil,
      fun _ _ ho => absurd ho List.not_mem_nil, fun _ => List.not_mem_nil, nofun⟩
  · intro r a r' hreach hinv hok hs
    cases LifetimeStep.of_step hs with
    | exec hops hmove hops' =>
      refine hinv.exec (.of_reach hreach) (fun hending t o ho => ?_) hops hmove hops'
      exact not_starting_of_reach hreach hending ho
    | @start _ t program created hidle hprogram hcreated hshared hops' =>
      refine hinv.congr (by rw [hshared]) (by rw [hshared]) (by rw [hshared]) (by rw [hshared])
        (fun u o ho => ?_) (fun u o ho => ?_)
      · have hut : u ≠ t := by
          rintro rfl
          rw [hidle] at ho
          cases ho
        rw [hops', Function.update_of_ne hut]
        exact ho
      · rcases Pool.mem_start (hops' ▸ ho) with hold | ⟨-, hnew⟩
        · exact .inl hold
        · exact .inr ⟨List.forall_iff_forall_mem.mp hprogram.not_closing o hnew,
            List.forall_iff_forall_mem.mp hprogram.not_starting o hnew⟩
    | tick hshared hops' =>
      refine hinv.congr (by rw [hshared]) (by rw [hshared]) (by rw [hshared]) (by rw [hshared])
        (fun u o ho => ?_) (fun u o ho => ?_)
      · rw [hops']
        exact ho
      · exact .inl (hops' ▸ ho)

/-! ## `Closed` is terminal -/

theorem RecoveryMove.closed {o : RecoveryOp} {c c' : RpcClient} {next : List ClientOp}
    (hm : RecoveryMove c answer o c' next) (hclosed : c'.lifecycle = .closed) :
    c.lifecycle = .closed ∨ o = .enterTerminalClosed := by
  cases hm with
  | @start observed delayMs cause =>
    simp only [startRecovery] at hclosed
    split at hclosed <;> cases hclosed
  | ensureOpen hcontrol hnone =>
    simp only [beginSessionOpen] at hclosed
    split at hclosed <;> cases hclosed
  | openFailed =>
    simp only [RpcClient.report, handleSessionOpenFailure] at hclosed
    split at hclosed
    · cases hclosed
    · exact .inl hclosed
  | finalize | enterNoSession | enterIdleClosed => cases hclosed
  | enterTerminalClosed => exact .inr rfl
  | _ => exact .inl hclosed

/-- `Closed` is entered by `EnterTerminalClosed`. -/
theorem LifetimeMove.closed (hm : LifetimeMove t answer s op s' next)
    (hclosed : s'.client.lifecycle = .closed) :
    s.client.lifecycle = .closed ∨ op = .client (.recovery .enterTerminalClosed) := by
  cases hm with
  | recovery ho h hovertaken =>
    rcases (RecoveryMove.of_exec h).closed hclosed with hbefore | rfl
    · exact .inl hbefore
    · exact .inr rfl
  | other ho h => exact .inl ((ClientOp.interferes ho h).lifecycle ▸ hclosed)
  | @prepare mode => cases mode <;> cases hclosed
  | _ => exact .inl hclosed

/-- A client that is closed is quiet. -/
theorem quiet_of_closed (h : clientLifetime.Reach ok r)
    (hclosed : r.shared.client.lifecycle = .closed) : Quiet r := by
  refine Machine.Reach.invariant_of_reach
    (I := fun r => r.shared.client.lifecycle = .closed → Quiet r) (fun h => by cases h) ?_ h hclosed
  intro r a r' hreach hinv _ hs hclosed
  have hstep := LifetimeStep.of_step hs
  by_cases hbefore : r.shared.client.lifecycle = .closed
  · exact (hinv hbefore).step hstep
  · cases hstep with
    | exec hops hmove hops' =>
      rcases hmove.closed hclosed with hcontra | rfl
      · exact absurd hcontra hbefore
      · exact .of_terminal (.of_reach hreach) (.of_reach hreach) hops hmove hops'
    | start hidle hprogram hcreated hshared | tick hshared =>
      rw [hshared] at hclosed
      exact absurd hclosed hbefore

/-- A step of a closed client. -/
theorem closed_step (h : clientLifetime.Reach Serialised r)
    (hclosed : r.shared.client.lifecycle = .closed) (hs : LifetimeStep r r' a) :
    r'.shared.client.lifecycle = .closed ∧ r'.shared.opens = r.shared.opens := by
  have hquiet := quiet_of_closed h hclosed
  cases hs with
  | @exec t answer op rest next hops hmove hops' =>
    have hhead := (List.forall_cons _ _ _).mp (hops ▸ hquiet.ops t)
    have hinit : ∀ mode, op ≠ .prepareForInitOpen mode := by
      rintro mode rfl
      cases not_starting_of_reach h hquiet.ending (hops ▸ List.mem_cons_self)
    obtain ⟨hlifecycle, hopens⟩ := hmove.settled hhead.1 hquiet.ending hinit
    exact ⟨hlifecycle.trans hclosed, hopens⟩
  | start hidle hprogram hcreated hshared | tick hshared =>
    rw [hshared]
    exact ⟨hclosed, rfl⟩

/-- If `Init` and `Shutdown` do not overlap, a client that is closed stays closed and opens no
session, and no worker runs once `Shutdown` has returned. -/
theorem closed_terminal (h : clientLifetime.Reach Serialised r) :
    (r.shared.client.lifecycle = .closed →
      ∀ r', (clientLifetime.startFrom r).Reach Serialised r' →
        r'.shared.client.lifecycle = .closed ∧ r'.shared.opens = r.shared.opens) ∧
    (r.shared.client.shutdownReturned = true → ∀ w, ¬ r.shared.running w) := by
  constructor
  · intro hclosed r' hlater
    refine Machine.Reach.invariant_of_reach (I := fun r' =>
      r'.shared.client.lifecycle = .closed ∧ r'.shared.opens = r.shared.opens)
      ⟨hclosed, rfl⟩ ?_ hlater
    rintro s a s' hreach ⟨hstate, hopens⟩ _ hs
    obtain ⟨hstate', hopens'⟩ := closed_step (h.trans hreach) hstate (.of_step hs)
    exact ⟨hstate', hopens'.trans hopens⟩
  · rintro hreturned w ⟨hw, -⟩
    rw [((JoinInv.of_reach h).returned hreturned).2] at hw
    cases hw

/-- `Init` starts the threads, and `Shutdown` stops and joins them. -/
def initAndShutdown : List LifetimeAction :=
  .call 0 (.init .lazySession) :: executes 0 9 ++ [.run .submit, .run .response, .run .watchdog] ++
    .call 1 .shutdown :: executes 1 10 ++
    [.exec .submit {}, .exec .response {}, .exec .watchdog { watchdog := .stop }] ++ executes 1 6

theorem closed_terminal_initAndShutdown :
    ∃ r, clientLifetime.Reach Serialised r ∧ r.shared.client.lifecycle = .closed ∧
      r.shared.client.shutdownReturned = true ∧
      (∀ r', (clientLifetime.startFrom r).Reach Serialised r' →
        r'.shared.client.lifecycle = .closed) ∧ ∀ w, ¬ r.shared.running w := by
  obtain ⟨r, hreach, hclosed, hreturned⟩ := clientLifetime.exists_reachOk Serialised initAndShutdown
    (P := fun r => r.shared.client.lifecycle = .closed ∧ r.shared.client.shutdownReturned = true)
      (by decide +kernel)
  obtain ⟨hterminal, hstopped⟩ := closed_terminal hreach
  exact ⟨r, hreach, hclosed, hreturned, fun r' hr' => (hterminal hclosed r' hr').1,
    hstopped hreturned⟩

/-- `Init` has found no workers running, and a whole `Shutdown` follows. -/
def shutdownInsideInit : List LifetimeAction :=
  .call 0 (.init .lazySession) :: executes 0 2 ++ .call 1 .shutdown :: executes 1 11

/-- `Init` sets the state of a closed client and starts a thread, which nobody joins. -/
theorem not_closed_terminal :
    ∃ r r', clientLifetime.Reach Machine.Always r ∧ r.shared.client.lifecycle = .closed ∧
      r.shared.client.shutdownReturned = true ∧
      (clientLifetime.startFrom r).Reach Machine.Always r' ∧
      r'.shared.client.lifecycle = .idleClosed ∧ r'.shared.running .submit := by
  obtain ⟨r, hreach, hclosed, hreturned, hlater⟩ := clientLifetime.exists_reach shutdownInsideInit
    (P := fun r => r.shared.client.lifecycle = .closed ∧ r.shared.client.shutdownReturned = true ∧
      (clientLifetime.run r (executes 0 3)).any (fun r' =>
      r'.shared.client.lifecycle = .idleClosed ∧ r'.shared.running .submit) = true)
      (by decide +kernel)
  obtain ⟨r', hr', hstate, hrunning⟩ := Machine.exists_of_any hlater
  have hreach' : (clientLifetime.startFrom r).Reach Machine.Always r' :=
    Machine.reach_of_run (executes 0 3) hr'
  exact ⟨r, r', hreach, hclosed, hreturned, hreach', hstate, hrunning⟩

end MemRpc
