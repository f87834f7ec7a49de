import MemRpc.Rpc.LifetimeLocks

/-!
# Shutdown over the life of a client

One call of `Shutdown` gets past `BeginShutdown` (`ClosingInv`). From its
`EnterTerminalClosed` on, the functions under the mutex do nothing more than close a session
(`Quiet`), whatever `Init` and the worker threads go on to do.

## Main definitions

* `ClosingInv`, `Quiet`.

## Main results

* `ClosingInv.of_reach`.
* `quiet_of_reach`: once `Shutdown` has begun, it has its `EnterTerminalClosed` to do, or the
  client is quiet.
-/

namespace MemRpc

open Concurrency RpcClient

variable {t u : ClientThread} {answer : ClientAnswer} {s s' : Lifetime}
  {r r' : LifetimeRuntime} {a : LifetimeAction} {op o : LifetimeOp}
  {ops next rest : List LifetimeOp} {ok : LifetimeRuntime → LifetimeAction → Prop}

/-! ## The API state -/

theorem LifetimeMove.ending (hm : LifetimeMove t answer s op s' next) (h : s.ending) :
    s'.ending := by
  cases hm with
  | @recovery o c next ensured overtaken ho hexec hovertaken =>
    have hframed : Framed s.client c (.recovery o) := ClientOp.framed (t := t) hexec
    unfold Lifetime.ending
    rw [hframed.control nofun]
    exact h
  | other ho hexec =>
    unfold Lifetime.ending
    rcases ClientOp.control hexec with hc | ⟨hc, -⟩ <;> rw [hc]
    · exact h
    · exact .inr rfl
  | finishInit hcontrol =>
    rcases h with h | h <;> rw [hcontrol] at h <;> cases h
  | beginShutdown hending => exact absurd h hending
  | _ => exact h

theorem Lifetime.ending.not_opened (h : s.ending) : s.client.control ≠ .opened := by
  intro hopened
  rcases h with h | h <;> rw [hopened] at h <;> cases h

/-- `Shutdown` begins, or it comes to its end. -/
theorem LifetimeMove.begun (hm : LifetimeMove t answer s op s' next) (h : ¬ s.ending)
    (h' : s'.ending) :
    (op = .beginShutdown ∧ .client (.recovery .enterTerminalClosed) ∈ next) ∨
      op = .client (.shutdown .finishShutdown) := by
  cases hm with
  | @recovery o c next ensured overtaken ho hexec hovertaken =>
    have hframed : Framed s.client c (.recovery o) := ClientOp.framed (t := t) hexec
    unfold Lifetime.ending at h'
    rw [hframed.control nofun] at h'
    exact absurd h' h
  | other ho hexec =>
    rcases ClientOp.control hexec with hc | ⟨-, rfl⟩
    · unfold Lifetime.ending at h'
      rw [hc] at h'
      exact absurd h' h
    · exact .inr rfl
  | finishInit hcontrol => rcases h' with h' | h' <;> cases h'
  | beginShutdown hnot => exact .inl ⟨rfl, by simp [closeSection]⟩
  | _ => exact absurd h' h

/-- The operations of the client do not start the threads. -/
theorem ClientOp.workersRunning_exec {op : ClientOp} {c c' : RpcClient} {next : List ClientOp}
    (h : op.exec t answer c = some (c', next)) :
    c'.workersRunning = c.workersRunning ∨
      op = .shutdown .stopRuntime ∧ c'.workersRunning = false := by
  cases op with
  | lock =>
    simp only [ClientOp.exec] at h
    split at h <;> cases h
    exact .inl rfl
  | unlock | resolve call reply =>
    cases h
    exact .inl rfl
  | recovery o =>
    rw [RecoveryOp.exec_frame h]
    exact .inl rfl
  | submit o =>
    rw [SubmitOp.exec_frame h]
    exact .inl rfl
  | wait o =>
    rw [WaitOp.exec_frame h]
    exact .inl rfl
  | response o =>
    rw [ResponseOp.exec_frame h]
    exact .inl rfl
  | watchdog o =>
    rw [WatchdogOp.exec_frame h]
    exact .inl rfl
  | caller o =>
    rw [CallerOp.exec_frame h]
    exact .inl rfl
  | shutdown o =>
    cases ShutdownMove.of_exec h with
    | stopRuntime => exact .inr ⟨rfl, rfl⟩
    | _ => exact .inl rfl

/-! ## The points of `Shutdown` -/

/-- The points that `Shutdown` comes to after `BeginShutdown`. -/
def LifetimeOp.isClosing : LifetimeOp → Bool
  | .client (.recovery .enterTerminalClosed) | .client (.shutdown _) | .clearCallbacks
  | .stopRuntime | .join _ => true
  | _ => false

/-- No operation of the client starts `Shutdown`. -/
theorem ClientOp.shutdown_exec {op : ClientOp} {s s' : RpcClient} {next : List ClientOp}
    (h : op.exec t answer s = some (s', next)) : next.Forall fun o => o.shutdown? = none := by
  by_cases hloop : op.isLoop = true
  · cases op with
    | submit o =>
      cases SubmitMove.of_exec h with
      | dequeue hqueue => exact ⟨rfl, rfl⟩
      | exit hqueue => trivial
      | pass credit hjob =>
        have hinner : (ClientOp.submit o).Inner := ClientOp.inner_of_job hjob
        rw [hinner.1] at hloop
        cases hloop
      | _ => cases hloop
    | response o =>
      cases ReceiveMove.of_exec h with
      | run => exact ⟨rfl, rfl⟩
      | exit => trivial
      | pass poll ho => exact forall_map fun _ => rfl
      | _ => cases hloop
    | watchdog o =>
      cases WatchdogMove.of_exec h with
      | run ho => exact ⟨rfl, rfl⟩
      | exit => trivial
      | pass ho => exact forall_map fun _ => rfl
      | _ => cases hloop
    | _ => cases hloop
  · exact (ClientOp.inner_exec h (Bool.eq_false_of_not_eq_true hloop)).imp fun _ hop => hop.2

theorem ClientOp.not_closing_exec {op : ClientOp} {s s' : RpcClient} {next : List ClientOp}
    (h : op.exec t answer s = some (s', next)) :
    (next.map LifetimeOp.client).Forall fun o => o.isClosing = false := by
  refine List.forall_iff_forall_mem.mpr fun o ho => ?_
  obtain ⟨op', hop', rfl⟩ := List.mem_map.mp ho
  have hshutdown := List.forall_iff_forall_mem.mp (shutdown_exec h) op' hop'
  cases op' with
  | recovery o =>
    cases o with
    | enterTerminalClosed => exact absurd hop' (not_terminal_exec h)
    | _ => rfl
  | shutdown o => cases hshutdown
  | _ => rfl

theorem Lifetime.forall_deliveries {P : LifetimeOp → Prop} (s : Lifetime) (o : RecoveryOp)
    (c : RpcClient) (h : ∀ report, P (.deliver report)) : (s.deliveries o c).Forall P := by
  rcases s.deliveries_cases o c with hnone | ⟨report, hone⟩
  · rw [hnone]
    trivial
  · rw [hone]
    exact h report

/-- The points of `Shutdown` come from `BeginShutdown` and from `StopThreads`. -/
theorem LifetimeMove.not_closing (hm : LifetimeMove t answer s op s' next)
    (hbegin : op ≠ .beginShutdown) (hstop : op ≠ .stopRuntime) :
    next.Forall fun o => o.isClosing = false := by
  cases hm with
  | @recovery o' c next ensured overtaken ho' h hovertaken =>
    have hexec : (ClientOp.recovery o').exec t answer s.client = some (c, next) := h
    have hnext := ClientOp.not_closing_exec hexec
    exact List.forall_append.mpr ⟨s.forall_deliveries o' c fun _ => rfl, hnext⟩
  | other ho' h => exact ClientOp.not_closing_exec h
  | initAgain hrunning hl =>
    rcases hl with rfl | rfl
    · trivial
    · exact ⟨rfl, rfl, rfl⟩
  | @initFirst mode =>
    cases mode with
    | eagerSession => exact ⟨rfl, rfl, rfl, rfl, rfl, rfl, rfl⟩
    | lazySession => exact ⟨rfl, rfl, rfl, rfl⟩
  | startRuntime => exact ⟨rfl, rfl, rfl⟩
  | beginShutdown hending => exact absurd rfl hbegin
  | stopRuntime => exact absurd rfl hstop
  | bootstrap | refused | attached | attachFailed | initAdmitted | initEnsured | initFailed =>
    exact rfl
  | _ => trivial

theorem LifetimeMove.closing (hm : LifetimeMove t answer s op s' next) (ho : o ∈ next)
    (hclosing : o.isClosing = true) :
    op.isClosing = true ∨ ¬ s.ending ∧ s'.ending ∧ op = .beginShutdown := by
  by_cases hbegin : op = .beginShutdown
  · subst hbegin
    cases hm with
    | endingBefore => cases ho
    | beginShutdown hending => exact .inr ⟨hending, .inl rfl, rfl⟩
  · by_cases hstop : op = .stopRuntime
    · exact .inl (hstop ▸ rfl)
    · have hnot := List.forall_iff_forall_mem.mp (hm.not_closing hbegin hstop) o ho
      rw [hnot] at hclosing
      cases hclosing

/-- What is left of `Shutdown` when it comes to one of its points. -/
def LifetimeOp.Before (op o : LifetimeOp) : Prop :=
  (op.isClosing = true → o ≠ .client (.recovery .enterTerminalClosed)) ∧
    (op = .client (.shutdown .finishShutdown) → o.isClosing = false)

instance (op o : LifetimeOp) : Decidable (op.Before o) :=
  inferInstanceAs (Decidable ((_ → _) ∧ (_ → _)))

theorem LifetimeOp.Before.of_not_closing (h : op.isClosing = false) : op.Before o := by
  refine ⟨fun hop => ?_, ?_⟩
  · rw [h] at hop
    cases hop
  · rintro rfl
    cases h

theorem LifetimeOp.Before.of_rest (h : o.isClosing = false) : op.Before o := by
  refine ⟨?_, fun _ => h⟩
  rintro - rfl
  cases h

/-- One call of `Shutdown` gets past `BeginShutdown`, and its points come one after the other. -/
structure ClosingInv (r : LifetimeRuntime) : Prop where
  ending : ∀ t, ∀ op ∈ r.ops t, op.isClosing = true → r.shared.ending
  one : ∀ t u, ∀ op ∈ r.ops t, ∀ o ∈ r.ops u, op.isClosing = true → o.isClosing = true → t = u
  order : ∀ t, (r.ops t).Pairwise LifetimeOp.Before

/-- The operations after a step come in order, if the new ones do. -/
theorem LifetimeMove.before (hm : LifetimeMove t answer s op s' next)
    (hrest : ∀ o ∈ rest, op.Before o)
    (hending : ¬ s.ending → rest.Forall fun o => o.isClosing = false)
    (horder : rest.Pairwise LifetimeOp.Before) : (next ++ rest).Pairwise LifetimeOp.Before := by
  by_cases hbegin : op = .beginShutdown
  · subst hbegin
    cases hm with
    | endingBefore => exact horder
    | beginShutdown hnot =>
      have hquiet := List.forall_iff_forall_mem.mp (hending hnot)
      refine List.pairwise_append.mpr ⟨?_, horder, fun _ _ o ho => .of_rest (hquiet o ho)⟩
      decide
  · by_cases hstop : op = .stopRuntime
    · subst hstop
      cases hm with
      | stoppedBefore => exact horder
      | stopRuntime hrunning =>
        refine List.pairwise_append.mpr ⟨by decide, horder, fun o ho o' ho' => ?_⟩
        refine ⟨fun _ => (hrest o' ho').1 rfl, ?_⟩
        rintro rfl
        simp [stopThreads] at ho
    · have hnot := List.forall_iff_forall_mem.mp (hm.not_closing hbegin hstop)
      refine List.pairwise_append.mpr
        ⟨?_, horder, fun o ho _ _ => .of_not_closing (hnot o ho)⟩
      exact List.pairwise_of_forall_mem_list fun o ho _ _ => .of_not_closing (hnot o ho)

variable {program : List LifetimeOp}

namespace ClosingInv

/-- Where a point of `Shutdown` is after a step, there was one before it, unless `Shutdown` begins
with it. -/
theorem closing_of_exec (hops : r.ops t = op :: rest)
    (hm : LifetimeMove t answer r.shared op r'.shared next)
    (hops' : r'.ops = Function.update r.ops t (next ++ rest)) (ho : o ∈ r'.ops u)
    (hclosing : o.isClosing = true) :
    (∃ o ∈ r.ops u, o.isClosing = true) ∨ ¬ r.shared.ending ∧ r'.shared.ending ∧ u = t := by
  rcases Pool.mem_update hops (hops' ▸ ho) with hold | ⟨rfl, hnew⟩
  · exact .inl ⟨o, hold, hclosing⟩
  · rcases hm.closing hnew hclosing with hop | ⟨hnot, hending, -⟩
    · exact .inl ⟨op, hops ▸ List.mem_cons_self, hop⟩
    · exact .inr ⟨hnot, hending, rfl⟩

theorem exec (h : ClosingInv r) (hops : r.ops t = op :: rest)
    (hm : LifetimeMove t answer r.shared op r'.shared next)
    (hops' : r'.ops = Function.update r.ops t (next ++ rest)) : ClosingInv r' := by
  refine ⟨fun u o ho hclosing => ?_, fun u v o ho o' ho' hclosing hclosing' => ?_, fun u => ?_⟩
  · obtain ⟨o', ho', hold⟩ | ⟨-, hending, -⟩ := closing_of_exec hops hm hops' ho hclosing
    · exact hm.ending (h.ending u o' ho' hold)
    · exact hending
  · obtain ⟨p, hp, hpc⟩ | ⟨hnot, -, rfl⟩ := closing_of_exec hops hm hops' ho hclosing
    · obtain ⟨q, hq, hqc⟩ | ⟨hnot, -, rfl⟩ := closing_of_exec hops hm hops' ho' hclosing'
      · exact h.one u v p hp q hq hpc hqc
      · exact absurd (h.ending u p hp hpc) hnot
    · obtain ⟨q, hq, hqc⟩ | ⟨-, -, rfl⟩ := closing_of_exec hops hm hops' ho' hclosing'
      · exact absurd (h.ending v q hq hqc) hnot
      · rfl
  · by_cases hut : u = t
    · subst hut
      rw [hops', Function.update_self]
      have horder := h.order u
      rw [hops, List.pairwise_cons] at horder
      refine hm.before horder.1 (fun hnot => ?_) horder.2
      refine List.forall_iff_forall_mem.mpr fun o ho => ?_
      refine Bool.eq_false_of_not_eq_true fun hclosing => ?_
      exact hnot (h.ending u o (hops ▸ List.mem_cons_of_mem _ ho) hclosing)
    · rw [hops', Function.update_of_ne hut]
      exact h.order u

/-- A thread is given a program without points of `Shutdown`. -/
theorem start (h : ClosingInv r) (hops' : r'.ops = Function.update r.ops t program)
    (hcontrol : r'.shared.client.control = r.shared.client.control)
    (hprogram : program.Forall fun o => o.isClosing = false) : ClosingInv r' := by
  have hnot := List.forall_iff_forall_mem.mp hprogram
  have hold : ∀ u, ∀ o ∈ r'.ops u, o.isClosing = true → o ∈ r.ops u := by
    intro u o ho hclosing
    rcases Pool.mem_start (hops' ▸ ho) with hold | ⟨-, hnew⟩
    · exact hold
    · rw [hnot o hnew] at hclosing
      cases hclosing
  refine ⟨fun u o ho hclosing => ?_, fun u v o ho o' ho' hclosing hclosing' => ?_, fun u => ?_⟩
  · unfold Lifetime.ending
    rw [hcontrol]
    exact h.ending u o (hold u o ho hclosing) hclosing
  · exact h.one u v o (hold u o ho hclosing) o' (hold v o' ho' hclosing') hclosing hclosing'
  · by_cases hut : u = t
    · subst hut
      rw [hops', Function.update_self]
      exact List.pairwise_of_forall_mem_list fun o ho _ _ => .of_not_closing (hnot o ho)
    · rw [hops', Function.update_of_ne hut]
      exact h.order u

end ClosingInv

theorem Starts.not_closing (h : Starts s t program) :
    program.Forall fun o => o.isClosing = false := by
  cases h with
  | @call n entry henabled =>
    cases entry with
    | engineDied dead => exact ⟨rfl, rfl⟩
    | _ => exact rfl
  | retry => exact rfl
  | run hw =>
    cases t with
    | submit | response | watchdog => exact rfl
    | _ => trivial

theorem ClosingInv.step (h : ClosingInv r) (hs : LifetimeStep r r' a) : ClosingInv r' := by
  cases hs with
  | exec hops hmove hops' => exact h.exec hops hmove hops'
  | start hidle hprogram hcreated hshared hops' =>
    exact h.start hops' (by rw [hshared]) hprogram.not_closing
  | tick hshared hops' =>
    refine ⟨?_, ?_, ?_⟩ <;> rw [hops']
    · rw [hshared]
      exact h.ending
    · exact h.one
    · exact h.order

theorem ClosingInv.of_reach (h : clientLifetime.Reach ok r) : ClosingInv r := by
  refine Machine.Reach.invariant (I := ClosingInv) ?_ ?_ h
  · exact ⟨fun _ _ ho => absurd ho List.not_mem_nil,
      fun _ _ _ ho => absurd ho List.not_mem_nil, fun _ => .nil⟩
  · exact fun _ _ _ hinv _ hs => hinv.step (.of_step hs)

/-! ## After `EnterTerminalClosed` -/

/-- A section of one function, or nothing under the mutex. -/
def LifetimeOp.isQuiet : LifetimeOp → Bool
  | .client (.recovery o) => o.isSection
  | .attach .. => false
  | _ => true

/-- `Shutdown` has begun, and what the threads have to do under the mutex is done by functions that
refuse. -/
structure Quiet (r : LifetimeRuntime) : Prop where
  ending : r.shared.ending
  ops : ∀ t, (r.ops t).Forall fun op => op.isQuiet = true

/-- While the API is not open, a section does nothing more than close the session; before `Shutdown`
has begun, it may also open one. -/
theorem RecoveryOp.section_exec {o : RecoveryOp} {s s' : RpcClient} {next : List ClientOp}
    (ho : o.isSection = true) (hopened : s.control ≠ .opened)
    (hensure : (∃ reports, o = .ensureLive reports) → s.control = .closing ∨ s.control = .closed)
    (h : o.exec s answer = some (s', next)) :
    next = [] ∧ o.transition s = none ∧ s'.lifecycle = s.lifecycle ∧ s'.opened = s.opened ∧
      s'.cooldownUntilMs = s.cooldownUntilMs := by
  cases o with
  | applyFailure | handleIdle | handleExternal | handleDeath =>
    simp only [RecoveryOp.exec, hopened, false_and, if_false] at h
    cases h
    exact ⟨rfl, rfl, rfl, rfl, rfl⟩
  | ensureLive reports =>
    have hending := hensure ⟨reports, rfl⟩
    simp only [RecoveryOp.exec, hending, if_true] at h
    cases h
    refine ⟨rfl, ?_, rfl, rfl, rfl⟩
    rw [RecoveryOp.transition, if_pos]
    rcases hending with hc | hc
    · exact .inl hc
    · exact .inr (.inl hc)
  | closeLive cause =>
    cases RecoveryMove.of_exec h with
    | skip hconditional => cases hconditional
    | closeLive | noneLive => exact ⟨rfl, rfl, rfl, rfl, rfl⟩
  | _ => cases ho

theorem Lifetime.deliveries_of_transition {o : RecoveryOp} (h : o.transition s.client = none)
    (c : RpcClient) : s.deliveries o c = [] := by
  unfold Lifetime.deliveries RecoveryOp.reports
  rw [h]
  split <;> rfl

theorem Outside.quiet {ops : List ClientOp} (h : Outside ops) :
    (ops.map LifetimeOp.client).Forall fun op => op.isQuiet = true := by
  induction h with
  | nil => trivial
  | @plain op rest hop _ ih =>
    refine (List.forall_cons _ _ _).mpr ⟨?_, ih⟩
    cases op with
    | recovery o => cases hop
    | _ => rfl
  | resolve _ ih => exact (List.forall_cons _ _ _).mpr ⟨rfl, ih⟩
  | enter ho _ ih =>
    refine (List.forall_cons _ _ _).mpr ⟨rfl, (List.forall_cons _ _ _).mpr ⟨ho, ?_⟩⟩
    exact (List.forall_cons _ _ _).mpr ⟨rfl, ih⟩

theorem Apart.quiet (h : Apart ops) (hterminal : .client (.recovery .enterTerminalClosed) ∉ ops) :
    ops.Forall fun op => op.isQuiet = true := by
  induction h with
  | nil => trivial
  | @free op rest hop _ ih =>
    refine (List.forall_cons _ _ _).mpr ⟨?_, ih fun h => hterminal (List.mem_cons_of_mem _ h)⟩
    cases op with
    | client o =>
      cases o with
      | recovery o => cases hop
      | _ => rfl
    | attach reports session => cases hop
    | _ => rfl
  | enter ho _ ih =>
    simp only [List.mem_cons, not_or] at hterminal
    refine (List.forall_cons _ _ _).mpr ⟨rfl, (List.forall_cons _ _ _).mpr ⟨ho, ?_⟩⟩
    exact (List.forall_cons _ _ _).mpr ⟨rfl, ih hterminal.2.2.2⟩
  | close => exact absurd (List.mem_append_left _ (by simp [closeSection])) hterminal

theorem LifetimeMove.quiet (hm : LifetimeMove t answer s op s' next) (hop : op.isQuiet = true)
    (hending : s.ending) : next.Forall fun op => op.isQuiet = true := by
  cases hm with
  | bootstrap | refused | attached | attachFailed => cases hop
  | @recovery o c next ensured overtaken ho h hovertaken =>
    obtain ⟨rfl, htransition, -⟩ :=
      RecoveryOp.section_exec hop hending.not_opened (fun _ => hending) h
    rw [s.deliveries_of_transition htransition]
    trivial
  | @other o c next ho h =>
    cases o with
    | lock =>
      obtain ⟨-, -, rfl⟩ := ClientOp.lock_exec h
      trivial
    | unlock | resolve call reply =>
      cases h
      trivial
    | recovery o => exact absurd rfl (ho o)
    | _ => exact (ClientOp.outside_exec rfl h).quiet
  | initAgain hrunning hl =>
    rcases hl with rfl | rfl
    · trivial
    · exact ⟨rfl, rfl, rfl⟩
  | @initFirst mode =>
    cases mode with
    | eagerSession => exact ⟨rfl, rfl, rfl, rfl, rfl, rfl, rfl⟩
    | lazySession => exact ⟨rfl, rfl, rfl, rfl⟩
  | startRuntime => exact ⟨rfl, rfl, rfl⟩
  | beginShutdown hnot => exact absurd hending hnot
  | stopRuntime => exact ⟨rfl, rfl, rfl, rfl, rfl⟩
  | initAdmitted | initEnsured | initFailed => exact rfl
  | _ => trivial

/-- In a quiet client the state changes only when `Init` sets it, and no session is opened. -/
theorem LifetimeMove.settled (hm : LifetimeMove t answer s op s' next) (hop : op.isQuiet = true)
    (hending : s.ending) (hinit : ∀ mode, op ≠ .prepareForInitOpen mode) :
    s'.client.lifecycle = s.client.lifecycle ∧ s'.opens = s.opens := by
  cases hm with
  | bootstrap | refused | attached | attachFailed => cases hop
  | recovery ho h hovertaken =>
    obtain ⟨-, -, hlifecycle, -⟩ :=
      RecoveryOp.section_exec hop hending.not_opened (fun _ => hending) h
    exact ⟨hlifecycle, rfl⟩
  | other ho h => exact ⟨(ClientOp.interferes ho h).lifecycle, rfl⟩
  | prepare => exact absurd rfl (hinit _)
  | _ => exact ⟨rfl, rfl⟩

theorem LifetimeMove.terminal
    (hm : LifetimeMove t answer s (.client (.recovery .enterTerminalClosed)) s' next) :
    next = s.deliveries .enterTerminalClosed s'.client ∧ s'.client = s.client.enter .closed ∧
      s'.overtaken = s.initialised.isNone ∧ s'.initialised = s.initialised ∧
      s'.callback = s.callback ∧ s'.reports = s.reports := by
  cases hm with
  | recovery ho h hovertaken =>
    cases h
    exact ⟨List.append_nil _, rfl, hovertaken, rfl, rfl, rfl⟩
  | other ho h => exact absurd rfl (ho _)

theorem Starts.quiet (h : Starts s t program) :
    program.Forall fun op => op.isQuiet = true := by
  cases h with
  | @call n entry henabled =>
    cases entry with
    | engineDied dead => exact ⟨rfl, rfl⟩
    | _ => exact rfl
  | retry => exact rfl
  | run hw =>
    cases t with
    | submit | response | watchdog => exact rfl
    | _ => trivial

namespace Quiet

theorem step (h : Quiet r) (hs : LifetimeStep r r' a) : Quiet r' := by
  cases hs with
  | exec hops hmove hops' =>
    have hop := (List.forall_cons _ _ _).mp (hops ▸ h.ops _)
    have hnext := hmove.quiet hop.1 h.ending
    exact ⟨hmove.ending h.ending, hops' ▸ Pool.forall_update h.ops hops hnext⟩
  | start hidle hprogram hcreated hshared hops' =>
    refine ⟨?_, hops' ▸ Pool.forall_start h.ops hprogram.quiet⟩
    rw [hshared]
    exact h.ending
  | tick hshared hops' =>
    refine ⟨?_, hops' ▸ h.ops⟩
    rw [hshared]
    exact h.ending

/-- `EnterTerminalClosed` is executed. -/
theorem of_terminal (hmutex : MutexInv r) (hclosing : ClosingInv r)
    (hops : r.ops t = .client (.recovery .enterTerminalClosed) :: rest)
    (hm : LifetimeMove t answer r.shared (.client (.recovery .enterTerminalClosed)) r'.shared next)
    (hops' : r'.ops = Function.update r.ops t (next ++ rest)) : Quiet r' := by
  have hmem : .client (.recovery .enterTerminalClosed) ∈ r.ops t := hops ▸ List.mem_cons_self
  have hheld : r.shared.client.lifecycleMutex = some t := hmutex.holder hops rfl nofun
  refine ⟨hm.ending (hclosing.ending t _ hmem rfl), fun u => ?_⟩
  by_cases hut : u = t
  · subst hut
    rw [hops', Function.update_self]
    have hwithin := (hmutex u).within hheld
    have horder := hclosing.order u
    rw [hops, List.pairwise_cons] at horder
    rw [hops] at hwithin
    have hrest : rest.Forall fun op => op.isQuiet = true := by
      cases hwithin with
      | held hop h => cases hop
      | @terminal rest h =>
        refine (List.forall_cons _ _ _).mpr ⟨rfl, h.quiet fun hagain => ?_⟩
        exact (horder.1 _ (List.mem_cons_of_mem _ hagain)).1 rfl rfl
    rw [hm.terminal.1]
    exact List.forall_append.mpr ⟨Lifetime.forall_deliveries _ _ _ fun _ => rfl, hrest⟩
  · rw [hops', Function.update_of_ne hut]
    have hfree : r.shared.client.lifecycleMutex ≠ some u := by
      rw [hheld]
      exact fun h => hut (Option.some.inj h).symm
    refine ((hmutex u).apart hfree).quiet fun hother => hut ?_
    exact hclosing.one u t _ hother _ hmem rfl rfl

end Quiet

/-- An operation stays in its thread until it is executed. -/
theorem LifetimeStep.mem (hs : LifetimeStep r r' a) (ho : o ∈ r.ops u) :
    o ∈ r'.ops u ∨ ∃ answer rest next, r.ops u = o :: rest ∧
      LifetimeMove u answer r.shared o r'.shared next ∧
      r'.ops = Function.update r.ops u (next ++ rest) := by
  cases hs with
  | @exec t answer op rest next hops hmove hops' =>
    by_cases hut : u = t
    · subst hut
      rw [hops] at ho
      rcases List.mem_cons.mp ho with rfl | hrest
      · exact .inr ⟨answer, rest, next, hops, hmove, hops'⟩
      · rw [hops', Function.update_self]
        exact .inl (List.mem_append_right _ hrest)
    · rw [hops', Function.update_of_ne hut]
      exact .inl ho
  | @start _ t program created hidle hprogram hcreated hshared hops' =>
    have hut : u ≠ t := by
      rintro rfl
      rw [hidle] at ho
      cases ho
    rw [hops', Function.update_of_ne hut]
    exact .inl ho
  | tick hshared hops' => exact .inl (hops' ▸ ho)

/-- Once `Shutdown` has begun, it has its `EnterTerminalClosed` to do, or the client is quiet. -/
theorem quiet_of_reach (h : clientLifetime.Reach ok r) (hending : r.shared.ending) :
    Quiet r ∨ ∃ t, .client (.recovery .enterTerminalClosed) ∈ r.ops t := by
  refine Machine.Reach.invariant_of_reach (I := fun r => r.shared.ending →
    Quiet r ∨ ∃ t, .client (.recovery .enterTerminalClosed) ∈ r.ops t) ?_ ?_ h hending
  · rintro (h | h) <;> cases h
  · intro r a r' hreach hinv _ hs hending'
    have hmutex : MutexInv r := .of_reach hreach
    have hclosing : ClosingInv r := .of_reach hreach
    have hstep := LifetimeStep.of_step hs
    by_cases hending : r.shared.ending
    · rcases hinv hending with hquiet | ⟨u, hu⟩
      · exact .inl (hquiet.step hstep)
      · rcases hstep.mem hu with hu' | ⟨answer, rest, next, hops, hmove, hops'⟩
        · exact .inr ⟨u, hu'⟩
        · exact .inl (.of_terminal hmutex hclosing hops hmove hops')
    · cases hstep with
      | @exec t answer op rest next hops hmove hops' =>
        rcases hmove.begun hending hending' with ⟨-, hmem⟩ | rfl
        · refine .inr ⟨t, ?_⟩
          rw [hops', Function.update_self]
          exact List.mem_append_left _ hmem
        · exact absurd (hclosing.ending t _ (hops ▸ List.mem_cons_self) rfl) hending
      | start hidle hprogram hcreated hshared | tick hshared =>
        rw [hshared] at hending'
        exact absurd hending' hending

theorem Quiet.not_terminal (h : Quiet r) : .client (.recovery .enterTerminalClosed) ∉ r.ops t := by
  intro hmem
  cases List.forall_iff_forall_mem.mp (h.ops t) _ hmem

theorem LifetimeMove.callback (hm : LifetimeMove t answer s op s' next) :
    s'.callback = s.callback ∨ op = .clearCallbacks := by
  cases hm with
  | clearCallbacks => exact .inr rfl
  | _ => exact .inl rfl

/-- The callbacks are cleared after `EnterTerminalClosed`. -/
theorem quiet_of_cleared (h : clientLifetime.Reach ok r) (hcallback : r.shared.callback = false) :
    Quiet r := by
  refine Machine.Reach.invariant_of_reach (I := fun r => r.shared.callback = false → Quiet r)
    (fun hcleared => by cases hcleared) ?_ h hcallback
  intro r a r' hreach hinv _ hs hcallback
  have hstep := LifetimeStep.of_step hs
  refine Quiet.step ?_ hstep
  cases hstep with
  | @exec t answer op rest next hops hmove hops' =>
    rcases hmove.callback with hsame | rfl
    · exact hinv (hsame ▸ hcallback)
    · have hclosing : ClosingInv r := .of_reach hreach
      have hmem : .clearCallbacks ∈ r.ops t := hops ▸ List.mem_cons_self
      rcases quiet_of_reach hreach (hclosing.ending t _ hmem rfl) with hquiet | ⟨u, hu⟩
      · exact hquiet
      · obtain rfl := hclosing.one u t _ hu _ hmem rfl rfl
        have horder := hclosing.order u
        rw [hops, List.pairwise_cons] at horder
        rw [hops] at hu
        rcases List.mem_cons.mp hu with heq | hrest
        · cases heq
        · exact absurd rfl ((horder.1 _ hrest).1 rfl)
  | start hidle hprogram hcreated hshared | tick hshared =>
    rw [hshared] at hcallback
    exact hinv hcallback

end MemRpc
