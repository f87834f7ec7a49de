import MemRpc.Rpc.LifetimeShutdown

/-!
# The order of the recovery events

`TransitionLifecycle` builds its report under the state mutex and delivers it after that mutex
is released. Reports come from many places: opens, failures, idle closes, recoveries and
`Shutdown`, each on a thread of its own. The outer `lifecycleMutex_` is held across both steps,
so at most one report is on its way, and the reports come in the order of the transitions.

If `Init` is executed once, the reports form a chain from the state that `Init` has set
(`reports_chain`). The exception is a `Shutdown` that enters `Closed` before `Init` has set its
state: the client then reports the transition from `Uninitialized` to `Closed`, and nothing else
(`reports_overtaken`).

## Main definitions

* `Links`: reports that lead from one state to another.
* `InitOnce`: the runs in which `Init` sets the state once.

## Main results

* `reports_chain`.
-/

namespace MemRpc

open Concurrency RpcClient

variable {t u : ClientThread} {answer : ClientAnswer} {s s' : Lifetime}
  {r r' : LifetimeRuntime} {a : LifetimeAction} {op o : LifetimeOp}
  {ops next rest : List LifetimeOp} {ok : LifetimeRuntime → LifetimeAction → Prop}

/-! ## Chains of reports -/

/-- The first report begins in `start`, and every later one where the one before it ends. -/
structure ReportChain (start : ClientLifecycleState) (l : List RecoveryEventReport) : Prop where
  first : ∀ report ∈ l.head?, report.previousState = start
  chain : l.IsChain fun report report' => report'.previousState = report.state

/-- The reports lead from `start` to `finish`. -/
structure Links (start finish : ClientLifecycleState) (l : List RecoveryEventReport) : Prop
    extends ReportChain start l where
  last : l.getLast?.elim start (·.state) = finish

variable {start finish : ClientLifecycleState} {l l' : List RecoveryEventReport}
  {report : RecoveryEventReport}

theorem Links.nil (start : ClientLifecycleState) : Links start start [] :=
  ⟨⟨nofun, .nil⟩, rfl⟩

theorem Links.append (h : Links start finish l) (hprevious : report.previousState = finish) :
    Links start report.state (l ++ [report]) := by
  refine ⟨⟨?_, ?_⟩, by simp⟩
  · intro report' hreport
    cases l with
    | nil =>
      obtain rfl : report = report' := by simpa using hreport
      exact hprevious.trans h.last.symm
    | cons first l => exact h.first report' hreport
  · refine List.isChain_append.mpr ⟨h.chain, .singleton _, ?_⟩
    intro report' hlast report'' hhead
    obtain rfl : report = report'' := by simpa using hhead
    rw [hprevious, ← h.last, Option.mem_def.mp hlast]
    rfl

theorem ReportChain.left (h : ReportChain start (l ++ l')) : ReportChain start l := by
  refine ⟨fun report hreport => h.first report ?_, h.chain.left_of_append⟩
  cases l with
  | nil => cases hreport
  | cons first l => exact hreport

/-! ## The reports on their way -/

/-- The report that an operation delivers. -/
def LifetimeOp.report? : LifetimeOp → Option RecoveryEventReport
  | .deliver report => some report
  | _ => none

/-- The reports that the holder of the mutex has still to deliver. -/
def undelivered (r : LifetimeRuntime) : List RecoveryEventReport :=
  r.shared.client.lifecycleMutex.elim [] fun t => (r.ops t).filterMap LifetimeOp.report?

/-- The reports that are delivered or on their way. -/
def reported (r : LifetimeRuntime) : List RecoveryEventReport := r.shared.reports ++ undelivered r

/-- The reports that executing an operation gives rise to. -/
def LifetimeOp.built (s s' : Lifetime) : LifetimeOp → List RecoveryEventReport
  | .client (.recovery o) => if s.callback then o.reports s.client s'.client else []
  | _ => []

theorem filterMap_report_of_not_urgent (h : ops.Forall fun op => op.isUrgent = false) :
    ops.filterMap LifetimeOp.report? = [] := by
  rw [List.filterMap_eq_nil_iff]
  intro op hop
  have hurgent := List.forall_iff_forall_mem.mp h op hop
  cases op with
  | deliver report => cases hurgent
  | _ => rfl

theorem filterMap_report_client (l : List ClientOp) :
    (l.map LifetimeOp.client).filterMap LifetimeOp.report? = [] :=
  filterMap_report_of_not_urgent (forall_client l)

theorem Lifetime.filterMap_deliveries (s : Lifetime) (o : RecoveryOp) (c : RpcClient) :
    (s.deliveries o c).filterMap LifetimeOp.report? =
      if s.callback then o.reports s.client c else [] := by
  unfold Lifetime.deliveries
  split
  · rw [List.filterMap_map]
    exact List.filterMap_some
  · rfl

theorem LifetimeMove.reports (hm : LifetimeMove t answer s op s' next) :
    s'.reports = s.reports ++ op.report?.toList := by
  cases hm with
  | deliver => rfl
  | _ => exact (List.append_nil _).symm

/-- The reports that an operation gives rise to are delivered next. -/
theorem LifetimeMove.built (hm : LifetimeMove t answer s op s' next) :
    next.filterMap LifetimeOp.report? = op.built s s' := by
  cases hm with
  | bootstrap | refused =>
    simp [LifetimeOp.report?, LifetimeOp.built, RecoveryOp.reports, RecoveryOp.transition]
  | recovery ho h hovertaken =>
    rw [List.filterMap_append, s.filterMap_deliveries, filterMap_report_client, List.append_nil]
    rfl
  | @other o c next ho h =>
    rw [filterMap_report_client]
    cases o with
    | recovery o => exact absurd rfl (ho o)
    | _ => rfl
  | initAgain hrunning hl => rcases hl with rfl | rfl <;> rfl
  | @initFirst mode => cases mode <;> rfl
  | _ => rfl

/-- A step delivers a report, gives rise to one, or leaves the reports as they are. -/
theorem reported_exec (hmutex : MutexInv r) (hops : r.ops t = op :: rest)
    (hm : LifetimeMove t answer r.shared op r'.shared next)
    (hops' : r'.ops = Function.update r.ops t (next ++ rest)) :
    reported r' = reported r ++ op.built r.shared r'.shared := by
  have hrest : rest.filterMap LifetimeOp.report? = [] := by
    have hurgent := (hmutex t).urgent
    rw [hops, List.tail_cons] at hurgent
    exact filterMap_report_of_not_urgent hurgent
  have hcons : (r.ops t).filterMap LifetimeOp.report? = op.report?.toList := by
    rw [hops, List.filterMap_cons]
    cases op.report? <;> simp [hrest]
  unfold reported undelivered
  rw [hm.reports]
  by_cases hunlock : op = .client .unlock
  · subst hunlock
    obtain ⟨hnone, rfl⟩ := hm.unlock
    rw [hmutex.holder hops rfl nofun, hnone, Option.elim_some, hcons]
    rfl
  by_cases hlock : op = .client .lock
  · subst hlock
    obtain ⟨hnone, hsome, rfl⟩ := hm.lock
    rw [hnone, hsome, Option.elim_some, hops', Function.update_self, List.nil_append, hrest]
    rfl
  rw [hm.mutex hlock hunlock]
  by_cases hheld : r.shared.client.lifecycleMutex = some t
  · rw [hheld, Option.elim_some, Option.elim_some, hcons, hops', Function.update_self,
      List.filterMap_append, hrest, hm.built, List.append_nil]
  · have hop : op.isFree = true := by
      by_contra hfree
      exact hheld (hmutex.holder hops (Bool.eq_false_of_not_eq_true hfree) hlock)
    have hnone : op.report? = none ∧ op.built r.shared r'.shared = [] := by
      cases op with
      | client o =>
        cases o with
        | recovery o => cases hop
        | _ => exact ⟨rfl, rfl⟩
      | deliver report => cases hop
      | _ => exact ⟨rfl, rfl⟩
    rw [hnone.1, hnone.2, Option.toList_none, List.append_nil, List.append_nil]
    cases hmutex' : r.shared.client.lifecycleMutex with
    | none => rfl
    | some u =>
      have hut : u ≠ t := by
        rintro rfl
        exact hheld hmutex'
      rw [Option.elim_some, Option.elim_some, hops', Function.update_of_ne hut]

/-! ## Transitions -/

/-- A function that reports no transition leaves the state. -/
theorem RecoveryOp.lifecycle_exec {o : RecoveryOp} {c c' : RpcClient} {next : List ClientOp}
    (h : o.exec c answer = some (c', next)) (htransition : o.transition c = none) :
    c'.lifecycle = c.lifecycle := by
  cases o with
  | ensureLive reports =>
    simp only [RecoveryOp.transition] at htransition
    split at htransition
    · rename_i hnone
      simp only [RecoveryOp.exec] at h
      split at h
      · cases h
        rfl
      split at h
      · cases h
        rfl
      split at h
      · cases h
        rfl
      · rename_i hclosing hcooldown hlive
        cases h
        have hpending : c.lifecycle = .recovering ∨ c.lifecycle = .uninitialized := by tauto
        rcases hpending with hstate | hstate <;> simp [beginSessionOpen, hstate]
    · cases htransition
  | openFailed status reports =>
    cases h
    simp only [RecoveryOp.transition] at htransition
    split at htransition
    · cases htransition
    · rename_i hpending
      simp [RpcClient.report, handleSessionOpenFailure, hpending]
  | enterNoSession =>
    simp only [RecoveryOp.transition] at htransition
    split at htransition
    · cases htransition
    · rename_i hcontrol
      simp only [RecoveryOp.exec, if_neg hcontrol] at h
      cases h
      rfl
  | startRecovery | finalizeOpen | enterIdleClosed | enterTerminalClosed => cases htransition
  | _ => cases RecoveryMove.of_exec h <;> rfl

/-- The report of a transition says what it is. -/
theorem RecoveryOp.links_reports {o : RecoveryOp} {c c' : RpcClient} {next : List ClientOp}
    (h : o.exec c answer = some (c', next)) (hlinks : Links start c.lifecycle l) :
    Links start c'.lifecycle (l ++ o.reports c c') := by
  unfold RecoveryOp.reports
  split
  · rename_i delayMs sessionId htransition
    have hprevious :
        (c'.buildTransitionReport c.lifecycle delayMs sessionId).previousState = c.lifecycle := rfl
    exact hlinks.append hprevious
  · rename_i htransition
    rw [List.append_nil, RecoveryOp.lifecycle_exec h htransition]
    exact hlinks

/-! ## Before `Init` sets the state -/

/-- The operations of the client that can be executed before `Init` sets the state. -/
def ClientOp.isEarly : ClientOp → Bool
  | .recovery .enterTerminalClosed => true
  | .recovery (.ensureLive _) => false
  | .recovery o => o.isSection
  | .wait o => o.waiter.job?.isNone
  | .submit _ | .response _ | .watchdog _ => false
  | _ => true

def LifetimeOp.isEarly : LifetimeOp → Bool
  | .client o => o.isEarly
  | .deliver _ | .initTerminal _ | .initWorkers _ | .beginShutdown | .clearCallbacks
  | .stopRuntime | .join _ | .deathReturned _ => true
  | _ => false

/-- What a thread has to do until `Init` sets the state. -/
inductive Early : List LifetimeOp → Prop
  | nil : Early []
  | prepare {mode : ClientInitMode} {rest : List LifetimeOp} :
      Early (.prepareForInitOpen mode :: rest)
  | cons {op : LifetimeOp} {rest : List LifetimeOp} (hop : op.isEarly = true) (h : Early rest) :
      Early (op :: rest)

theorem Early.append (hops : ops.Forall fun op => op.isEarly = true) (h : Early rest) :
    Early (ops ++ rest) := by
  induction ops with
  | nil => exact h
  | cons op ops ih =>
    obtain ⟨hop, htail⟩ := (List.forall_cons _ _ _).mp hops
    exact .cons hop (ih htail)

section

variable {c c' : RpcClient} {next : List ClientOp}

theorem CallMove.early {o : CallerOp} (hm : CallMove t c o c' next) :
    next.Forall fun op => op.isEarly = true := by
  cases hm with
  | skip => trivial
  | enqueue | reject =>
    cases t with
    | retrier k => exact rfl
    | _ => trivial
  | external | engineDied => exact ⟨rfl, rfl, rfl⟩
  | accept | refuse | ready => exact rfl
  | @wait call status o hstatus ho =>
    have hearly : (ClientOp.wait o).isEarly = true := by
      rw [ClientOp.isEarly, ho]
      rfl
    exact hearly

theorem WaitOp.early {o : WaitOp} (ho : o.waiter.job?.isNone = true)
    (h : o.exec c answer = some (c', next)) : next.Forall fun op => op.isEarly = true := by
  rcases WaitOp.exec_next h with ⟨o', rfl, hwaiter⟩ | ⟨status, rfl⟩
  · have hearly : (ClientOp.wait o').isEarly = true := by
      rw [ClientOp.isEarly, hwaiter, ho]
    exact hearly
  · cases hwaiter : o.waiter with
    | submit job info =>
      rw [hwaiter] at ho
      cases ho
    | retry call st =>
      rcases Waiter.resume_retry call st status with h | h <;> rw [h]
      · exact rfl
      · trivial

theorem ShutdownMove.early {o : ShutdownOp} (hm : ShutdownMove c o c' next) :
    next.Forall fun op => op.isEarly = true := by
  cases hm with
  | failAllPending => exact forall_flatMap fun p => ⟨rfl, rfl, rfl, rfl⟩
  | failQueued hfree => exact forall_map fun job => rfl
  | _ => trivial

theorem ClientOp.early_exec {op : ClientOp} (hop : op.isEarly = true) (hop' : ∀ o, op ≠ .recovery o)
    (h : op.exec t answer c = some (c', next)) : next.Forall fun op => op.isEarly = true := by
  cases op with
  | lock =>
    obtain ⟨-, -, rfl⟩ := lock_exec h
    trivial
  | unlock | resolve call reply =>
    cases h
    trivial
  | recovery o => exact absurd rfl (hop' o)
  | wait o => exact WaitOp.early hop h
  | caller o => exact (CallMove.of_exec h).early
  | shutdown o => exact (ShutdownMove.of_exec h).early
  | _ => cases hop

/-- A section before `Init` sets the state does nothing. -/
theorem RecoveryOp.early_exec {o : RecoveryOp} (ho : (ClientOp.recovery o).isEarly = true)
    (hterminal : o ≠ .enterTerminalClosed) (hcontrol : c.control ≠ .opened)
    (h : o.exec c answer = some (c', next)) :
    next = [] ∧ o.transition c = none ∧ c'.lifecycle = c.lifecycle := by
  have hensure : ∀ reports, o ≠ .ensureLive reports := by
    rintro reports rfl
    cases ho
  have hsection : o.isSection = true := by
    cases o with
    | ensureLive reports => exact absurd rfl (hensure reports)
    | enterTerminalClosed => exact absurd rfl hterminal
    | _ => exact ho
  obtain ⟨hnext, htransition, hlifecycle, -⟩ := RecoveryOp.section_exec hsection hcontrol
    (fun ⟨reports, hreports⟩ => absurd hreports (hensure reports)) h
  exact ⟨hnext, htransition, hlifecycle⟩

end

theorem LifetimeMove.early (hm : LifetimeMove t answer s op s' next) (hop : op.isEarly = true)
    (hterminal : op ≠ .client (.recovery .enterTerminalClosed))
    (hcontrol : s.client.control ≠ .opened) (hstopped : s.client.workersRunning = false)
    (hrest : Early rest) : Early (next ++ rest) := by
  cases hm with
  | bootstrap | refused => cases hop
  | @recovery o c next ensured overtaken ho h hovertaken =>
    have hne : o ≠ .enterTerminalClosed := by
      rintro rfl
      exact hterminal rfl
    obtain ⟨rfl, htransition, -⟩ := RecoveryOp.early_exec hop hne hcontrol h
    rw [s.deliveries_of_transition htransition]
    exact hrest
  | other ho h =>
    refine .append ?_ hrest
    rw [List.forall_map_iff]
    exact ClientOp.early_exec hop ho h
  | attached | attachFailed | prepare | startedBefore | startRuntime | spawn | threadsStarted
  | initEnsured | initFailed | finishInit | initLate => cases hop
  | initAdmitted => exact .cons rfl hrest
  | initAgain hrunning hl =>
    rw [hstopped] at hrunning
    cases hrunning
  | initFirst => exact .prepare
  | beginShutdown => exact .append ⟨rfl, rfl, rfl, rfl, rfl, rfl, rfl, rfl, rfl⟩ hrest
  | stopRuntime hrunning =>
    rw [hstopped] at hrunning
    cases hrunning
  | _ => exact hrest

/-- What an early operation leaves as it is. -/
structure Kept (s s' : Lifetime) : Prop where
  control : s'.client.control ≠ .opened
  stopped : s'.client.workersRunning = false
  created : s'.created = s.created
  lifecycle : s'.client.lifecycle = s.client.lifecycle
  overtaken : s'.overtaken = s.overtaken
  initialised : s'.initialised = s.initialised

theorem LifetimeMove.kept (hm : LifetimeMove t answer s op s' next) (hop : op.isEarly = true)
    (hterminal : op ≠ .client (.recovery .enterTerminalClosed))
    (hcontrol : s.client.control ≠ .opened) (hstopped : s.client.workersRunning = false) :
    Kept s s' ∧ op.built s s' = [] := by
  cases hm with
  | bootstrap | refused => cases hop
  | @recovery o c next ensured overtaken ho h hovertaken =>
    have hne : o ≠ .enterTerminalClosed := by
      rintro rfl
      exact hterminal rfl
    obtain ⟨-, htransition, hlifecycle⟩ := RecoveryOp.early_exec hop hne hcontrol h
    have hframed : Framed s.client c (.recovery o) := ClientOp.framed (t := t) h
    have hrunning : c.workersRunning = false := by
      rw [RecoveryOp.exec_frame h]
      exact hstopped
    refine ⟨⟨?_, hrunning, rfl, hlifecycle, ?_, rfl⟩, ?_⟩
    · rw [hframed.control nofun]
      exact hcontrol
    · rw [hovertaken, if_neg hne]
    · simp [LifetimeOp.built, RecoveryOp.reports, htransition]
  | @other o c next ho h =>
    have hrunning : c.workersRunning = false := by
      rcases ClientOp.workersRunning_exec h with hsame | ⟨-, hrunning⟩
      · exact hsame.trans hstopped
      · exact hrunning
    refine ⟨⟨?_, hrunning, rfl, ?_, rfl, rfl⟩, ?_⟩
    · rcases ClientOp.control h with hc | ⟨hc, -⟩ <;> rw [hc]
      · exact hcontrol
      · exact ApiLifecycleState.noConfusion
    · exact (ClientOp.interferes ho h).lifecycle
    · cases o with
      | recovery o => exact absurd rfl (ho o)
      | _ => rfl
  | attached | attachFailed | prepare | startedBefore | startRuntime | spawn | threadsStarted
  | initEnsured | initFailed | finishInit | initLate => cases hop
  | beginShutdown => exact ⟨⟨ApiLifecycleState.noConfusion, hstopped, rfl, rfl, rfl, rfl⟩, rfl⟩
  | stopRuntime hrunning => exact ⟨⟨hcontrol, rfl, rfl, rfl, rfl, rfl⟩, rfl⟩
  | _ => exact ⟨⟨hcontrol, hstopped, rfl, rfl, rfl, rfl⟩, rfl⟩

/-! ## Runs -/

/-- `Init` sets the state once. -/
def SetsOnce (s : Lifetime) (_ : ClientThread) : LifetimeOp → Prop
  | .prepareForInitOpen _ => s.initialised = none
  | _ => True

instance (s : Lifetime) (t : ClientThread) (op : LifetimeOp) : Decidable (SetsOnce s t op) :=
  match op with
  | .prepareForInitOpen _ => inferInstanceAs (Decidable (s.initialised = none))
  | .client _ | .attach .. | .deliver _ | .initTerminal _ | .initWorkers _ | .startRuntime
  | .spawn _ | .threadsStarted | .initEnsured | .finishInit | .beginShutdown | .clearCallbacks
  | .stopRuntime | .join _ | .deathReturned _ => inferInstanceAs (Decidable True)

/-- The steps of a client that is initialised once. -/
abbrev InitOnce : LifetimeRuntime → LifetimeAction → Prop := NextLifetimeOp SetsOnce

/-- `Init` has not set the state yet. -/
structure BeforeInit (r : LifetimeRuntime) : Prop where
  control : r.shared.client.control ≠ .opened
  stopped : r.shared.client.workersRunning = false
  created : r.shared.created = []
  lifecycle : r.shared.client.lifecycle = .uninitialized
  overtaken : r.shared.overtaken = false
  initialised : r.shared.initialised = none
  ops : ∀ t, Early (r.ops t)
  silent : reported r = []

/-- Where a client is on its way. -/
inductive Phase (r : LifetimeRuntime) : Prop
  | before (h : BeforeInit r)
  | running {start : ClientLifecycleState} (hinitialised : r.shared.initialised = some start)
      (hovertaken : r.shared.overtaken = false)
      (h : Links start r.shared.client.lifecycle (reported r))
  | overtaken {report : RecoveryEventReport} (hovertaken : r.shared.overtaken = true)
      (hquiet : Quiet r) (hreported : reported r = [report])
      (hprevious : report.previousState = .uninitialized) (hstate : report.state = .closed)

theorem LifetimeMove.initialised (hm : LifetimeMove t answer s op s' next)
    (hop : ∀ mode, op ≠ .prepareForInitOpen mode) : s'.initialised = s.initialised := by
  cases hm with
  | prepare => exact absurd rfl (hop _)
  | _ => rfl

theorem LifetimeMove.prepared {mode : ClientInitMode}
    (hm : LifetimeMove t answer s (.prepareForInitOpen mode) s' next) :
    s'.initialised = some mode.initialState ∧ s'.client.lifecycle = mode.initialState ∧
      s'.overtaken = s.overtaken := by
  cases hm with
  | prepare => exact ⟨rfl, rfl, rfl⟩

theorem LifetimeMove.overtaken (hm : LifetimeMove t answer s op s' next) :
    s'.overtaken = s.overtaken ∨ op = .client (.recovery .enterTerminalClosed) := by
  cases hm with
  | @recovery o c next ensured overtaken ho h hovertaken =>
    by_cases hterminal : o = .enterTerminalClosed
    · exact .inr (by rw [hterminal])
    · exact .inl (by rw [hovertaken, if_neg hterminal])
  | _ => exact .inl rfl

/-- In a quiet client no operation makes a transition. -/
theorem LifetimeMove.built_of_quiet (hm : LifetimeMove t answer s op s' next)
    (hop : op.isQuiet = true) (hending : s.ending) : op.built s s' = [] := by
  cases hm with
  | bootstrap | refused | attached | attachFailed => cases hop
  | recovery ho h hovertaken =>
    obtain ⟨-, htransition, -⟩ :=
      RecoveryOp.section_exec hop hending.not_opened (fun _ => hending) h
    simp [LifetimeOp.built, RecoveryOp.reports, htransition]
  | @other o c next ho h =>
    cases o with
    | recovery o => exact absurd rfl (ho o)
    | _ => rfl
  | _ => rfl

/-- The reports keep up with the transitions while the callback is installed. -/
theorem LifetimeMove.links (hm : LifetimeMove t answer s op s' next)
    (hop : ∀ mode, op ≠ .prepareForInitOpen mode) (hcallback : s.callback = true)
    (h : Links start s.client.lifecycle l) :
    Links start s'.client.lifecycle (l ++ op.built s s') := by
  cases hm with
  | bootstrap | refused =>
    simpa [LifetimeOp.built, RecoveryOp.reports, RecoveryOp.transition] using h
  | recovery ho hexec hovertaken =>
    simp only [LifetimeOp.built, hcallback, if_true]
    exact RecoveryOp.links_reports hexec h
  | @other o c next ho hexec =>
    rw [(ClientOp.interferes ho hexec).lifecycle]
    cases o with
    | recovery o => exact absurd rfl (ho o)
    | _ => exact (List.append_nil l).symm ▸ h
  | prepare => exact absurd rfl (hop _)
  | _ => exact (List.append_nil l).symm ▸ h

variable {program : List LifetimeOp}

theorem Starts.early (h : Starts s t program) (hcreated : s.created = []) : Early program := by
  cases h with
  | @call n entry henabled =>
    cases entry with
    | engineDied dead => exact .cons rfl (.cons rfl .nil)
    | _ => exact .cons rfl .nil
  | retry => exact .cons rfl .nil
  | run hw =>
    rw [hcreated] at hw
    cases hw

/-- A thread that starts has no report to deliver. -/
theorem reported_start (hmutex : MutexInv r) (hidle : r.ops t = [])
    (hreports : r'.shared.reports = r.shared.reports)
    (hholder : r'.shared.client.lifecycleMutex = r.shared.client.lifecycleMutex)
    (hops' : r'.ops = Function.update r.ops t program) : reported r' = reported r := by
  unfold reported undelivered
  rw [hreports, hholder]
  cases hheld : r.shared.client.lifecycleMutex with
  | none => rfl
  | some u =>
    have hut : u ≠ t := by
      rintro rfl
      have hwithin := (hmutex u).within hheld
      rw [hidle] at hwithin
      cases hwithin
    rw [Option.elim_some, Option.elim_some, hops', Function.update_of_ne hut]

/-- A thread starts before `Init` has set the state. -/
theorem BeforeInit.started {created : List ClientThread}
    (h : BeforeInit r) (hprogram : Starts r.shared t program)
    (hcreated : created ⊆ r.shared.created) (hshared : r'.shared = { r.shared with created })
    (hops' : r'.ops = Function.update r.ops t program) (hreported : reported r' = reported r) :
    BeforeInit r' := by
  refine ⟨?_, ?_, ?_, ?_, ?_, ?_, fun u => ?_, hreported.trans h.silent⟩
  · rw [hshared]
    exact h.control
  · rw [hshared]
    exact h.stopped
  · rw [hshared]
    exact List.subset_nil.mp (h.created ▸ hcreated)
  · rw [hshared]
    exact h.lifecycle
  · rw [hshared]
    exact h.overtaken
  · rw [hshared]
    exact h.initialised
  · by_cases hut : u = t
    · subst hut
      rw [hops', Function.update_self]
      exact hprogram.early h.created
    · rw [hops', Function.update_of_ne hut]
      exact h.ops u

namespace Phase

/-- Before `Init` has set the state. -/
theorem exec_before (hmutex : MutexInv r) (hclosing : ClosingInv r)
    (hcallback : r.shared.callback = false → Quiet r) (h : BeforeInit r)
    (hops : r.ops t = op :: rest) (hm : LifetimeMove t answer r.shared op r'.shared next)
    (hops' : r'.ops = Function.update r.ops t (next ++ rest)) : Phase r' := by
  have hreported := reported_exec hmutex hops hm hops'
  rw [h.silent, List.nil_append] at hreported
  have hearly := h.ops t
  rw [hops] at hearly
  cases hearly with
  | prepare =>
    obtain ⟨hinitialised, hlifecycle, hovertaken⟩ := hm.prepared
    refine .running hinitialised (hovertaken.trans h.overtaken) ?_
    rw [hreported, hlifecycle]
    exact .nil _
  | cons hop hrest =>
    by_cases hterminal : op = .client (.recovery .enterTerminalClosed)
    · subst hterminal
      have hinstalled : r.shared.callback = true := by
        by_contra hcleared
        have hquiet := hcallback (Bool.eq_false_of_not_eq_true hcleared)
        exact hquiet.not_terminal (hops ▸ List.mem_cons_self)
      obtain ⟨-, hclient, hovertaken, -⟩ := hm.terminal
      rw [h.initialised] at hovertaken
      simp only [LifetimeOp.built, hinstalled, if_true, RecoveryOp.reports,
        RecoveryOp.transition] at hreported
      refine .overtaken hovertaken (.of_terminal hmutex hclosing hops hm hops') hreported
        h.lifecycle ?_
      rw [hclient]
      rfl
    · obtain ⟨hkept, hbuilt⟩ := hm.kept hop hterminal h.control h.stopped
      refine .before ⟨hkept.control, hkept.stopped, hkept.created.trans h.created,
        hkept.lifecycle.trans h.lifecycle, hkept.overtaken.trans h.overtaken,
        hkept.initialised.trans h.initialised, fun u => ?_, hreported.trans hbuilt⟩
      by_cases hut : u = t
      · subst hut
        rw [hops', Function.update_self]
        exact hm.early hop hterminal h.control h.stopped hrest
      · rw [hops', Function.update_of_ne hut]
        exact h.ops u

/-- After `Init` has set the state. -/
theorem exec_running (hmutex : MutexInv r) (hcallback : r.shared.callback = false → Quiet r)
    (hinitialised : r.shared.initialised = some start) (hovertaken : r.shared.overtaken = false)
    (h : Links start r.shared.client.lifecycle (reported r)) (hok : SetsOnce r.shared t op)
    (hops : r.ops t = op :: rest) (hm : LifetimeMove t answer r.shared op r'.shared next)
    (hops' : r'.ops = Function.update r.ops t (next ++ rest)) : Phase r' := by
  have hop : ∀ mode, op ≠ .prepareForInitOpen mode := by
    rintro mode rfl
    have hnone : r.shared.initialised = none := hok
    rw [hinitialised] at hnone
    cases hnone
  have hlinks : Links start r'.shared.client.lifecycle (reported r') := by
    rw [reported_exec hmutex hops hm hops']
    cases hinstalled : r.shared.callback with
    | true => exact hm.links hop hinstalled h
    | false =>
      have hquiet := hcallback hinstalled
      have hhead := (List.forall_cons _ _ _).mp (hops ▸ hquiet.ops t)
      rw [hm.built_of_quiet hhead.1 hquiet.ending, List.append_nil,
        (hm.settled hhead.1 hquiet.ending hop).1]
      exact h
  refine .running ((hm.initialised hop).trans hinitialised) ?_ hlinks
  rcases hm.overtaken with hsame | rfl
  · exact hsame.trans hovertaken
  · rw [hm.terminal.2.2.1, hinitialised]
    rfl

theorem exec_overtaken (hmutex : MutexInv r) (hovertaken : r.shared.overtaken = true)
    (hquiet : Quiet r) (hreported : reported r = [report])
    (hprevious : report.previousState = .uninitialized) (hstate : report.state = .closed)
    (hops : r.ops t = op :: rest) (hm : LifetimeMove t answer r.shared op r'.shared next)
    (hops' : r'.ops = Function.update r.ops t (next ++ rest)) : Phase r' := by
  have hhead := (List.forall_cons _ _ _).mp (hops ▸ hquiet.ops t)
  have hreported' : reported r' = [report] := by
    rw [reported_exec hmutex hops hm hops', hm.built_of_quiet hhead.1 hquiet.ending,
      List.append_nil, hreported]
  have hquiet' : Quiet r' := hquiet.step (.exec hops hm hops')
  refine .overtaken ?_ hquiet' hreported' hprevious hstate
  rcases hm.overtaken with hsame | rfl
  · exact hsame.trans hovertaken
  · cases hhead.1

/-- A step after which the reports, the state and what `Init` has set are as before. -/
theorem congr (h : Phase r) (hquiet : Quiet r → Quiet r') (hbefore : BeforeInit r → BeforeInit r')
    (hreported : reported r' = reported r)
    (hlifecycle : r'.shared.client.lifecycle = r.shared.client.lifecycle)
    (hinitialised : r'.shared.initialised = r.shared.initialised)
    (hovertaken : r'.shared.overtaken = r.shared.overtaken) : Phase r' := by
  cases h with
  | before h => exact .before (hbefore h)
  | running hstart hnot h =>
    refine .running (hinitialised.trans hstart) (hovertaken.trans hnot) ?_
    rw [hreported, hlifecycle]
    exact h
  | overtaken hdone hq hone hprevious hstate =>
    exact .overtaken (hovertaken.trans hdone) (hquiet hq) (hreported.trans hone) hprevious hstate

theorem of_reach (h : clientLifetime.Reach InitOnce r) : Phase r := by
  refine Machine.Reach.invariant_of_reach (I := Phase) ?_ ?_ h
  · exact .before ⟨nofun, rfl, rfl, rfl, rfl, rfl, fun _ => .nil, rfl⟩
  · intro r a r' hreach hphase hok hs
    have hmutex : MutexInv r := .of_reach hreach
    have hcallback := quiet_of_cleared hreach
    have hstep := LifetimeStep.of_step hs
    have hquiet : Quiet r → Quiet r' := fun hquiet => hquiet.step hstep
    cases hstep with
    | exec hops hmove hops' =>
      cases hphase with
      | before h =>
        exact exec_before hmutex (.of_reach hreach) hcallback h hops hmove hops'
      | running hinitialised hovertaken h =>
        exact exec_running hmutex hcallback hinitialised hovertaken h (hok.of_ops hops) hops
          hmove hops'
      | overtaken hovertaken hquiet hreported hprevious hstate =>
        exact exec_overtaken hmutex hovertaken hquiet hreported hprevious hstate hops hmove
          hops'
    | start hidle hprogram hcreated hshared hops' =>
      have hreported : reported r' = reported r :=
        reported_start hmutex hidle (by rw [hshared]) (by rw [hshared]) hops'
      have hbefore : BeforeInit r → BeforeInit r' := fun h =>
        h.started hprogram hcreated hshared hops' hreported
      exact hphase.congr hquiet hbefore hreported (by rw [hshared]) (by rw [hshared])
        (by rw [hshared])
    | tick hshared hops' =>
      have hreported : reported r' = reported r := by
        unfold reported undelivered
        rw [hshared, hops']
      have hbefore : BeforeInit r → BeforeInit r' := by
        intro h
        refine ⟨?_, ?_, ?_, ?_, ?_, ?_, hops' ▸ h.ops, hreported.trans h.silent⟩ <;> rw [hshared]
        · exact h.control
        · exact h.stopped
        · exact h.created
        · exact h.lifecycle
        · exact h.overtaken
        · exact h.initialised
      exact hphase.congr hquiet hbefore hreported (by rw [hshared]) (by rw [hshared])
        (by rw [hshared])

end Phase

/-- The reports that a client delivers which is initialised once. Unless `Shutdown` enters `Closed`
before `Init` has set the state, they form a chain from that state; otherwise the transition into
`Closed` is the only one. -/
theorem reports_chain (h : clientLifetime.Reach InitOnce r) :
    (r.shared.overtaken = false → ∀ start, r.shared.initialised = some start →
      ReportChain start r.shared.reports) ∧
    (r.shared.overtaken = false → r.shared.initialised = none → r.shared.reports = []) ∧
    (r.shared.overtaken = true → ∀ report ∈ r.shared.reports, r.shared.reports = [report] ∧
      report.previousState = .uninitialized ∧ report.state = .closed) := by
  have hreports : r.shared.reports <+: reported r := List.prefix_append _ _
  cases Phase.of_reach h with
  | before hbefore =>
    have hnone : r.shared.reports = [] := List.prefix_nil.mp (hbefore.silent ▸ hreports)
    refine ⟨fun _ start hstart => ?_, fun _ _ => hnone, fun hovertaken => ?_⟩
    · rw [hbefore.initialised] at hstart
      cases hstart
    · rw [hbefore.overtaken] at hovertaken
      cases hovertaken
  | running hinitialised hnot hlinks =>
    refine ⟨fun _ start hstart => ?_, fun _ hnone => ?_, fun hovertaken => ?_⟩
    · obtain rfl := Option.some.inj (hinitialised.symm.trans hstart)
      exact hlinks.toReportChain.left
    · rw [hinitialised] at hnone
      cases hnone
    · rw [hnot] at hovertaken
      cases hovertaken
  | @overtaken one hovertaken hquiet hreported hprevious hstate =>
    rw [hreported] at hreports
    refine ⟨fun hnot => ?_, fun hnot => ?_, fun _ report hreport => ?_⟩
    · rw [hovertaken] at hnot
      cases hnot
    · rw [hovertaken] at hnot
      cases hnot
    · rcases List.prefix_cons_iff.mp hreports with hnone | ⟨later, hone, hlater⟩
      · rw [hnone] at hreport
        cases hreport
      · rw [List.prefix_nil.mp hlater] at hone
        rw [hone] at hreport ⊢
        obtain rfl := List.mem_singleton.mp hreport
        exact ⟨rfl, hprevious, hstate⟩

/-- `Init` opens a session, and `Shutdown` closes it. -/
def initThenShutdown : List LifetimeAction :=
  .call 0 (.init .eagerSession) :: executes 0 17 ++ .call 1 .shutdown :: executes 1 5

theorem reports_chain_twice :
    ∃ r, clientLifetime.Reach InitOnce r ∧ r.shared.reports.length = 2 ∧
      ReportChain .uninitialized r.shared.reports := by
  obtain ⟨r, hreach, hnot, hinitialised, hlength⟩ :=
    clientLifetime.exists_reachOk InitOnce initThenShutdown
    (P := fun r => r.shared.overtaken = false ∧ r.shared.initialised = some .uninitialized ∧
      r.shared.reports.length = 2) (by decide +kernel)
  exact ⟨r, hreach, hlength, (reports_chain hreach).1 hnot _ hinitialised⟩

/-- `Shutdown` enters `Closed` after `Init` has found no workers running and before it sets the
state. -/
def shutdownOvertakesInit : List LifetimeAction :=
  .call 0 (.init .lazySession) :: executes 0 2 ++ .call 1 .shutdown :: executes 1 5 ++ executes 0 1

/-- The first report begins in `Uninitialized`, and `Init` has set `IdleClosed`. -/
theorem reports_overtaken :
    ∃ r, clientLifetime.Reach InitOnce r ∧ r.shared.callback = true ∧
      r.shared.initialised = some .idleClosed ∧ ¬ ReportChain .idleClosed r.shared.reports := by
  obtain ⟨r, hreach, hcallback, hinitialised, hhead⟩ :=
    clientLifetime.exists_reachOk InitOnce shutdownOvertakesInit
    (P := fun r => r.shared.callback = true ∧ r.shared.initialised = some .idleClosed ∧
      r.shared.reports.head?.map (·.previousState) = some .uninitialized) (by decide +kernel)
  refine ⟨r, hreach, hcallback, hinitialised, fun hchain => ?_⟩
  obtain ⟨report, hreport, hprevious⟩ := Option.map_eq_some_iff.mp hhead
  have hstart := hchain.first report hreport
  rw [hprevious] at hstart
  cases hstart

end MemRpc
