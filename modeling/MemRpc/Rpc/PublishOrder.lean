import MemRpc.Rpc.ClientFutures

/-!
# Publication and resolution

The submit thread stores a request as pending, with its deadline, before it pushes it, and
stores it again on every retry. The watchdog takes expired requests out of the store without
`sessionMutex_`: it may resolve a request with `ExecTimeout` that is still to be pushed, and
the submit thread pushes it all the same.

`TakesPublished` says that the watchdog and the response thread find published requests
only, and that neither the bootstrap channel nor a push reports `ExecTimeout`.
`publishedInOrder_of_reach` says that nothing else is needed.
-/

namespace MemRpc

open Concurrency RpcClient

variable {mode : ClientInitMode} {t : ClientThread} {answer : ClientAnswer}
  {s s' : RpcClient} {r r' : ClientRuntime} {a : ClientAction} {next rest : List ClientOp}
  {n : ℕ} {reply : RpcReply}

namespace ClientEvent

def resolves (call : ℕ) : ClientEvent → Bool
  | .resolved n _ => n = call
  | _ => false

/-- A request is pushed only before its future is resolved, and its future is resolved with
`ExecTimeout` only after it was published. -/
def InOrder (older : List ClientEvent) : ClientEvent → Prop
  | .pushed call _ => ∀ e ∈ older, e.resolves call = false
  | .resolved call reply =>
    reply.status = .execTimeout → ∃ e ∈ older, e.publishes call = true
  | _ => True

instance (older : List ClientEvent) (e : ClientEvent) : Decidable (e.InOrder older) :=
  match e with
  | .pushed call _ => inferInstanceAs (Decidable (∀ e ∈ older, e.resolves call = false))
  | .resolved call reply => inferInstanceAs
      (Decidable (reply.status = .execTimeout → ∃ e ∈ older, e.publishes call = true))
  | .published _ _ | .restarted _ _ | .closed _ _ => inferInstanceAs (Decidable True)

end ClientEvent

/-- Every event, from the newest on, is in order with the older ones. -/
def PublishedInOrder : List ClientEvent → Prop
  | [] => True
  | e :: older => e.InOrder older ∧ PublishedInOrder older

instance PublishedInOrder.decidable : (log : List ClientEvent) → Decidable (PublishedInOrder log)
  | [] => inferInstanceAs (Decidable True)
  | e :: older =>
    have := PublishedInOrder.decidable older
    inferInstanceAs (Decidable (e.InOrder older ∧ PublishedInOrder older))

/-- The watchdog and the response thread take published requests, and `ExecTimeout` comes
from nowhere else. -/
def TakesPublished (s : RpcClient) (answer : ClientAnswer) : ClientOp → Prop
  | .watchdog (.takeExpired now) =>
    ∀ p ∈ s.requestStore, p.expired now = true → s.WasPublished p.call
  | .response (.resolveCompleted requestId _) =>
    ∀ p ∈ s.requestStore, p.info.requestId = requestId → s.WasPublished p.call
  | .recovery (.openSession _) => answer.openStatus ≠ .execTimeout
  | .submit (.pushRequest _ _) => answer.pushStatus ≠ .execTimeout
  | _ => True

instance (s : RpcClient) (answer : ClientAnswer) (op : ClientOp) :
    Decidable (TakesPublished s answer op) := by
  unfold TakesPublished
  split <;> infer_instance

/-! ## Where `ExecTimeout` does not come from -/

/-- The status is not `ExecTimeout` where a request fails before it is published. -/
def ClientOp.Untimed : ClientOp → Prop
  | .submit (.unput _ _ status) | .submit (.admitFailed _ _ status)
  | .submit (.resolveFailure _ _ status) | .recovery (.openFailed status _) =>
    status ≠ .execTimeout
  | _ => True

theorem RpcClient.runtimeStopStatus_ne (s : RpcClient) : s.runtimeStopStatus ≠ .execTimeout := by
  unfold runtimeStopStatus
  split <;> simp

theorem ClientLifecycleState.waitResult_ne (state : ClientLifecycleState) :
    state.waitResult ≠ .execTimeout := by
  cases state <;> simp [waitResult]

theorem untimed_admitFailed (job : SubmitJob) (info : PendingInfo) {status : StatusCode}
    (h : status ≠ .execTimeout) : (admitFailed job info status).Forall ClientOp.Untimed := by
  cases status with
  | peerDisconnected => exact ⟨trivial, trivial, trivial, trivial⟩
  | queueFull => trivial
  | _ => exact h

theorem SubmitOp.untimed {o : SubmitOp} (h : o.exec s answer = some (s', next))
    (ho : (ClientOp.submit o).Untimed) (hstatus : s.sessionStatus ≠ .execTimeout)
    (hok : TakesPublished s answer (.submit o)) : next.Forall ClientOp.Untimed := by
  have hstop := s.runtimeStopStatus_ne
  revert h
  fun_cases SubmitOp.exec <;> simp only [Option.some.injEq, Prod.mk.injEq, reduceCtorEq,
    false_implies, and_imp] <;> (try rintro rfl rfl)
  case case14 | case17 => exact StatusCode.noConfusion
  case case23 => exact untimed_admitFailed _ _ ho
  all_goals trivial

theorem Waiter.untimed_resume (w : Waiter) {status : StatusCode} (h : status ≠ .execTimeout) :
    (w.resume status).Forall ClientOp.Untimed := by
  cases w with
  | submit job info => rcases resume_submit job info status with hr | hr <;> rw [hr] <;> trivial
  | retry call st => rcases resume_retry call st status with hr | hr <;> rw [hr] <;> trivial

theorem WaitOp.untimed {o : WaitOp} (h : o.exec s answer = some (s', next)) :
    next.Forall ClientOp.Untimed := by
  have hstop := s.runtimeStopStatus_ne
  have hwait := s.lifecycle.waitResult_ne
  revert h
  fun_cases WaitOp.exec <;> simp only [Option.some.injEq, Prod.mk.injEq, and_imp] <;>
    rintro rfl rfl
  all_goals first
    | trivial
    | exact Waiter.untimed_resume _ (by assumption)
    | exact Waiter.untimed_resume _ StatusCode.noConfusion

theorem RecoveryMove.untimed {o : RecoveryOp} (hm : RecoveryMove s answer o s' next)
    (hok : TakesPublished s answer (.recovery o)) : next.Forall ClientOp.Untimed := by
  cases hm with
  | openRefused => exact hok
  | failPending => exact forall_flatMap fun p => by trivial
  | resolveAll => exact forall_map fun p => trivial
  | _ => trivial

theorem ReceiveMove.untimed {o : ResponseOp} (hm : ReceiveMove s o s' next) :
    next.Forall ClientOp.Untimed := by
  cases hm with
  | pass poll ho hl => exact forall_map fun o => trivial
  | _ => trivial

theorem WatchdogMove.untimed {o : WatchdogOp} (hm : WatchdogMove s o s' next) :
    next.Forall ClientOp.Untimed := by
  cases hm with
  | pass ho hl => exact forall_map fun o => trivial
  | takeExpired => exact forall_flatMap fun p => by trivial
  | _ => trivial

theorem CallMove.untimed {o : CallerOp} (hm : CallMove t s o s' next) :
    next.Forall ClientOp.Untimed := by
  cases hm with
  | enqueue | reject => cases t <;> trivial
  | _ => trivial

theorem ShutdownMove.untimed {o : ShutdownOp} (hm : ShutdownMove s o s' next) :
    next.Forall ClientOp.Untimed := by
  cases hm with
  | failAllPending => exact forall_flatMap fun p => by trivial
  | failQueued hfree => exact forall_map fun job => trivial
  | _ => trivial

variable {op : ClientOp}

theorem ClientOp.untimed_exec (h : op.exec t answer s = some (s', next))
    (hop : op.Untimed) (hstatus : s.sessionStatus ≠ .execTimeout)
    (hok : TakesPublished s answer op) : next.Forall ClientOp.Untimed := by
  cases op with
  | lock =>
    simp only [ClientOp.exec] at h
    split at h <;> cases h
    trivial
  | unlock | resolve call reply =>
    cases h
    trivial
  | recovery o => exact (RecoveryMove.of_exec h).untimed hok
  | submit o => exact SubmitOp.untimed h hop hstatus hok
  | wait o => exact WaitOp.untimed h
  | response o => exact (ReceiveMove.of_exec h).untimed
  | watchdog o => exact (WatchdogMove.of_exec h).untimed
  | caller o => exact (CallMove.of_exec h).untimed
  | shutdown o => exact (ShutdownMove.of_exec h).untimed

/-! ## The invariant -/

/-- A request that the client still holds is not resolved, and nobody carries a reply for
it; a carried `ExecTimeout` is for a published request. -/
structure OrderInv (s : RpcClient) (ops : ClientThread → List ClientOp) : Prop where
  held : ∀ job ∈ heldJobs s (ops .submit), ∀ reply,
    ¬ Carried ops job.call reply ∧ ClientEvent.resolved job.call reply ∉ s.log
  timeouts : ∀ n reply, Carried ops n reply → reply.status = .execTimeout → s.WasPublished n
  untimed : ∀ t, (ops t).Forall ClientOp.Untimed
  sessionStatus : s.sessionStatus ≠ .execTimeout
  order : PublishedInOrder s.log

/-- A reply for a pending request is one for a published request. -/
theorem ReplySource.wasPublished (h : ReplySource r.shared n reply op)
    (hinv : ClientInv r) (hops : r.ops t = op :: rest) (hok : TakesPublished r.shared answer op) :
    r.shared.WasPublished n ∨
      (∃ job info status, op = .submit (.resolveFailure job info status) ∧ n = job.call ∧
        reply = { status }) ∨
      op = .shutdown .failQueued ∧ reply = { status := .clientClosed } := by
  cases h with
  | recovered hp | all hp =>
    refine .inl (hinv.published_of_due (t := t) ?_ hp).wasPublished
    rw [hops]
    first | trivial | exact PendingRequestRecoveryAction.noConfusion
  | completed hp hid => exact .inl (hok _ hp hid)
  | expired hp hexpired => exact .inl (hok _ hp hexpired)
  | closed hp =>
    obtain rfl : t = .shutdown := hinv.onThread hops
    exact .inl (hinv.published_of_failAllPending hops hp).wasPublished
  | failed => exact .inr (.inl ⟨_, _, _, rfl, rfl, rfl⟩)
  | unqueued hjob => exact .inr (.inr ⟨rfl, rfl⟩)

/-- A request for which a reply is carried from now on is not held any more. -/
theorem ReplySource.not_held (h : ReplySource r.shared n reply op)
    (hinv : ClientInv r) (hops : r.ops t = op :: rest) (hok : TakesPublished r.shared answer op)
    (hexec : op.exec t answer r.shared = some (s', next)) :
    n ∉ (heldJobs s' (Function.update r.ops t (next ++ rest) .submit)).map (·.call) := by
  have hop := hinv.onThread hops
  rcases h.wasPublished hinv hops hok with hpub | ⟨job, info, status, rfl, rfl, -⟩ | ⟨rfl, -⟩
  · obtain ⟨session, hpub⟩ := hpub.exists_published
    exact ((hinv.job.exec hop hops hexec).published n session (ClientOp.log hexec hpub)).2
  · obtain rfl : t = .submit := hop
    cases hexec
    have hjob := hinv.job
    rw [hops] at hjob
    rw [Function.update_self]
    exact hjob.not_mem_of_head rfl
  · -- the submit thread has returned, and the queue is emptied
    obtain rfl : t = .shutdown := hop
    have hidle := hinv.shutdown.idle_of_failing hops (by decide) (t := .submit) (by decide)
    have hqueue : s'.submitQueue = [] := ShutdownMove.queue_of_failQueued (.of_exec hexec)
    rw [Function.update_of_ne (by simp), hidle, heldJobs, hqueue]
    exact List.not_mem_nil

theorem OrderInv.held_exec (h : OrderInv r.shared r.ops) (hinv : ClientInv r)
    (hops : r.ops t = op :: rest) (hok : TakesPublished r.shared answer op)
    (hexec : op.exec t answer r.shared = some (s', next)) {job : SubmitJob}
    (hjob : job ∈ heldJobs s' (Function.update r.ops t (next ++ rest) .submit)) :
    ¬ Carried (Function.update r.ops t (next ++ rest)) job.call reply ∧
      ClientEvent.resolved job.call reply ∉ s'.log := by
  -- before the step the request was held and unresolved, or the call was not made yet
  have hbefore := mem_heldJobs_exec (hinv.onThread hops) hops hexec hjob
  have huncarried : ∀ reply, ¬ Carried r.ops job.call reply := by
    intro reply hcarried
    rcases hbefore with hheld | ⟨-, hnew⟩
    · exact (h.held job hheld reply).1 hcarried
    · exact (hinv.call.carried _ _ hcarried).ne hnew
  refine ⟨fun hcarried => ?_, fun hresolved => ?_⟩
  · rcases hcarried.of_exec hops hexec with hold | hnew
    · exact huncarried reply hold
    · exact hnew.not_held hinv hops hok hexec (List.mem_map_of_mem hjob)
  · rcases ClientOp.resolved hexec hresolved with hold | rfl | ⟨rfl, hcalls, -⟩
    · rcases hbefore with hheld | ⟨-, hnew⟩
      · exact (h.held job hheld reply).2 hold
      · exact (hinv.call.resolved _ _ hold).ne hnew
    · exact huncarried reply ⟨t, hops ▸ List.mem_cons_self⟩
    · rcases hbefore with hheld | ⟨⟨ms, hms⟩, -⟩
      · exact (hinv.job.ids job hheld).1.ne hcalls
      · cases hms

theorem RecoveryMove.sessionStatus {o : RecoveryOp} (hm : RecoveryMove s answer o s' next)
    (ho : (ClientOp.recovery o).Untimed) (h : s.sessionStatus ≠ .execTimeout) :
    s'.sessionStatus ≠ .execTimeout := by
  have hreport : ∀ reports status, status ≠ StatusCode.execTimeout →
      (s.report reports status).sessionStatus ≠ .execTimeout := by
    intro reports status hstatus
    cases reports with
    | false => exact h
    | true => exact hstatus
  cases hm with
  | ensured hstatus =>
    refine hreport _ _ ?_
    rcases hstatus with rfl | rfl | rfl <;> exact StatusCode.noConfusion
  | finalize => exact hreport _ _ StatusCode.noConfusion
  | openFailed => exact hreport _ _ ho
  | _ => exact h

theorem ClientOp.sessionStatus_exec (h : op.exec t answer s = some (s', next))
    (hop : op.Untimed) (hstatus : s.sessionStatus ≠ .execTimeout) :
    s'.sessionStatus ≠ .execTimeout := by
  cases op with
  | recovery o => exact (RecoveryMove.of_exec h).sessionStatus hop hstatus
  | _ => rwa [(framed h).sessionStatus nofun]

theorem not_resolves {log : List ClientEvent} (h : ∀ reply, ClientEvent.resolved n reply ∉ log) :
    ∀ e ∈ log, e.resolves n = false := by
  intro e he
  cases e with
  | resolved call reply =>
    refine decide_eq_false ?_
    rintro rfl
    exact h reply he
  | _ => rfl

theorem OrderInv.order_exec (h : OrderInv r.shared r.ops)
    (hinv : ClientInv r) (hops : r.ops t = op :: rest)
    (hexec : op.exec t answer r.shared = some (s', next)) : PublishedInOrder s'.log := by
  -- a request that is pushed is held, so it is not resolved
  have hpushed : ∀ job info, op = .submit (.pushRequest job info) →
      ∀ e ∈ r.shared.log, e.resolves job.call = false := by
    rintro job info rfl
    obtain rfl : t = .submit := hinv.onThread hops
    exact not_resolves fun reply => (h.held job (JobInv.mem_of_head hops rfl) reply).2
  cases ClientOp.logged hexec with
  | nothing hlog => exact hlog ▸ h.order
  | @session _ _ e he hlog =>
    rw [hlog]
    refine ⟨?_, h.order⟩
    cases e with
    | restarted | closed => trivial
    | _ => cases he
  | @resolved _ _ n reply hop hlog =>
    rw [hlog]
    refine ⟨fun hstatus => ?_, h.order⟩
    rcases hop with rfl | ⟨-, -, rfl⟩
    · exact h.timeouts n reply ⟨t, hops ▸ List.mem_cons_self⟩ hstatus
    · cases hstatus
  | pushed hlog =>
    rw [hlog]
    exact ⟨hpushed _ _ rfl, h.order⟩
  | published hqueue hlog =>
    rw [hlog]
    exact ⟨trivial, hpushed _ _ rfl, h.order⟩

theorem OrderInv.exec (h : OrderInv r.shared r.ops) (hinv : ClientInv r)
    (hops : r.ops t = op :: rest) (hok : TakesPublished r.shared answer op)
    (hexec : op.exec t answer r.shared = some (s', next)) :
    OrderInv s' (Function.update r.ops t (next ++ rest)) := by
  have huntimed : op.Untimed := ((List.forall_cons _ _ _).mp (hops ▸ h.untimed t)).1
  have hnext := ClientOp.untimed_exec hexec huntimed h.sessionStatus hok
  refine ⟨fun job hjob reply => h.held_exec hinv hops hok hexec hjob, fun n reply hn hstatus => ?_,
    Pool.forall_update h.untimed hops hnext, ClientOp.sessionStatus_exec hexec huntimed
      h.sessionStatus, h.order_exec hinv hops hexec⟩
  have hlog := ClientOp.log hexec
  rcases hn.of_exec hops hexec with hold | hnew
  · exact (h.timeouts n reply hold hstatus).mono hlog
  · rcases hnew.wasPublished hinv hops hok with hpub | ⟨job, info, status, rfl, -, rfl⟩ | ⟨-, rfl⟩
    · exact hpub.mono hlog
    · exact absurd hstatus huntimed
    · cases hstatus

/-- A call that starts carries no reply and holds no request. -/
theorem OrderInv.start {program : List ClientOp} (h : OrderInv r.shared r.ops)
    (ht : ClientThread.submit ≠ t) (hprogram : ∀ n reply, ClientOp.resolve n reply ∉ program)
    (huntimed : program.Forall ClientOp.Untimed) :
    OrderInv r.shared (Function.update r.ops t program) := by
  refine ⟨fun job hjob reply => ?_, fun n reply hn => h.timeouts n reply (hn.of_start hprogram),
    Pool.forall_start h.untimed huntimed, h.sessionStatus, h.order⟩
  rw [Function.update_of_ne ht] at hjob
  obtain ⟨huncarried, hunresolved⟩ := h.held job hjob reply
  exact ⟨fun hn => huncarried (hn.of_start hprogram), hunresolved⟩

theorem OrderInv.of_reach (h : (rpcClient mode).Reach (NextOp TakesPublished) r) :
    OrderInv r.shared r.ops := by
  refine Machine.Reach.invariant_of_reach (I := fun r => OrderInv r.shared r.ops) ?_ ?_ h
  · refine ⟨fun job hjob => ?_, fun n reply hn => ?_, fun t => ?_, ?_, ?_⟩
    · cases mode <;> cases hjob
    · obtain ⟨t, ht⟩ := hn
      cases t <;> simp [rpcClient, initialOps] at ht
    · cases t <;> trivial
    · cases mode <;> exact StatusCode.noConfusion
    · cases mode <;> trivial
  · intro r a r' hreach h hok hs
    cases ClientMove.of_step hs with
    | exec hops hexec hops' =>
      rw [hops']
      exact h.exec (.of_reach hreach) hops (hok.of_ops hops) hexec
    | @call n entry hidle hshared hops' =>
      rw [hops', hshared]
      refine h.start (by simp) (fun _ _ => ClientEntry.not_mem_program _) ?_
      cases entry <;> trivial
    | retry hnew hidle hshared hops' =>
      rw [hops', hshared]
      exact h.start (by simp) (fun _ _ => by simp) trivial
    | shutdown hcontrol hidle hshared hops' =>
      rw [hops', hshared]
      have huntimed : shutdownProgram.Forall ClientOp.Untimed := by trivial
      have hstart := h.start (t := .shutdown) (by simp) (fun _ _ => not_mem_shutdownProgram)
        huntimed
      exact { hstart with }
    | tick hshared hops' =>
      rw [hops', hshared]
      exact { h with }

/-- **No publication after resolution**, and no `ExecTimeout` before publication, in every
run in which the watchdog and the response thread take published requests only and
`ExecTimeout` comes from nowhere else. -/
theorem publishedInOrder_of_reach (h : (rpcClient mode).Reach (NextOp TakesPublished) r) :
    PublishedInOrder r.shared.log :=
  (OrderInv.of_reach h).order

/-- The watchdog finds a request expired and resolves it. -/
def timeoutSchedule : List ClientAction :=
  [.tick 1] ++ List.replicate 7 (.exec .watchdog {})

theorem publishedInOrder_timedOut :
    ∃ r, (rpcClient .eagerSession).Reach (NextOp TakesPublished) r ∧
      .resolved 0 { status := .execTimeout } ∈ r.shared.log ∧ .pushed 0 1 ∈ r.shared.log ∧
        PublishedInOrder r.shared.log := by
  obtain ⟨r, hreach, htimeout, hpushed⟩ := (rpcClient .eagerSession).exists_reachOk
    (NextOp TakesPublished) (invokeSchedule 1 ++ submitSchedule ++ [.exec .submit {}] ++
    timeoutSchedule)
    (P := fun r => .resolved 0 { status := .execTimeout } ∈ r.shared.log ∧
      .pushed 0 1 ∈ r.shared.log) (by decide +kernel)
  exact ⟨r, hreach, htimeout, hpushed, publishedInOrder_of_reach hreach⟩

/-- The request expires between `Put` and the push: it is resolved with `ExecTimeout` and
pushed after that. -/
def expiredBeforePush : List ClientAction :=
  invokeSchedule 1 ++ submitSchedule ++ timeoutSchedule ++ [.exec .submit {}]

theorem not_publishedInOrder_of_expiredBeforePush :
    ∃ r, (rpcClient .eagerSession).Reach Machine.Always r ∧
      r.shared.log = [.published 0 1, .pushed 0 1, .resolved 0 { status := .execTimeout }] ∧
        ¬ PublishedInOrder r.shared.log := by
  exact (rpcClient .eagerSession).exists_reach expiredBeforePush (by decide +kernel)

end MemRpc
