import MemRpc.Rpc.ClientShutdown

/-!
# Who resolves a future

A thread that has taken a request out of the store or the queue resolves its future a few
steps later: until then it carries the reply in an operation `resolve`. `ReplySource` lists
where these operations come from. A future is written by `resolve`, and by `RejectInvoke`
for a call that was never accepted.

## Main results

* `ReplySource.of_exec`.
* `CallInv.of_reach`: replies are carried and futures are ready for calls made so far only.
-/

namespace MemRpc

open Concurrency RpcClient

variable {mode : ClientInitMode} {t : ClientThread} {answer : ClientAnswer}
  {s s' : RpcClient} {r r' : ClientRuntime} {a : ClientAction} {next rest : List ClientOp}
  {call n : ℕ} {reply : RpcReply}

/-- The operations after which a thread carries a reply for a call. -/
inductive ReplySource (s : RpcClient) : ℕ → RpcReply → ClientOp → Prop
  | recovered {p : PendingRequest} (hp : p ∈ s.requestStore) :
      ReplySource s p.call { status := .peerDisconnected }
        (.recovery (.handlePending .failWithRecoveryPolicy))
  | all {p : PendingRequest} {status : StatusCode} (hp : p ∈ s.requestStore) :
      ReplySource s p.call { status } (.recovery (.resolveAll status))
  | completed {p : PendingRequest} {requestId : UInt64} {reply : RpcReply}
      (hp : p ∈ s.requestStore) (hid : p.info.requestId = requestId) :
      ReplySource s p.call reply (.response (.resolveCompleted requestId reply))
  | expired {p : PendingRequest} {now : ℕ} (hp : p ∈ s.requestStore)
      (hexpired : p.expired now = true) :
      ReplySource s p.call { status := .execTimeout } (.watchdog (.takeExpired now))
  | closed {p : PendingRequest} (hp : p ∈ s.requestStore) :
      ReplySource s p.call { status := .clientClosed } (.shutdown .failAllPending)
  | failed {job : SubmitJob} {info : PendingInfo} {status : StatusCode} :
      ReplySource s job.call { status } (.submit (.resolveFailure job info status))
  | unqueued {job : SubmitJob} (hjob : job ∈ s.submitQueue) :
      ReplySource s job.call { status := .clientClosed } (.shutdown .failQueued)

/-! ## Inversion -/

theorem mem_failAndResolve {info : PendingInfo} {status : StatusCode} {cause : Option ℕ}
    {call' : ℕ} (h : ClientOp.resolve call reply ∈ failAndResolve info status cause call') :
    call = call' ∧ reply = { status } := by
  simpa [failAndResolve] using h

variable {p : PendingRequest}

theorem mem_failAndResolveLocked {status : StatusCode}
    (h : ClientOp.resolve call reply ∈ failAndResolveLocked status p) :
    call = p.call ∧ reply = { status } := by
  simpa [failAndResolveLocked] using h

theorem RecoveryMove.replySource {o : RecoveryOp} (hm : RecoveryMove s answer o s' next)
    (h : ClientOp.resolve call reply ∈ next) : ReplySource s call reply (.recovery o) := by
  cases hm with
  | failPending =>
    obtain ⟨p, hp, hmem⟩ := List.mem_flatMap.mp h
    obtain ⟨rfl, rfl⟩ := mem_failAndResolveLocked hmem
    exact .recovered hp
  | resolveAll =>
    obtain ⟨p, hp, heq⟩ := List.mem_map.mp h
    cases heq
    exact .all hp
  | _ => simp at h

theorem SubmitMove.replySource {o : SubmitOp} (hm : SubmitMove s answer o s' next)
    (h : ClientOp.resolve call reply ∈ next) : ReplySource s call reply (.submit o) := by
  cases hm with
  | @pass _ _ _ op credit ho hpush hdetour hop hpush' =>
    have hne : ClientOp.resolve call reply ≠ op := by
      rintro rfl
      cases hop
    cases hdetour <;> simp [closeLiveSessionForTransportFailure, hne] at h
  | fail =>
    obtain ⟨rfl, rfl⟩ := mem_failAndResolve h
    exact .failed
  | _ => simp at h

theorem ReceiveMove.replySource {o : ResponseOp} (hm : ReceiveMove s o s' next)
    (h : ClientOp.resolve call reply ∈ next) : ReplySource s call reply (.response o) := by
  cases hm with
  | take hfind | takeFailed hfind =>
    obtain ⟨rfl, rfl⟩ : call = _ ∧ reply = _ := by simpa using h
    have hid := List.find?_some hfind
    exact .completed (List.mem_of_find?_eq_some hfind) (by simpa using hid)
  | badEntry | pollFailed => simp [handleEngineDeath] at h
  | _ => simp at h

theorem WatchdogMove.replySource {o : WatchdogOp} (hm : WatchdogMove s o s' next)
    (h : ClientOp.resolve call reply ∈ next) : ReplySource s call reply (.watchdog o) := by
  cases hm with
  | takeExpired =>
    obtain ⟨p, hp, hmem⟩ := List.mem_flatMap.mp h
    obtain ⟨hp, hexpired⟩ := List.mem_filter.mp hp
    obtain ⟨rfl, rfl⟩ := mem_failAndResolve hmem
    exact .expired hp hexpired
  | _ => simp at h

theorem ShutdownMove.replySource {o : ShutdownOp} (hm : ShutdownMove s o s' next)
    (h : ClientOp.resolve call reply ∈ next) : ReplySource s call reply (.shutdown o) := by
  cases hm with
  | failAllPending =>
    obtain ⟨p, hp, hmem⟩ := List.mem_flatMap.mp h
    obtain ⟨rfl, rfl⟩ := mem_failAndResolve hmem
    exact .closed hp
  | failQueued hfree =>
    obtain ⟨job, hjob, heq⟩ := List.mem_map.mp h
    cases heq
    exact .unqueued hjob
  | _ => cases h

theorem not_mem_await (t : ClientThread) (n : ℕ) : ClientOp.resolve call reply ∉ t.await n := by
  cases t <;> simp [ClientThread.await]

variable {op : ClientOp}

theorem ReplySource.of_exec (hexec : op.exec t answer s = some (s', next))
    (h : ClientOp.resolve call reply ∈ next) : ReplySource s call reply op := by
  cases op with
  | lock =>
    simp only [ClientOp.exec] at hexec
    split at hexec <;> cases hexec
    cases h
  | unlock | resolve call reply =>
    cases hexec
    cases h
  | recovery o => exact (RecoveryMove.of_exec hexec).replySource h
  | submit o => exact (SubmitMove.of_exec hexec).replySource h
  | wait o =>
    rcases WaitOp.exec_next hexec with ⟨o', rfl, -⟩ | ⟨status, rfl⟩
    · simp at h
    · cases hw : o.waiter with
      | submit job info =>
        rw [hw] at h
        rcases Waiter.resume_submit job info status with hr | hr <;> simp [hr] at h
      | retry call st =>
        rw [hw] at h
        rcases Waiter.resume_retry call st status with hr | hr <;> simp [hr] at h
  | response o => exact (ReceiveMove.of_exec hexec).replySource h
  | watchdog o => exact (WatchdogMove.of_exec hexec).replySource h
  | caller o =>
    cases CallMove.of_exec hexec with
    | enqueue | reject => exact absurd h (not_mem_await _ _)
    | engineDied => simp [handleEngineDeath] at h
    | _ => simp at h
  | shutdown o => exact (ShutdownMove.of_exec hexec).replySource h

/-! ## Carried replies -/

/-- Some thread carries a reply for a call. -/
def Carried (ops : ClientThread → List ClientOp) (n : ℕ) (reply : RpcReply) : Prop :=
  ∃ t, ClientOp.resolve n reply ∈ ops t

theorem Carried.of_exec (hops : r.ops t = op :: rest)
    (hexec : op.exec t answer r.shared = some (s', next))
    (h : Carried (Function.update r.ops t (next ++ rest)) n reply) :
    Carried r.ops n reply ∨ ReplySource r.shared n reply op := by
  obtain ⟨u, hu⟩ := h
  rcases Pool.mem_update hops hu with hold | ⟨-, hnew⟩
  · exact .inl ⟨u, hold⟩
  · exact .inr (.of_exec hexec hnew)

theorem Carried.of_start {program : List ClientOp}
    (hprogram : ∀ n reply, ClientOp.resolve n reply ∉ program)
    (h : Carried (Function.update r.ops t program) n reply) : Carried r.ops n reply := by
  obtain ⟨u, hu⟩ := h
  rcases Pool.mem_start hu with hold | ⟨-, hnew⟩
  · exact ⟨u, hold⟩
  · exact absurd hnew (hprogram n reply)

theorem ClientEntry.not_mem_program (entry : ClientEntry) :
    ClientOp.resolve n reply ∉ entry.program := by
  cases entry <;> simp [ClientEntry.program]

theorem not_mem_shutdownProgram : ClientOp.resolve n reply ∉ shutdownProgram := by
  simp [shutdownProgram, shutdownOps]

/-! ## Futures -/

theorem RpcClient.future_resolveState (s : RpcClient) (call : ℕ) (reply : RpcReply) (n : ℕ) :
    (s.resolveState call reply).future n = s.future n ∨
      s.future n = none ∧ n = call ∧ (s.resolveState call reply).future n = some reply := by
  by_cases hn : n = call
  · subst hn
    cases hf : s.future n with
    | none => exact .inr ⟨rfl, rfl, by simp [resolveState, hf]⟩
    | some reply' => exact .inl (by simp [resolveState, hf])
  · exact .inl (Function.update_of_ne hn _ _)

/-- A future is written once, with the reply that was carried for its call. -/
theorem ClientOp.future_exec (h : op.exec t answer s = some (s', next)) (n : ℕ) :
    s'.future n = s.future n ∨ ∃ reply, s.future n = none ∧ s'.future n = some reply ∧
      (op = .resolve n reply ∨
        op = .caller .reject ∧ n = s.calls ∧ reply = { status := .clientClosed }) := by
  cases op with
  | resolve call reply =>
    cases h
    rcases s.future_resolveState call reply n with hsame | ⟨hnone, rfl, hnew⟩
    · exact .inl hsame
    · exact .inr ⟨reply, hnone, hnew, .inl rfl⟩
  | caller o =>
    cases CallMove.of_exec h with
    | reject =>
      rcases s.future_resolveState s.calls { status := .clientClosed } n with
        hsame | ⟨hnone, hn, hnew⟩
      · exact .inl hsame
      · exact .inr ⟨_, hnone, hnew, .inr ⟨rfl, hn, rfl⟩⟩
    | _ => exact .inl rfl
  | _ => exact .inl (congrFun ((framed h).future nofun nofun) n)

theorem ClientOp.resolved (h : op.exec t answer s = some (s', next))
    (hn : ClientEvent.resolved n reply ∈ s'.log) : .resolved n reply ∈ s.log ∨
      (op = .resolve n reply ∨
        op = .caller .reject ∧ n = s.calls ∧ reply = { status := .clientClosed }) := by
  cases ClientOp.logged h with
  | nothing hlog =>
    rw [hlog] at hn
    exact .inl hn
  | session he hlog =>
    rw [hlog] at hn
    refine .inl ((List.mem_cons.mp hn).resolve_left ?_)
    rintro rfl
    cases he
  | resolved hop hlog =>
    rw [hlog] at hn
    rcases List.mem_cons.mp hn with heq | hold
    · cases heq
      exact .inr hop
    · exact .inl hold
  | pushed hlog =>
    rw [hlog] at hn
    exact .inl ((List.mem_cons.mp hn).resolve_left (by simp))
  | published hqueue hlog =>
    rw [hlog] at hn
    exact .inl (by simpa using hn)

/-! ## Calls -/

/-- Replies exist for calls that were made. -/
structure CallInv (s : RpcClient) (ops : ClientThread → List ClientOp) : Prop where
  carried : ∀ n reply, Carried ops n reply → n < s.calls
  ready : ∀ n reply, s.future n = some reply → n < s.calls
  resolved : ∀ n reply, ClientEvent.resolved n reply ∈ s.log → n < s.calls

/-- The reply is for a request that was pending, in the queue, or with the submit thread. -/
theorem ReplySource.lt_calls (h : ReplySource r.shared n reply op)
    (hjob : JobInv r.shared (r.ops .submit)) (hop : op.OnThread t) (hops : r.ops t = op :: rest) :
    n < r.shared.calls := by
  cases h with
  | recovered hp | all hp | completed hp hid | expired hp hexpired | closed hp =>
    exact (hjob.store _ hp).1
  | @failed job info status =>
    obtain rfl : t = .submit := hop
    exact (hjob.ids job (JobInv.mem_of_head hops rfl)).1
  | unqueued hq => exact (hjob.ids _ (List.mem_append_left _ hq)).1

theorem CallInv.exec (h : CallInv r.shared r.ops)
    (hjob : JobInv r.shared (r.ops .submit)) (hop : op.OnThread t) (hops : r.ops t = op :: rest)
    (hexec : op.exec t answer r.shared = some (s', next)) :
    CallInv s' (Function.update r.ops t (next ++ rest)) := by
  have hle := ClientOp.calls_le hexec
  -- `resolve` finds a carried reply, and `RejectInvoke` makes the call it resolves
  have hwrites : ∀ n reply, (op = .resolve n reply ∨ op = .caller .reject ∧ n = r.shared.calls ∧
      reply = { status := .clientClosed }) → n < s'.calls := by
    rintro n reply (rfl | ⟨rfl, rfl, -⟩)
    · exact (h.carried n reply ⟨t, hops ▸ List.mem_cons_self⟩).trans_le hle
    · cases hexec
      exact Nat.lt_succ_self _
  refine ⟨fun n reply hn => ?_, fun n reply hn => ?_, fun n reply hn => ?_⟩
  · rcases hn.of_exec hops hexec with hold | hnew
    · exact (h.carried n reply hold).trans_le hle
    · exact (hnew.lt_calls hjob hop hops).trans_le hle
  · rcases ClientOp.future_exec hexec n with hsame | ⟨reply', -, -, hwrite⟩
    · exact (h.ready n reply (hsame ▸ hn)).trans_le hle
    · exact hwrites n reply' hwrite
  · rcases ClientOp.resolved hexec hn with hold | hwrite
    · exact (h.resolved n reply hold).trans_le hle
    · exact hwrites n reply hwrite

theorem CallInv.start {program : List ClientOp} (h : CallInv r.shared r.ops)
    (hprogram : ∀ n reply, ClientOp.resolve n reply ∉ program) :
    CallInv r.shared (Function.update r.ops t program) :=
  ⟨fun n reply hn => h.carried n reply (hn.of_start hprogram), h.ready, h.resolved⟩

theorem CallInv.of_reach {ok : ClientRuntime → ClientAction → Prop}
    (h : (rpcClient mode).Reach ok r) : CallInv r.shared r.ops := by
  refine Machine.Reach.invariant_of_reach (I := fun r => CallInv r.shared r.ops) ?_ ?_ h
  · refine ⟨fun n reply hn => ?_, fun n reply hn => ?_, fun n reply hn => ?_⟩
    · obtain ⟨t, ht⟩ := hn
      cases t <;> simp [rpcClient, initialOps] at ht
    · cases mode <;> cases hn
    · cases mode <;> cases hn
  · intro r a r' hreach hinv _ hs
    cases ClientMove.of_step hs with
    | @exec t answer op rest next hops hexec hops' =>
      have hop := ((List.forall_cons _ _ _).mp (hops ▸ onThread_of_reach hreach t)).1
      rw [hops']
      exact hinv.exec (.of_reach hreach) hop hops hexec
    | call hidle hshared hops' =>
      rw [hops', hshared]
      exact hinv.start fun _ _ => ClientEntry.not_mem_program _
    | retry hnew hidle hshared hops' =>
      rw [hops', hshared]
      exact hinv.start fun _ _ => by simp
    | shutdown hcontrol hidle hshared hops' =>
      rw [hops', hshared]
      have hstart := hinv.start (t := .shutdown) fun _ _ => not_mem_shutdownProgram
      exact ⟨hstart.carried, hstart.ready, hstart.resolved⟩
    | tick hshared hops' =>
      rw [hops', hshared]
      exact ⟨hinv.carried, hinv.ready, hinv.resolved⟩

/-! ## The invariants together -/

/-- What holds in every state of a client. -/
structure ClientInv (r : ClientRuntime) : Prop where
  thread : ∀ t, (r.ops t).Forall (ClientOp.OnThread t)
  push : PushInv r
  lock : LockInv r
  store : StoreInv r.shared (r.ops .submit)
  job : JobInv r.shared (r.ops .submit)
  shutdown : ShutdownInv r
  call : CallInv r.shared r.ops

theorem ClientInv.of_reach {ok : ClientRuntime → ClientAction → Prop}
    (h : (rpcClient mode).Reach ok r) : ClientInv r where
  thread := onThread_of_reach h
  push := .of_reach h
  lock := .of_reach h
  store := .of_reach h
  job := .of_reach h
  shutdown := .of_reach h
  call := .of_reach h

theorem ClientInv.onThread (h : ClientInv r) (hops : r.ops t = op :: rest) :
    op.OnThread t :=
  ((List.forall_cons _ _ _).mp (hops ▸ h.thread t)).1

/-- Recovery takes requests out of the store when no session is live: all were published. -/
theorem ClientInv.published_of_due (h : ClientInv r) (hdue : Due (r.ops t))
    (hp : p ∈ r.shared.requestStore) : r.shared.Published p.call p.info.sessionId := by
  refine h.store.published_of_free h.push ?_ hp
  have hnone := h.lock.session_eq_zero rfl hdue
  exact Bool.eq_false_iff.mpr fun hmutex => h.push.live hmutex hnone

/-- `Shutdown` takes requests out of the store when the submit thread has returned. -/
theorem ClientInv.published_of_failAllPending (h : ClientInv r)
    (hops : r.ops .shutdown = .shutdown .failAllPending :: rest)
    (hp : p ∈ r.shared.requestStore) : r.shared.Published p.call p.info.sessionId := by
  refine h.store.published_of_free h.push ?_ hp
  rw [h.push.mutex, h.shutdown.idle_of_failing hops (by decide) (t := .submit) (by decide)]
  rfl

end MemRpc
