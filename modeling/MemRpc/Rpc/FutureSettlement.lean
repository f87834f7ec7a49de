import MemRpc.Rpc.ClientCallers

/-!
# Every future is resolved

A call whose future is not ready is accounted for: its request is in the submit queue or
in the pending store, or a thread has it in its hands (`Answered`). Each operation hands
the calls it touches over to the next holder. `ClientRequestStore` tells requests apart by
their ids, and `nextRequestId_` has 64 bits: two requests of a client that has made at most
`2 ^ 64` calls have different ids, and an entry that is overwritten or erased is that of
the request at hand. When `Shutdown` returns nobody holds a request any more, so every
future is ready.

Beyond `2 ^ 64` calls an id comes a second time, and `Put` drops the entry of a request
that is still pending.

## Main results

* `futuresSettled_of_reach`.
-/

namespace MemRpc

open Concurrency RpcClient

variable {mode : ClientInitMode} {t : ClientThread} {answer : ClientAnswer}
  {s s' : RpcClient} {r r' : ClientRuntime} {a : ClientAction}
  {next rest ops ops' : List ClientOp} {n : ℕ}

/-! ## Who answers for a call -/

/-- The call that an operation is bound to answer: it carries the reply, or it is about the
request. While a request is pushed its entry in the store answers for it. -/
def ClientOp.owes? : ClientOp → Option ℕ
  | .resolve call _ => some call
  | .submit (.pushRequest ..) => none
  | .submit o => o.job?.map (·.call)
  | .wait o => o.waiter.job?.map (·.call)
  | _ => none

/-- A call is answered, or its request is held somewhere. -/
inductive Answered (s : RpcClient) (ops : List ClientOp) (n : ℕ) : Prop
  | ready (h : s.future n ≠ none)
  | queued {job : SubmitJob} (hjob : job ∈ s.submitQueue) (hcall : job.call = n)
  | stored {p : PendingRequest} (hp : p ∈ s.requestStore) (hcall : p.call = n)
  | held {op : ClientOp} (hop : op ∈ ops) (hn : op.owes? = some n)

/-- Every holder of `s` has handed its calls over. -/
theorem Answered.handOver (h : Answered s ops n) (hfuture : s'.future = s.future)
    (hqueue : ∀ job ∈ s.submitQueue, Answered s' ops' job.call)
    (hstore : ∀ p ∈ s.requestStore, Answered s' ops' p.call)
    (hops : ∀ op ∈ ops, op.owes? = some n → Answered s' ops' n) : Answered s' ops' n := by
  cases h with
  | ready h => exact .ready (hfuture ▸ h)
  | queued hjob hcall => exact hcall ▸ hqueue _ hjob
  | stored hp hcall => exact hcall ▸ hstore _ hp
  | held hop hn => exact hops _ hop hn

theorem Answered.mono (h : Answered s ops n) (hfuture : s'.future = s.future)
    (hqueue : s'.submitQueue = s.submitQueue) (hstore : s'.requestStore = s.requestStore)
    (hops : ∀ op ∈ ops, op.owes? = some n → ∃ op' ∈ ops', op'.owes? = some n) :
    Answered s' ops' n := by
  refine h.handOver hfuture (fun job hjob => .queued (hqueue ▸ hjob) rfl)
    (fun p hp => .stored (hstore ▸ hp) rfl) fun op hop hn => ?_
  obtain ⟨op', hop', hn'⟩ := hops op hop hn
  exact .held hop' hn'

theorem Answered.of_resolve (reply : RpcReply) (h : ClientOp.resolve n reply ∈ ops) :
    Answered s ops n :=
  .held h rfl

theorem Answered.of_failed {l : List PendingRequest} {status : StatusCode} {p : PendingRequest}
    (hp : p ∈ l) : Answered s (l.flatMap fun p =>
      failAndResolve p.info status (some p.info.sessionId) p.call) p.call :=
  .of_resolve { status } (List.mem_flatMap.mpr ⟨p, hp, by simp [failAndResolve]⟩)

variable {op : ClientOp}

theorem ClientOp.owes_of_job {job : SubmitJob} (hjob : op.job? = some job)
    (hpush : op.pushing = false) : op.owes? = some job.call := by
  cases op with
  | submit o =>
    change o.job? = some job at hjob
    cases o with
    | pushRequest job info => cases hpush
    | run => cases hjob
    | _ =>
      cases hjob
      rfl
  | wait o =>
    change o.waiter.job? = some job at hjob
    simp only [owes?, hjob, Option.map_some]
  | _ => cases hjob

/-! ## Each component hands over what it takes -/

theorem not_owes (hop : op.owes? = none) {P : Prop} :
    ∀ op' ∈ [op], op'.owes? = some n → P := by
  intro op' hop' hn
  obtain rfl := List.mem_singleton.mp hop'
  rw [hop] at hn
  cases hn

theorem passes_on {op op' : ClientOp} (h : op'.owes? = op.owes?) :
    ∀ o ∈ [op], o.owes? = some n → ∃ o' ∈ [op'], o'.owes? = some n := by
  intro o ho hn
  obtain rfl := List.mem_singleton.mp ho
  exact ⟨op', List.mem_singleton_self _, h.trans hn⟩

theorem RecoveryMove.answered {o : RecoveryOp} (hm : RecoveryMove s answer o s' next)
    (h : Answered s [.recovery o] n) : Answered s' next n := by
  cases hm with
  | failPending =>
    refine h.handOver rfl (fun job hjob => .queued hjob rfl) (fun p hp => ?_) (not_owes rfl)
    refine .of_resolve { status := .peerDisconnected }
      (List.mem_flatMap.mpr ⟨p, hp, ?_⟩)
    exact List.mem_cons_of_mem _ List.mem_cons_self
  | resolveAll =>
    exact h.handOver rfl (fun job hjob => .queued hjob rfl)
      (fun p hp => .of_resolve _ (List.mem_map_of_mem hp)) (not_owes rfl)
  | _ => exact h.mono rfl rfl rfl (not_owes rfl)

theorem WatchdogMove.answered {o : WatchdogOp} (hm : WatchdogMove s o s' next)
    (h : Answered s [.watchdog o] n) : Answered s' next n := by
  cases hm with
  | @takeExpired now =>
    refine h.handOver rfl (fun job hjob => .queued hjob rfl) (fun p hp => ?_) (not_owes rfl)
    by_cases hexpired : p.expired now = true
    · exact .of_failed (List.mem_filter.mpr ⟨hp, hexpired⟩)
    · exact .stored (List.mem_filter.mpr ⟨hp, decide_eq_true hexpired⟩) rfl
  | _ => exact h.mono rfl rfl rfl (not_owes rfl)

theorem ShutdownMove.answered {o : ShutdownOp} (hm : ShutdownMove s o s' next)
    (h : Answered s [.shutdown o] n) : Answered s' next n := by
  cases hm with
  | failAllPending =>
    exact h.handOver rfl (fun job hjob => .queued hjob rfl)
      (fun p hp => .of_failed hp) (not_owes rfl)
  | failQueued hfree =>
    exact h.handOver rfl (fun job hjob => .of_resolve _ (List.mem_map_of_mem hjob))
      (fun p hp => .stored hp rfl) (not_owes rfl)
  | _ => exact h.mono rfl rfl rfl (not_owes rfl)

/-! ## Requests are told apart by their ids -/

/-- Requests with the same id are those of one call. -/
def IdsDiffer (s : RpcClient) : Prop :=
  ∀ p ∈ s.requestStore, ∀ n < s.calls, p.info.requestId = UInt64.ofNat (n + 1) → p.call = n

theorem requestId_injective {m n : ℕ} (hm : m < 2 ^ 64) (hn : n < 2 ^ 64)
    (h : UInt64.ofNat (m + 1) = UInt64.ofNat (n + 1)) : m = n := by
  have hnat := congrArg UInt64.toNat h
  simp only [UInt64.toNat_ofNat'] at hnat
  omega

theorem JobInv.idsDiffer {ops : List ClientOp} (h : JobInv s ops) (hcalls : s.calls ≤ 2 ^ 64) :
    IdsDiffer s := by
  intro p hp n hn hid
  obtain ⟨hlt, hpid⟩ := h.store p hp
  exact requestId_injective (hlt.trans_le hcalls) (hn.trans_le hcalls) (hpid.symm.trans hid)

theorem ReceiveMove.answered {o : ResponseOp} (hm : ReceiveMove s o s' next)
    (h : Answered s [.response o] n) {ops : List ClientOp} (hjob : JobInv s ops)
    (hids : IdsDiffer s) : Answered s' next n := by
  -- the entry that is taken is the only one with its id
  have htaken : ∀ {requestId p q}, s.requestStore.find? (·.info.requestId = requestId) = some p →
      q ∈ s.requestStore → q ∈ (s.erase requestId).requestStore ∨ q.call = p.call := by
    intro requestId p q hfind hq
    by_cases hid : q.info.requestId = requestId
    · have hp := List.mem_of_find?_eq_some hfind
      have hpid : p.info.requestId = requestId := by simpa using List.find?_some hfind
      obtain ⟨hlt, hofNat⟩ := hjob.store p hp
      exact .inr (hids q hq p.call hlt (hid.trans (hpid.symm.trans hofNat)))
    · exact .inl (List.mem_filter.mpr ⟨hq, decide_eq_true hid⟩)
  cases hm with
  | @take requestId reply p hfind hreply | @takeFailed requestId reply p hfind hreply =>
    refine h.handOver rfl (fun job hjob => .queued hjob rfl) (fun q hq => ?_) (not_owes rfl)
    rcases htaken hfind hq with hkept | hcall
    · exact .stored hkept rfl
    · rw [hcall]
      exact .of_resolve reply (by simp)
  | _ => exact h.mono rfl rfl rfl (not_owes rfl)

theorem SubmitMove.answered {o : SubmitOp} (hm : SubmitMove s answer o s' next)
    (h : Answered s [.submit o] n) (hjob : JobInv s (.submit o :: rest)) (hids : IdsDiffer s) :
    Answered s' next n := by
  -- an entry with the id of the request at hand is its entry
  have hmine : ∀ {job : SubmitJob} {p : PendingRequest}, o.job? = some job → p ∈ s.requestStore →
      p.info.requestId = job.requestId → p.call = job.call := by
    intro job p ho hp hid
    obtain ⟨hlt, hofNat⟩ := hjob.ids job (by simp [heldJobs, ClientOp.job?, ho])
    exact hids p hp job.call hlt (hid.trans hofNat)
  cases hm with
  | @dequeue job queue hqueue =>
    refine h.handOver rfl (fun job' hjob' => ?_) (fun p hp => .stored hp rfl) (not_owes rfl)
    rw [hqueue] at hjob'
    rcases List.mem_cons.mp hjob' with rfl | hrest
    · exact .held List.mem_cons_self rfl
    · exact .queued hrest rfl
  | exit hqueue => exact h.mono rfl rfl rfl (not_owes rfl)
  | @pass _ job detour op credit ho hpush hdetour hop hpush' =>
    refine h.mono rfl rfl rfl fun op' hop' hn => ?_
    obtain rfl := List.mem_singleton.mp hop'
    have howes : (ClientOp.submit o).owes? = some job.call := ClientOp.owes_of_job ho hpush
    rw [howes] at hn
    exact ⟨op, List.mem_append_right _ List.mem_cons_self,
      (ClientOp.owes_of_job hop hpush').trans hn⟩
  | enter hlive | prepared | unprepared => exact h.mono rfl rfl rfl (passes_on rfl)
  | @put job info =>
    have hnew : Answered (s.put (s.buildPendingRequest job)) [.submit (.pushRequest job info)]
        job.call := .stored (List.mem_append_right _ List.mem_cons_self) rfl
    refine h.handOver rfl (fun job hjob => .queued hjob rfl) (fun p hp => ?_) fun op hop hn => ?_
    · by_cases hid : p.info.requestId = job.requestId
      · exact hmine rfl hp hid ▸ hnew
      · exact .stored (List.mem_append_left _ (List.mem_filter.mpr ⟨hp, decide_eq_true hid⟩)) rfl
    · obtain rfl := List.mem_singleton.mp hop
      exact Option.some.inj hn ▸ hnew
  | published | broke | refused => exact h.mono rfl rfl rfl (not_owes rfl)
  | @unput job info status =>
    refine h.handOver rfl (fun job hjob => .queued hjob rfl) (fun p hp => ?_) fun op hop hn => ?_
    · by_cases hid : p.info.requestId = job.requestId
      · exact hmine rfl hp hid ▸ .held List.mem_cons_self rfl
      · exact .stored (List.mem_filter.mpr ⟨hp, decide_eq_true hid⟩) rfl
    · obtain rfl := List.mem_singleton.mp hop
      exact .held List.mem_cons_self hn
  | @fail job info status =>
    refine h.mono rfl rfl rfl fun op hop hn => ?_
    obtain rfl := List.mem_singleton.mp hop
    exact ⟨.resolve job.call { status }, by simp [failAndResolve], hn⟩

theorem WaitOp.answered {o : WaitOp} (hexec : o.exec s answer = some (s', next))
    (h : Answered s [.wait o] n) : Answered s' next n := by
  rw [WaitOp.exec_frame hexec]
  refine h.mono rfl rfl rfl fun op hop hn => ?_
  obtain rfl := List.mem_singleton.mp hop
  rcases WaitOp.exec_next hexec with ⟨o', rfl, hw⟩ | ⟨status, rfl⟩
  · refine ⟨.wait o', List.mem_singleton_self _, ?_⟩
    simpa only [ClientOp.owes?, hw] using hn
  · simp only [ClientOp.owes?] at hn
    cases hw : o.waiter with
    | submit job info =>
      rw [hw] at hn
      rcases Waiter.resume_submit job info status with hr | hr <;> rw [hr] <;>
        exact ⟨_, List.mem_singleton_self _, hn⟩
    | retry call st =>
      rw [hw] at hn
      cases hn

theorem CallMove.answered {o : CallerOp} (hm : CallMove t s o s' next)
    (h : Answered s [.caller o] n) : Answered s' next n := by
  cases hm with
  | enqueue =>
    refine h.handOver rfl (fun job hjob => ?_) (fun p hp => .stored hp rfl) (not_owes rfl)
    exact .queued (List.mem_append_left _ hjob) rfl
  | reject =>
    cases h with
    | ready hready =>
      refine .ready ?_
      rcases s.future_resolveState s.calls { status := .clientClosed } n with
        hsame | ⟨hnone, -, -⟩
      · exact fun hn => hready (hsame.symm.trans hn)
      · exact absurd hnone hready
    | queued hjob hcall => exact .queued hjob hcall
    | stored hp hcall => exact .stored hp hcall
    | held hop hn => exact not_owes rfl _ hop hn
  | _ => exact h.mono rfl rfl rfl (not_owes rfl)

variable {reply : RpcReply}

theorem resolve_answered {call : ℕ}
    (h : Answered s [.resolve call reply] n) : Answered (s.resolveState call reply) [] n := by
  cases h with
  | ready hready =>
    refine .ready ?_
    rcases s.future_resolveState call reply n with hsame | ⟨hnone, -, -⟩
    · exact fun hn => hready (hsame.symm.trans hn)
    · exact absurd hnone hready
  | queued hjob hcall => exact .queued hjob hcall
  | stored hp hcall => exact .stored hp hcall
  | held hop hn =>
    obtain rfl := List.mem_singleton.mp hop
    obtain rfl : call = n := Option.some.inj hn
    exact .ready (by simp [resolveState])

/-- An operation hands over the calls it answers for, and those it takes. -/
theorem Answered.exec (h : Answered s [op] n) (hop : op.OnThread t)
    (hexec : op.exec t answer s = some (s', next)) {mine : List ClientOp} (hjob : JobInv s mine)
    (hmine : t = .submit → mine = op :: rest) (hids : IdsDiffer s) : Answered s' next n := by
  cases op with
  | lock =>
    simp only [ClientOp.exec] at hexec
    split at hexec <;> cases hexec
    exact h.mono rfl rfl rfl (not_owes rfl)
  | unlock =>
    cases hexec
    exact h.mono rfl rfl rfl (not_owes rfl)
  | resolve call reply =>
    cases hexec
    exact resolve_answered h
  | recovery o => exact (RecoveryMove.of_exec hexec).answered h
  | submit o =>
    rw [hmine hop] at hjob
    exact (SubmitMove.of_exec hexec).answered h hjob hids
  | wait o => exact WaitOp.answered hexec h
  | response o => exact (ReceiveMove.of_exec hexec).answered h hjob hids
  | watchdog o => exact (WatchdogMove.of_exec hexec).answered h
  | caller o => exact (CallMove.of_exec hexec).answered h
  | shutdown o => exact (ShutdownMove.of_exec hexec).answered h

/-- The call that an operation makes. -/
theorem answered_of_call (hexec : op.exec t answer s = some (s', next))
    (hcalls : s'.calls ≠ s.calls) : Answered s' next s.calls := by
  rcases ClientOp.calls_exec hexec with hsame | ⟨-, rfl | ⟨ms, rfl⟩⟩
  · exact absurd hsame hcalls
  · cases hexec
    refine .ready ?_
    change (s.resolveState s.calls { status := .clientClosed }).future s.calls ≠ none
    simp [resolveState]
  · cases hexec
    exact .queued (List.mem_append_right _ List.mem_cons_self) rfl

/-! ## Every call is accounted for -/

/-- Some thread answers for the call, or it is ready, queued or pending. -/
def Accounted (r : ClientRuntime) (n : ℕ) : Prop := ∃ t, Answered r.shared (r.ops t) n

theorem Answered.append (h : Answered s ops n) : Answered s (ops ++ rest) n :=
  h.mono rfl rfl rfl fun op hop hn => ⟨op, List.mem_append_left _ hop, hn⟩

/-- What is not in the hands of the thread that moves. -/
theorem Answered.of_head (h : Answered s (op :: rest) n) :
    Answered s [op] n ∨ ∃ op' ∈ rest, op'.owes? = some n := by
  cases h with
  | ready hready => exact .inl (.ready hready)
  | queued hjob hcall => exact .inl (.queued hjob hcall)
  | stored hp hcall => exact .inl (.stored hp hcall)
  | held hop hn =>
    rcases List.mem_cons.mp hop with rfl | hrest
    · exact .inl (.held (List.mem_singleton_self _) hn)
    · exact .inr ⟨_, hrest, hn⟩

theorem Accounted.exec (h : Accounted r n) (hinv : ClientInv r)
    (hcalls : r.shared.calls ≤ 2 ^ 64) (hops : r.ops t = op :: rest)
    (hexec : op.exec t answer r.shared = some (r'.shared, next))
    (hops' : r'.ops = Function.update r.ops t (next ++ rest)) : Accounted r' n := by
  have hself : r'.ops t = next ++ rest := by rw [hops', Function.update_self]
  -- what the thread that moves answers for, it hands over
  have hmoved : Answered r.shared [op] n → Accounted r' n := fun h => by
    have hmine : t = .submit → r.ops .submit = op :: rest := fun ht => ht ▸ hops
    exact ⟨t, hself ▸ (h.exec (hinv.onThread hops) hexec hinv.job hmine
      (hinv.job.idsDiffer hcalls)).append⟩
  obtain ⟨u, hu⟩ := h
  by_cases hut : u = t
  · subst hut
    rw [hops] at hu
    rcases hu.of_head with hhead | ⟨op', hrest, hn⟩
    · exact hmoved hhead
    · exact ⟨u, hself ▸ .held (List.mem_append_right _ hrest) hn⟩
  · cases hu with
    | ready hready => exact hmoved (.ready hready)
    | queued hjob hcall => exact hmoved (.queued hjob hcall)
    | stored hp hcall => exact hmoved (.stored hp hcall)
    | held hop hn =>
      refine ⟨u, .held ?_ hn⟩
      rwa [hops', Function.update_of_ne hut]

/-- A thread that has nothing to do is given a program. -/
theorem Accounted.start {program : List ClientOp} (h : Accounted r n) (hidle : r.ops t = [])
    (hops' : r'.ops = Function.update r.ops t program)
    (hfuture : r'.shared.future = r.shared.future)
    (hqueue : r'.shared.submitQueue = r.shared.submitQueue)
    (hstore : r'.shared.requestStore = r.shared.requestStore) : Accounted r' n := by
  obtain ⟨u, hu⟩ := h
  refine ⟨u, hu.mono hfuture hqueue hstore fun op hop hn => ⟨op, ?_, hn⟩⟩
  rw [hops', Function.update_of_ne]
  · exact hop
  · rintro rfl
    rw [hidle] at hop
    cases hop

variable {ok : ClientRuntime → ClientAction → Prop}

theorem accounted_of_reach (h : (rpcClient mode).Reach ok r) (hcalls : r.shared.calls ≤ 2 ^ 64) :
    ∀ n < r.shared.calls, Accounted r n := by
  revert hcalls
  refine Machine.Reach.invariant_of_reach
    (I := fun r => r.shared.calls ≤ 2 ^ 64 → ∀ n < r.shared.calls, Accounted r n) ?_ ?_ h
  · intro _ n hn
    cases mode <;> cases hn
  · intro r a r' hreach hinv _ hs hcalls n hn
    cases ClientMove.of_step hs with
    | @exec t answer op rest next hops hexec hops' =>
      have hle := (ClientOp.calls_le hexec).trans hcalls
      by_cases hold : n < r.shared.calls
      · exact (hinv hle n hold).exec (.of_reach hreach) hle hops hexec hops'
      · obtain ⟨rfl, hnew⟩ : n = r.shared.calls ∧ r'.shared.calls ≠ r.shared.calls := by
          rcases ClientOp.calls_exec hexec with hc | ⟨hc, -⟩ <;> omega
        refine ⟨t, ?_⟩
        rw [hops', Function.update_self]
        exact (answered_of_call hexec hnew).append
    | call hidle hshared hops' | retry _ hidle hshared hops'
    | shutdown hcontrol hidle hshared hops' =>
      rw [hshared] at hcalls hn
      exact (hinv hcalls n hn).start hidle hops' (by rw [hshared]) (by rw [hshared])
        (by rw [hshared])
    | tick hshared hops' =>
      rw [hshared] at hcalls hn
      obtain ⟨u, hu⟩ := hinv hcalls n hn
      refine ⟨u, ?_⟩
      rw [hops', hshared]
      exact hu.mono rfl rfl rfl fun op hop hn => ⟨op, hop, hn⟩

/-! ## After `Shutdown` -/

theorem ClientOp.returned_exec (h : op.exec t answer s = some (s', next)) :
    s'.shutdownReturned = s.shutdownReturned ∨
      op = .shutdown .finishShutdown ∧ s'.control = .closed ∧ next = [] := by
  cases op with
  | shutdown o =>
    cases ShutdownMove.of_exec h with
    | finish => exact .inr ⟨rfl, rfl, rfl⟩
    | _ => exact .inl rfl
  | _ => exact .inl ((framed h).shutdownReturned nofun)

theorem ShutdownInv.rest_of_finish (h : ShutdownInv r)
    (hops : r.ops .shutdown = .shutdown .finishShutdown :: rest) : rest = [] := by
  obtain ⟨points, hsuffix, rfl⟩ := h.points_of_head hops
  have hlast : ∀ l ∈ shutdownOps.tails, l.head? = some .finishShutdown → l.tail = [] := by decide
  rw [show points = [] from hlast _ ((List.mem_tails _ _).mpr hsuffix) rfl, List.map_nil]

/-- `Shutdown` returns when it has nothing left to do. -/
theorem ended_of_returned (h : (rpcClient mode).Reach ok r)
    (hreturned : r.shared.shutdownReturned = true) :
    r.shared.control ≠ .opened ∧ r.ops .shutdown = [] := by
  revert hreturned
  refine Machine.Reach.invariant_of_reach (I := fun r => r.shared.shutdownReturned = true →
    r.shared.control ≠ .opened ∧ r.ops .shutdown = []) ?_ ?_ h
  · intro hreturned
    cases mode <;> cases hreturned
  · intro r a r' hreach hinv _ hs hreturned
    have hclient : ClientInv r := .of_reach hreach
    cases ClientMove.of_step hs with
    | @exec t answer op rest next hops hexec hops' =>
      rcases ClientOp.returned_exec hexec with hsame | ⟨rfl, hclosed, rfl⟩
      · obtain ⟨hopen, hidle⟩ := hinv (hsame ▸ hreturned)
        refine ⟨?_, ?_⟩
        · rcases ClientOp.control hexec with hc | ⟨hc, -⟩ <;> rw [hc]
          · exact hopen
          · exact ApiLifecycleState.noConfusion
        · rw [hops', Function.update_of_ne, hidle]
          rintro rfl
          rw [hidle] at hops
          cases hops
      · obtain rfl : t = .shutdown := hclient.onThread hops
        obtain rfl := hclient.shutdown.rest_of_finish hops
        refine ⟨hclosed ▸ ApiLifecycleState.noConfusion, ?_⟩
        rw [hops', Function.update_self, List.append_nil]
    | call hidle hshared hops' | retry _ hidle hshared hops' =>
      rw [hshared] at hreturned ⊢
      rw [hops', Function.update_of_ne (by simp)]
      exact hinv hreturned
    | shutdown hcontrol hidle hshared hops' =>
      rw [hshared] at hreturned
      exact absurd hcontrol (by simp [(hinv hreturned).1, (CallerInv.of_reach hreach).control])
    | tick hshared hops' =>
      rw [hshared] at hreturned ⊢
      rw [hops']
      exact hinv hreturned

theorem ClientOp.Inert.owes (h : op.Inert) (hop : op.OnThread t)
    (ht : t.isCaller = true) : op.owes? = none := by
  cases op with
  | wait o =>
    change o.waiter.OnThread t at hop
    cases hw : o.waiter with
    | submit job info =>
      rw [hw] at hop
      obtain rfl : t = .submit := hop
      cases ht
    | retry call st => simp [owes?, hw, Waiter.job?]
  | submit o | resolve call reply => cases h
  | _ => rfl

/-- When `Shutdown` has returned, no thread holds a request or carries a reply. -/
theorem none_held_of_returned (h : (rpcClient mode).Reach ok r)
    (hreturned : r.shared.shutdownReturned = true)
    (hop : op ∈ r.ops t) : op.owes? = none := by
  have hinv : ClientInv r := .of_reach h
  obtain ⟨hclosed, hended⟩ := ended_of_returned h hreturned
  have hthread := List.forall_iff_forall_mem.mp (hinv.thread t) op hop
  have hworker : t ∉ workers := by
    intro ht
    have hexited := hinv.shutdown.joined hclosed t ht (by simp [hended])
    rw [(hinv.shutdown.exited t hexited).2] at hop
    cases hop
  have hcaller : t.isCaller = true := by
    cases t with
    | external m | retrier m => rfl
    | shutdown =>
      rw [hended] at hop
      cases hop
    | _ => exact absurd (by decide) hworker
  have hinert := inert_of_passed h ⟨hclosed, by simp [hended]⟩ t hcaller
  exact (List.forall_iff_forall_mem.mp hinert op hop).owes hthread hcaller

/-- The futures of a client: a reply stays as it is, and when `Shutdown` has returned every
call has its reply. -/
def FuturesSettled (mode : ClientInitMode) (r : ClientRuntime) : Prop :=
  (∀ n reply, r.shared.future n = some reply → ∀ as r', (rpcClient mode).run r as = some r' →
    r'.shared.future n = some reply) ∧
  (r.shared.shutdownReturned = true → ∀ n < r.shared.calls, r.shared.future n ≠ none)

theorem future_step (hn : r.shared.future n = some reply)
    (hs : (rpcClient mode).step r a = some r') : r'.shared.future n = some reply := by
  cases ClientMove.of_step hs with
  | exec hops hexec hops' =>
    rcases ClientOp.future_exec hexec n with hsame | ⟨_, hnone, -, -⟩
    · exact hsame.trans hn
    · rw [hn] at hnone
      cases hnone
  | call hidle hshared hops' | retry _ hidle hshared hops' | shutdown _ hidle hshared hops'
  | tick hshared hops' =>
    rw [hshared]
    exact hn

theorem future_run {as : List ClientAction}
    (hn : r.shared.future n = some reply) (hrun : (rpcClient mode).run r as = some r') :
    r'.shared.future n = some reply := by
  induction as generalizing r with
  | nil =>
    rw [Machine.run_nil, Option.some.injEq] at hrun
    exact hrun ▸ hn
  | cons a as ih =>
    rw [Machine.run_cons, Option.bind_eq_some_iff] at hrun
    obtain ⟨r₁, hs, hrest⟩ := hrun
    exact ih (future_step hn hs) hrest

/-- In every run of at most `2 ^ 64` calls, a future becomes ready once, with a reply that
stays, and every future is ready when `Shutdown` has returned. -/
theorem futuresSettled_of_reach (h : (rpcClient mode).Reach Machine.Always r)
    (hcalls : r.shared.calls ≤ 2 ^ 64) : FuturesSettled mode r := by
  refine ⟨fun n reply hn as r' hrun => future_run hn hrun, fun hreturned n hn hnone => ?_⟩
  obtain ⟨hclosed, hended⟩ := ended_of_returned h hreturned
  obtain ⟨t, ht⟩ := accounted_of_reach h hcalls n hn
  cases ht with
  | ready hready => exact hready hnone
  | queued hjob hcall =>
    rw [(queue_of_passed h ⟨hclosed, by simp [hended]⟩).1] at hjob
    cases hjob
  | stored hp hcall =>
    rw [(store_of_passed h ⟨hclosed, by simp [hended]⟩).1] at hp
    cases hp
  | held hop hn =>
    rw [none_held_of_returned h hreturned hop] at hn
    cases hn

/-- `Shutdown` from start to end, with one request pending and none queued. -/
def shutdownSchedule : List ClientAction :=
  .shutdown :: List.replicate 7 (.exec .shutdown {}) ++
    [.exec .submit {}, .exec .response {}, .exec .watchdog { watchdog := .stop }] ++
    List.replicate 10 (.exec .shutdown {})

/-- A request that is still pending when `Shutdown` is called. -/
theorem futuresSettled_pending :
    ∃ r, (rpcClient .eagerSession).Reach Machine.Always r ∧ r.shared.calls ≤ 2 ^ 64 ∧
      r.shared.shutdownReturned = true ∧ 0 < r.shared.calls ∧
      FuturesSettled .eagerSession r := by
  obtain ⟨r, hreach, hcalls, hreturned, hpos⟩ :=
    (rpcClient .eagerSession).exists_reach (publishSchedule ++ shutdownSchedule)
    (P := fun r => r.shared.calls ≤ 2 ^ 64 ∧ r.shared.shutdownReturned = true ∧ 0 < r.shared.calls)
      (by decide +kernel)
  exact ⟨r, hreach, hcalls, hreturned, hpos, futuresSettled_of_reach hreach hcalls⟩

/-! ## An id that comes a second time -/

/-- A client that publishes some requests and refuses others. -/
def wornClient (requestStore : List PendingRequest) (calls : ℕ) (future : ℕ → Option RpcReply)
    (log : List ClientEvent) : RpcClient :=
  { lifecycle := .active, session := 1, opened := 1, requestStore, calls, future, log }

/-- A call whose payload cannot be prepared for the transport. -/
def refusedSchedule : List ClientAction :=
  invokeSchedule 0 ++ List.replicate 16 (.exec .submit { prepared := false })

section

variable (store : List PendingRequest) (p : PendingRequest) (n : ℕ)
  (future : ℕ → Option RpcReply) (log : List ClientEvent)

/-- The threads of the client are at their loops, and there is no call. -/
theorem ops_eq_initialOps {ops : ClientThread → List ClientOp}
    (hsubmit : ops .submit = [.submit .run]) (hresponse : ops .response = [.response .run])
    (hwatchdog : ops .watchdog = [.watchdog .run]) (hshutdown : ops .shutdown = [])
    (hexternal : ∀ n, ops (.external n) = []) (hretrier : ∀ n, ops (.retrier n) = []) :
    ops = initialOps := by
  funext t
  cases t with
  | submit => exact hsubmit
  | response => exact hresponse
  | watchdog => exact hwatchdog
  | shutdown => exact hshutdown
  | external n => exact hexternal n
  | retrier n => exact hretrier n

theorem run_publishSchedule :
    ∃ r, (rpcClient .eagerSession).run ⟨wornClient store n future log, initialOps⟩
      publishSchedule = some r ∧ r.ops = initialOps ∧ r.shared = wornClient
        (store.filter (·.info.requestId ≠ UInt64.ofNat (n + 1)) ++
          [⟨n, ⟨UInt64.ofNat (n + 1), 1⟩, none⟩]) (n + 1) future
        (.published n 1 :: .pushed n 1 :: log) := by
  refine ⟨_, rfl, ?_, rfl⟩
  refine ops_eq_initialOps rfl rfl rfl rfl (fun k => ?_) fun k => rfl
  cases k <;> rfl

theorem run_refusedSchedule :
    ∃ r, (rpcClient .eagerSession).run ⟨wornClient store n future log, initialOps⟩
      refusedSchedule = some r ∧ r.ops = initialOps ∧ r.shared = wornClient store (n + 1)
        (Function.update future n (some ((future n).getD { status := .payloadTooLarge })))
        (if (future n).isSome then log
          else .resolved n { status := .payloadTooLarge } :: log) := by
  refine ⟨_, rfl, ?_, rfl⟩
  refine ops_eq_initialOps rfl rfl rfl rfl (fun k => ?_) fun k => rfl
  cases k <;> rfl

theorem run_shutdownSchedule :
    ∃ r, (rpcClient .eagerSession).run ⟨wornClient [p] n future log, initialOps⟩
      shutdownSchedule = some r ∧ r.shared.shutdownReturned = true ∧ r.shared.calls = n ∧
        r.shared.future = Function.update future p.call
          (some ((future p.call).getD { status := .clientClosed })) :=
  ⟨_, rfl, rfl, rfl, rfl⟩

end

/-- After any number of calls the first request can still be pending. -/
theorem exists_wornClient (n : ℕ) :
    ∃ future log, (rpcClient .eagerSession).Reach Machine.Always
      ⟨wornClient [⟨0, ⟨1, 1⟩, none⟩] (n + 1) future log, initialOps⟩ ∧ future 0 = none := by
  induction n with
  | zero =>
    obtain ⟨⟨shared, ops⟩, hr, rfl, rfl⟩ := run_publishSchedule [] 0 (fun _ => none) []
    exact ⟨_, _, Machine.reach_of_run _ hr, rfl⟩
  | succ n ih =>
    obtain ⟨future, log, hreach, hnone⟩ := ih
    obtain ⟨⟨shared, ops⟩, hr, rfl, rfl⟩ := run_refusedSchedule _ (n + 1) future log
    refine ⟨_, _, hreach.run hr, ?_⟩
    rw [Function.update_of_ne (Nat.succ_ne_zero n).symm, hnone]

/-- The request of call `2 ^ 64` has the id of the first one. `Put` overwrites the entry of
the first request, and nobody resolves its future any more. -/
theorem not_futuresSettled_of_reusedId :
    ∃ r, (rpcClient .eagerSession).Reach Machine.Always r ∧ ¬ FuturesSettled .eagerSession r := by
  obtain ⟨future, log, hreach, hnone⟩ := exists_wornClient (2 ^ 64 - 1)
  obtain ⟨⟨shared, ops⟩, hpublish, rfl, rfl⟩ :=
    run_publishSchedule [⟨0, ⟨1, 1⟩, none⟩] (2 ^ 64) future log
  have hreused : UInt64.ofNat (2 ^ 64 + 1) = 1 := by decide
  rw [hreused] at hpublish
  obtain ⟨r, hshutdown, hreturned, hcalls, hfuture⟩ :=
    run_shutdownSchedule ⟨2 ^ 64, ⟨1, 1⟩, none⟩ (2 ^ 64 + 1) future
      (.published (2 ^ 64) 1 :: .pushed (2 ^ 64) 1 :: log)
  refine ⟨r, (hreach.run hpublish).run hshutdown, fun hsettled => ?_⟩
  refine hsettled.2 hreturned 0 (by omega) ?_
  rw [hfuture, Function.update_of_ne (by decide), hnone]

end MemRpc
