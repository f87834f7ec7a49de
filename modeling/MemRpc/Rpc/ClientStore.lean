import MemRpc.Rpc.ClientLocks

/-!
# Where a request is

A request is in the submit queue or in the hands of the submit thread until it is
published or resolved (`heldJobs`), and in the pending store from shortly before it is
published. `StoreInv` says that an entry of the store was published on the session it
names, unless the submit thread is between `Put` and the end of the push. `JobInv` says
that requests are held once, carry the ids of their calls, and are not held any more once
they are published.

## Main results

* `StoreInv.of_reach`, `JobInv.of_reach`.
-/

namespace MemRpc

open Concurrency RpcClient

variable {mode : ClientInitMode} {t : ClientThread} {answer : ClientAnswer}
  {s s' : RpcClient} {r r' : ClientRuntime} {a : ClientAction} {next rest : List ClientOp}

/-! ## The request that is being pushed -/

/-- The request whose entry is in the store while its push is not over. -/
def ClientOp.stored? : ClientOp → Option SubmitJob
  | .submit (.pushRequest job _) | .submit (.unput job _ _) => some job
  | _ => none

/-- The request that the submit thread has stored and is pushing. -/
def inFlight (ops : List ClientOp) : Option SubmitJob := ops.head?.bind ClientOp.stored?

variable {op : ClientOp} {job : SubmitJob}

theorem ClientOp.pushing_of_stored (h : op.stored? = some job) : op.pushing = true := by
  cases op with
  | submit o => cases o <;> first | rfl | cases h
  | _ => cases h

theorem inFlight_eq_none {ops : List ClientOp} (h : ops.Forall fun op => op.pushing = false) :
    inFlight ops = none := by
  cases ops with
  | nil => rfl
  | cons op ops =>
    obtain ⟨hop, -⟩ := (List.forall_cons _ _ _).mp h
    cases hstored : op.stored? with
    | none => exact hstored
    | some job =>
      rw [ClientOp.pushing_of_stored hstored] at hop
      cases hop

/-- A request was pushed to the ring of a session with success. -/
def RpcClient.Published (s : RpcClient) (call session : ℕ) : Prop :=
  ClientEvent.published call session ∈ s.log

def ClientEvent.publishes (call : ℕ) : ClientEvent → Bool
  | .published n _ => n = call
  | _ => false

/-- The request of a call was published on some session. -/
def RpcClient.WasPublished (s : RpcClient) (call : ℕ) : Prop :=
  ∃ e ∈ s.log, e.publishes call = true

instance (s : RpcClient) (call : ℕ) : Decidable (s.WasPublished call) :=
  inferInstanceAs (Decidable (∃ e ∈ s.log, e.publishes call = true))

theorem RpcClient.Published.wasPublished {n session : ℕ} (h : s.Published n session) :
    s.WasPublished n :=
  ⟨_, h, decide_eq_true rfl⟩

theorem RpcClient.WasPublished.mono {n : ℕ} (h : s.WasPublished n) (hlog : s.log ⊆ s'.log) :
    s'.WasPublished n := by
  obtain ⟨e, he, hn⟩ := h
  exact ⟨e, hlog he, hn⟩

theorem RpcClient.WasPublished.exists_published {n : ℕ} (h : s.WasPublished n) :
    ∃ session, s.Published n session := by
  obtain ⟨e, he, hn⟩ := h
  cases e with
  | published call session =>
    obtain rfl : call = n := of_decide_eq_true hn
    exact ⟨session, he⟩
  | _ => cases hn

/-- The entries of the store, while the submit thread executes `ops`. -/
structure StoreInv (s : RpcClient) (ops : List ClientOp) : Prop where
  published : ∀ p ∈ s.requestStore, s.Published p.call p.info.sessionId ∨
    ∃ job, inFlight ops = some job ∧ job.requestId = p.info.requestId
  current : ∀ job, inFlight ops = some job → ∀ p ∈ s.requestStore,
    p.info.requestId = job.requestId → p.call = job.call ∧ p.info.sessionId = s.session

/-- Entries only leave the store, and the request that is pushed stays the same. -/
theorem StoreInv.mono {ops ops' : List ClientOp} (h : StoreInv s ops)
    (hstore : s'.requestStore ⊆ s.requestStore) (hlog : s.log ⊆ s'.log)
    (hflight : inFlight ops' = inFlight ops)
    (hsession : ∀ job, inFlight ops = some job → s'.session = s.session) : StoreInv s' ops' := by
  refine ⟨fun p hp => ?_, fun job hjob p hp hid => ?_⟩
  · rcases h.published p (hstore hp) with hpub | ⟨job, hjob, hid⟩
    · exact .inl (hlog hpub)
    · exact .inr ⟨job, hflight.trans hjob, hid⟩
  · rw [hflight] at hjob
    obtain ⟨hcall, hs⟩ := h.current job hjob p (hstore hp) hid
    exact ⟨hcall, hs.trans (hsession job hjob).symm⟩

theorem SubmitMove.storeInv {o : SubmitOp} (hm : SubmitMove s answer o s' next)
    (h : StoreInv s (.submit o :: rest)) (hrest : rest.Forall fun op => op.pushing = false) :
    StoreInv s' (next ++ rest) := by
  have hnone : inFlight rest = none := inFlight_eq_none hrest
  cases hm with
  | dequeue hqueue =>
    exact h.mono (List.Subset.refl _) (List.Subset.refl _) rfl fun _ _ => rfl
  | exit hqueue => exact h.mono (List.Subset.refl _) (List.Subset.refl _) hnone fun _ _ => rfl
  | @pass _ _ detour op credit ho hpush hdetour hop hpush' =>
    have hafter : inFlight (detour ++ [op] ++ rest) = none := by
      refine inFlight_eq_none (List.forall_append.mpr ⟨?_, hrest⟩)
      cases hdetour with
      | none => exact hpush'
      | ensureLive | closeLive cause => exact ⟨rfl, rfl, rfl, hpush'⟩
    have hbefore : inFlight (.submit o :: rest) = none := by
      cases hstored : (ClientOp.submit o).stored? with
      | none => exact hstored
      | some job =>
        have hp : o.pushing = true := ClientOp.pushing_of_stored hstored
        rw [hp] at hpush
        cases hpush
    exact h.mono (List.Subset.refl _) (List.Subset.refl _) (hafter.trans hbefore.symm)
      fun _ _ => rfl
  | enter hlive | prepared | unprepared | fail =>
    exact h.mono (List.Subset.refl _) (List.Subset.refl _) rfl fun _ _ => rfl
  | @put job info =>
    refine ⟨fun p hp => ?_, fun job' hjob p hp hid => ?_⟩
    · rcases List.mem_append.mp hp with hold | hnew
      · refine .inl ((h.published p (List.mem_of_mem_filter hold)).resolve_right ?_)
        rintro ⟨job', hjob', -⟩
        cases hjob'
      · obtain rfl := List.mem_singleton.mp hnew
        exact .inr ⟨job, rfl, rfl⟩
    · obtain rfl : job = job' := Option.some.inj hjob
      rcases List.mem_append.mp hp with hold | hnew
      · exact absurd hid (of_decide_eq_true (List.mem_filter.mp hold).2)
      · obtain rfl := List.mem_singleton.mp hnew
        exact ⟨rfl, rfl⟩
  | @published job info =>
    refine ⟨fun p hp => .inl ?_, fun job' hjob' => ?_⟩
    · rcases h.published p hp with hpub | ⟨job', hjob', hid⟩
      · exact List.mem_cons_of_mem _ (List.mem_cons_of_mem _ hpub)
      · obtain rfl : job = job' := Option.some.inj hjob'
        obtain ⟨hcall, hsession⟩ := h.current job rfl p hp hid.symm
        rw [Published, hcall, hsession]
        exact List.mem_cons_self
    · rw [List.nil_append, hnone] at hjob'
      cases hjob'
  | broke =>
    exact h.mono (List.Subset.refl _) (List.subset_cons_self _ _) rfl fun _ _ => rfl
  | refused => exact h.mono (List.Subset.refl _) (List.Subset.refl _) rfl fun _ _ => rfl
  | @unput job info status =>
    refine ⟨fun p hp => .inl ?_, fun job' hjob' => ?_⟩
    · obtain ⟨hold, hid⟩ := List.mem_filter.mp hp
      refine (h.published p hold).resolve_right ?_
      rintro ⟨job', hjob', hid'⟩
      obtain rfl : job = job' := Option.some.inj hjob'
      exact of_decide_eq_true hid hid'.symm
    · cases hjob'

theorem PushInv.mutex_of_inFlight (h : PushInv r)
    (hjob : inFlight (r.ops .submit) = some job) : r.shared.sessionMutex = true := by
  obtain ⟨op, hop, hstored⟩ := Option.bind_eq_some_iff.mp hjob
  rw [h.mutex, hop]
  exact ClientOp.pushing_of_stored hstored

/-- An operation of another component does not concern the request that is pushed. -/
theorem inFlight_exec (hpush : PushInv r) (hother : ∀ o, op ≠ .submit o)
    (hthread : op.OnThread t) (hops : r.ops t = op :: rest)
    (hexec : op.exec t answer r.shared = some (s', next)) :
    inFlight (Function.update r.ops t (next ++ rest) .submit) = inFlight (r.ops .submit) := by
  by_cases ht : t = .submit
  · subst ht
    have hrest : rest.Forall fun op => op.pushing = false := by
      have htail := hpush.tail
      rwa [hops] at htail
    have hnext := ClientOp.pushing_exec hother hthread hexec
    rw [Function.update_self, hops, inFlight_eq_none (List.forall_append.mpr ⟨hnext, hrest⟩)]
    cases op with
    | submit o => exact absurd rfl (hother o)
    | _ => rfl
  · rw [Function.update_of_ne (Ne.symm ht)]

theorem StoreInv.step (h : StoreInv r.shared (r.ops .submit)) (hpush : PushInv r)
    (hthread : ∀ t, (r.ops t).Forall (ClientOp.OnThread t))
    (hs : (rpcClient mode).step r a = some r') : StoreInv r'.shared (r'.ops .submit) := by
  cases ClientMove.of_step hs with
  | @exec t answer op rest next hops hexec hops' =>
    have hop : op.OnThread t := ((List.forall_cons _ _ _).mp (hops ▸ hthread t)).1
    by_cases hsubmit : ∃ o, op = .submit o
    · obtain ⟨o, rfl⟩ := hsubmit
      obtain rfl : t = .submit := hop
      rw [hops', Function.update_self]
      refine (SubmitMove.of_exec hexec).storeInv (hops ▸ h) ?_
      have htail := hpush.tail
      rwa [hops] at htail
    · have hother : ∀ o, op ≠ .submit o := fun o ho => hsubmit ⟨o, ho⟩
      have hstore : r'.shared.requestStore ⊆ r.shared.requestStore := by
        refine (ClientOp.store hexec).resolve_right ?_
        rintro ⟨job, info, hput, -⟩
        exact hother _ hput
      exact h.mono hstore (ClientOp.log hexec)
        (hops' ▸ inFlight_exec hpush hother hop hops hexec)
        fun job hjob => ClientOp.session_exec hexec (hpush.mutex_of_inFlight hjob)
  | call hidle hshared hops' | retry hnew hidle hshared hops'
  | shutdown hcontrol hidle hshared hops' =>
    rw [hops', Function.update_of_ne (by simp), hshared]
    exact h.mono (List.Subset.refl _) (List.Subset.refl _) rfl fun _ _ => rfl
  | tick hshared hops' =>
    rw [hops', hshared]
    exact h.mono (List.Subset.refl _) (List.Subset.refl _) rfl fun _ _ => rfl

theorem StoreInv.of_reach {ok : ClientRuntime → ClientAction → Prop}
    (h : (rpcClient mode).Reach ok r) : StoreInv r.shared (r.ops .submit) := by
  refine Machine.Reach.invariant_of_reach (I := fun r => StoreInv r.shared (r.ops .submit)) ?_ ?_ h
  · refine ⟨fun p hp => ?_, fun job hjob => ?_⟩
    · cases mode <;> cases hp
    · cases hjob
  · exact fun r a r' hreach hinv _ hs =>
      hinv.step (.of_reach hreach) (onThread_of_reach hreach) hs

/-- Outside `TryPushRequest`, every entry of the store was published on its session. -/
theorem StoreInv.published_of_free (h : StoreInv r.shared (r.ops .submit)) (hpush : PushInv r)
    (hfree : r.shared.sessionMutex = false) {p : PendingRequest}
    (hp : p ∈ r.shared.requestStore) : r.shared.Published p.call p.info.sessionId := by
  refine (h.published p hp).resolve_right ?_
  rintro ⟨job, hjob, -⟩
  rw [hpush.mutex_of_inFlight hjob] at hfree
  cases hfree

/-! ## The requests that are not published yet -/

/-- The requests in the submit queue and in the hands of the submit thread. -/
def heldJobs (s : RpcClient) (ops : List ClientOp) : List SubmitJob :=
  s.submitQueue ++ ops.filterMap ClientOp.job?

theorem heldJobs_append (s : RpcClient) (ops rest : List ClientOp) :
    heldJobs s (ops ++ rest) = heldJobs s ops ++ rest.filterMap ClientOp.job? := by
  rw [heldJobs, heldJobs, List.filterMap_append, List.append_assoc]

/-- Requests are held once and carry the ids of their calls, and a request that was
published is not held any more. -/
structure JobInv (s : RpcClient) (ops : List ClientOp) : Prop where
  nodup : ((heldJobs s ops).map (·.call)).Nodup
  ids : ∀ job ∈ heldJobs s ops, job.call < s.calls ∧ job.requestId = UInt64.ofNat (job.call + 1)
  published : ∀ n session, s.Published n session →
    n < s.calls ∧ n ∉ (heldJobs s ops).map (·.call)
  store : ∀ p ∈ s.requestStore,
    p.call < s.calls ∧ p.info.requestId = UInt64.ofNat (p.call + 1)

/-- Requests are passed on or given up. -/
theorem JobInv.shrink {ops ops' : List ClientOp} (h : JobInv s ops)
    (hheld : (heldJobs s' ops').Subperm (heldJobs s ops)) (hcalls : s.calls ≤ s'.calls)
    (hpub : ∀ n session, s'.Published n session → s.Published n session ∨
      n < s.calls ∧ n ∉ (heldJobs s' ops').map (·.call))
    (hstore : ∀ p ∈ s'.requestStore, p ∈ s.requestStore ∨
      p.call < s.calls ∧ p.info.requestId = UInt64.ofNat (p.call + 1)) : JobInv s' ops' := by
  have hsubset : heldJobs s' ops' ⊆ heldJobs s ops := hheld.subset
  obtain ⟨l, hperm, hsub⟩ := hheld
  have hnodup : (l.map (·.call)).Nodup := (hsub.map _).nodup h.nodup
  refine ⟨(hperm.map _).nodup_iff.mp hnodup, fun job hjob => ?_, fun n session hn => ?_,
    fun p hp => ?_⟩
  · obtain ⟨hlt, hid⟩ := h.ids job (hsubset hjob)
    exact ⟨hlt.trans_le hcalls, hid⟩
  · rcases hpub n session hn with hold | ⟨hlt, hnot⟩
    · obtain ⟨hlt, hnot⟩ := h.published n session hold
      exact ⟨hlt.trans_le hcalls, fun hmem => hnot (List.map_subset _ hsubset hmem)⟩
    · exact ⟨hlt.trans_le hcalls, hnot⟩
  · obtain ⟨hlt, hid⟩ := (hstore p hp).elim (h.store p) id
    exact ⟨hlt.trans_le hcalls, hid⟩

theorem SubmitMove.held {o : SubmitOp} (hm : SubmitMove s answer o s' next) :
    (heldJobs s' next).Subperm (heldJobs s [.submit o]) := by
  cases hm with
  | @dequeue job queue hqueue =>
    change List.Subperm (queue ++ [job]) (s.submitQueue ++ [])
    rw [hqueue, List.append_nil]
    exact (List.perm_append_singleton job queue).subperm
  | @pass o job detour op credit ho hpush hdetour hop hpush' =>
    have hold : heldJobs s [.submit o] = s.submitQueue ++ [job] :=
      congrArg (s.submitQueue ++ ·) (List.filterMap_cons_some ho)
    have hnew : (detour ++ [op]).filterMap ClientOp.job? = [job] := by
      rw [List.filterMap_append, List.filterMap_cons_some hop]
      cases hdetour <;> rfl
    rw [hold, heldJobs, hnew]
  | published | fail =>
    change List.Subperm (s.submitQueue ++ []) (s.submitQueue ++ [_])
    exact ((List.nil_sublist _).append_left _).subperm
  | _ => exact List.Subperm.refl _

theorem ClientOp.filterMap_job_locked (h : next.Forall ClientOp.isLocked) :
    next.filterMap ClientOp.job? = [] := by
  refine List.filterMap_eq_nil_iff.mpr fun op hop => ?_
  have hlocked := List.forall_iff_forall_mem.mp h op hop
  cases op with
  | recovery o | resolve call reply => rfl
  | _ => cases hlocked

/-- The submit thread keeps its request while it is in another component. -/
theorem ClientOp.job_exec (hother : ∀ o, op ≠ .submit o)
    (hop : op.OnThread .submit) (h : op.exec .submit answer s = some (s', next)) :
    next.filterMap ClientOp.job? = [op].filterMap ClientOp.job? := by
  cases op with
  | lock =>
    simp only [ClientOp.exec] at h
    split at h <;> cases h
    rfl
  | unlock | resolve call reply =>
    cases h
    rfl
  | recovery o => exact filterMap_job_locked (RecoveryMove.of_exec h).locked
  | submit o => exact absurd rfl (hother o)
  | wait o =>
    rcases WaitOp.exec_next h with ⟨o', rfl, hw⟩ | ⟨status, rfl⟩
    · simp only [List.filterMap, ClientOp.job?, hw]
    · change o.waiter.OnThread .submit at hop
      cases hw : o.waiter with
      | submit job info =>
        rcases Waiter.resume_submit job info status with hr | hr <;>
          simp [hr, ClientOp.job?, SubmitOp.job?, Waiter.job?, hw]
      | retry call st =>
        rw [hw] at hop
        cases hop
  | response o | watchdog o | shutdown o => cases hop
  | caller o => cases o <;> cases hop

/-- Requests enter the queue by `EnqueueSubmitLocked` only. -/
theorem ClientOp.queue_exec (hother : ∀ o, op ≠ .submit o)
    (henqueue : ∀ ms, op ≠ .caller (.enqueue ms)) (h : op.exec t answer s = some (s', next)) :
    s'.submitQueue = s.submitQueue ∨ op = .shutdown .failQueued ∧ s'.submitQueue = [] := by
  cases op with
  | submit o => exact absurd rfl (hother o)
  | caller o =>
    cases CallMove.of_exec h with
    | enqueue => exact absurd rfl (henqueue _)
    | _ => exact .inl rfl
  | shutdown o =>
    cases ShutdownMove.of_exec h with
    | failQueued hfree => exact .inr ⟨rfl, rfl⟩
    | _ => exact .inl rfl
  | _ => exact .inl ((framed h).submitQueue nofun nofun nofun)

theorem ShutdownMove.queue_of_failQueued (hm : ShutdownMove s .failQueued s' next) :
    s'.submitQueue = [] := by
  cases hm with
  | failQueued hfree => rfl

theorem heldJobs_exec (hop : op.OnThread t)
    (henqueue : ∀ ms, op ≠ .caller (.enqueue ms)) (hops : r.ops t = op :: rest)
    (hexec : op.exec t answer r.shared = some (s', next)) :
    (heldJobs s' (Function.update r.ops t (next ++ rest) .submit)).Subperm
      (heldJobs r.shared (r.ops .submit)) := by
  by_cases ht : t = .submit
  · subst ht
    have hnext : (heldJobs s' next).Subperm (heldJobs r.shared [op]) := by
      by_cases hsubmit : ∃ o, op = .submit o
      · obtain ⟨o, rfl⟩ := hsubmit
        exact (SubmitMove.of_exec hexec).held
      · have hother : ∀ o, op ≠ .submit o := fun o ho => hsubmit ⟨o, ho⟩
        rw [heldJobs, heldJobs, ClientOp.job_exec hother hop hexec]
        rcases ClientOp.queue_exec hother henqueue hexec with hq | ⟨rfl, -⟩
        · rw [hq]
        · cases hop
    rw [Function.update_self, hops, ← List.singleton_append, heldJobs_append, heldJobs_append]
    exact hnext.append (List.Subperm.refl _)
  · rw [Function.update_of_ne (Ne.symm ht)]
    have hother : ∀ o, op ≠ .submit o := by
      rintro o rfl
      exact ht hop
    rcases ClientOp.queue_exec hother henqueue hexec with hq | ⟨-, hq⟩
    · rw [heldJobs, hq, heldJobs]
    · rw [heldJobs, hq, heldJobs]
      exact (List.sublist_append_right _ _).subperm

/-- A request is published when its push succeeds. -/
theorem ClientOp.published {n session : ℕ}
    (h : op.exec t answer s = some (s', next)) (hn : s'.Published n session) :
    s.Published n session ∨ ∃ job info, op = .submit (.pushRequest job info) ∧
      job.call = n ∧ s'.submitQueue = s.submitQueue ∧ next = [] := by
  unfold Published at hn
  cases ClientOp.logged h with
  | nothing hlog =>
    rw [hlog] at hn
    exact .inl hn
  | session he hlog =>
    rw [hlog] at hn
    refine .inl ((List.mem_cons.mp hn).resolve_left ?_)
    rintro rfl
    cases he
  | resolved hop hlog | pushed hlog =>
    rw [hlog] at hn
    exact .inl ((List.mem_cons.mp hn).resolve_left (by simp))
  | @published job info hqueue hlog =>
    rw [hlog] at hn
    rcases List.mem_cons.mp hn with heq | hn
    · cases heq
      exact .inr ⟨job, info, rfl, rfl, hqueue, rfl⟩
    · exact .inl ((List.mem_cons.mp hn).resolve_left (by simp))

/-- Only calls of `InvokeAsync` take request ids. -/
theorem ClientOp.calls_exec (h : op.exec t answer s = some (s', next)) :
    s'.calls = s.calls ∨ s'.calls = s.calls + 1 ∧
      (op = .caller .reject ∨ ∃ ms, op = .caller (.enqueue ms)) := by
  cases op with
  | caller o =>
    cases CallMove.of_exec h with
    | enqueue => exact .inr ⟨rfl, .inr ⟨_, rfl⟩⟩
    | reject => exact .inr ⟨rfl, .inl rfl⟩
    | _ => exact .inl rfl
  | _ => exact .inl ((framed h).calls nofun)

theorem ClientOp.calls_le (h : op.exec t answer s = some (s', next)) :
    s.calls ≤ s'.calls := by
  rcases calls_exec h with hc | ⟨hc, -⟩ <;> omega

/-- The request of the next call joins those that are held. -/
theorem JobInv.enqueue {ops : List ClientOp} (h : JobInv s ops) (execTimeoutMs : UInt32) :
    JobInv ((s.enqueueSubmit execTimeoutMs).callReturned t) ops := by
  have hperm : (heldJobs ((s.enqueueSubmit execTimeoutMs).callReturned t) ops).Perm
      (s.nextJob execTimeoutMs :: heldJobs s ops) := by
    change List.Perm (s.submitQueue ++ [s.nextJob execTimeoutMs] ++ ops.filterMap ClientOp.job?) _
    rw [List.append_assoc]
    exact List.perm_middle
  have hfresh : ∀ n < s.calls, n ≠ (s.nextJob execTimeoutMs).call := fun n hn => hn.ne
  have hlt : ∀ job ∈ heldJobs s ops, job.call < s.calls := fun job hjob => (h.ids job hjob).1
  refine ⟨(hperm.map _).nodup_iff.mpr ?_, fun job hjob => ?_, fun n session hn => ?_,
    fun p hp => ?_⟩
  · refine List.nodup_cons.mpr ⟨fun hmem => ?_, h.nodup⟩
    obtain ⟨job, hjob, hcall⟩ := List.mem_map.mp hmem
    exact hfresh _ (hlt job hjob) hcall
  · rcases List.mem_cons.mp (hperm.subset hjob) with rfl | hold
    · exact ⟨Nat.lt_succ_self _, rfl⟩
    · exact ⟨(hlt job hold).trans (Nat.lt_succ_self _), (h.ids job hold).2⟩
  · obtain ⟨hn, hnot⟩ := h.published n session hn
    refine ⟨hn.trans (Nat.lt_succ_self _), fun hmem => ?_⟩
    rcases List.mem_cons.mp ((hperm.map _).subset hmem) with heq | hold
    · exact hfresh n hn heq
    · exact hnot hold
  · obtain ⟨hn, hid⟩ := h.store p hp
    exact ⟨hn.trans (Nat.lt_succ_self _), hid⟩

/-- The request at the head of the submit thread's operations is not held elsewhere. -/
theorem JobInv.not_mem_of_head (h : JobInv s (op :: rest))
    (hop : op.job? = some job) : job.call ∉ (heldJobs s rest).map (·.call) := by
  have hnodup := h.nodup
  rw [heldJobs, List.filterMap_cons_some hop, List.map_append, List.map_cons,
    List.nodup_middle] at hnodup
  rw [heldJobs, List.map_append]
  exact (List.nodup_cons.mp hnodup).1

theorem JobInv.mem_of_head (hops : r.ops .submit = op :: rest)
    (hop : op.job? = some job) : job ∈ heldJobs r.shared (r.ops .submit) := by
  rw [hops, heldJobs, List.filterMap_cons_some hop]
  exact List.mem_append_right _ List.mem_cons_self

theorem JobInv.exec (h : JobInv r.shared (r.ops .submit)) (hop : op.OnThread t)
    (hops : r.ops t = op :: rest) (hexec : op.exec t answer r.shared = some (s', next)) :
    JobInv s' (Function.update r.ops t (next ++ rest) .submit) := by
  by_cases henqueue : ∃ ms, op = .caller (.enqueue ms)
  · obtain ⟨ms, rfl⟩ := henqueue
    have ht : ClientThread.submit ≠ t := by
      rintro rfl
      cases hop
    rw [Function.update_of_ne ht]
    cases hexec
    exact h.enqueue ms
  · have hheld := heldJobs_exec hop (fun ms hms => henqueue ⟨ms, hms⟩) hops hexec
    refine h.shrink hheld (ClientOp.calls_le hexec) (fun n session hn => ?_) fun p hp => ?_
    · refine (ClientOp.published hexec hn).imp_right ?_
      rintro ⟨job, info, rfl, rfl, hqueue, rfl⟩
      obtain rfl : t = .submit := hop
      -- the request that was pushed is held no longer
      refine ⟨(h.ids job (mem_of_head hops rfl)).1, ?_⟩
      rw [Function.update_self, heldJobs, hqueue]
      rw [hops] at h
      exact h.not_mem_of_head rfl
    · rcases ClientOp.store hexec with hsub | ⟨job, info, rfl, rfl⟩
      · exact .inl (hsub hp)
      · refine (List.mem_append.mp hp).imp List.mem_of_mem_filter fun hnew => ?_
        obtain rfl := List.mem_singleton.mp hnew
        obtain rfl : t = .submit := hop
        exact h.ids job (mem_of_head hops rfl)

/-- Requests come to be held by `EnqueueSubmitLocked` only. -/
theorem mem_heldJobs_exec (hop : op.OnThread t)
    (hops : r.ops t = op :: rest) (hexec : op.exec t answer r.shared = some (s', next))
    (hjob : job ∈ heldJobs s' (Function.update r.ops t (next ++ rest) .submit)) :
    job ∈ heldJobs r.shared (r.ops .submit) ∨
      (∃ ms, op = .caller (.enqueue ms)) ∧ job.call = r.shared.calls := by
  by_cases henqueue : ∃ ms, op = .caller (.enqueue ms)
  · obtain ⟨ms, rfl⟩ := henqueue
    have ht : ClientThread.submit ≠ t := by
      rintro rfl
      cases hop
    rw [Function.update_of_ne ht] at hjob
    cases hexec
    rcases List.mem_append.mp hjob with hqueue | hmine
    · rcases List.mem_append.mp hqueue with hold | hnew
      · exact .inl (List.mem_append_left _ hold)
      · obtain rfl := List.mem_singleton.mp hnew
        exact .inr ⟨⟨ms, rfl⟩, rfl⟩
    · exact .inl (List.mem_append_right _ hmine)
  · exact .inl ((heldJobs_exec hop (fun ms hms => henqueue ⟨ms, hms⟩) hops hexec).subset hjob)

theorem JobInv.of_reach {ok : ClientRuntime → ClientAction → Prop}
    (h : (rpcClient mode).Reach ok r) : JobInv r.shared (r.ops .submit) := by
  refine Machine.Reach.invariant_of_reach (I := fun r => JobInv r.shared (r.ops .submit)) ?_ ?_ h
  · refine ⟨?_, fun job hjob => ?_, fun n session hn => ?_, fun p hp => ?_⟩
    · cases mode <;> exact List.nodup_nil
    · cases mode <;> cases hjob
    · cases mode <;> cases hn
    · cases mode <;> cases hp
  · intro r a r' hreach hinv _ hs
    cases ClientMove.of_step hs with
    | @exec t answer op rest next hops hexec hops' =>
      have hop := ((List.forall_cons _ _ _).mp (hops ▸ onThread_of_reach hreach t)).1
      rw [hops']
      exact hinv.exec hop hops hexec
    | call hidle hshared hops' | retry hnew hidle hshared hops'
    | shutdown hcontrol hidle hshared hops' =>
      rw [hops', Function.update_of_ne (by simp), hshared]
      exact hinv.shrink (List.Subperm.refl _) le_rfl (fun _ _ => .inl) fun _ => .inl
    | tick hshared hops' =>
      rw [hops', hshared]
      exact hinv.shrink (List.Subperm.refl _) le_rfl (fun _ _ => .inl) fun _ => .inl

end MemRpc
