import MemRpc.Rpc.ClientStore

/-!
# Pending requests and the live session

A recovery and an engine death close the session and take every request out of the store
before they give up `lifecycleMutex_`. The other two ways to close a session do not: a
transport failure closes it and leaves the store alone, and so does a decision to close an
idle session, which was made when the store was empty some time ago. A request published
on the old session then stays pending on no session, or next to those of a new one.

`ClosesEmpty` says that these two find the store empty, and `pendingOnLiveSession_of_reach`
that nothing else is needed.
-/

namespace MemRpc

open Concurrency RpcClient

variable {mode : ClientInitMode} {t : ClientThread} {answer : ClientAnswer}
  {s s' : RpcClient} {r r' : ClientRuntime} {a : ClientAction} {next rest : List ClientOp}

/-- Before `Shutdown`, while both mutexes are free, every pending request was published on
the live session. -/
def PendingOnLiveSession (s : RpcClient) : Prop :=
  s.control = .opened → s.lifecycleMutex = none → s.sessionMutex = false →
    ∀ p ∈ s.requestStore, s.session ≠ 0 ∧ s.Published p.call s.session

instance (s : RpcClient) : Decidable (PendingOnLiveSession s) :=
  inferInstanceAs (Decidable (_ → _ → _ → ∀ p ∈ s.requestStore,
    s.session ≠ 0 ∧ ClientEvent.published p.call s.session ∈ s.log))

/-- A session that is closed for a transport failure or because it is idle has no pending
requests. -/
def ClosesEmpty (s : RpcClient) (_ : ClientAnswer) : ClientOp → Prop
  | .recovery (.closeLive _) => s.control = .opened → s.session ≠ 0 → s.requestStore = []
  | .recovery (.closeIfMatches .idle observed _) =>
    s.session = observed → observed ≠ 0 → s.requestStore = []
  | _ => True

instance (s : RpcClient) (answer : ClientAnswer) (op : ClientOp) :
    Decidable (ClosesEmpty s answer op) := by
  unfold ClosesEmpty
  split <;> infer_instance

/-- The pending requests are those of the live session, or the holder of the lifecycle
mutex has closed their session and takes them out next. -/
def OnLive (s : RpcClient) (ops : ClientThread → List ClientOp) : Prop :=
  (∀ p ∈ s.requestStore, p.info.sessionId = s.session) ∨
    s.session = 0 ∧ ∃ t, s.lifecycleMutex = some t ∧ Due (ops t)

variable {ops : ClientThread → List ClientOp}

theorem OnLive.of_empty (h : s.requestStore = []) :
    OnLive s ops :=
  .inl fun p hp => by
    rw [h] at hp
    cases hp

theorem Due.recovery {op : ClientOp} (h : Due (op :: rest)) :
    (∃ status, op = .recovery (.resolveAll status)) ∨
      ∃ pending, op = .recovery (.handlePending pending) ∧ pending ≠ .keepCurrentState := by
  match op, h with
  | .recovery (.resolveAll status), _ => exact .inl ⟨status, rfl⟩
  | .recovery (.handlePending pending), hkeep => exact .inr ⟨pending, rfl, hkeep⟩

/-- The functions under the mutex: a session is closed right before its requests are taken
out, or has none. -/
theorem OnLive.recovery {o : RecoveryOp} (h : OnLive s ops)
    (hm : RecoveryMove s answer o s' next) (hops : ops t = .recovery o :: rest)
    (hheld : s.lifecycleMutex = some t) (hord : Ordered s.session (.recovery o :: rest))
    (hsessions : ∀ p ∈ s.requestStore, p.info.sessionId ≠ 0) (hcontrol : s.control = .opened)
    (hok : ClosesEmpty s answer (.recovery o)) :
    OnLive s' (Function.update ops t (next ++ rest)) := by
  rcases h with hall | ⟨hnone, u, hu, hdue⟩
  · cases hm with
    | @close reason observed cause hfree hobs hlive =>
      by_cases hidle : reason = .idle
      · subst hidle
        exact .of_empty (hok hobs hlive)
      · refine .inr ⟨rfl, t, hheld, ?_⟩
        rw [Function.update_self]
        exact hord.1 hidle hobs hlive
    | closeLive hfree hlive => exact .of_empty (hok hcontrol hlive)
    | opened hfree =>
      -- no session was live, so no request is pending
      have hnone : s.session = 0 := hord.1
      refine .inl fun p hp => ?_
      exact absurd ((hall p hp).trans hnone) (hsessions p hp)
    | failPending | resolveAll => exact .of_empty rfl
    | _ => exact .inl hall
  · obtain rfl : u = t := Option.some.inj (hu.symm.trans hheld)
    rw [hops] at hdue
    rcases hdue.recovery with ⟨status, ho⟩ | ⟨pending, ho, hkeep⟩
    · obtain rfl := ClientOp.recovery.inj ho
      cases hm with
      | skip hskip => cases hskip
      | resolveAll => exact .of_empty rfl
    · obtain rfl := ClientOp.recovery.inj ho
      cases hm with
      | skip hskip =>
        cases pending with
        | keepCurrentState => exact absurd rfl hkeep
        | _ => cases hskip
      | failPending => exact .of_empty rfl
      | disconnectPending =>
        refine .inr ⟨hnone, u, hheld, ?_⟩
        rw [Function.update_self]
        trivial

/-- Another operation: requests enter the store for the live session only, and the holder of
the mutex goes on. -/
theorem OnLive.other {op : ClientOp} (h : OnLive s ops)
    (hexec : op.exec t answer s = some (s', next)) (hop : ∀ o, op ≠ .recovery o)
    (hops : ops t = op :: rest)
    (hguarded : Guarded (decide (s.lifecycleMutex = some t)) (op :: rest)) :
    OnLive s' (Function.update ops t (next ++ rest)) := by
  have hsession : s'.session = s.session := (ClientOp.framed hexec).session hop
  rcases h with hall | ⟨hnone, u, hu, hdue⟩
  · refine .inl fun p hp => ?_
    rw [hsession]
    rcases ClientOp.store hexec with hsub | ⟨job, info, -, rfl⟩
    · exact hall p (hsub hp)
    · rcases List.mem_append.mp hp with hold | hnew
      · exact hall p (List.mem_of_mem_filter hold)
      · obtain rfl := List.mem_singleton.mp hnew
        rfl
  · have hut : u ≠ t := by
      rintro rfl
      rw [hops] at hdue
      rcases hdue.recovery with ⟨status, ho⟩ | ⟨pending, ho, -⟩ <;> exact hop _ ho
    refine .inr ⟨hsession.trans hnone, u, (ClientOp.mutex_exec hguarded hexec hut).mpr hu, ?_⟩
    rw [Function.update_of_ne hut]
    exact hdue

/-- A call that starts does not concern the holder of the mutex. -/
theorem OnLive.start {program : List ClientOp}
    (h : OnLive s ops) (hidle : ops t = []) : OnLive s (Function.update ops t program) := by
  refine h.imp_right ?_
  rintro ⟨hnone, u, hu, hdue⟩
  refine ⟨hnone, u, hu, ?_⟩
  have hut : u ≠ t := by
    rintro rfl
    rw [hidle] at hdue
    exact hdue
  rw [Function.update_of_ne hut]
  exact hdue

theorem onLive_step (h : r.shared.control = .opened → OnLive r.shared r.ops) (hlock : LockInv r)
    (hok : NextOp ClosesEmpty r a) (hs : (rpcClient mode).step r a = some r')
    (hcontrol : r'.shared.control = .opened) : OnLive r'.shared r'.ops := by
  cases ClientMove.of_step hs with
  | @exec t answer op rest next hops hexec hops' =>
    have hopen : r.shared.control = .opened := by
      rcases ClientOp.control hexec with hc | ⟨hc, -⟩
      · exact hc.symm.trans hcontrol
      · rw [hc] at hcontrol
        cases hcontrol
    rw [hops']
    by_cases hrec : ∃ o, op = .recovery o
    · obtain ⟨o, rfl⟩ := hrec
      have hheld := hlock.holder hops
      exact (h hopen).recovery (RecoveryMove.of_exec hexec) hops hheld
        (hops ▸ hlock.ordered t hheld) hlock.sessions hopen (hok.of_ops hops)
    · exact (h hopen).other hexec (fun o ho => hrec ⟨o, ho⟩) hops (hops ▸ hlock.guarded t)
  | call hidle hshared hops' | retry hnew hidle hshared hops' =>
    rw [hshared] at hcontrol ⊢
    rw [hops']
    exact (h hcontrol).start hidle
  | shutdown hc hidle hshared hops' =>
    rw [hshared] at hcontrol
    cases hcontrol
  | tick hshared hops' =>
    rw [hshared] at hcontrol ⊢
    rw [hops']
    exact h hcontrol

theorem onLive_of_reach (h : (rpcClient mode).Reach (NextOp ClosesEmpty) r)
    (hcontrol : r.shared.control = .opened) : OnLive r.shared r.ops := by
  revert hcontrol
  refine Machine.Reach.invariant_of_reach
    (I := fun r => r.shared.control = .opened → OnLive r.shared r.ops) ?_ ?_ h
  · intro _
    cases mode <;> exact .of_empty rfl
  · exact fun r a r' hreach hinv hok hs => onLive_step hinv (.of_reach hreach) hok hs

/-- **Pending requests belong to the live session**, in every run in which a session that is
closed for a transport failure or because it is idle has no pending requests. -/
theorem pendingOnLiveSession_of_reach (h : (rpcClient mode).Reach (NextOp ClosesEmpty) r) :
    PendingOnLiveSession r.shared := by
  intro hcontrol hfree hsession p hp
  have hlive : p.info.sessionId = r.shared.session := by
    rcases onLive_of_reach h hcontrol with hall | ⟨-, t, ht, -⟩
    · exact hall p hp
    · rw [hfree] at ht
      cases ht
  have hpub := (StoreInv.of_reach h).published_of_free (.of_reach h) hsession hp
  rw [hlive] at hpub
  exact ⟨hlive ▸ (LockInv.of_reach h).sessions p hp, hpub⟩

theorem pendingOnLiveSession_published :
    ∃ r, (rpcClient .eagerSession).Reach (NextOp ClosesEmpty) r ∧
      r.shared.requestStore ≠ [] ∧ r.shared.lifecycleMutex = none ∧
        r.shared.sessionMutex = false ∧ PendingOnLiveSession r.shared := by
  obtain ⟨r, hreach, hstore, hfree, hsession⟩ :=
    (rpcClient .eagerSession).exists_reachOk (NextOp ClosesEmpty) publishSchedule
    (P := fun r => r.shared.requestStore ≠ [] ∧ r.shared.lifecycleMutex = none ∧
      r.shared.sessionMutex = false) (by decide +kernel)
  exact ⟨r, hreach, hstore, hfree, hsession, pendingOnLiveSession_of_reach hreach⟩

/-- The push of a second request finds the session broken, and the submit thread closes it
while the first request is pending. -/
def transportFailureSchedule : List ClientAction :=
  publishSchedule ++ invokeSchedule 0 ++ submitSchedule ++
    [.exec .submit { pushStatus := .peerDisconnected }] ++ List.replicate 5 (.exec .submit {})

theorem not_pendingOnLiveSession_of_transportFailure :
    ∃ r, (rpcClient .eagerSession).Reach Machine.Always r ∧ r.shared.session = 0 ∧
      r.shared.requestStore ≠ [] ∧ ¬ PendingOnLiveSession r.shared := by
  exact (rpcClient .eagerSession).exists_reach transportFailureSchedule (by decide +kernel)

end MemRpc
