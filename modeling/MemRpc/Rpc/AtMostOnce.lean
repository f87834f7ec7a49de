import MemRpc.Rpc.RequestPath

/-!
# At-most-once execution

A request whose push finds the session broken in the re-check is submitted again on
the next session. The entry is in the ring by then, so the second submission is sound
only if no dispatcher has taken it and none can: a dispatcher that already passed
the state check of `PopRequest` still completes its pop.

`RepublishSafe` is this condition on the re-check, together with the condition of
the ring itself that a slot write hits no queued entry. Under it every request is
handed to a handler at most once over all sessions.

The proof follows places of the rings. A place is `Dead` when no dispatcher can take
its entry any more; two live places never carry the same call (`Ledger.unique`), and
all places of a call that is still being submitted are dead (`Ledger.pending`).
-/

namespace MemRpc

open Concurrency Cyclic

/-! ## The property and its condition -/

/-- The dispatcher is past its state check on a ring and going to take the head. -/
def RequestSession.taking (t : RequestSession) (q : Priority) : Bool :=
  (t.dispatcher.popOn q).any fun pc => pc.takes (t.ring q).cursor

/-- No dispatcher has taken the newest entry of a ring or is about to: the ring is
not empty, and a pop that is past its state check has another entry at the head. -/
def RequestSession.NewestUntaken (t : RequestSession) (q : Priority) : Prop :=
  ringCount (t.ring q).cursor ≠ 0 ∧
    (t.taking q = true → ringCount (t.ring q).cursor ≠ 1)

instance (t : RequestSession) (q : Priority) : Decidable (t.NewestUntaken q) :=
  inferInstanceAs (Decidable (_ ∧ (_ → _)))

/-- The condition on a step of the submit thread: a re-check that finds the session
broken finds its entry untaken, and a slot write hits a free slot. -/
def SubmitPc.RepublishSafe (s : RequestPath) : SubmitPc → Prop
  | .recheck r k =>
    (s.session k).state = .broken → (s.session k).NewestUntaken r.priority
  | .pushing k pc =>
    SlotGuard ((s.session k).ring pc.entry.priority) ((s.session k).pushed pc.entry.priority) pc
  | _ => True

instance (s : RequestPath) : (pc : SubmitPc) → Decidable (pc.RepublishSafe s)
  | .recheck _ _ => inferInstanceAs (Decidable (_ → _))
  | .pushing _ _ => inferInstanceAs (Decidable (SlotGuard _ _ _))
  | .idle | .ready _ | .admitting _ | .checkState _ _ | .disconnected _ | .syncing _ _
  | .unsynced _ | .waiting _ _ => .isTrue trivial

/-- The steps after which a request may be submitted again. -/
def RepublishSafe (s : RequestPath) : RequestAction → Prop
  | .submit => s.submit.RepublishSafe s
  | _ => True

instance (s : RequestPath) : (a : RequestAction) → Decidable (RepublishSafe s a)
  | .submit => inferInstanceAs (Decidable (s.submit.RepublishSafe s))
  | .invoke _ _ | .rejectInvoke | .giveUp | .waitFailed | .openSession | .closeSession
  | .drain _ _ | .dispatch _ _ | .runTask _ _ _ | .markBroken _ => .isTrue trivial

/-- Every call reaches a handler at most once over all sessions, and no entry is
published for a call that some dispatcher has already popped. -/
structure RequestPath.AtMostOnce (s : RequestPath) : Prop where
  handled_nodup : ∀ k, ((s.session k).handled.map PendingSubmit.call).Nodup
  handled_session : ∀ j k, ∀ r ∈ (s.session j).handled, ∀ r' ∈ (s.session k).handled,
    r.call = r'.call → j = k
  publish_unpopped : ∀ k r tail, s.submit = .pushing k (.storeTail r tail) →
    ∀ j q, ∀ r' ∈ (s.session j).popped q, r'.call ≠ r.call

/-- The popped request a dispatcher still has to submit. -/
def DispatcherPc.hand : DispatcherPc → List PendingSubmit
  | .counting _ _ r | .submitting _ _ r => [r]
  | _ => []

/-! ## Places of the rings -/

/-- The position of an accepted entry: session, ring and rank in the ring. -/
structure Place where
  session : ℕ
  queue : Priority
  index : ℕ

variable {r : PendingSubmit} {q : Priority} {i : ℕ}

namespace RequestSession

/-- The entry at rank `i` can no longer be taken. -/
def Dead (t : RequestSession) (q : Priority) (i : ℕ) : Prop :=
  t.state = .broken ∧ (t.popped q).length ≤ i ∧ (t.taking q = true → (t.popped q).length < i)

variable {t t' : RequestSession}

theorem Dead.congr (h : t.Dead q i) (hstate : t'.state = .broken)
    (hpopped : t'.popped = t.popped) (htaking : t'.taking q = true → t.taking q = true) :
    t'.Dead q i :=
  ⟨hstate, hpopped ▸ h.2.1, fun ht => hpopped ▸ h.2.2 (htaking ht)⟩

theorem taking_eq_false_of_popOn (h : t.dispatcher.popOn q = none) :
    t.taking q = false := by
  simp [taking, h]

theorem Dead.breakStep (h : t.Dead q i) : t.breakStep.Dead q i := by
  refine h.congr ?_ t.breakStep_popped ?_
  · rw [RequestSession.breakStep]
    split
    · rfl
    · exact h.1
    · exact h.1
  · simp [taking]

/-- A pop under way takes only the entry at the head. -/
theorem Dead.popAccess {q q' : Priority} {nf ok : Bool} {pc : PopPc PendingSubmit}
    (h : t.Dead q' i) (hpc : t.dispatcher = .popping q nf pc) :
    (t.dispatchStep ok (.popping q nf pc)).Dead q' i := by
  simp only [dispatchStep]
  rcases hs : popStep (t.ring q) pc with ⟨r, pc' | _ | e⟩
  · obtain ⟨rfl, hmove⟩ := PopMove.of_popStep hs
    refine h.congr h.1 rfl ?_
    by_cases hqq : q = q'
    · subst hqq
      intro _
      rw [taking, hpc, DispatcherPc.popOn, if_pos rfl]
      exact hmove.takes
    · simp [taking, hpc, DispatcherPc.popOn, hqq]
  · refine h.congr h.1 rfl ?_
    intro ht
    rw [taking_eq_false_of_popOn (Rings.popOn_leaveDrain _ nf q')] at ht
    simp at ht
  · rcases popStep_returned hs with ⟨hres, -⟩ | ⟨e', head, -, rfl, rfl⟩
    · simp at hres
    · refine ⟨h.1, ?_, by simp [taking, DispatcherPc.popOn]⟩
      by_cases hqq : q' = q
      · subst hqq
        have hlt := h.2.2 (by simp [taking, hpc, DispatcherPc.popOn, PopPc.takes])
        simpa using hlt
      · simpa [hqq] using h.2.1

/-- A push moves only the tail, which no pop under way looks at again. -/
theorem Dead.setRing {q q' : Priority} {r : Ring PendingSubmit} (h : t.Dead q' i)
    (hhead : r.cursor.head = (t.ring q).cursor.head) : (t.setRing q r).Dead q' i := by
  refine h.congr h.1 rfl ?_
  by_cases hqq : q' = q
  · subst hqq
    simp [taking, RequestSession.setRing, PopPc.takes_congr hhead]
  · simp [taking, RequestSession.setRing, hqq]

/-- A dispatcher step takes no entry from a dead place. -/
theorem Dead.dispatchStep (h : t.Dead q i) (ok : Bool) :
    (t.dispatchStep ok t.dispatcher).Dead q i := by
  cases hpc : t.dispatcher with
  | outside => exact h
  | draining q' nf =>
    cases ok with
    | true => exact h.congr h.1 rfl (by simp [RequestSession.dispatchStep, taking, DispatcherPc.popOn])
    | false =>
      refine h.congr h.1 rfl ?_
      intro ht
      have hout := taking_eq_false_of_popOn (Rings.popOn_leaveDrain t nf q)
      simp [RequestSession.dispatchStep, hout] at ht
  | checking q' nf =>
    have hout := taking_eq_false_of_popOn (Rings.popOn_leaveDrain t nf q)
    simp only [RequestSession.dispatchStep, h.1]
    exact h.congr h.1 rfl (by simp [hout])
  | popping q' nf pc => exact h.popAccess hpc
  | counting | submitting | signalling =>
    exact h.congr h.1 rfl (by simp [RequestSession.dispatchStep, taking, DispatcherPc.popOn])

/-! ### From pops to handlers -/

/-- Everything popped from either ring. -/
def poppedAll (t : RequestSession) : List PendingSubmit := t.popped .high ++ t.popped .normal

/-- Every pop accounts for at most one task or handler call. -/
def Accounted (t : RequestSession) : Prop :=
  (t.dispatcher.hand ++ (t.tasks ++ t.handled)).Subperm t.poppedAll

theorem hand_leaveDrain (t : RequestSession) (nf : Bool) :
    (t.leaveDrain nf).dispatcher.hand = [] := by
  cases nf <;> rfl

/-- A pop adds its entry to what was popped. -/
theorem poppedAll_update (t : RequestSession) (q : Priority) (e : PendingSubmit) :
    (Function.update t.popped q (t.popped q ++ [e]) .high ++
      Function.update t.popped q (t.popped q ++ [e]) .normal).Perm (e :: t.poppedAll) := by
  cases q with
  | high =>
    simp only [Function.update_self, ne_eq, reduceCtorEq, not_false_eq_true,
      Function.update_of_ne, List.append_assoc, List.singleton_append]
    exact List.perm_middle
  | normal =>
    simp only [Function.update_self, ne_eq, reduceCtorEq, not_false_eq_true,
      Function.update_of_ne, ← List.append_assoc]
    exact List.perm_append_singleton e _

theorem Accounted.dispatchStep (h : t.Accounted) (ok : Bool) :
    (t.dispatchStep ok t.dispatcher).Accounted := by
  rw [Accounted] at h
  cases hpc : t.dispatcher with
  | outside => exact h
  | draining q nf =>
    rw [hpc] at h
    cases ok with
    | true => exact h
    | false =>
      rw [Accounted]
      simp only [RequestSession.dispatchStep, Bool.false_eq_true, if_false, hand_leaveDrain]
      exact h
  | checking q nf =>
    rw [hpc] at h
    cases hstate : t.state with
    | alive =>
      simp only [RequestSession.dispatchStep, hstate]
      exact h
    | broken =>
      rw [Accounted]
      simp only [RequestSession.dispatchStep, hstate, hand_leaveDrain]
      exact h
  | popping q nf pc =>
    rw [hpc] at h
    simp only [RequestSession.dispatchStep]
    rcases popStep (t.ring q) pc with ⟨r, pc' | _ | e⟩
    · exact h
    · rw [Accounted, hand_leaveDrain]
      exact h
    · exact ((List.subperm_cons e).mpr h).trans (poppedAll_update t q e).symm.subperm
  | counting q nf r =>
    rw [hpc] at h
    exact h
  | submitting q nf r =>
    rw [hpc] at h
    cases ok with
    | true =>
      have hperm : ((t.tasks ++ [r]) ++ t.handled).Perm ([r] ++ (t.tasks ++ t.handled)) := by
        rw [List.append_assoc]
        exact List.perm_middle
      exact hperm.subperm.trans h
    | false => exact (List.sublist_append_right [r] _).subperm.trans h
  | signalling =>
    rw [hpc] at h
    exact h

theorem Accounted.runTask {valid : Bool} (h : t.Accounted)
    (hrun : t.runTask i valid = some t') : t'.Accounted := by
  simp only [RequestSession.runTask, Option.map_eq_some_iff] at hrun
  obtain ⟨r, hr, rfl⟩ := hrun
  obtain ⟨hi, rfl⟩ := List.getElem?_eq_some_iff.mp hr
  have htask := List.getElem_cons_eraseIdx_perm hi
  refine List.Subperm.trans ?_ h
  refine (List.subperm_append_left _).mpr ?_
  cases valid with
  | true =>
    have hperm : (t.tasks.eraseIdx i ++ (t.handled ++ [t.tasks[i]])).Perm
        (t.tasks ++ t.handled) := by
      rw [← List.append_assoc]
      exact (List.perm_append_singleton _ _).trans (htask.append_right t.handled)
    exact hperm.subperm
  | false => exact ((List.eraseIdx_sublist t.tasks i).append_right t.handled).subperm

theorem Accounted.congr (h : t.Accounted) (hpc : t'.dispatcher.hand = t.dispatcher.hand)
    (htasks : t'.tasks = t.tasks) (hhandled : t'.handled = t.handled)
    (hpopped : t'.popped = t.popped) : t'.Accounted := by
  rw [Accounted, hpc, htasks, hhandled, poppedAll, hpopped]
  exact h

theorem Accounted.mem_popped (h : t.Accounted) (hr : r ∈ t.handled) :
    ∃ q, r ∈ t.popped q := by
  have hall : r ∈ t.poppedAll := by
    refine h.subset ?_
    simp [hr]
  rcases List.mem_append.mp hall with hq | hq
  · exact ⟨.high, hq⟩
  · exact ⟨.normal, hq⟩

/-- Distinct pops give distinct handler calls. -/
theorem Accounted.nodup_handled (h : t.Accounted)
    (hnodup : (t.poppedAll.map PendingSubmit.call).Nodup) :
    (t.handled.map PendingSubmit.call).Nodup := by
  obtain ⟨l, hperm, hsub⟩ := h
  have hl : (l.map PendingSubmit.call).Nodup := (hsub.map _).nodup hnodup
  have hall := ((hperm.map PendingSubmit.call).nodup_iff).mp hl
  simp only [List.map_append, List.nodup_append] at hall
  exact hall.2.1.2.1

end RequestSession

/-! ## The ledger of calls -/

/-- The request a submit thread is working on. -/
def SubmitPc.request : SubmitPc → Option PendingSubmit
  | .idle => none
  | .pushing _ pc => some pc.entry
  | .ready r | .admitting r | .checkState r _ | .recheck r _ | .disconnected r | .syncing r _
  | .unsynced r | .waiting r _ => some r

/-- The request is about to be pushed, for the first time or again. -/
def SubmitPc.pending : SubmitPc → Option PendingSubmit
  | .recheck _ _ => none
  | pc => pc.request

/-- The session the submit thread works on with the lock held. -/
def SubmitPc.sessionOf : SubmitPc → Option ℕ
  | .checkState _ k | .pushing k _ | .recheck _ k => some k
  | _ => none

namespace RequestPath

/-- The request accepted at a place. -/
def requestAt (s : RequestPath) (x : Place) : Option PendingSubmit :=
  ((s.session x.session).pushed x.queue)[x.index]?

def Dead (s : RequestPath) (x : Place) : Prop := (s.session x.session).Dead x.queue x.index

/-- Where calls are: at most one live place each, none while the call waits to be
pushed, and in the re-check only the place just filled. -/
structure Ledger (s : RequestPath) : Prop where
  bound : ∀ x r, s.requestAt x = some r → r.call < s.calls
  unique : ∀ x y r r', s.requestAt x = some r → s.requestAt y = some r' → r.call = r'.call →
    ¬ s.Dead x → ¬ s.Dead y → x = y
  queue_nodup : (s.queue.map PendingSubmit.call).Nodup
  queued : ∀ r ∈ s.queue, r.call < s.calls ∧
    ∀ x r', s.requestAt x = some r' → r'.call ≠ r.call
  request : ∀ r, s.submit.request = some r → r.call < s.calls ∧
    ∀ r' ∈ s.queue, r'.call ≠ r.call
  pending : ∀ r, s.submit.pending = some r →
    ∀ x r', s.requestAt x = some r' → r'.call = r.call → s.Dead x
  published : ∀ r k, s.submit = .recheck r k →
    ∀ x r', s.requestAt x = some r' → r'.call = r.call →
      s.Dead x ∨ (x.session = k ∧ x.queue = r.priority ∧
        x.index + 1 = ((s.session k).pushed r.priority).length)
  current_lt : ∀ k, s.current = some k → k < s.opened
  session_lt : ∀ k, s.submit.sessionOf = some k → k < s.opened
  unopened : ∀ k, s.opened ≤ k → ∀ q, (s.session k).pushed q = []

section setSession
variable {s : RequestPath} {k : ℕ} {t : RequestSession}

theorem pushed_setSession (hpushed : t.pushed = (s.session k).pushed) (j : ℕ) :
    ((s.setSession k t).session j).pushed = (s.session j).pushed := by
  by_cases hj : j = k
  · simp [setSession, hj, hpushed]
  · simp [setSession, hj]

theorem requestAt_setSession (hpushed : t.pushed = (s.session k).pushed) (x : Place) :
    (s.setSession k t).requestAt x = s.requestAt x := by
  rw [requestAt, pushed_setSession hpushed, requestAt]

theorem Dead.setSession {x : Place} (hx : s.Dead x)
    (hdead : ∀ q i, (s.session k).Dead q i → t.Dead q i) : (s.setSession k t).Dead x := by
  by_cases hxk : x.session = k
  · simp only [Dead, RequestPath.setSession, hxk, Function.update_self]
    refine hdead _ _ ?_
    rw [← hxk]
    exact hx
  · simpa [Dead, RequestPath.setSession, hxk] using hx

/-- After an entry is accepted, a place is an old one or the one just filled. -/
theorem requestAt_publish {e : PendingSubmit}
    (hpushed : t.pushed = Function.update (s.session k).pushed e.priority
      ((s.session k).pushed e.priority ++ [e])) {x : Place}
    (hr : (s.setSession k t).requestAt x = some r) :
    s.requestAt x = some r ∨
      (r = e ∧ x = ⟨k, e.priority, ((s.session k).pushed e.priority).length⟩) := by
  obtain ⟨j, q, i⟩ := x
  by_cases hjq : j = k ∧ q = e.priority
  · obtain ⟨rfl, rfl⟩ := hjq
    simp only [requestAt, setSession, Function.update_self, hpushed] at hr ⊢
    rcases Nat.lt_trichotomy i ((s.session j).pushed e.priority).length with hlt | rfl | hgt
    · rw [List.getElem?_append_left hlt] at hr
      exact .inl hr
    · rw [List.getElem?_concat_length, Option.some.injEq] at hr
      exact .inr ⟨hr.symm, rfl⟩
    · rw [List.getElem?_eq_none (by simp; omega)] at hr
      simp at hr
  · left
    by_cases hj : j = k
    · have hq : q ≠ e.priority := fun h => hjq ⟨hj, h⟩
      subst hj
      simpa [requestAt, setSession, hpushed, hq] using hr
    · simpa [requestAt, setSession, hj] using hr

end setSession

variable {t : RequestSession} {k : ℕ} {a : RequestAction}

namespace Ledger
variable {s s' : RequestPath}

/-- Server steps: nothing is accepted and dead places stay dead. -/
theorem server (L : s.Ledger) (hpushed : t.pushed = (s.session k).pushed)
    (hdead : ∀ q i, (s.session k).Dead q i → t.Dead q i) : (s.setSession k t).Ledger := by
  have hat := requestAt_setSession hpushed
  have hkeep : ∀ x, s.Dead x → (s.setSession k t).Dead x := fun x hx => hx.setSession hdead
  refine ⟨?_, ?_, L.queue_nodup, ?_, L.request, ?_, ?_, L.current_lt, L.session_lt, ?_⟩
  · intro x r hr
    exact L.bound x r (hat x ▸ hr)
  · intro x y r r' hr hr' hcall hx hy
    exact L.unique x y r r' (hat x ▸ hr) (hat y ▸ hr') hcall (mt (hkeep x) hx) (mt (hkeep y) hy)
  · intro r hr
    refine ⟨(L.queued r hr).1, ?_⟩
    intro x r' hr'
    exact (L.queued r hr).2 x r' (hat x ▸ hr')
  · intro r hr x r' hr' hcall
    exact hkeep x (L.pending r hr x r' (hat x ▸ hr') hcall)
  · intro r j hpc
    rw [pushed_setSession hpushed]
    intro x r' hr' hcall
    exact (L.published r j hpc x r' (hat x ▸ hr') hcall).imp_left (hkeep x)
  · intro j hj q
    rw [pushed_setSession hpushed]
    exact L.unopened j hj q

/-- Steps of the submit thread that leave the sessions alone and keep its request
or drop it. -/
theorem quiet (L : s.Ledger) {pc : SubmitPc} {current : Option ℕ}
    (hrequest : ∀ r, pc.request = some r → s.submit.request = some r)
    (hpending : ∀ r, pc.pending = some r → s.submit.pending = some r)
    (hpc : ∀ r k, pc ≠ .recheck r k) (hcurrent : ∀ k, current = some k → k < s.opened)
    (hsession : ∀ k, pc.sessionOf = some k → k < s.opened) :
    ({ s with submit := pc, current := current } : RequestPath).Ledger where
  __ := L
  request r hr := L.request r (hrequest r hr)
  pending r hr := L.pending r (hpending r hr)
  published r k h := absurd h (hpc r k)
  current_lt := hcurrent
  session_lt := hsession

/-- `InvokeAsync` numbers its call and queues it. -/
theorem invoke (L : s.Ledger) (priority : Priority) (entry : RequestRingEntry) :
    ({ s with
      calls := s.calls + 1
      queue := s.queue ++ [enqueueSubmitLocked s.calls priority entry] } : RequestPath).Ledger where
  __ := L
  bound x r hr := Nat.lt_succ_of_lt (L.bound x r hr)
  queue_nodup := by
    rw [List.map_append, List.nodup_append]
    refine ⟨L.queue_nodup, by simp, ?_⟩
    intro c hc c' hc'
    obtain ⟨r, hr, rfl⟩ := List.mem_map.mp hc
    have hlt := (L.queued r hr).1
    simp only [List.map_cons, List.map_nil, List.mem_singleton, enqueueSubmitLocked] at hc'
    omega
  queued r hr := by
    rcases List.mem_append.mp hr with hold | hnew
    · exact ⟨Nat.lt_succ_of_lt (L.queued r hold).1, (L.queued r hold).2⟩
    · rw [List.mem_singleton] at hnew
      subst hnew
      refine ⟨Nat.lt_succ_self _, ?_⟩
      intro x r' hr'
      exact Nat.ne_of_lt (L.bound x r' hr')
  request r hr := by
    obtain ⟨hlt, hqueue⟩ := L.request r hr
    refine ⟨Nat.lt_succ_of_lt hlt, ?_⟩
    intro r' hr'
    rcases List.mem_append.mp hr' with hold | hnew
    · exact hqueue r' hold
    · rw [List.mem_singleton] at hnew
      subst hnew
      exact Nat.ne_of_gt hlt

theorem rejectInvoke (L : s.Ledger) :
    ({ s with calls := s.calls + 1 } : RequestPath).Ledger where
  __ := L
  bound x r hr := Nat.lt_succ_of_lt (L.bound x r hr)
  queued r hr := ⟨Nat.lt_succ_of_lt (L.queued r hr).1, (L.queued r hr).2⟩
  request r hr := ⟨Nat.lt_succ_of_lt (L.request r hr).1, (L.request r hr).2⟩

/-- The submit thread takes the oldest queued request. -/
theorem take (L : s.Ledger) {rest : List PendingSubmit} (hqueue : s.queue = r :: rest) :
    ({ s with queue := rest, submit := .ready r } : RequestPath).Ledger := by
  have hnodup := L.queue_nodup
  rw [hqueue, List.map_cons, List.nodup_cons] at hnodup
  have hr := L.queued r (by simp [hqueue])
  refine ⟨L.bound, L.unique, hnodup.2, ?_, ?_, ?_, by simp, L.current_lt, by simp [SubmitPc.sessionOf],
    L.unopened⟩
  · intro r' hr'
    exact L.queued r' (by simp [hqueue, hr'])
  · intro r' hr'
    obtain rfl : r = r' := by simpa [SubmitPc.request] using hr'
    refine ⟨hr.1, ?_⟩
    intro r' hmem hcall
    exact hnodup.1 (List.mem_map.mpr ⟨r', hmem, hcall⟩)
  · intro r' hr' x r'' hx hcall
    obtain rfl : r = r' := by simpa [SubmitPc.pending, SubmitPc.request] using hr'
    exact absurd hcall (hr.2 x r'' hx)

/-- A fresh session has no places, so making it alive revives nothing. -/
theorem openSession (L : s.Ledger) (hlock : s.submit.holdsLock = false) :
    ({ s.setSession s.opened { s.session s.opened with state := .alive } with
      current := some s.opened
      opened := s.opened + 1 } : RequestPath).Ledger := by
  have hat : ∀ x r, s.requestAt x = some r → x.session ≠ s.opened := by
    intro x r hr hx
    rw [requestAt, L.unopened _ hx.ge] at hr
    simp at hr
  have hkeep : ∀ x, x.session ≠ s.opened → s.Dead x →
      (s.setSession s.opened { s.session s.opened with state := .alive }).Dead x := by
    intro x hx hdead
    simpa [Dead, setSession, hx] using hdead
  have hpushed : ({ s.session s.opened with state := .alive } : RequestSession).pushed =
      (s.session s.opened).pushed := rfl
  have hold := requestAt_setSession hpushed
  refine ⟨?_, ?_, L.queue_nodup, ?_, L.request, ?_, ?_, ?_, ?_, ?_⟩
  · intro x r hr
    exact L.bound x r (hold x ▸ hr)
  · intro x y r r' hr hr' hcall hx hy
    replace hr := (hold x).symm.trans hr
    replace hr' := (hold y).symm.trans hr'
    exact L.unique x y r r' hr hr' hcall (mt (hkeep x (hat x r hr)) hx)
      (mt (hkeep y (hat y r' hr')) hy)
  · intro r hr
    refine ⟨(L.queued r hr).1, ?_⟩
    intro x r' hr'
    exact (L.queued r hr).2 x r' ((hold x).symm.trans hr')
  · intro r hr x r' hr' hcall
    replace hr' := (hold x).symm.trans hr'
    exact hkeep x (hat x r' hr') (L.pending r hr x r' hr' hcall)
  · intro r k hpc
    have hlocked : s.submit.holdsLock = true := by rw [show s.submit = _ from hpc]; rfl
    simp [hlock] at hlocked
  · rintro k ⟨⟩
    exact Nat.lt_succ_self _
  · intro k hk
    exact Nat.lt_succ_of_lt (L.session_lt k hk)
  · intro k hk q
    rw [pushed_setSession hpushed]
    exact L.unopened k (Nat.le_of_succ_le hk) q

/-- The tail store fills one place, the only live one of its call. -/
theorem publish (L : s.Ledger) {pc : PushPc PendingSubmit} (hpc : s.submit = .pushing k pc)
    (hpushed : t.pushed = Function.update (s.session k).pushed pc.entry.priority
      ((s.session k).pushed pc.entry.priority ++ [pc.entry]))
    (hdead : ∀ q i, (s.session k).Dead q i → t.Dead q i) :
    ({ s.setSession k t with submit := .recheck pc.entry k } : RequestPath).Ledger := by
  set e := pc.entry
  have hk : k < s.opened := L.session_lt k (by rw [hpc]; rfl)
  have hrequest := L.request e (by rw [hpc]; rfl)
  have hpending := L.pending e (by rw [hpc]; rfl)
  have hkeep : ∀ x, s.Dead x → (s.setSession k t).Dead x := fun x hx => hx.setSession hdead
  refine ⟨?_, ?_, L.queue_nodup, ?_, ?_, by simp [SubmitPc.pending], ?_, L.current_lt, ?_, ?_⟩
  · intro x r hr
    rcases requestAt_publish hpushed hr with hold | ⟨rfl, -⟩
    · exact L.bound x r hold
    · exact hrequest.1
  · intro x y r r' hr hr' hcall hx hy
    rcases requestAt_publish hpushed hr with hold | ⟨rfl, rfl⟩
    · rcases requestAt_publish hpushed hr' with hold' | ⟨rfl, rfl⟩
      · exact L.unique x y r r' hold hold' hcall (mt (hkeep x) hx) (mt (hkeep y) hy)
      · exact absurd (hkeep x (hpending x r hold hcall)) hx
    · rcases requestAt_publish hpushed hr' with hold' | ⟨rfl, rfl⟩
      · exact absurd (hkeep y (hpending y r' hold' hcall.symm)) hy
      · rfl
  · intro r hr
    refine ⟨(L.queued r hr).1, ?_⟩
    intro x r' hr'
    rcases requestAt_publish hpushed hr' with hold | ⟨rfl, -⟩
    · exact (L.queued r hr).2 x r' hold
    · exact (hrequest.2 r hr).symm
  · rintro r ⟨⟩
    exact hrequest
  · rintro r j ⟨⟩
    have hnew : ((s.setSession k t).session k).pushed e.priority =
        (s.session k).pushed e.priority ++ [e] := by
      simp [setSession, hpushed]
    intro x r' hr' hcall
    rcases requestAt_publish hpushed hr' with hold | ⟨rfl, rfl⟩
    · exact .inl (hkeep x (hpending x r' hold hcall))
    · right
      refine ⟨rfl, rfl, ?_⟩
      rw [hnew, List.length_append, List.length_singleton]
  · rintro j ⟨⟩
    exact hk
  · intro j hj q
    have hjk : j ≠ k := fun h => absurd (hk.trans_le hj) (by omega)
    simpa [setSession, hjk] using L.unopened j hj q

/-- A re-check that finds the session broken and its entry untaken leaves a dead
place behind. -/
theorem lost (L : s.Ledger) (hpc : s.submit = .recheck r k)
    (hrings : s.Rings SharedRing) (hstate : (s.session k).state = .broken)
    (huntaken : (s.session k).NewestUntaken r.priority) :
    ({ s with submit := .disconnected r } : RequestPath).Ledger := by
  have hcount := (hrings k r.priority).counts.cursors.toNat_ringCount
  have hle := (hrings k r.priority).counts.cursors.le
  have hzero : (ringCount ((s.session k).ring r.priority).cursor).toNat ≠ 0 :=
    fun h => huntaken.1 (UInt32.toNat_inj.mp h)
  refine ⟨L.bound, L.unique, L.queue_nodup, L.queued, ?_, ?_, by simp, L.current_lt,
    by simp [SubmitPc.sessionOf], L.unopened⟩
  · rintro r' ⟨⟩
    exact L.request r (by rw [hpc]; rfl)
  · rintro r' ⟨⟩ x r'' hx hcall
    rcases L.published r k hpc x r'' hx hcall with hdead | ⟨hxk, hxq, hxi⟩
    · exact hdead
    · obtain ⟨j, q, i⟩ := x
      simp only at hxk hxq hxi
      subst hxk hxq
      change (s.session j).Dead r.priority i
      refine ⟨hstate, by omega, ?_⟩
      intro htaking
      have hone : (ringCount ((s.session j).ring r.priority).cursor).toNat ≠ 1 :=
        fun h => huntaken.2 htaking (UInt32.toNat_inj.mp h)
      omega

/-- One access of a push. -/
theorem pushAccess (L : s.Ledger) {pc : PushPc PendingSubmit}
    (hpc : s.submit = .pushing k pc) : (s.pushAccess k pc).Ledger := by
  have hk : k < s.opened := L.session_lt k (by rw [hpc]; rfl)
  simp only [RequestPath.pushAccess]
  rcases hs : pushStep ((s.session k).ring pc.entry.priority) pc with ⟨r, pc' | status⟩
  · obtain ⟨hcursor, hentry⟩ := pushStep_running hs
    have hset : (s.setSession k ((s.session k).setRing pc.entry.priority r)).Ledger :=
      L.server rfl fun q i h => h.setRing (congrArg RingCursor.head hcursor)
    refine hset.quiet ?_ ?_ (by simp) hset.current_lt ?_
    · rintro _ ⟨⟩
      simp [setSession, hpc, SubmitPc.request, hentry]
    · rintro _ ⟨⟩
      simp [setSession, hpc, SubmitPc.pending, SubmitPc.request, hentry]
    · rintro _ ⟨⟩
      exact hk
  · rcases pushStep_returned hs with ⟨rfl, rfl, -⟩ | ⟨rfl, e, tail, rfl, rfl⟩
    · have hset : (s.setSession k ((s.session k).setRing pc.entry.priority
          ((s.session k).ring pc.entry.priority))).Ledger :=
        L.server rfl fun q i h => h.setRing rfl
      refine hset.quiet ?_ ?_ (by simp) hset.current_lt (by simp [SubmitPc.sessionOf])
      · rintro _ ⟨⟩
        simp [setSession, hpc, SubmitPc.request]
      · rintro _ ⟨⟩
        simp [setSession, hpc, SubmitPc.pending, SubmitPc.request]
    · refine L.publish hpc rfl ?_
      intro q i h
      have hdead : ((s.session k).setRing e.priority
          (((s.session k).ring e.priority).storeTail (tail + 1))).Dead q i :=
        RequestSession.Dead.setRing h rfl
      exact ⟨hdead.1, hdead.2.1, hdead.2.2⟩

theorem submitMove (L : s.Ledger) (hrings : s.Rings SharedRing)
    (hok : RepublishSafe s .submit) (hmove : SubmitMove s s') : s'.Ledger := by
  cases hmove with
  | take hpc hqueue => exact L.take hqueue
  | access hpc => exact L.pushAccess hpc
  | lost hpc hstate =>
    rw [RepublishSafe, hpc] at hok
    exact L.lost hpc hrings hstate (hok hstate)
  | @wake r k hpc =>
    have hset : (s.setSession k { s.session k with credit := 0 }).Ledger :=
      L.server rfl fun q i h => h
    refine hset.quiet ?_ ?_ (by simp) hset.current_lt (by simp [SubmitPc.sessionOf])
    · rintro _ ⟨⟩
      simp [setSession, hpc, SubmitPc.request]
    · rintro _ ⟨⟩
      simp [setSession, hpc, SubmitPc.pending, SubmitPc.request]
  | @lock r k hpc hcurrent =>
    refine L.quiet ?_ ?_ (by simp) L.current_lt ?_
    · simp [hpc, SubmitPc.request]
    · simp [hpc, SubmitPc.pending, SubmitPc.request]
    · rintro _ ⟨⟩
      exact L.current_lt k hcurrent
  | @enter r k hpc hstate =>
    refine L.quiet ?_ ?_ (by simp) L.current_lt ?_
    · simp [hpc, SubmitPc.request, PushPc.entry]
    · simp [hpc, SubmitPc.pending, SubmitPc.request, PushPc.entry]
    · rintro _ ⟨⟩
      exact L.session_lt k (by rw [hpc]; rfl)
  | close hpc =>
    refine L.quiet ?_ ?_ (by simp) (by simp) (by simp [SubmitPc.sessionOf])
    · simp [hpc, SubmitPc.request]
    · simp [hpc, SubmitPc.pending, SubmitPc.request]
  | accepted hpc =>
    exact L.quiet (by simp [SubmitPc.request]) (by simp [SubmitPc.pending, SubmitPc.request])
      (by simp) L.current_lt (by simp [SubmitPc.sessionOf])
  | live hpc | noSession hpc | refused hpc | sync hpc _ | unsync hpc | retry hpc | failed hpc
  | moved hpc =>
    refine L.quiet ?_ ?_ (by simp) L.current_lt (by simp [SubmitPc.sessionOf])
    · simp [hpc, SubmitPc.request]
    · simp [hpc, SubmitPc.pending, SubmitPc.request]

/-- Every step whose re-check is safe keeps the ledger. -/
theorem move (L : s.Ledger) (hrings : s.Rings SharedRing)
    (hok : RepublishSafe s a) (hmove : RequestMove s a s') : s'.Ledger := by
  cases hmove with
  | invoke priority entry => exact L.invoke priority entry
  | rejectInvoke => exact L.rejectInvoke
  | submit hsubmit => exact L.submitMove hrings hok hsubmit
  | giveUp hpc =>
    exact L.quiet (by simp [SubmitPc.request]) (by simp [SubmitPc.pending, SubmitPc.request])
      (by simp) L.current_lt (by simp [SubmitPc.sessionOf])
  | waitFailed hpc =>
    refine L.quiet ?_ ?_ (by simp) L.current_lt (by simp [SubmitPc.sessionOf])
    · simp [hpc, SubmitPc.request]
    · simp [hpc, SubmitPc.pending, SubmitPc.request]
  | openSession hlock hcurrent => exact L.openSession hlock
  | closeSession hlock =>
    refine L.quiet (fun _ h => h) (fun _ h => h) ?_ (by simp) L.session_lt
    intro r k hpc
    simp [hpc, SubmitPc.holdsLock] at hlock
  | drain k q hpc =>
    refine L.server rfl fun q' i h => h.congr h.1 rfl ?_
    simp [RequestSession.taking, DispatcherPc.popOn]
  | dispatch k ok =>
    exact L.server (RequestSession.dispatchStep_pushed _ ok _) fun q i h => h.dispatchStep ok
  | runTask k hrun =>
    simp only [RequestSession.runTask, Option.map_eq_some_iff] at hrun
    obtain ⟨r, -, rfl⟩ := hrun
    exact L.server rfl fun q i h => h
  | markBroken k => exact L.server (by simp) fun q i h => h.breakStep

theorem init (caps : ℕ → Priority → RingCapacity) (m : ℕ → PendingSubmit) :
    (requestPath caps m).init.Ledger where
  bound := by simp [requestPath, requestAt, RequestSession.create]
  unique := by simp [requestPath, requestAt, RequestSession.create]
  queue_nodup := by simp [requestPath]
  queued := by simp [requestPath]
  request := by simp [requestPath, SubmitPc.request]
  pending := by simp [requestPath, SubmitPc.pending, SubmitPc.request]
  published := by simp [requestPath]
  current_lt := by simp [requestPath]
  session_lt := by simp [requestPath, SubmitPc.sessionOf]
  unopened := by simp [requestPath, RequestSession.create]

end Ledger

/-! ## The whole run -/

/-- The invariant of the runs whose re-checks are safe. -/
structure OnceInv (s : RequestPath) : Prop where
  rings : s.Rings SharedRing
  accounted : ∀ k, (s.session k).Accounted
  ledger : s.Ledger

variable {s s' : RequestPath}

theorem accounted_setSession (h : ∀ k, (s.session k).Accounted)
    (ht : t.Accounted) : ∀ j, ((s.setSession k t).session j).Accounted := by
  intro j
  by_cases hj : j = k
  · subst hj
    simpa [setSession] using ht
  · simpa [setSession, hj] using h j

theorem accounted_pushAccess (h : ∀ k, (s.session k).Accounted) (k : ℕ)
    (pc : PushPc PendingSubmit) : ∀ j, ((s.pushAccess k pc).session j).Accounted := by
  simp only [pushAccess]
  rcases pushStep ((s.session k).ring pc.entry.priority) pc with ⟨r, pc' | status⟩
  · exact accounted_setSession h ((h k).congr rfl rfl rfl rfl)
  · cases status <;> exact accounted_setSession h ((h k).congr rfl rfl rfl rfl)

theorem accounted_move (h : ∀ k, (s.session k).Accounted)
    (hmove : RequestMove s a s') : ∀ k, (s'.session k).Accounted := by
  cases hmove with
  | submit hsubmit =>
    cases hsubmit with
    | access hpc => exact accounted_pushAccess h _ _
    | @wake r k hpc => exact accounted_setSession h ((h k).congr rfl rfl rfl rfl)
    | _ => exact h
  | openSession hlock hcurrent =>
    exact accounted_setSession h ((h s.opened).congr rfl rfl rfl rfl)
  | drain k q hpc => exact accounted_setSession h ((h k).congr (by rw [hpc]; rfl) rfl rfl rfl)
  | dispatch k ok => exact accounted_setSession h ((h k).dispatchStep ok)
  | runTask k hrun => exact accounted_setSession h ((h k).runTask hrun)
  | markBroken k => exact accounted_setSession h ((h k).congr (by simp) (by simp) (by simp) (by simp))
  | _ => exact h

theorem OnceInv.move (H : s.OnceInv) (hok : RepublishSafe s a)
    (hmove : RequestMove s a s') : s'.OnceInv where
  rings := by
    refine H.rings.move sharedRing_invariant ?_ hmove
    rintro rfl k pc hpc
    rw [RepublishSafe, hpc] at hok
    exact hok
  accounted := accounted_move H.accounted hmove
  ledger := H.ledger.move H.rings hok hmove

theorem onceInv_of_reach {caps : ℕ → Priority → RingCapacity} {m : ℕ → PendingSubmit}
    (h : (requestPath caps m).Reach RepublishSafe s) : s.OnceInv := by
  refine Machine.Reach.invariant ?_ ?_ h
  · refine ⟨Rings.init sharedRing_invariant caps m, ?_, Ledger.init caps m⟩
    intro k
    simp [requestPath, RequestSession.create, RequestSession.Accounted, DispatcherPc.hand,
      RequestSession.poppedAll]
  · intro s a s' H hok hs
    exact H.move hok (requestPath_move hs)

/-- A popped entry sits at a place that is not dead. -/
theorem OnceInv.place_of_popped (H : s.OnceInv) (hr : ((s.session k).popped q)[i]? = some r) :
    s.requestAt ⟨k, q, i⟩ = some r ∧ ¬ s.Dead ⟨k, q, i⟩ := by
  obtain ⟨hi, -⟩ := List.getElem?_eq_some_iff.mp hr
  obtain ⟨rest, hrest⟩ := (H.rings k q).holds.isPrefix
  constructor
  · rw [requestAt, ← hrest, List.getElem?_append_left hi]
    exact hr
  · rintro ⟨-, hle, -⟩
    exact absurd hi (Nat.not_lt.mpr hle)

/-- Two pops of the same call are the same pop. -/
theorem OnceInv.popped_unique (H : s.OnceInv) {j k : ℕ} {q q' : Priority} {i i' : ℕ}
    {r r' : PendingSubmit} (hr : ((s.session j).popped q)[i]? = some r)
    (hr' : ((s.session k).popped q')[i']? = some r') (hcall : r.call = r'.call) :
    j = k ∧ q = q' ∧ i = i' := by
  obtain ⟨hat, hlive⟩ := H.place_of_popped hr
  obtain ⟨hat', hlive'⟩ := H.place_of_popped hr'
  have heq := H.ledger.unique _ _ r r' hat hat' hcall hlive hlive'
  simpa using heq

theorem OnceInv.nodup_popped (H : s.OnceInv) (k : ℕ) :
    ((s.session k).poppedAll.map PendingSubmit.call).Nodup := by
  have hone : ∀ q, (((s.session k).popped q).map PendingSubmit.call).Nodup := by
    intro q
    rw [List.Nodup, List.pairwise_map, List.pairwise_iff_getElem]
    intro i i' hi hi' hlt hcall
    have hsame := H.popped_unique (List.getElem?_eq_getElem hi) (List.getElem?_eq_getElem hi') hcall
    omega
  rw [RequestSession.poppedAll, List.map_append, List.nodup_append]
  refine ⟨hone .high, hone .normal, ?_⟩
  intro c hc c' hc' hcc
  obtain ⟨r, hr, rfl⟩ := List.mem_map.mp hc
  obtain ⟨r', hr', rfl⟩ := List.mem_map.mp hc'
  obtain ⟨i, hi⟩ := List.mem_iff_getElem?.mp hr
  obtain ⟨i', hi'⟩ := List.mem_iff_getElem?.mp hr'
  simpa using H.popped_unique hi hi' hcc

end RequestPath

/-- In every run whose re-checks never abandon an entry that a dispatcher took or is
taking, each call is handed to a handler at most once. -/
theorem atMostOnce_of_republishSafe (caps : ℕ → Priority → RingCapacity)
    (m : ℕ → PendingSubmit) {s : RequestPath} (h : (requestPath caps m).Reach RepublishSafe s) :
    s.AtMostOnce := by
  have H := RequestPath.onceInv_of_reach h
  refine ⟨fun k => (H.accounted k).nodup_handled (H.nodup_popped k), ?_, ?_⟩
  · intro j k r hr r' hr' hcall
    obtain ⟨q, hq⟩ := (H.accounted j).mem_popped hr
    obtain ⟨q', hq'⟩ := (H.accounted k).mem_popped hr'
    obtain ⟨i, hi⟩ := List.mem_iff_getElem?.mp hq
    obtain ⟨i', hi'⟩ := List.mem_iff_getElem?.mp hq'
    exact (H.popped_unique hi hi' hcall).1
  · intro k r tail hpc j q r' hr' hcall
    obtain ⟨i, hi⟩ := List.mem_iff_getElem?.mp hr'
    obtain ⟨hat, hlive⟩ := H.place_of_popped hi
    exact hlive (H.ledger.pending r (by rw [hpc]; rfl) _ r' hat hcall)

/-! ## The losing interleaving -/

/-- Every ring has the default size. -/
def defaultCaps (_ : ℕ) (_ : Priority) : RingCapacity := ⟨8, validRingSize_eight⟩

def zeroedSlots (_ : ℕ) : PendingSubmit := ⟨0, .normal, {}⟩

def defaultRequestPath : Machine RequestPath RequestAction := requestPath defaultCaps zeroedSlots

/-- From the state check to the end of the tail store. -/
def publishOne : List RequestAction := List.replicate 7 .submit

/-- A dispatcher pops one entry and an executor runs it. -/
def serveOne (k : ℕ) : List RequestAction :=
  .drain k .normal :: List.replicate 8 (.dispatch k true) ++ [.runTask k 0 true]

/-- Publish, serve, break, then re-check: the request goes to the next session. -/
def republishSchedule : List RequestAction :=
  [.invoke .normal {}, .submit, .openSession] ++ publishOne ++ serveOne 0 ++
    [.markBroken 0, .submit, .submit, .openSession] ++ publishOne ++ serveOne 1

/-- One call is handed to a handler by both servers. -/
theorem not_atMostOnce_republished :
    ∃ s, defaultRequestPath.run defaultRequestPath.init republishSchedule = some s ∧
      ¬ s.AtMostOnce := by
  have hrun : (defaultRequestPath.run defaultRequestPath.init republishSchedule).any
      (fun s => (s.session 0).handled.map PendingSubmit.call = [0] ∧
        (s.session 1).handled.map PendingSubmit.call = [0]) = true := by decide +kernel
  obtain ⟨s, hs, hboth⟩ := Machine.exists_of_any hrun
  refine ⟨s, hs, ?_⟩
  intro h
  obtain ⟨r, hr, hcall⟩ := List.mem_map.mp (hboth.1 ▸ List.mem_singleton_self 0)
  obtain ⟨r', hr', hcall'⟩ := List.mem_map.mp (hboth.2 ▸ List.mem_singleton_self 0)
  exact absurd (h.handled_session 0 1 r hr r' hr' (hcall.trans hcall'.symm)) (by decide)

/-- The server breaks the session before it pops: the entry is abandoned in the old
ring and the call runs once, on the second session. -/
def abandonSchedule : List RequestAction :=
  [.invoke .normal {}, .submit, .openSession] ++ publishOne ++
    [.markBroken 0, .submit, .submit, .openSession] ++ publishOne ++ [.submit] ++ serveOne 1

theorem atMostOnce_abandoned :
    ∃ s, defaultRequestPath.runOk RepublishSafe defaultRequestPath.init abandonSchedule = some s ∧
      (s.session 1).handled.map PendingSubmit.call = [0] ∧ s.AtMostOnce := by
  have hrun : (defaultRequestPath.runOk RepublishSafe defaultRequestPath.init abandonSchedule).any
      (fun s => (s.session 1).handled.map PendingSubmit.call = [0]) = true := by decide +kernel
  obtain ⟨s, hs, hhandled⟩ := Machine.exists_of_any hrun
  exact ⟨s, hs, hhandled,
    atMostOnce_of_republishSafe _ _ (Machine.reach_of_runOk abandonSchedule hs)⟩

end MemRpc
