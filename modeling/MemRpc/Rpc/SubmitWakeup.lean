import MemRpc.Rpc.RequestPath

/-!
# Waking a submitter that waits for request credit

A submit thread that met a full ring waits for `reqCreditEventFd`. Only a dispatcher
signals it, after a pop that made a full ring not full; `MarkSessionBroken` signals
the response side alone, and no dispatcher pops from a broken session. A session that
is broken under a waiting submitter therefore leaves it waiting unless a credit is
already there or a dispatcher is past the point where it decides to signal.

`BreakWakes` states when this cannot happen; `Wakeable` is the invariant: on a broken
session, a submitter that is going to block finds a credit or a pending signal.
-/

namespace MemRpc

open Concurrency

/-! ## The property and its condition -/

/-- The ring has no free slot. -/
def ringFull (c : RingCursor) : Bool := c.capacity != 0 && decide (c.tail - c.head ≥ c.capacity)

/-- A dispatcher step that signals request credit is pending: the dispatcher decided to
signal, or it is taking an entry of a full ring and is going to decide so. -/
def RequestSession.willSignal (t : RequestSession) : Bool :=
  match t.dispatcher with
  | .outside => false
  | .draining _ nf | .checking _ nf | .submitting _ nf _ => nf
  | .popping q nf pc => nf || (ringFull (t.ring q).cursor && pc.takes (t.ring q).cursor)
  | .counting q nf _ => nf || RequestSession.becameNotFull (t.ring q).cursor
  | .signalling => true

/-- The submitter of session `k` has a way out: a credit or a pending signal. -/
def RequestSession.Wakes (t : RequestSession) : Prop := t.credit ≠ 0 ∨ t.willSignal = true

instance (t : RequestSession) : Decidable t.Wakes := inferInstanceAs (Decidable (_ ∨ _))

/-- The submit thread is going to wait on session `k`, or does: its push has read, or
is about to read, cursors of a full ring. -/
def RequestPath.willBlock (s : RequestPath) (k : ℕ) : Bool :=
  match s.submit with
  | .pushing j (.loadHead r) =>
    let c := ((s.session k).ring r.priority).cursor
    j == k && decide (c.tail - c.head ≥ c.capacity)
  | .pushing j (.loadTail r head) =>
    let c := ((s.session k).ring r.priority).cursor
    j == k && decide (c.tail - head ≥ c.capacity)
  | .syncing _ j | .waiting _ j => j == k
  | _ => false

/-- `MarkSessionBroken` has returned, and the submitter waits on the session with
nothing left that could wake it. -/
def RequestPath.Stuck (s : RequestPath) (k : ℕ) : Prop :=
  (s.session k).breakReturned = true ∧ (∃ r, s.submit = .waiting r k) ∧ s.current = some k ∧
    (s.session k).credit = 0 ∧ (s.session k).willSignal = false

/-- A wait that moves to another session, already broken, finds a way out there. -/
def SubmitPc.SyncWakes (s : RequestPath) : SubmitPc → Option ℕ → Prop
  | .syncing _ j, some k => j ≠ k → (s.session k).state = .broken → (s.session k).Wakes
  | _, _ => True

instance (s : RequestPath) : (pc : SubmitPc) → (c : Option ℕ) → Decidable (pc.SyncWakes s c)
  | .syncing _ _, some _ => inferInstanceAs (Decidable (_ → _ → _))
  | .syncing _ _, none => .isTrue trivial
  | .idle, _ | .ready _, _ | .admitting _, _ | .checkState _ _, _ | .pushing _ _, _
  | .recheck _ _, _ | .disconnected _, _ | .unsynced _, _ | .waiting _ _, _ => .isTrue trivial

/-- The steps that leave a blocking submitter a way out: an alive session is broken,
and a wait moves to another session that is already broken, only if that session has
a credit or a pending signal for it; and no broken session is opened. -/
def BreakWakes (s : RequestPath) : RequestAction → Prop
  | .markBroken k =>
    (s.session k).state = .alive → s.willBlock k = true → (s.session k).Wakes
  | .submit => s.submit.SyncWakes s s.current
  | .openSession => (s.session s.opened).state = .alive
  | _ => True

instance (s : RequestPath) : (a : RequestAction) → Decidable (BreakWakes s a)
  | .markBroken _ => inferInstanceAs (Decidable (_ → _ → _))
  | .submit => inferInstanceAs (Decidable (s.submit.SyncWakes s s.current))
  | .openSession => inferInstanceAs (Decidable (_ = _))
  | .invoke _ _ | .rejectInvoke | .giveUp | .waitFailed | .closeSession | .drain _ _
  | .dispatch _ _ | .runTask _ _ _ => .isTrue trivial

/-! ## Signals survive the dispatcher's steps -/

namespace RequestSession
variable {t : RequestSession}

theorem credit_dispatchStep (t : RequestSession) (ok : Bool) (pc : DispatcherPc) :
    t.credit ≤ (t.dispatchStep ok pc).credit := by
  cases pc with
  | draining q nf => cases ok <;> exact le_rfl
  | checking | popping => simp only [dispatchStep]; split <;> exact le_rfl
  | signalling => exact Nat.le_succ _
  | _ => exact le_rfl

/-- Taking an entry of a full ring makes it not full. -/
theorem becameNotFull_of_full {c : RingCursor} {p q : ℕ} (h : CursorRep c p q)
    (hfull : ringFull c = true) :
    becameNotFull { c with head := c.head + 1 } = true := by
  simp only [ringFull, Bool.and_eq_true, bne_iff_ne, ne_eq, decide_eq_true_eq] at hfull
  obtain ⟨hcap, hcount⟩ := hfull
  have hpq := h.full_iff.mp hcount
  have hpos : 0 < c.capacity.toNat := by
    refine Nat.pos_of_ne_zero ?_
    intro hzero
    exact hcap (UInt32.toNat_inj.mp hzero)
  have hpop := (h.pop (by omega)).toNat_ringCount
  have hlt := c.capacity.toNat_lt
  have heq : ringCount { c with head := c.head + 1 } + 1 = c.capacity := by
    apply UInt32.toNat_inj.mp
    rw [UInt32.toNat_add, hpop, UInt32.toNat_one]
    omega
  simp [becameNotFull, hcap, heq]

/-- A pending signal stays pending while the pop goes on. -/
theorem willSignal_popAccess {q : Priority} {nf ok : Bool} {pc : PopPc PendingSubmit} {p n : ℕ}
    {producer : Option (PushPc PendingSubmit)}
    (hpc : t.dispatcher = .popping q nf pc)
    (hcount : SharedCount (t.ring q).cursor p n producer (some pc)) (h : t.willSignal = true) :
    (t.dispatchStep ok (.popping q nf pc)).willSignal = true := by
  simp only [willSignal, hpc, Bool.or_eq_true, Bool.and_eq_true] at h
  simp only [dispatchStep]
  cases nf with
  | true =>
    rcases popStep (t.ring q) pc with ⟨r, pc' | _ | e⟩
    · rfl
    · rfl
    · rfl
  | false =>
    obtain ⟨hfull, htakes⟩ : ringFull (t.ring q).cursor = true ∧
        pc.takes (t.ring q).cursor = true := by simpa using h
    have hfull' := hfull
    simp only [ringFull, Bool.and_eq_true, bne_iff_ne, ne_eq, decide_eq_true_eq] at hfull'
    cases pc with
    | loadTail =>
      have hne : (t.ring q).cursor.tail ≠ (t.ring q).cursor.head := by
        intro heq
        have hpn := hcount.cursors.full_iff.mp hfull'.2
        have hempty := hcount.cursors.empty_iff.mp heq
        refine hfull'.1 (UInt32.toNat_inj.mp ?_)
        change (t.ring q).cursor.capacity.toNat = 0
        omega
      simp [popStep, willSignal, setRing, hfull, PopPc.takes, hne]
    | loadHead tail =>
      have hne : ¬ tail = (t.ring q).cursor.head := by simpa [PopPc.takes] using htakes
      simp [popStep, if_neg hne, willSignal, setRing, hfull, PopPc.takes]
    | readSlot head => simp [popStep, willSignal, setRing, hfull, PopPc.takes]
    | storeHead e head =>
      obtain ⟨rfl, -⟩ := hcount.consumer_counts _ rfl
      have hnot := becameNotFull_of_full hcount.cursors hfull
      simp [popStep, willSignal, setRing, hnot]

/-- On a broken session no dispatcher step loses a way out. -/
theorem Wakes.dispatchStep (h : t.Wakes) (hstate : t.state = .broken)
    {producer : Priority → Option (PushPc PendingSubmit)} (hrings : t.Rings RingCounts producer)
    (ok : Bool) : (t.dispatchStep ok t.dispatcher).Wakes := by
  rcases h with hcredit | hsignal
  · left
    have hle := credit_dispatchStep t ok t.dispatcher
    omega
  · have hs := hsignal
    cases hpc : t.dispatcher with
    | outside => simp [willSignal, hpc] at hs
    | draining q nf =>
      obtain rfl : nf = true := by simpa [willSignal, hpc] using hs
      cases ok <;> exact .inr rfl
    | checking q nf =>
      obtain rfl : nf = true := by simpa [willSignal, hpc] using hs
      right
      simp only [RequestSession.dispatchStep, hstate]
      rfl
    | popping q nf pc =>
      have hcount := hrings q
      simp only [hpc, DispatcherPc.popOn, if_true] at hcount
      exact .inr (willSignal_popAccess hpc hcount hsignal)
    | counting | submitting =>
      right
      simp only [willSignal, hpc] at hs
      simpa [RequestSession.dispatchStep, willSignal] using hs
    | signalling => exact .inl (Nat.succ_ne_zero _)

theorem Wakes.congr {t' : RequestSession} (h : t.Wakes) (hcredit : t'.credit = t.credit)
    (hring : t'.ring = t.ring) (hpc : t'.dispatcher = t.dispatcher) : t'.Wakes := by
  rw [Wakes, willSignal, hcredit, hring, hpc]
  exact h

/-- A dispatcher step pops or leaves the histories alone, on rings of fixed size. -/
theorem dispatchStep_rings (t : RequestSession) (ok : Bool) (pc : DispatcherPc) (q : Priority) :
    ((t.dispatchStep ok pc).ring q).cursor.capacity = (t.ring q).cursor.capacity ∧
      (t.popped q).length ≤ ((t.dispatchStep ok pc).popped q).length := by
  cases pc with
  | draining q' nf => cases ok <;> exact ⟨rfl, le_rfl⟩
  | checking q' nf => simp only [dispatchStep]; split <;> exact ⟨rfl, le_rfl⟩
  | popping q' nf pc =>
    have hcap := capacity_popStep (t.ring q') pc
    simp only [dispatchStep]
    by_cases hq : q = q'
    · subst hq
      rcases hs : popStep (t.ring q) pc with ⟨r, pc' | _ | e⟩
      · rw [hs] at hcap
        simpa [setRing] using hcap
      · rw [hs] at hcap
        simpa [setRing, leaveDrain] using hcap
      · rw [hs] at hcap
        simpa [setRing] using hcap
    · rcases popStep (t.ring q') pc with ⟨r, pc' | _ | e⟩
      · simp [setRing, hq]
      · simp [setRing, leaveDrain, hq]
      · simp [setRing, hq]
  | _ => exact ⟨rfl, le_rfl⟩

/-- A ring that is full after a dispatcher step was full before it. -/
theorem full_of_dispatchStep {producer : Priority → Option (PushPc PendingSubmit)}
    (hrings : t.Rings RingCounts producer) (ok : Bool) (q : Priority)
    (hfull : ((t.dispatchStep ok t.dispatcher).ring q).cursor.tail -
        ((t.dispatchStep ok t.dispatcher).ring q).cursor.head ≥
      ((t.dispatchStep ok t.dispatcher).ring q).cursor.capacity) :
    (t.ring q).cursor.tail - (t.ring q).cursor.head ≥ (t.ring q).cursor.capacity := by
  have hbefore := (hrings q).cursors
  have hafter := (hrings.dispatchStep ringCounts_invariant ok q).cursors
  obtain ⟨hcap, hle⟩ := t.dispatchStep_rings ok t.dispatcher q
  have hroom := hbefore.room
  rw [dispatchStep_pushed] at hafter
  rw [hafter.full_iff, hcap] at hfull
  rw [hbefore.full_iff]
  omega

end RequestSession

/-! ## The invariant -/

variable {k : ℕ}

namespace RequestPath

/-- On a broken session, a submitter that is going to block has a way out. -/
def Wakeable (s : RequestPath) : Prop :=
  ∀ k, (s.session k).state = .broken → s.willBlock k = true → (s.session k).Wakes

/-- A thread inside `MarkSessionBroken`, or past it, leaves the session broken. -/
def BreaksLast (s : RequestPath) : Prop :=
  ∀ k, (s.session k).breakReturned = true ∨ (s.session k).breaker ≠ .outside →
    (s.session k).state = .broken

variable {s s' : RequestPath} {t : RequestSession}

theorem willBlock_setSession (hring : t.ring = (s.session k).ring)
    (j : ℕ) : (s.setSession k t).willBlock j = s.willBlock j := by
  by_cases hj : j = k
  · subst hj
    simp [willBlock, setSession, hring]
  · simp [willBlock, setSession, hj]

/-- A server step that neither breaks the session nor makes the submitter block. -/
theorem Wakeable.server (H : s.Wakeable)
    (hstate : t.state = .broken → (s.session k).state = .broken)
    (hblock : (s.setSession k t).willBlock k = true → s.willBlock k = true)
    (hwakes : (s.session k).state = .broken → (s.session k).Wakes → t.Wakes) :
    (s.setSession k t).Wakeable := by
  intro j hj hb
  by_cases hjk : j = k
  · subst hjk
    simp only [setSession, Function.update_self] at hj ⊢
    exact hwakes (hstate hj) (H j (hstate hj) (hblock hb))
  · have hsame : (s.setSession k t).willBlock j = s.willBlock j := by
      simp [willBlock, setSession, hjk]
    simp only [setSession, Function.update_of_ne hjk] at hj ⊢
    exact H j hj (hsame ▸ hb)

/-- The submit thread is outside the window in which it can be stranded. -/
theorem Wakeable.outside (hblock : ∀ k, s.willBlock k = false) : s.Wakeable := by
  intro k _ hb
  simp [hblock k] at hb

theorem willBlock_dispatch (hrings : s.Rings RingCounts) (k : ℕ) (ok : Bool)
    (hb : (s.setSession k ((s.session k).dispatchStep ok (s.session k).dispatcher)).willBlock k
      = true) : s.willBlock k = true := by
  have hcap := fun q => ((s.session k).dispatchStep_rings ok (s.session k).dispatcher q).1
  have htail := (s.session k).tail_dispatchStep ok (s.session k).dispatcher
  simp only [willBlock, setSession, Function.update_self] at hb ⊢
  cases hpc : s.submit with
  | pushing j pc =>
    cases pc with
    | loadHead r =>
      simp only [hpc, Bool.and_eq_true, beq_iff_eq, decide_eq_true_eq] at hb ⊢
      exact ⟨hb.1, RequestSession.full_of_dispatchStep (hrings k) ok r.priority hb.2⟩
    | loadTail r head =>
      simp only [hpc, Bool.and_eq_true, beq_iff_eq, decide_eq_true_eq] at hb ⊢
      rw [htail, hcap] at hb
      exact hb
    | _ => simp [hpc] at hb
  | syncing | waiting => simpa [hpc] using hb
  | _ => simp [hpc] at hb

theorem setSession_self (s : RequestPath) (k : ℕ) (q : Priority) :
    s.setSession k ((s.session k).setRing q ((s.session k).ring q)) = s := by
  simp [setSession, RequestSession.setRing]

theorem pushAccess_loadHead (s : RequestPath) (k : ℕ) (r : PendingSubmit) :
    s.pushAccess k (.loadHead r) =
      { s with
        submit := .pushing k (.loadTail r ((s.session k).ring r.priority).cursor.head) } := by
  simp only [pushAccess, pushStep, PushPc.entry, setSession_self]

theorem pushAccess_full (s : RequestPath) (k : ℕ) (r : PendingSubmit) {head : UInt32}
    (hfull : ((s.session k).ring r.priority).cursor.tail - head ≥
      ((s.session k).ring r.priority).cursor.capacity) :
    s.pushAccess k (.loadTail r head) = { s with submit := .syncing r k } := by
  have hstep : pushStep ((s.session k).ring r.priority) (.loadTail r head) =
      ((s.session k).ring r.priority, .returned .queueFull) := by
    simp only [pushStep, if_pos hfull]
  simp only [pushAccess, PushPc.entry, hstep, setSession_self]

/-- One access of a push: a full check that fails was going to fail. -/
theorem Wakeable.pushAccess (H : s.Wakeable) {pc : PushPc PendingSubmit}
    (hpc : s.submit = .pushing k pc) : (s.pushAccess k pc).Wakeable := by
  cases pc with
  | loadHead r =>
    rw [pushAccess_loadHead]
    intro j hj hb
    simp only [willBlock, Bool.and_eq_true, beq_iff_eq, decide_eq_true_eq] at hb
    obtain ⟨rfl, hfull⟩ := hb
    refine H k hj ?_
    simpa [willBlock, hpc] using hfull
  | loadTail r head =>
    by_cases hfull : ((s.session k).ring r.priority).cursor.tail - head ≥
        ((s.session k).ring r.priority).cursor.capacity
    · rw [pushAccess_full s k r hfull]
      intro j hj hb
      obtain rfl : k = j := by simpa [willBlock] using hb
      refine H k hj ?_
      simpa [willBlock, hpc] using hfull
    · refine Wakeable.outside ?_
      intro j
      simp [RequestPath.pushAccess, pushStep, PushPc.entry, if_neg hfull, willBlock]
  | writeSlot | storeTail =>
    refine Wakeable.outside ?_
    intro j
    simp [RequestPath.pushAccess, pushStep, willBlock]

theorem Wakeable.submitMove (H : s.Wakeable) (hok : BreakWakes s .submit)
    (hmove : SubmitMove s s') : s'.Wakeable := by
  cases hmove with
  | @enter r k hpc hstate =>
    intro j hj hb
    obtain ⟨rfl, -⟩ : k = j ∧ _ := by simpa [willBlock] using hb
    simp [hstate] at hj
  | access hpc => exact H.pushAccess hpc
  | @sync r k k' hpc hcurrent =>
    intro j hj hb
    obtain rfl : k' = j := by simpa [willBlock] using hb
    by_cases hkk : k = k'
    · refine H k' hj ?_
      simp [willBlock, hpc, hkk]
    · rw [BreakWakes, hpc, hcurrent] at hok
      exact hok hkk hj
  | _ => exact Wakeable.outside fun _ => rfl

/-- An alive session is opened as it is. -/
theorem setSession_alive (k : ℕ) (hstate : (s.session k).state = .alive) :
    s.setSession k { s.session k with state := .alive } = s := by
  have hsame : ({ s.session k with state := .alive } : RequestSession) = s.session k := by
    rw [← hstate]
  rw [hsame, setSession, Function.update_eq_self]

theorem Wakeable.markBroken (H : s.Wakeable) (hok : BreakWakes s (.markBroken k)) :
    (s.setSession k (s.session k).breakStep).Wakeable := by
  intro j hj hb
  have hblock : s.willBlock j = true := by
    rw [willBlock_setSession (by simp)] at hb
    exact hb
  by_cases hjk : j = k
  · subst hjk
    have hwakes : (s.session j).Wakes := by
      cases hstate : (s.session j).state with
      | alive => exact hok hstate hblock
      | broken => exact H j hstate hblock
    simp only [setSession, Function.update_self]
    exact hwakes.congr (by simp) (by simp) (by simp)
  · simp only [setSession, Function.update_of_ne hjk] at hj ⊢
    exact H j hj hblock

theorem Wakeable.move (H : s.Wakeable) {a : RequestAction} (hrings : s.Rings RingCounts)
    (hok : BreakWakes s a) (hmove : RequestMove s a s') : s'.Wakeable := by
  cases hmove with
  | invoke | rejectInvoke => exact H
  | submit hsubmit => exact H.submitMove hok hsubmit
  | giveUp | waitFailed => exact Wakeable.outside fun _ => rfl
  | openSession hlock hcurrent =>
    rw [setSession_alive s.opened hok]
    exact H
  | closeSession hlock => exact H
  | drain k q hpc =>
    refine H.server (fun h => h) ?_ ?_
    · rw [willBlock_setSession (by rfl)]
      exact fun h => h
    · rintro - (hcredit | hsignal)
      · exact .inl hcredit
      · simp [RequestSession.willSignal, hpc] at hsignal
  | dispatch k ok =>
    refine H.server ?_ (willBlock_dispatch hrings k ok) ?_
    · rw [((s.session k).dispatchStep_frame ok _).1]
      exact fun h => h
    · intro hstate hwakes
      exact hwakes.dispatchStep hstate (hrings k) ok
  | runTask k hrun =>
    simp only [RequestSession.runTask, Option.map_eq_some_iff] at hrun
    obtain ⟨r, -, rfl⟩ := hrun
    refine H.server (fun h => h) ?_ (fun _ h => h.congr rfl rfl rfl)
    rw [willBlock_setSession (by rfl)]
    exact fun h => h
  | markBroken k => exact H.markBroken hok

/-! ### Breaking is final -/

theorem BreaksLast.setSession (H : s.BreaksLast)
    (ht : t.breakReturned = true ∨ t.breaker ≠ .outside → t.state = .broken) :
    (s.setSession k t).BreaksLast := by
  intro j hj
  by_cases hjk : j = k
  · subst hjk
    simp only [RequestPath.setSession, Function.update_self] at hj ⊢
    exact ht hj
  · simp only [RequestPath.setSession, Function.update_of_ne hjk] at hj ⊢
    exact H j hj

theorem BreaksLast.pushAccess (H : s.BreaksLast) (k : ℕ) (pc : PushPc PendingSubmit) :
    (s.pushAccess k pc).BreaksLast := by
  simp only [RequestPath.pushAccess]
  rcases pushStep ((s.session k).ring pc.entry.priority) pc with ⟨r, pc' | status⟩
  · exact H.setSession (H k)
  · cases status <;> exact H.setSession (H k)

theorem BreaksLast.move (H : s.BreaksLast) {a : RequestAction} (hok : BreakWakes s a)
    (hmove : RequestMove s a s') : s'.BreaksLast := by
  cases hmove with
  | submit hsubmit =>
    cases hsubmit with
    | access hpc => exact H.pushAccess _ _
    | @wake r k hpc => exact H.setSession (H k)
    | _ => exact H
  | openSession hlock hcurrent =>
    rw [setSession_alive s.opened hok]
    exact H
  | drain k q hpc => exact H.setSession (H k)
  | dispatch k ok =>
    refine H.setSession ?_
    obtain ⟨hstate, hbreaker, hreturned⟩ :=
      (s.session k).dispatchStep_frame ok (s.session k).dispatcher
    rw [hstate, hbreaker, hreturned]
    exact H k
  | runTask k hrun =>
    simp only [RequestSession.runTask, Option.map_eq_some_iff] at hrun
    obtain ⟨r, -, rfl⟩ := hrun
    exact H.setSession (H k)
  | markBroken k =>
    refine H.setSession ?_
    intro _
    have hbroken := H k
    rw [RequestSession.breakStep]
    cases hb : (s.session k).breaker with
    | outside => rfl
    | removing | signalling => exact hbroken (.inr (by simp [hb]))
  | _ => exact H

/-- The invariant of the runs whose breaks leave a way out. -/
structure WakeInv (s : RequestPath) : Prop where
  rings : s.Rings RingCounts
  wakeable : s.Wakeable
  breaksLast : s.BreaksLast

theorem wakeInv_of_reach {caps : ℕ → Priority → RingCapacity} {m : ℕ → PendingSubmit}
    (h : (requestPath caps m).Reach BreakWakes s) : s.WakeInv := by
  refine Machine.Reach.invariant ?_ ?_ h
  · refine ⟨Rings.init ringCounts_invariant caps m, ?_, ?_⟩
    · exact Wakeable.outside fun _ => rfl
    · intro k hk
      simp [requestPath, RequestSession.create] at hk
  · intro s a s' H hok hs
    have hmove := requestPath_move hs
    exact ⟨H.rings.move ringCounts_invariant (fun _ _ _ _ => trivial) hmove,
      H.wakeable.move H.rings hok hmove, H.breaksLast.move hok hmove⟩

end RequestPath

/-- In every run whose breaks leave a blocking submitter a way out, no session that is
marked broken strands the submit thread. -/
theorem not_stuck_of_breakWakes (caps : ℕ → Priority → RingCapacity) (m : ℕ → PendingSubmit)
    {s : RequestPath} (h : (requestPath caps m).Reach BreakWakes s) (k : ℕ) : ¬ s.Stuck k := by
  rintro ⟨hreturned, ⟨r, hpc⟩, -, hcredit, hsignal⟩
  have H := RequestPath.wakeInv_of_reach h
  have hblock : s.willBlock k = true := by simp [RequestPath.willBlock, hpc]
  rcases H.wakeable k (H.breaksLast k (.inl hreturned)) hblock with hsome | hpending
  · exact hsome hcredit
  · simp [hsignal] at hpending

/-! ## The stranding interleaving -/

/-- Rings of a single slot, over zeroed slots. -/
def oneSlotPath : Machine RequestPath RequestAction :=
  requestPath (fun _ _ => ⟨1, validRingSize_one⟩) fun _ => ⟨0, .normal, {}⟩

/-- Two calls on a ring of one slot: the first is accepted, the second finds the ring
full and waits for request credit. -/
def fillAndWait : List RequestAction :=
  [.invoke .normal {}, .invoke .normal {}, .submit, .openSession] ++
    List.replicate 8 .submit ++ List.replicate 7 .submit

/-- The session is broken while the submitter waits and the dispatcher is idle. -/
def strandSchedule : List RequestAction := fillAndWait ++ List.replicate 3 (.markBroken 0)

/-- The session whose request credit is waited for. -/
def SubmitPc.waitsOn : SubmitPc → Option ℕ
  | .waiting _ k => some k
  | _ => none

theorem SubmitPc.exists_of_waitsOn {pc : SubmitPc} (h : pc.waitsOn = some k) :
    ∃ r, pc = .waiting r k := by
  cases pc with
  | waiting r j => exact ⟨r, by rw [Option.some.inj h]⟩
  | _ => cases h

theorem stuck_stranded :
    ∃ s, oneSlotPath.run oneSlotPath.init strandSchedule = some s ∧ s.Stuck 0 := by
  have hrun : (oneSlotPath.run oneSlotPath.init strandSchedule).any
      (fun s => (s.session 0).breakReturned ∧ s.submit.waitsOn = some 0 ∧
        s.current = some 0 ∧ (s.session 0).credit = 0 ∧
        (s.session 0).willSignal = false) = true := by decide +kernel
  obtain ⟨s, hs, hstuck⟩ := Machine.exists_of_any hrun
  obtain ⟨hreturned, hpc, hcurrent, hcredit, hsignal⟩ := hstuck
  exact ⟨s, hs, hreturned, SubmitPc.exists_of_waitsOn hpc, hcurrent, hcredit, hsignal⟩

/-- The dispatcher has popped from the full ring and decided to signal when the
session is broken. -/
def signalSchedule : List RequestAction :=
  fillAndWait ++ .drain 0 .normal :: List.replicate 7 (.dispatch 0 true) ++
    List.replicate 3 (.markBroken 0)

theorem not_stuck_signalled :
    ∃ s, oneSlotPath.runOk BreakWakes oneSlotPath.init signalSchedule = some s ∧
      (s.session 0).breakReturned = true ∧ (s.session 0).credit = 0 ∧ ¬ s.Stuck 0 := by
  have hrun : (oneSlotPath.runOk BreakWakes oneSlotPath.init signalSchedule).any
      (fun s => (s.session 0).breakReturned ∧ (s.session 0).credit = 0) = true := by
    decide +kernel
  obtain ⟨s, hs, hbroken⟩ := Machine.exists_of_any hrun
  exact ⟨s, hs, hbroken.1, hbroken.2,
    not_stuck_of_breakWakes _ _ (Machine.reach_of_runOk signalSchedule hs) 0⟩

end MemRpc
