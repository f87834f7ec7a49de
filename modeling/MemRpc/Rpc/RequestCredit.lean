import MemRpc.Rpc.SubmitWakeup

/-!
# Request credit is not lost

A submit thread that met a full ring sleeps until `reqCreditEventFd` is signalled; its
poll loop never tries the push again by itself. The dispatcher decides to signal after
a pop, from a count that it reads again, and signals only when `DrainQueue` is done.
Both request rings share the one eventfd, so the wait may also consume credits that
were meant for the other ring.

What saves the sleeper is that its full check and the dispatcher's recount look at the
same cursors: the first pop after the check leaves `capacity - 1` entries, because the
sleeper is the only producer. `CreditHistory` remembers which ring a wait is about and
which ring a dispatcher drained last.
-/

namespace MemRpc

open Concurrency

/-- The ring whose fullness sent the submit thread to wait last, and the ring that each
dispatcher drained last. -/
structure CreditHistory where
  cause : Option (ℕ × Priority) := none
  drained : ℕ → Option Priority := fun _ => none

/-- Bring the history up to date with a state. -/
def CreditHistory.note (h : CreditHistory) (s : RequestPath) : CreditHistory where
  cause :=
    match s.submit with
    | .syncing r k => some (k, r.priority)
    | _ => h.cause
  drained k := (s.session k).dispatcher.queue? <|> h.drained k

/-- The request path with its history. -/
def creditPath (caps : ℕ → Priority → RingCapacity) (m : ℕ → PendingSubmit) :
    Machine (RequestPath × CreditHistory) RequestAction :=
  (requestPath caps m).track {} CreditHistory.note

/-- The dispatcher is inside `DrainQueue` of ring `q` with `ringBecameNotFull` set, or
has popped from it and is about to set it. -/
def RequestSession.signalsFor (t : RequestSession) (drained : Option Priority) (q : Priority) :
    Bool :=
  match t.dispatcher with
  | .outside => false
  | .draining q' nf | .checking q' nf | .popping q' nf _ | .submitting q' nf _ => q' == q && nf
  | .counting q' nf _ => q' == q && (nf || becameNotFull (t.ring q).cursor)
  | .signalling => drained == some q

/-- A submit thread that is blocked because of a ring with room has a credit, or the
dispatcher of that ring is going to signal one. -/
def RequestCreditKept (p : RequestPath × CreditHistory) : Prop :=
  ∀ r k, p.1.submit = .waiting r k → p.2.cause = some (k, r.priority) →
    ringCount ((p.1.session k).ring r.priority).cursor <
      ((p.1.session k).ring r.priority).cursor.capacity →
    (p.1.session k).credit ≠ 0 ∨
      (p.1.session k).signalsFor (p.2.drained k) r.priority = true

/-! ## What a dispatcher step keeps -/

namespace RequestSession
variable {t : RequestSession} {drained : Option Priority} {q : Priority}

/-- The ring is full, a credit is there, or one is going to be signalled. -/
def Credited (t : RequestSession) (drained : Option Priority) (q : Priority) : Prop :=
  (t.ring q).cursor.capacity ≤ ringCount (t.ring q).cursor ∨ t.credit ≠ 0 ∨
    t.signalsFor drained q = true

theorem Credited.congr {t' : RequestSession} (h : t.Credited drained q)
    (hring : t'.ring = t.ring) (hcredit : t'.credit = t.credit)
    (hpc : t'.dispatcher = t.dispatcher) : t'.Credited drained q := by
  rw [Credited, signalsFor, hring, hcredit, hpc]
  exact h

/-- A credit stays. -/
theorem Credited.of_credit (h : t.credit ≠ 0) (ok : Bool) (drained' : Option Priority) :
    (t.dispatchStep ok t.dispatcher).Credited drained' q := by
  have hle := credit_dispatchStep t ok t.dispatcher
  exact .inr (.inl (by omega))

/-- One access of a pop from the ring itself: only the store of the head makes a full
ring not full, and the recount is going to see it. -/
theorem Credited.popAccess {nf : Bool} {pc : PopPc PendingSubmit} {p n : ℕ}
    {producer : Option (PushPc PendingSubmit)}
    (hcount : SharedCount (t.ring q).cursor p n producer (some pc))
    (h : (t.ring q).cursor.capacity ≤ ringCount (t.ring q).cursor ∨ nf = true) (ok : Bool) :
    (t.dispatchStep ok (.popping q nf pc)).Credited (some q) q := by
  simp only [dispatchStep]
  rcases h with hfull | rfl
  · cases pc with
    | loadTail => exact .inl (by simpa [popStep, setRing] using hfull)
    | loadHead tail =>
      left
      by_cases htail : tail = (t.ring q).cursor.head
      · simpa [popStep, if_pos htail, setRing, leaveDrain] using hfull
      · simpa [popStep, if_neg htail, setRing] using hfull
    | readSlot head => exact .inl (by simpa [popStep, setRing] using hfull)
    | storeHead e head =>
      obtain ⟨rfl, hlt⟩ := hcount.consumer_counts _ rfl
      have hpn := hcount.cursors.full_iff.mp hfull
      have hcap : (t.ring q).cursor.capacity ≠ 0 := by
        intro hzero
        simp only [hzero, UInt32.toNat_zero] at hpn
        omega
      have hnot := becameNotFull_of_full hcount.cursors (by
        simpa [ringFull, hcap, ringCount] using hfull)
      right; right
      simp [popStep, signalsFor, setRing, hnot]
  · right; right
    rcases popStep (t.ring q) pc with ⟨r, pc' | _ | e⟩
    · simp [signalsFor]
    · simp [signalsFor, leaveDrain]
    · simp [signalsFor]

/-- One access of a pop from the other ring. -/
theorem ring_popOther {q' : Priority} (hne : q ≠ q') (ok nf : Bool)
    (pc : PopPc PendingSubmit) :
    (t.dispatchStep ok (.popping q' nf pc)).ring q = t.ring q := by
  simp only [dispatchStep]
  rcases popStep (t.ring q') pc with ⟨r, pc' | _ | e⟩
  · simp [setRing, hne]
  · simp [setRing, leaveDrain, hne]
  · simp [setRing, hne]

/-- A full ring stays full until a pop from it, and that pop is going to be signalled. -/
theorem Credited.of_full (hfull : (t.ring q).cursor.capacity ≤ ringCount (t.ring q).cursor)
    (hdrained : ∀ q', t.dispatcher.queue? = some q' → drained = some q')
    {producer : Priority → Option (PushPc PendingSubmit)} (hrings : t.Rings RingCounts producer)
    (ok : Bool) :
    (t.dispatchStep ok t.dispatcher).Credited
      ((t.dispatchStep ok t.dispatcher).dispatcher.queue? <|> drained) q := by
  cases hpc : t.dispatcher with
  | draining q' nf =>
    cases ok with
    | true => exact .inl hfull
    | false => exact .inl hfull
  | checking q' nf =>
    left
    simp only [RequestSession.dispatchStep]
    split <;> exact hfull
  | popping q' nf pc =>
    by_cases hq : q = q'
    · subst hq
      have hcount := hrings q
      simp only [hpc, DispatcherPc.popOn, if_true] at hcount
      have hstep := Credited.popAccess hcount (.inl hfull : _ ∨ nf = true) ok
      have hlast := hdrained q (by simp [hpc, DispatcherPc.queue?])
      rcases hstep with hfull' | hcredit' | hsignal'
      · exact .inl hfull'
      · exact .inr (.inl hcredit')
      · refine .inr (.inr ?_)
        rw [hlast]
        cases hnew : (t.dispatchStep ok (.popping q nf pc)).dispatcher <;>
          simp_all [signalsFor, DispatcherPc.queue?]
    · left
      rw [ring_popOther hq]
      exact hfull
  | _ => exact .inl hfull

/-- A signal that is due stays due until it is given. -/
theorem Credited.of_signal (hsignal : t.signalsFor drained q = true)
    (hdrained : ∀ q', t.dispatcher.queue? = some q' → drained = some q') (ok : Bool) :
    (t.dispatchStep ok t.dispatcher).Credited
      ((t.dispatchStep ok t.dispatcher).dispatcher.queue? <|> drained) q := by
  cases hpc : t.dispatcher with
  | outside => simp [signalsFor, hpc] at hsignal
  | draining q' nf =>
    obtain ⟨rfl, rfl⟩ : q' = q ∧ nf = true := by simpa [signalsFor, hpc] using hsignal
    have hlast := hdrained q' (by simp [hpc, DispatcherPc.queue?])
    right; right
    cases ok with
    | true => simp [RequestSession.dispatchStep, signalsFor]
    | false => simp [RequestSession.dispatchStep, signalsFor, leaveDrain, DispatcherPc.queue?, hlast]
  | checking q' nf =>
    obtain ⟨rfl, rfl⟩ : q' = q ∧ nf = true := by simpa [signalsFor, hpc] using hsignal
    have hlast := hdrained q' (by simp [hpc, DispatcherPc.queue?])
    right; right
    simp only [RequestSession.dispatchStep]
    split
    · simp [signalsFor]
    · simp [signalsFor, leaveDrain, DispatcherPc.queue?, hlast]
  | popping q' nf pc =>
    obtain ⟨rfl, rfl⟩ : q' = q ∧ nf = true := by simpa [signalsFor, hpc] using hsignal
    have hlast := hdrained q' (by simp [hpc, DispatcherPc.queue?])
    right; right
    simp only [RequestSession.dispatchStep]
    rcases popStep (t.ring q') pc with ⟨r, pc' | _ | e⟩
    · simp [signalsFor]
    · simp [signalsFor, leaveDrain, DispatcherPc.queue?, hlast]
    · simp [signalsFor]
  | counting q' nf r =>
    obtain ⟨rfl, hset⟩ : q' = q ∧ (nf = true ∨ becameNotFull (t.ring q).cursor = true) := by
      simpa [signalsFor, hpc] using hsignal
    right; right
    simpa [RequestSession.dispatchStep, signalsFor] using hset
  | submitting q' nf r =>
    obtain ⟨rfl, rfl⟩ : q' = q ∧ nf = true := by simpa [signalsFor, hpc] using hsignal
    right; right
    simp [RequestSession.dispatchStep, signalsFor]
  | signalling => exact .inr (.inl (Nat.succ_ne_zero _))

/-- No dispatcher step loses the credit that a waiting submit thread is owed. -/
theorem Credited.dispatchStep (h : t.Credited drained q)
    (hdrained : ∀ q', t.dispatcher.queue? = some q' → drained = some q')
    {producer : Priority → Option (PushPc PendingSubmit)} (hrings : t.Rings RingCounts producer)
    (ok : Bool) :
    (t.dispatchStep ok t.dispatcher).Credited
      ((t.dispatchStep ok t.dispatcher).dispatcher.queue? <|> drained) q := by
  rcases h with hfull | hcredit | hsignal
  · exact .of_full hfull hdrained hrings ok
  · exact .of_credit hcredit ok _
  · exact .of_signal hsignal hdrained ok

end RequestSession

/-! ## The invariant -/

/-- The submit thread waits because of ring `q` of session `k`, or is going to: its copy
of the head shows a full ring. -/
def waitsFor (p : RequestPath × CreditHistory) (k : ℕ) (q : Priority) : Prop :=
  match p.1.submit with
  | .pushing j (.loadTail r head) =>
    j = k ∧ r.priority = q ∧
      ((p.1.session k).ring q).cursor.tail - head ≥ ((p.1.session k).ring q).cursor.capacity
  | .syncing r j => j = k ∧ r.priority = q
  | .waiting r j => j = k ∧ r.priority = q ∧ p.2.cause = some (k, q)
  | _ => False

/-- The rings count, the history knows the ring being drained and the ring that was full,
and a waiting submit thread is credited. -/
structure CreditedInv (p : RequestPath × CreditHistory) : Prop where
  rings : p.1.Rings RingCounts
  drained : ∀ k q, (p.1.session k).dispatcher.queue? = some q → p.2.drained k = some q
  cause : ∀ r k, p.1.submit = .syncing r k → p.2.cause = some (k, r.priority)
  credited : ∀ k q, waitsFor p k q → (p.1.session k).Credited (p.2.drained k) q

namespace CreditedInv
variable {s s' : RequestPath} {h : CreditHistory}

theorem drained_note (h : CreditHistory) (s : RequestPath) (k : ℕ) (q : Priority)
    (hq : (s.session k).dispatcher.queue? = some q) : (h.note s).drained k = some q := by
  simp [CreditHistory.note, hq]

/-- Where no dispatcher moves, the history of the drained rings stays. -/
theorem note_drained_of_eq (H : CreditedInv (s, h)) {k : ℕ}
    (hpc : (s'.session k).dispatcher = (s.session k).dispatcher) :
    (h.note s').drained k = h.drained k := by
  simp only [CreditHistory.note, hpc]
  cases hring : (s.session k).dispatcher.queue? with
  | none => rfl
  | some q => exact (H.drained k q hring).symm

/-- A submit thread that stays where it is waits for what it waited for. -/
theorem waitsFor_of_note {k : ℕ} {q : Priority} (hsubmit : s'.submit = s.submit)
    (htail : ((s'.session k).ring q).cursor.tail = ((s.session k).ring q).cursor.tail)
    (hcap : ((s'.session k).ring q).cursor.capacity = ((s.session k).ring q).cursor.capacity)
    (hwait : waitsFor (s', h.note s') k q) : waitsFor (s, h) k q := by
  simp only [waitsFor, CreditHistory.note, hsubmit, htail, hcap] at hwait ⊢
  cases hpc : s.submit with
  | pushing j pc =>
    cases pc with
    | loadTail r head => simpa [hpc] using hwait
    | _ => simp [hpc] at hwait
  | syncing | waiting => simpa [hpc] using hwait
  | _ => simp [hpc] at hwait

/-- The submit thread is not waiting for a ring. -/
theorem credited_of_idle {p : RequestPath × CreditHistory} (hidle : ∀ k q, ¬ waitsFor p k q) :
    ∀ k q, waitsFor p k q → (p.1.session k).Credited (p.2.drained k) q :=
  fun k q hwait => absurd hwait (hidle k q)

/-- A step that leaves every ring, credit and dispatcher alone, and lets the submit
thread wait only for what it waited for. -/
theorem credited_of_frame (H : CreditedInv (s, h))
    (hring : ∀ k, (s'.session k).ring = (s.session k).ring)
    (hcredit : ∀ k, (s'.session k).credit = (s.session k).credit)
    (hpc : ∀ k, (s'.session k).dispatcher = (s.session k).dispatcher)
    (hwait : ∀ k q, waitsFor (s', h.note s') k q → waitsFor (s, h) k q) :
    ∀ k q, waitsFor (s', h.note s') k q →
      (s'.session k).Credited ((h.note s').drained k) q := by
  intro k q hk
  rw [H.note_drained_of_eq (hpc k)]
  exact (H.credited k q (hwait k q hk)).congr (hring k) (hcredit k) (hpc k)

/-- One access of a push: the ring is full where the copy of the head makes it so. -/
theorem pushAccess (H : CreditedInv (s, h)) {k : ℕ} {pc : PushPc PendingSubmit}
    (hpc : s.submit = .pushing k pc) :
    ∀ j q, waitsFor (s.pushAccess k pc, h.note (s.pushAccess k pc)) j q →
      ((s.pushAccess k pc).session j).Credited ((h.note (s.pushAccess k pc)).drained j) q := by
  cases pc with
  | loadHead r =>
    rw [RequestPath.pushAccess_loadHead]
    rintro j q ⟨rfl, rfl, hfull⟩
    exact .inl hfull
  | loadTail r head =>
    by_cases hfull : ((s.session k).ring r.priority).cursor.tail - head ≥
        ((s.session k).ring r.priority).cursor.capacity
    · rw [RequestPath.pushAccess_full s k r hfull]
      refine H.credited_of_frame (fun _ => rfl) (fun _ => rfl) (fun _ => rfl) ?_
      rintro j q ⟨rfl, rfl⟩
      simpa [waitsFor, hpc] using hfull
    · refine credited_of_idle ?_
      intro j q hwait
      simp [RequestPath.pushAccess, pushStep, PushPc.entry, if_neg hfull, waitsFor] at hwait
  | writeSlot | storeTail =>
    refine credited_of_idle ?_
    intro j q hwait
    simp [RequestPath.pushAccess, pushStep, waitsFor] at hwait

theorem submitMove (H : CreditedInv (s, h)) (hmove : RequestPath.SubmitMove s s') :
    ∀ k q, waitsFor (s', h.note s') k q →
      (s'.session k).Credited ((h.note s').drained k) q := by
  cases hmove with
  | access hpc => exact H.pushAccess hpc
  | @sync r j k' hpc hcurrent =>
    refine H.credited_of_frame (fun _ => rfl) (fun _ => rfl) (fun _ => rfl) ?_
    rintro k q ⟨rfl, rfl, hcause⟩
    have hfull := H.cause r j hpc
    obtain rfl : j = k' := by
      have hsame : h.cause = some (k', r.priority) := hcause
      have hpair := hfull.symm.trans hsame
      simpa using hpair
    simp [waitsFor, hpc]
  | _ => exact credited_of_idle fun _ _ hwait => by simp [waitsFor] at hwait

/-- A server step changes one session. -/
theorem setSession (H : CreditedInv (s, h)) {k : ℕ} {t : RequestSession}
    (htail : ∀ q, (t.ring q).cursor.tail = ((s.session k).ring q).cursor.tail)
    (hcap : ∀ q, (t.ring q).cursor.capacity = ((s.session k).ring q).cursor.capacity)
    (ht : ∀ q, (s.session k).Credited (h.drained k) q →
      t.Credited (t.dispatcher.queue? <|> h.drained k) q) :
    ∀ j q, waitsFor (s.setSession k t, h.note (s.setSession k t)) j q →
      ((s.setSession k t).session j).Credited ((h.note (s.setSession k t)).drained j) q := by
  intro j q hwait
  have hbefore : waitsFor (s, h) j q := by
    have hsubmit : (s.setSession k t).submit = s.submit := rfl
    refine waitsFor_of_note hsubmit ?_ ?_ hwait
    · by_cases hj : j = k
      · subst hj
        simp [RequestPath.setSession, htail]
      · simp [RequestPath.setSession, hj]
    · by_cases hj : j = k
      · subst hj
        simp [RequestPath.setSession, hcap]
      · simp [RequestPath.setSession, hj]
  by_cases hj : j = k
  · subst hj
    simpa [CreditHistory.note, RequestPath.setSession] using ht q (H.credited j q hbefore)
  · have hsame : ((s.setSession k t).session j) = s.session j := by
      simp [RequestPath.setSession, hj]
    rw [H.note_drained_of_eq (by rw [hsame]), hsame]
    exact H.credited j q hbefore

theorem move (H : CreditedInv (s, h)) {a : RequestAction} (hmove : RequestMove s a s') :
    ∀ k q, waitsFor (s', h.note s') k q →
      (s'.session k).Credited ((h.note s').drained k) q := by
  -- a session whose rings, credit and dispatcher are as before
  have hquiet : ∀ k (t : RequestSession), t.ring = (s.session k).ring →
      t.credit = (s.session k).credit → t.dispatcher = (s.session k).dispatcher →
      ∀ j q, waitsFor (s.setSession k t, h.note (s.setSession k t)) j q →
        ((s.setSession k t).session j).Credited ((h.note (s.setSession k t)).drained j) q := by
    intro k t hring hcredit hpc
    refine H.setSession (fun q => by rw [hring]) (fun q => by rw [hring]) ?_
    intro q hq
    have hlast : (t.dispatcher.queue? <|> h.drained k) = h.drained k := by
      rw [hpc]
      cases hdrain : (s.session k).dispatcher.queue? with
      | none => rfl
      | some q' => exact (H.drained k q' hdrain).symm
    rw [hlast]
    exact hq.congr hring hcredit hpc
  cases hmove with
  | invoke | rejectInvoke =>
    exact H.credited_of_frame (fun _ => rfl) (fun _ => rfl) (fun _ => rfl)
      fun _ _ => waitsFor_of_note rfl rfl rfl
  | submit hsubmit => exact H.submitMove hsubmit
  | giveUp | waitFailed => exact credited_of_idle fun _ _ hwait => by simp [waitsFor] at hwait
  | openSession hlock hcurrent =>
    intro k q hwait
    exact hquiet s.opened { s.session s.opened with state := .alive } rfl rfl rfl k q hwait
  | closeSession hlock =>
    exact H.credited_of_frame (fun _ => rfl) (fun _ => rfl) (fun _ => rfl)
      fun _ _ => waitsFor_of_note rfl rfl rfl
  | drain k q' hpc =>
    refine H.setSession (fun _ => rfl) (fun _ => rfl) ?_
    rintro q (hfull | hcredit | hsignal)
    · exact .inl hfull
    · exact .inr (.inl hcredit)
    · simp [RequestSession.signalsFor, hpc] at hsignal
  | dispatch k ok =>
    have htail := (s.session k).tail_dispatchStep ok (s.session k).dispatcher
    have hcap := fun q => ((s.session k).dispatchStep_rings ok (s.session k).dispatcher q).1
    exact H.setSession htail hcap fun q hq => hq.dispatchStep (H.drained k) (H.rings k) ok
  | runTask k hrun =>
    simp only [RequestSession.runTask, Option.map_eq_some_iff] at hrun
    obtain ⟨r, -, rfl⟩ := hrun
    exact hquiet k _ rfl rfl rfl
  | markBroken k => exact hquiet k _ (by simp) (by simp) (by simp)

theorem syncing_of_note (h : CreditHistory) (s : RequestPath) (r : PendingSubmit) (k : ℕ)
    (hpc : s.submit = .syncing r k) : (h.note s).cause = some (k, r.priority) := by
  simp [CreditHistory.note, hpc]

theorem of_reach {caps : ℕ → Priority → RingCapacity} {m : ℕ → PendingSubmit}
    {p : RequestPath × CreditHistory} (hreach : (creditPath caps m).Reach Machine.Always p) :
    CreditedInv p := by
  refine Machine.Reach.invariant ?_ ?_ hreach
  · refine ⟨RequestPath.Rings.init ringCounts_invariant caps m, ?_, ?_, ?_⟩
    · intro k q hring
      simp [creditPath, Machine.track, requestPath, RequestSession.create,
        DispatcherPc.queue?] at hring
    · intro r k hpc
      simp [creditPath, Machine.track, requestPath] at hpc
    · exact credited_of_idle fun _ _ hwait => hwait
  · rintro ⟨s, h⟩ a ⟨s', h'⟩ H - hs
    obtain ⟨hs', hnote⟩ := Machine.track_step hs
    dsimp only at hs' hnote
    subst hnote
    have hmove := requestPath_move hs'
    exact ⟨H.rings.move ringCounts_invariant (fun _ _ _ _ => trivial) hmove,
      drained_note h s', syncing_of_note h s', H.move hmove⟩

end CreditedInv

/-- In every run, a submit thread that is blocked because of a ring with room finds a
credit, or the dispatcher draining that ring has decided, or is about to decide, to
signal one. -/
theorem requestCreditKept_of_reach (caps : ℕ → Priority → RingCapacity) (m : ℕ → PendingSubmit)
    {p : RequestPath × CreditHistory} (hreach : (creditPath caps m).Reach Machine.Always p) :
    RequestCreditKept p := by
  intro r k hpc hcause hroom
  have H := CreditedInv.of_reach hreach
  have hwait : waitsFor p k r.priority := by simp [waitsFor, hpc, hcause]
  rcases H.credited k r.priority hwait with hfull | hcredit | hsignal
  · exact absurd hroom (UInt32.not_lt.mpr hfull)
  · exact .inl hcredit
  · exact .inr hsignal

/-- Rings of a single slot with their history. -/
def oneSlotCredit : Machine (RequestPath × CreditHistory) RequestAction :=
  creditPath (fun _ _ => ⟨1, validRingSize_one⟩) fun _ => ⟨0, .normal, {}⟩

/-- The dispatcher has popped from the full ring that the submit thread waits for, and is
about to count. -/
def popBeforeRecount : List RequestAction :=
  fillAndWait ++ .drain 0 .normal :: List.replicate 6 (.dispatch 0 true)

theorem requestCreditKept_recount :
    ∃ p, oneSlotCredit.run oneSlotCredit.init popBeforeRecount = some p ∧
      (p.1.submit matches .waiting _ 0) ∧ p.2.cause = some (0, .normal) ∧
      ringCount ((p.1.session 0).ring .normal).cursor = 0 ∧ (p.1.session 0).credit = 0 ∧
      RequestCreditKept p := by
  have hrun : (oneSlotCredit.run oneSlotCredit.init popBeforeRecount).any
      (fun p => (p.1.submit matches .waiting _ 0) ∧ p.2.cause = some (0, .normal) ∧
        ringCount ((p.1.session 0).ring .normal).cursor = 0 ∧ (p.1.session 0).credit = 0)
      = true := by decide +kernel
  obtain ⟨p, hs, hpc, hcause, hcount, hcredit⟩ := Machine.exists_of_any hrun
  exact ⟨p, hs, hpc, hcause, hcount, hcredit,
    requestCreditKept_of_reach _ _ (Machine.reach_of_run popBeforeRecount hs)⟩

end MemRpc
