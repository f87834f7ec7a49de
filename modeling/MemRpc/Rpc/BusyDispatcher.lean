import MemRpc.Rpc.ExecutorBacklog

/-!
# A dispatcher that does not spin

An iteration of `DispatcherLoop` is useful if it pops a request, and cheap if it blocks, in
`poll` or in `WaitForCapacity`. Of the others there are few in a row. An iteration that leaves
a ring with entries has found its executor full when it came to drain it and with room when
it looked for a backlog, and an iteration that returns from `poll` at once resets the counter
of an eventfd. Without a push neither can be repeated often: `potential` counts the executors
that are full and have work, the eventfds that are readable, and the signal that the submit
thread still owes.

That needs `DrainQueue` to pop what it could submit. `PopRequest` refuses it on a session that
is broken, while `SpinForRingActivity` looks at the ring only: then every iteration is short,
pops nothing and does not block.

## Main definitions

* `LoopHistory`: the iterations in a row that neither popped nor blocked.
* `countedLoop`: `backlogLoop` with this history.
* `potential`: what bounds them.
* `DrainedWhenBroken`: the dispatcher does not run on a broken session with entries.
-/

namespace MemRpc

open Concurrency

namespace BacklogLoop

/-! ## Iterations -/

/-- The dispatcher is between two iterations. -/
def atTop (s : BacklogLoop) : Bool := s.wait = .outside && s.dispatch.loop = .top

/-- The dispatcher is blocked in `WaitForCapacity` or in `poll`. -/
def isBlocked (s : BacklogLoop) : Bool :=
  match s.wait with
  | .blocked _ => true
  | .entering _ => false
  | .outside =>
    s.dispatch.loop = .polling && s.dispatch.event .high = 0 && s.dispatch.event .normal = 0

/-- How many requests there are on both rings. -/
def entryCount (entries : Priority → List PendingSubmit) : ℕ :=
  (entries .high).length + (entries .normal).length

/-- How many requests were pushed. -/
def pushCount (s : BacklogLoop) : ℕ := entryCount s.dispatch.session.pushed

/-- How many requests were popped. -/
def popCount (s : BacklogLoop) : ℕ := entryCount s.dispatch.session.popped

theorem entryCount_lt_update (entries : Priority → List PendingSubmit) (q : Priority)
    (e : PendingSubmit) :
    entryCount entries < entryCount (Function.update entries q (entries q ++ [e])) := by
  cases q <;> simp [entryCount]

end BacklogLoop

/-- The iterations of the dispatcher. -/
structure LoopHistory where
  /-- How many complete iterations in a row have neither popped nor blocked, since the last
  push. -/
  idle : ℕ := 0
  /-- The current iteration has popped, blocked or seen a push. -/
  excused : Bool := false
  /-- The state in which the current iteration began. -/
  start : BacklogLoop

/-- The history after a step. -/
def LoopHistory.note (h : LoopHistory) (s s' : BacklogLoop) : LoopHistory :=
  let excused := h.excused || s.popCount < s'.popCount || s'.isBlocked
  if s.pushCount < s'.pushCount then { idle := 0, excused := !s'.atTop, start := s' }
  else if s'.atTop && !s.atTop then
    { idle := if excused then 0 else h.idle + 1, excused := false, start := s' }
  else if excused then { idle := 0, excused := true, start := h.start }
  else h

/-- A timeout ends a wait that has begun. -/
def BacklogLoop.timely (s : BacklogLoop) : BacklogAction → Bool
  | .timeout => s.isBlocked
  | _ => true

/-- `backlogLoop` with the history of its iterations. -/
def countedLoop (caps : Priority → RingCapacity) (m : ℕ → PendingSubmit)
    (workerThreads : Priority → UInt32) :
    Machine (BacklogLoop × LoopHistory) BacklogAction where
  init :=
    ((backlogLoop caps m workerThreads).init,
      { start := (backlogLoop caps m workerThreads).init })
  step p a :=
    if p.1.timely a then
      ((backlogLoop caps m workerThreads).step p.1 a).map fun s' => (s', p.2.note p.1 s')
    else none

namespace BacklogLoop

/-- The request ring holds entries. -/
def NonEmpty (s : BacklogLoop) (q : Priority) : Prop :=
  (s.dispatch.session.ring q).cursor.tail ≠ (s.dispatch.session.ring q).cursor.head

instance (s : BacklogLoop) (q : Priority) : Decidable (s.NonEmpty q) :=
  inferInstanceAs (Decidable (_ ≠ _))

/-- The dispatcher does not run on a broken session that has requests left. -/
def DrainedWhenBroken (p : BacklogLoop × LoopHistory) : BacklogAction → Prop
  | .dispatcher =>
    p.1.dispatch.session.state = .broken → ¬ p.1.NonEmpty .high ∧ ¬ p.1.NonEmpty .normal
  | _ => True

instance (p : BacklogLoop × LoopHistory) (a : BacklogAction) :
    Decidable (DrainedWhenBroken p a) := by
  unfold DrainedWhenBroken
  split <;> infer_instance

end BacklogLoop

/-! ## The potential -/

/-- The submit thread has pushed and not signalled yet. -/
def NotifyPc.owes : NotifyPc → Bool
  | .rechecking _ | .loadTail _ | .loadHead _ _ | .signalling _ => true
  | .idle | .checking _ | .pushing _ => false

variable {q : Priority}

namespace DispatchLoop

/-- The eventfd is readable. -/
def readable (d : DispatchLoop) (q : Priority) : ℕ := if d.event q = 0 then 0 else 1

/-- The signals that are there, or owed. -/
def signals (d : DispatchLoop) : ℕ :=
  d.readable .high + d.readable .normal + if d.client.owes then 1 else 0

variable {d d' : DispatchLoop}

/-- Without a push, the submit thread signals what it owes. -/
theorem clientStep_signals (hs : d.clientStep = some d')
    (hpushed : d'.session.pushed = d.session.pushed) :
    (∀ q, d.event q ≠ 0 → d'.event q ≠ 0) ∧ d'.signals ≤ d.signals := by
  unfold clientStep at hs
  cases hpc : d.client with
  | idle => simp [hpc] at hs
  | checking | rechecking | loadHead =>
    simp only [hpc] at hs
    split at hs <;> cases hs <;> simp [signals, readable, hpc, NotifyPc.owes]
  | loadTail r =>
    simp only [hpc] at hs
    cases hs
    simp [signals, readable, hpc, NotifyPc.owes]
  | signalling r =>
    simp only [hpc] at hs
    cases hs
    constructor
    · intro q hq
      by_cases h : q = r.priority
      · simp [h]
      · simpa [h] using hq
    · cases hr : r.priority with
      | normal =>
        simp [signals, readable, hpc, NotifyPc.owes]
      | high =>
        simp [signals, readable, hpc, NotifyPc.owes]
        split <;> split <;> omega
  | pushing pc =>
    simp only [hpc] at hs
    split at hs <;> cases hs
    · simp [signals, readable, hpc, NotifyPc.owes]
    · -- a push that returns has recorded its entry
      have hentry := congrFun hpushed pc.entry.priority
      simp at hentry
    · simp [signals, readable, hpc, NotifyPc.owes]

theorem clientStep_highWork (hs : d.clientStep = some d') : d'.highWork = d.highWork := by
  unfold clientStep at hs
  cases hpc : d.client with
  | idle => simp [hpc] at hs
  | checking r | rechecking r | loadHead r tail | pushing pc =>
    simp only [hpc] at hs
    split at hs <;> cases hs <;> rfl
  | loadTail r | signalling r =>
    simp only [hpc] at hs
    cases hs
    rfl

/-- `DrainEventFd` of an eventfd that is readable. -/
theorem signals_lt_of_consume (h : d.event q ≠ 0)
    (hevent : d'.event = Function.update d.event q 0) (hclient : d'.client = d.client) :
    d'.signals < d.signals := by
  have hzero : d'.readable q = 0 := by simp [readable, hevent]
  have hone : d.readable q = 1 := by simp [readable, h]
  have hsame : ∀ q' ≠ q, d'.readable q' = d.readable q' := by
    intro q' hne
    simp [readable, hevent, hne]
  unfold signals
  rw [hclient]
  cases q with
  | normal =>
    have := hsame .high (by decide)
    omega
  | high =>
    have := hsame .normal (by decide)
    omega

end DispatchLoop

namespace BacklogLoop

/-- A ring has entries that its executor does not accept. -/
def lack (s : BacklogLoop) (q : Priority) : ℕ :=
  if s.NonEmpty q ∧ (s.pool q).hasCapacity = false then 1 else 0

/-- What the iterations that neither pop nor block use up. -/
def potential (s : BacklogLoop) : ℕ := s.lack .high + s.lack .normal + s.dispatch.signals

theorem potential_le (s : BacklogLoop) : s.potential ≤ 5 := by
  unfold potential lack DispatchLoop.signals DispatchLoop.readable
  split <;> split <;> split <;> split <;> split <;> omega

/-- What is known of a state since the iteration began in `s₀`, if it has neither popped nor
seen a push. -/
structure Since (s₀ s : BacklogLoop) : Prop where
  nonEmpty : ∀ q, s.NonEmpty q ↔ s₀.NonEmpty q
  room : ∀ q, (s₀.pool q).hasCapacity = true → (s.pool q).hasCapacity = true
  signals : s.dispatch.signals ≤ s₀.dispatch.signals

variable {s₀ s s' : BacklogLoop}

theorem Since.lack_le (H : Since s₀ s) (q : Priority) : s.lack q ≤ s₀.lack q := by
  have hroom := H.room q
  have hne := H.nonEmpty q
  unfold lack
  split
  next h =>
    have hfull : (s₀.pool q).hasCapacity = false := by
      by_contra hcap
      simp [hroom (by simpa using hcap)] at h
    rw [if_pos ⟨hne.mp h.1, hfull⟩]
  next => exact Nat.zero_le _

/-- The executor of a ring with entries was full, and has room now. -/
theorem Since.potential_lt_of_room (H : Since s₀ s) (hne : s.NonEmpty q)
    (hfull : (s₀.pool q).hasCapacity = false) (hroom : (s.pool q).hasCapacity = true) :
    s.potential < s₀.potential := by
  have hlt : s.lack q < s₀.lack q := by
    have hne₀ := (H.nonEmpty q).mp hne
    simp [lack, hne₀, hfull, hroom]
  have hhigh := H.lack_le .high
  have hnormal := H.lack_le .normal
  have hsignals := H.signals
  unfold potential
  cases q <;> omega

theorem Since.potential_lt_of_signals (H : Since s₀ s)
    (hlt : s.dispatch.signals < s₀.dispatch.signals) : s.potential < s₀.potential := by
  have hhigh := H.lack_le .high
  have hnormal := H.lack_le .normal
  unfold potential
  omega

end BacklogLoop

/-! ## Where an iteration is -/

namespace RequestSession

/-- A call of `DrainQueue` that has not popped. -/
def Draining (s : RequestSession) (q : Priority) : Prop :=
  match s.dispatcher with
  | .outside => True
  | .draining q' notFull | .checking q' notFull => q' = q ∧ notFull = false
  | .popping q' notFull pc =>
    q' = q ∧ notFull = false ∧ ∀ tail, pc = .loadHead tail → tail = (s.ring q).cursor.tail
  | .counting _ _ _ | .submitting _ _ _ | .signalling => False

theorem setRing_self (s : RequestSession) (q : Priority) : s.setRing q (s.ring q) = s := by
  simp [setRing]

/-- A step of such a call that does not pop changes nothing but its point. The call returns
from a ring with entries only if the executor is full or the session is broken. -/
theorem Draining.step {s : RequestSession} {ok : Bool} (h : s.Draining q)
    (hout : s.dispatcher ≠ .outside)
    (hpopped : (s.dispatchStep ok s.dispatcher).popped = s.popped) :
    ∃ pc, s.dispatchStep ok s.dispatcher = { s with dispatcher := pc } ∧
      ({ s with dispatcher := pc } : RequestSession).Draining q ∧
      (pc = .outside → (s.ring q).cursor.tail ≠ (s.ring q).cursor.head →
        (s.dispatcher = .draining q false ∧ ok = false) ∨ s.state = .broken) := by
  unfold Draining at h
  cases hpc : s.dispatcher with
  | outside => exact absurd hpc hout
  | draining q' nf =>
    simp only [hpc] at h
    obtain ⟨rfl, rfl⟩ := h
    cases ok with
    | true => exact ⟨_, rfl, ⟨rfl, rfl⟩, fun h => by cases h⟩
    | false => exact ⟨.outside, rfl, trivial, fun _ _ => .inl ⟨rfl, rfl⟩⟩
  | checking q' nf =>
    simp only [hpc] at h
    obtain ⟨rfl, rfl⟩ := h
    cases hstate : s.state with
    | alive =>
      exact ⟨.popping q' false .loadTail, by simp [dispatchStep, hstate],
        ⟨rfl, rfl, fun _ h => by cases h⟩, fun h => by cases h⟩
    | broken =>
      exact ⟨.outside, by simp [dispatchStep, hstate, leaveDrain], trivial,
        fun _ _ => .inr rfl⟩
  | popping q' nf pc =>
    simp only [hpc] at h
    obtain ⟨rfl, rfl, htail⟩ := h
    cases pc with
    | loadTail =>
      refine ⟨.popping q' false (.loadHead (s.ring q').cursor.tail), ?_, ⟨rfl, rfl, ?_⟩,
        fun h => by cases h⟩
      · simp [dispatchStep, popStep, setRing_self]
      · rintro tail ⟨⟩
        rfl
    | loadHead tail =>
      obtain rfl := htail tail rfl
      by_cases hempty : (s.ring q').cursor.tail = (s.ring q').cursor.head
      · refine ⟨.outside, ?_, trivial, fun _ hne => absurd hempty hne⟩
        simp [dispatchStep, popStep, hempty, setRing_self, leaveDrain]
      · refine ⟨.popping q' false (.readSlot (s.ring q').cursor.head), ?_,
          ⟨rfl, rfl, fun _ h => by cases h⟩, fun h => by cases h⟩
        simp [dispatchStep, popStep, hempty, setRing_self]
    | readSlot head =>
      refine ⟨.popping q' false (.storeHead ((s.ring q').readSlot head) head), ?_,
        ⟨rfl, rfl, fun _ h => by cases h⟩, fun h => by cases h⟩
      simp [dispatchStep, popStep, setRing_self]
    | storeHead e head =>
      have hentry := congrFun hpopped q'
      simp [hpc, dispatchStep, popStep] at hentry
  | counting | submitting | signalling => simp [hpc] at h

end RequestSession

namespace BacklogLoop

variable {s₀ s s' : BacklogLoop}

/-- The ring was drained, as far as its executor had room when the iteration began. -/
def Drained (s₀ s : BacklogLoop) (q : Priority) : Prop :=
  s.NonEmpty q → (s₀.pool q).hasCapacity = false

/-- A call of `DrainQueue` that has not popped, and leaves the ring drained. -/
def Drains (s₀ s : BacklogLoop) (q : Priority) : Prop :=
  s.dispatch.session.Draining q ∧ (s.dispatch.session.dispatcher = .outside → Drained s₀ s q)

/-- What is known at the points of an iteration that has neither popped nor blocked. -/
def Phase (s₀ s : BacklogLoop) : Prop :=
  match s.wait with
  | .entering q => (∀ q, Drained s₀ s q) ∧ s.NonEmpty q
  | .blocked _ => False
  | .outside =>
    match s.dispatch.loop with
    | .top => True
    | .drainHigh => Drains s₀ s .high
    | .drainNormal => Drained s₀ s .high ∧ Drains s₀ s .normal
    | .backlogHigh => ∀ q, Drained s₀ s q
    | .backlogNormal highBacklogged =>
      (∀ q, Drained s₀ s q) ∧
        if highBacklogged then s.NonEmpty .high
        else s.NonEmpty .high → (s.pool .high).hasCapacity = true
    | .spinHigh _ | .spinNormal _ =>
      ∀ q, Drained s₀ s q ∧ (s.NonEmpty q → (s.pool q).hasCapacity = true)
    | .polling => s.dispatch.event .high ≠ 0 ∨ s.dispatch.event .normal ≠ 0
    | .consumeHigh normalReady =>
      s.dispatch.event .high ≠ 0 ∧ (normalReady = true → s.dispatch.event .normal ≠ 0)
    | .redrainHigh normalReady =>
      s.dispatch.session.Draining .high ∧ s.dispatch.signals < s₀.dispatch.signals ∧
        (normalReady = true → s.dispatch.event .normal ≠ 0)
    | .polledHigh normalReady =>
      (s.dispatch.signals < s₀.dispatch.signals ∨ normalReady = true) ∧
        (normalReady = true → s.dispatch.event .normal ≠ 0)
    | .consumeNormal => s.dispatch.event .normal ≠ 0
    | .redrainNormal =>
      s.dispatch.session.Draining .normal ∧ s.dispatch.signals < s₀.dispatch.signals

/-- An iteration that has neither popped nor blocked nor seen a push. -/
structure Unproductive (s₀ s : BacklogLoop) : Prop extends Since s₀ s where
  phase : Phase s₀ s
  highWork : s.dispatch.loop ≠ .top → s.dispatch.highWork = false

/-- Where the dispatcher can be in any run. -/
structure Placed (s : BacklogLoop) : Prop where
  waiting : s.wait ≠ .outside → s.dispatch.loop = .top
  away : s.dispatch.loop.queue? = none → s.dispatch.session.dispatcher = .outside
  running : s.exited = false → ∀ q, (s.pool q).running = true
  exited : s.exited = true → s.atTop = true

theorem pending_iff (q : Priority) : s.dispatch.pending q = true ↔ s.NonEmpty q := by
  constructor
  · intro h hempty
    simp [DispatchLoop.pending, ringCount, hempty] at h
  · intro hne
    by_contra h
    exact hne (DispatchLoop.empty_of_not_pending (by simpa using h))

/-- A step that leaves the rings and the executors alone, and adds no signal. -/
theorem Since.congr (H : Since s₀ s)
    (hring : s'.dispatch.session.ring = s.dispatch.session.ring) (hpool : s'.pool = s.pool)
    (hsignals : s'.dispatch.signals ≤ s.dispatch.signals) : Since s₀ s' where
  nonEmpty q := by
    rw [← H.nonEmpty q, NonEmpty, NonEmpty, hring]
  room q h := by
    rw [hpool]
    exact H.room q h
  signals := hsignals.trans H.signals

/-- An executor that is full now was full when the iteration began. -/
theorem Since.full (H : Since s₀ s) (h : (s.pool q).hasCapacity = false) :
    (s₀.pool q).hasCapacity = false := by
  by_contra hroom
  simp [H.room q (by simpa using hroom)] at h

namespace Unproductive

/-- A call of `DrainQueue` that has not popped submits nothing. -/
theorem submitted (H : Unproductive s₀ s) (P : Placed s) (hwait : s.wait = .outside) :
    s.submitted = s.pool := by
  have hphase := H.phase
  unfold BacklogLoop.submitted
  cases hpc : s.dispatch.session.dispatcher with
  | submitting q nf task =>
    have hqueue : s.dispatch.loop.queue? ≠ none := by
      intro hnone
      simp [P.away hnone] at hpc
    cases hloop : s.dispatch.loop <;> simp [hloop, LoopPc.queue?] at hqueue <;>
      simp [Phase, hwait, hloop, Drains, RequestSession.Draining, hpc] at hphase
  | _ => rfl

/-- A step to another point of the loop, or to a wait. -/
theorem goto (H : Unproductive s₀ s) (hloop : s.dispatch.loop ≠ .top) {pc : LoopPc}
    {wait : CapacityWait}
    (hphase : Phase s₀ { s with dispatch := { s.dispatch with loop := pc }, wait }) :
    Unproductive s₀ { s with dispatch := { s.dispatch with loop := pc }, wait } :=
  ⟨H.toSince.congr rfl rfl le_rfl, hphase, fun _ => H.highWork hloop⟩

/-- A step inside `DrainQueue` that does not pop. -/
theorem inside (H : Unproductive s₀ s) {highWork : Bool}
    (hdrain : s.dispatch.session.Draining q) (hloop : s.dispatch.loop ≠ .top)
    (hin : s.dispatch.session.dispatcher ≠ .outside)
    (hwork : highWork = true → s.dispatch.highWork = true ∨ ∃ nf e,
      (s.dispatch.session.dispatchStep (s.pool s.asked).hasCapacity
        s.dispatch.session.dispatcher).dispatcher = .counting .high nf e)
    (hbroken : s.dispatch.session.state = .broken → ¬ s.NonEmpty q)
    (hpopped : (s.dispatch.session.dispatchStep (s.pool s.asked).hasCapacity
      s.dispatch.session.dispatcher).popped = s.dispatch.session.popped)
    (hphase : ∀ pc, ({ s.dispatch.session with dispatcher := pc } : RequestSession).Draining q →
      (pc = .outside → Drained s₀ s q) →
      Phase s₀ { s with
        dispatch := { s.dispatch with session := { s.dispatch.session with dispatcher := pc } }
        wait := .outside }) :
    Unproductive s₀ { s with
      dispatch := { s.dispatch with
        session := s.dispatch.session.dispatchStep (s.pool s.asked).hasCapacity
          s.dispatch.session.dispatcher
        highWork }
      wait := .outside } := by
  obtain ⟨pc, hsession, hdraining, hreturn⟩ := hdrain.step hin hpopped
  have hidle : highWork = s.dispatch.highWork := by
    rw [H.highWork hloop, Bool.eq_false_iff]
    intro hset
    rcases hwork hset with hbefore | ⟨nf, e, hcounting⟩
    · rw [H.highWork hloop] at hbefore
      cases hbefore
    · rw [hsession] at hcounting
      obtain rfl : pc = .counting .high nf e := hcounting
      exact hdraining
  rw [hidle, hsession]
  refine ⟨H.toSince.congr rfl rfl le_rfl, hphase pc hdraining ?_, fun _ => H.highWork hloop⟩
  intro hpc hne
  rcases hreturn hpc hne with ⟨hdrain, hfull⟩ | hbroke
  · have hasked : s.asked = q := by simp [asked, hdrain]
    exact H.full (hasked ▸ hfull)
  · exact absurd hne (hbroken hbroke)

/-- A ring whose executor has made room since it was drained is found before the poll. -/
theorem found (H : Unproductive s₀ s)
    (hspin : Drained s₀ s q ∧ (s.NonEmpty q → (s.pool q).hasCapacity = true))
    (hpending : s.dispatch.pending q = true) : s.potential < s₀.potential := by
  have hnonempty := (pending_iff q).mp hpending
  exact H.toSince.potential_lt_of_room hnonempty (hspin.1 hnonempty) (hspin.2 hnonempty)

end Unproductive

/-- The iteration goes on, or it has ended with less potential. -/
def Continues (s₀ s : BacklogLoop) : Prop :=
  (s.atTop = true → s.potential < s₀.potential) ∧ (s.atTop = false → Unproductive s₀ s)

namespace Continues

theorem goOn (h : Unproductive s₀ s) (htop : s.atTop = false) : Continues s₀ s :=
  ⟨fun hcontra => by simp [htop] at hcontra, fun _ => h⟩

theorem ends (h : s.potential < s₀.potential) (htop : s.atTop = true) : Continues s₀ s :=
  ⟨fun _ => h, fun hcontra => by simp [htop] at hcontra⟩

end Continues

namespace Unproductive

/-- The check of the normal backlog. -/
theorem checkNormal (H : Unproductive s₀ s) (hwait : s.wait = .outside) {highBacklogged : Bool}
    (hloop : s.dispatch.loop = .backlogNormal highBacklogged) :
    (∀ q, Drained s₀ s q) ∧ if highBacklogged then s.NonEmpty .high
      else s.NonEmpty .high → (s.pool .high).hasCapacity = true := by
  simpa only [Phase, hwait, hloop] using H.phase

/-- The dispatcher waits for the executor of a ring with entries. -/
theorem toWait (H : Unproductive s₀ s) (hwait : s.wait = .outside) {highBacklogged : Bool}
    (hloop : s.dispatch.loop = .backlogNormal highBacklogged)
    (h : highBacklogged = true ∨
      s.dispatch.pending .normal = true ∧ (s.pool .normal).hasCapacity = false) :
    Continues s₀ { s with
      dispatch := { s.dispatch with loop := .top }
      wait := s.backlogWait } := by
  obtain ⟨hdrained, hhigh⟩ := H.checkNormal hwait hloop
  obtain ⟨q, hq, hnonempty⟩ : ∃ q, s.backlogWait = .entering q ∧ s.NonEmpty q := by
    cases highBacklogged with
    | true => exact ⟨.high, by simp [backlogWait, hloop], by simpa using hhigh⟩
    | false =>
      obtain ⟨hpending, hfull⟩ := h.resolve_left (by simp)
      exact ⟨.normal, by simp [backlogWait, hloop, hpending, hfull],
        (pending_iff .normal).mp hpending⟩
  rw [hq]
  refine .goOn (H.goto (by simp [hloop]) ?_) (by simp [atTop])
  simp only [Phase]
  exact ⟨hdrained, hnonempty⟩

/-- No ring is backlogged. -/
theorem toSpin (H : Unproductive s₀ s) (hwait : s.wait = .outside)
    (hloop : s.dispatch.loop = .backlogNormal false)
    (h : s.dispatch.pending .normal = true → (s.pool .normal).hasCapacity = true) :
    Continues s₀ { s with
      dispatch := { s.dispatch with loop := .spinHigh 0 }
      wait := s.backlogWait } := by
  obtain ⟨hdrained, hhigh⟩ := H.checkNormal hwait hloop
  rw [if_neg (by simp)] at hhigh
  have houtside : s.backlogWait = .outside := by simpa [backlogWait, hloop] using h
  rw [houtside]
  refine .goOn (H.goto (by simp [hloop]) ?_) (by simp [atTop])
  simp only [Phase]
  rintro (_ | _)
  · exact ⟨hdrained .normal, fun hnonempty => h ((pending_iff .normal).mpr hnonempty)⟩
  · exact ⟨hdrained .high, hhigh⟩

/-- A step of a `DrainQueue` call of the iteration that does not pop. -/
theorem insideStep (H : Unproductive s₀ s) (hwait : s.wait = .outside)
    (hbroken : s.dispatch.session.state = .broken → ∀ q, ¬ s.NonEmpty q) {highWork : Bool}
    (hqueue : s.dispatch.loop.queue? ≠ none)
    (hin : s.dispatch.session.dispatcher ≠ .outside)
    (hwork : highWork = true → s.dispatch.highWork = true ∨ ∃ nf e,
      (s.dispatch.session.dispatchStep (s.pool s.asked).hasCapacity
        s.dispatch.session.dispatcher).dispatcher = .counting .high nf e)
    (hpopped : (s.dispatch.session.dispatchStep (s.pool s.asked).hasCapacity
      s.dispatch.session.dispatcher).popped = s.dispatch.session.popped) :
    Continues s₀ { s with
      dispatch := { s.dispatch with
        session := s.dispatch.session.dispatchStep (s.pool s.asked).hasCapacity
          s.dispatch.session.dispatcher
        highWork }
      wait := .outside } := by
  have hphase := H.phase
  have hne : s.dispatch.loop ≠ .top := by
    intro htop
    simp [htop, LoopPc.queue?] at hqueue
  refine .goOn ?_ (by simp [atTop, hne])
  cases hloop : s.dispatch.loop with
  | drainHigh =>
    have hdrain : Drains s₀ s .high := by simpa only [Phase, hwait, hloop] using hphase
    refine H.inside hdrain.1 hne hin hwork (fun h => hbroken h .high) hpopped ?_
    intro pc hdraining hdrained
    simp only [Phase, hloop]
    exact ⟨hdraining, hdrained⟩
  | drainNormal =>
    obtain ⟨hhigh, hdrain⟩ : Drained s₀ s .high ∧ Drains s₀ s .normal := by
      simpa only [Phase, hwait, hloop] using hphase
    refine H.inside hdrain.1 hne hin hwork (fun h => hbroken h .normal) hpopped ?_
    intro pc hdraining hdrained
    simp only [Phase, hloop]
    exact ⟨hhigh, hdraining, hdrained⟩
  | redrainHigh normalReady =>
    obtain ⟨hdrain, hlt, hnormal⟩ : s.dispatch.session.Draining .high ∧
        s.dispatch.signals < s₀.dispatch.signals ∧
        (normalReady = true → s.dispatch.event .normal ≠ 0) := by
      simpa only [Phase, hwait, hloop] using hphase
    refine H.inside hdrain hne hin hwork (fun h => hbroken h .high) hpopped ?_
    intro pc hdraining hdrained
    simp only [Phase, hloop]
    exact ⟨hdraining, hlt, hnormal⟩
  | redrainNormal =>
    obtain ⟨hdrain, hlt⟩ : s.dispatch.session.Draining .normal ∧
        s.dispatch.signals < s₀.dispatch.signals := by
      simpa only [Phase, hwait, hloop] using hphase
    refine H.inside hdrain hne hin hwork (fun h => hbroken h .normal) hpopped ?_
    intro pc hdraining hdrained
    simp only [Phase, hloop]
    exact ⟨hdraining, hlt⟩
  | _ => simp [hloop, LoopPc.queue?] at hqueue

/-- One step of the loop, from a point outside of `WaitForCapacity`. -/
theorem loopStep (H : Unproductive s₀ s) (P : Placed s) (hwait : s.wait = .outside)
    (hbroken : s.dispatch.session.state = .broken → ∀ q, ¬ s.NonEmpty q) {d : DispatchLoop}
    (hd : s.dispatch.loopStep (s.pool s.asked).hasCapacity = some d)
    (hpopped : d.session.popped = s.dispatch.session.popped)
    (hs' : s' = { s with dispatch := d, pool := s.pool, wait := s.backlogWait })
    (hblocked : s'.isBlocked = false) : Continues s₀ s' := by
  subst hs'
  have hm := DispatchLoop.LoopMove.of_loopStep hd
  have hphase := H.phase
  generalize hloop : s.dispatch.loop = pc at hm
  by_cases hbacklog : ∃ b, pc = .backlogNormal b
  · obtain ⟨b, rfl⟩ := hbacklog
    have hasked : s.asked = .normal := by simp [asked, P.away (by rw [hloop]; rfl), hloop]
    rw [hasked] at hm
    cases hm with
    | inside hqueue => exact absurd rfl hqueue
    | backlogged h => exact H.toWait hwait hloop h
    | noBacklog h => exact H.toSpin hwait hloop h
  have houtside : s.backlogWait = .outside := by
    cases pc with
    | backlogNormal b => exact absurd ⟨b, rfl⟩ hbacklog
    | _ => simp [backlogWait, hloop]
  rw [houtside] at hblocked ⊢
  -- a step to another point of the iteration
  have hgoto : ∀ {pc'}, pc ≠ .top → pc' ≠ .top →
      Phase s₀ { s with dispatch := { s.dispatch with loop := pc' }, wait := .outside } →
      Continues s₀ { s with dispatch := { s.dispatch with loop := pc' }, wait := .outside } := by
    intro pc' hpc hpc' hphase
    exact .goOn (H.goto (hloop ▸ hpc) hphase) (by simp [atTop, hpc'])
  simp only [Phase, hwait, hloop] at hphase
  cases hm with
  | backlogged | noBacklog => exact absurd ⟨_, rfl⟩ hbacklog
  | inside hqueue hin hwork =>
    exact H.insideStep hwait hbroken (hloop ▸ hqueue) hin hwork hpopped
  | start =>
    refine .goOn ⟨H.toSince.congr rfl rfl le_rfl, ?_, fun _ => rfl⟩
      (by simp [atTop, DispatchLoop.enterDrain])
    simp [Phase, DispatchLoop.enterDrain, Drains, RequestSession.Draining]
  | highWorked hout hwork =>
    rw [H.highWork (by simp [hloop])] at hwork
    cases hwork
  | highIdle hout hwork =>
    refine .goOn ⟨H.toSince.congr rfl rfl le_rfl, ?_, fun _ => hwork⟩
      (by simp [atTop, DispatchLoop.enterDrain])
    refine ⟨hphase.2 hout, ⟨rfl, rfl⟩, ?_⟩
    simp [DispatchLoop.enterDrain]
  | normalDrained hout =>
    refine hgoto (by simp) (by simp) ?_
    rintro (_ | _)
    · exact hphase.2.2 hout
    · exact hphase.1
  | backlogHigh =>
    have hasked : s.asked = .high := by simp [asked, P.away (by rw [hloop]; rfl), hloop]
    rw [hasked]
    refine hgoto (by simp) (by simp) ⟨hphase, ?_⟩
    split
    next h =>
      rw [Bool.and_eq_true] at h
      exact (pending_iff .high).mp h.1
    next h =>
      intro hnonempty
      have hpending : s.dispatch.pending .high = true := (pending_iff .high).mpr hnonempty
      simpa [hpending] using h
  | highFound hpending => exact .ends (H.found (hphase .high) hpending) rfl
  | normalFound hpending => exact .ends (H.found (hphase .normal) hpending) rfl
  | highEmpty | spin => exact hgoto (by simp) (by simp) hphase
  | poll =>
    refine hgoto (by simp) (by simp) ?_
    by_contra hevents
    simp_all [isBlocked, Phase]
  | wakeHigh hevent => exact hgoto (by simp) (by simp) ⟨hevent, by simp⟩
  | wakeNormal hevent => exact hgoto (by simp) (by simp) ⟨.inr rfl, fun _ => hevent⟩
  | consumeHigh =>
    have hlt : DispatchLoop.signals { s.dispatch with
        event := Function.update s.dispatch.event .high 0 } < s.dispatch.signals :=
      DispatchLoop.signals_lt_of_consume hphase.1 rfl rfl
    refine .goOn ⟨H.toSince.congr rfl rfl hlt.le, ?_, fun _ => rfl⟩
      (by simp [atTop, DispatchLoop.enterDrain])
    refine ⟨⟨rfl, rfl⟩, hlt.trans_le H.signals, fun h => ?_⟩
    simpa [DispatchLoop.enterDrain] using hphase.2 h
  | highRedrained hout => exact hgoto (by simp) (by simp) ⟨.inl hphase.2.1, hphase.2.2⟩
  | normalReady hwork => exact hgoto (by simp) (by simp) (hphase.2 rfl)
  | polled h =>
    rw [H.highWork (by simp [hloop])] at h
    obtain rfl := h.resolve_left (by simp)
    exact .ends (H.toSince.potential_lt_of_signals (hphase.1.resolve_right (by simp))) rfl
  | consumeNormal =>
    have hlt : DispatchLoop.signals { s.dispatch with
        event := Function.update s.dispatch.event .normal 0 } < s.dispatch.signals :=
      DispatchLoop.signals_lt_of_consume hphase rfl rfl
    refine .goOn ⟨H.toSince.congr rfl rfl hlt.le, ?_, fun _ => H.highWork (by simp [hloop])⟩
      (by simp [atTop, DispatchLoop.enterDrain])
    exact ⟨⟨rfl, rfl⟩, hlt.trans_le H.signals⟩
  | normalRedrained hout => exact .ends (H.toSince.potential_lt_of_signals hphase.2) rfl

/-- A step of another thread that pushes nothing and takes no room. -/
theorem frame (H : Unproductive s₀ s) (hwait : s'.wait = s.wait)
    (hloop : s'.dispatch.loop = s.dispatch.loop)
    (hdispatcher : s'.dispatch.session.dispatcher = s.dispatch.session.dispatcher)
    (hwork : s'.dispatch.highWork = s.dispatch.highWork)
    (htail : ∀ q, (s'.dispatch.session.ring q).cursor.tail = (s.dispatch.session.ring q).cursor.tail)
    (hhead : ∀ q, (s'.dispatch.session.ring q).cursor.head = (s.dispatch.session.ring q).cursor.head)
    (hroom : ∀ q, (s.pool q).hasCapacity = true → (s'.pool q).hasCapacity = true)
    (hevent : ∀ q, s.dispatch.event q ≠ 0 → s'.dispatch.event q ≠ 0)
    (hsignals : s'.dispatch.signals ≤ s.dispatch.signals) : Unproductive s₀ s' := by
  have hne : ∀ q, s'.NonEmpty q ↔ s.NonEmpty q := by
    intro q
    rw [NonEmpty, NonEmpty, htail, hhead]
  have hdrained : ∀ q, Drained s₀ s q → Drained s₀ s' q := by
    intro q h hnonempty
    exact h ((hne q).mp hnonempty)
  have hdraining : ∀ q, s.dispatch.session.Draining q → s'.dispatch.session.Draining q := by
    intro q h
    unfold RequestSession.Draining at h ⊢
    rw [hdispatcher, htail]
    exact h
  have hphase := H.phase
  refine ⟨⟨fun q => (hne q).trans (H.nonEmpty q), fun q h => hroom q (H.room q h),
    hsignals.trans H.signals⟩, ?_, ?_⟩
  · unfold Phase at hphase ⊢
    rw [hwait]
    cases hw : s.wait with
    | entering q =>
      rw [hw] at hphase
      exact ⟨fun q => hdrained q (hphase.1 q), (hne q).mpr hphase.2⟩
    | blocked q => simp [hw] at hphase
    | outside =>
      simp only [hw] at hphase ⊢
      rw [hloop]
      cases hl : s.dispatch.loop with
      | top => exact trivial
      | drainHigh =>
        rw [hl] at hphase
        exact ⟨hdraining _ hphase.1, fun hout => hdrained _ (hphase.2 (hdispatcher ▸ hout))⟩
      | drainNormal =>
        rw [hl] at hphase
        exact ⟨hdrained _ hphase.1, hdraining _ hphase.2.1,
          fun hout => hdrained _ (hphase.2.2 (hdispatcher ▸ hout))⟩
      | backlogHigh =>
        rw [hl] at hphase
        exact fun q => hdrained q (hphase q)
      | backlogNormal highBacklogged =>
        rw [hl] at hphase
        refine ⟨fun q => hdrained q (hphase.1 q), ?_⟩
        cases highBacklogged with
        | true => exact (hne .high).mpr hphase.2
        | false => exact fun h => hroom _ (hphase.2 ((hne .high).mp h))
      | spinHigh i | spinNormal i =>
        rw [hl] at hphase
        exact fun q => ⟨hdrained q (hphase q).1,
          fun h => hroom q ((hphase q).2 ((hne q).mp h))⟩
      | polling =>
        rw [hl] at hphase
        exact hphase.imp (hevent .high) (hevent .normal)
      | consumeHigh normalReady =>
        rw [hl] at hphase
        exact ⟨hevent _ hphase.1, fun h => hevent _ (hphase.2 h)⟩
      | redrainHigh normalReady =>
        rw [hl] at hphase
        exact ⟨hdraining _ hphase.1, hsignals.trans_lt hphase.2.1,
          fun h => hevent _ (hphase.2.2 h)⟩
      | polledHigh normalReady =>
        rw [hl] at hphase
        exact ⟨hphase.1.imp_left hsignals.trans_lt, fun h => hevent _ (hphase.2 h)⟩
      | consumeNormal =>
        rw [hl] at hphase
        exact hevent _ hphase
      | redrainNormal =>
        rw [hl] at hphase
        exact ⟨hdraining _ hphase.1, hsignals.trans_lt hphase.2⟩
  · rw [hloop, hwork]
    exact H.highWork

/-- The state in which an iteration begins. -/
theorem begin (h : s.atTop = true) : Unproductive s s := by
  simp only [atTop, Bool.and_eq_true, decide_eq_true_eq] at h
  refine ⟨⟨fun _ => .rfl, fun _ => id, le_rfl⟩, ?_, fun hne => absurd h.2 hne⟩
  simp [Phase, h]

end Unproductive

end BacklogLoop

/-! ## Any step -/

/-- A dispatcher pops nothing or one entry. -/
theorem RequestSession.popped_dispatchStep (s : RequestSession) (ok : Bool) (pc : DispatcherPc) :
    (s.dispatchStep ok pc).popped = s.popped ∨
      ∃ q e, (s.dispatchStep ok pc).popped = Function.update s.popped q (s.popped q ++ [e]) := by
  cases pc with
  | draining q nf => cases ok <;> exact .inl rfl
  | checking q nf =>
    simp only [dispatchStep]
    split <;> exact .inl rfl
  | popping q nf pc =>
    simp only [dispatchStep]
    split
    · exact .inl rfl
    · exact .inr ⟨q, _, rfl⟩
    · exact .inl rfl
  | _ => exact .inl rfl

namespace DispatchLoop

variable {d d' : DispatchLoop}

/-- What a step of the loop does to the session: it moves the dispatcher, or it is a step of
`DrainQueue`. -/
theorem loopStep_session {ok : Bool} (hs : d.loopStep ok = some d') :
    (∃ pc, d'.session = { d.session with dispatcher := pc }) ∨
      d'.session = d.session.dispatchStep ok d.session.dispatcher := by
  have hm := LoopMove.of_loopStep hs
  generalize d.loop = pc at hm
  cases hm with
  | inside => exact .inr rfl
  | _ => exact .inl ⟨_, rfl⟩

/-- Outside of `DrainQueue` the dispatcher is outside. -/
theorem loopStep_away {ok : Bool} (hs : d.loopStep ok = some d')
    (haway : d.loop.queue? = none → d.session.dispatcher = .outside) :
    d'.loop.queue? = none → d'.session.dispatcher = .outside := by
  have hm := LoopMove.of_loopStep hs
  generalize hloop : d.loop = pc at hm haway
  cases hm with
  | inside hqueue hin hwork =>
    intro hnone
    exact absurd (hloop ▸ hnone) hqueue
  | start | highIdle | consumeHigh | consumeNormal =>
    intro hnone
    cases hnone
  | highWorked hout | normalDrained hout | highRedrained hout | normalRedrained hout =>
    exact fun _ => hout
  | _ => exact fun _ => haway rfl

end DispatchLoop

/-- A submit thread pushes nothing or one entry, and moves a tail only with a push. -/
theorem DispatchLoop.clientStep_pushed {d d' : DispatchLoop} (hs : d.clientStep = some d') :
    (d'.session.pushed = d.session.pushed ∧ ∀ q, d.client.publishes q = false) ∨
      ∃ q e, d'.session.pushed =
        Function.update d.session.pushed q (d.session.pushed q ++ [e]) := by
  unfold clientStep at hs
  cases hpc : d.client with
  | idle => simp [hpc] at hs
  | checking r | rechecking r | loadHead r tail =>
    simp only [hpc] at hs
    split at hs <;> cases hs <;> exact .inl ⟨rfl, fun _ => rfl⟩
  | loadTail r | signalling r =>
    simp only [hpc] at hs
    cases hs
    exact .inl ⟨rfl, fun _ => rfl⟩
  | pushing pc =>
    cases pc with
    | loadHead r | writeSlot r tail =>
      simp only [hpc, pushStep] at hs
      cases hs
      exact .inl ⟨rfl, fun _ => rfl⟩
    | loadTail r head =>
      simp only [hpc, pushStep] at hs
      split at hs <;> cases hs
      · exact .inl ⟨rfl, fun _ => rfl⟩
      · exact .inr ⟨_, _, rfl⟩
      · exact .inl ⟨rfl, fun _ => rfl⟩
    | storeTail r tail =>
      simp only [hpc, pushStep] at hs
      cases hs
      exact .inr ⟨_, _, rfl⟩

/-- A worker that takes a task makes room. -/
theorem ThreadPool.hasCapacity_takeTask {p p' : ThreadPool PendingSubmit}
    (hs : p.takeTask = some p') :
    (p'.running = p.running) ∧ (p.hasCapacity = true → p'.hasCapacity = true) := by
  unfold takeTask at hs
  split at hs
  · cases hs
  · rename_i hqueue
    split at hs <;> cases hs
    refine ⟨rfl, ?_⟩
    simp only [hasCapacity, hqueue, List.length_cons, Bool.and_eq_true, decide_eq_true_eq]
    rintro ⟨hrunning, hlt⟩
    exact ⟨hrunning, by omega⟩

variable {workerThreads : Priority → UInt32} {caps : Priority → RingCapacity}
  {m : ℕ → PendingSubmit} {a : BacklogAction}

namespace BacklogLoop

variable {s₀ s s' : BacklogLoop}

/-- A step of the dispatcher in an iteration that has neither popped nor blocked. -/
theorem Unproductive.dispatcherStep (H : Unproductive s₀ s) (P : Placed s)
    (hexited : s'.exited = false)
    (hbroken : s.dispatch.session.state = .broken → ∀ q, ¬ s.NonEmpty q)
    (hs : s.dispatcherStep = some s') (hpop : ¬ s.popCount < s'.popCount)
    (hblocked : s'.isBlocked = false) : Continues s₀ s' := by
  unfold BacklogLoop.dispatcherStep at hs
  have hphase := H.phase
  cases hwait : s.wait with
  | entering q =>
    obtain ⟨hdrained, hne⟩ : (∀ q, Drained s₀ s q) ∧ s.NonEmpty q := by
      simpa only [Phase, hwait] using hphase
    simp only [hwait, Option.some.injEq] at hs
    subst hs
    by_cases hcap : (s.pool q).capacityOrStopped = true
    · have hroom : (s.pool q).hasCapacity = true := by
        have hrunning := P.running hexited q
        simpa [ThreadPool.hasCapacity, ThreadPool.capacityOrStopped, hrunning] using hcap
      rw [if_pos hcap]
      refine .ends ?_ (by simp [atTop, P.waiting (by simp [hwait])])
      exact H.toSince.potential_lt_of_room hne (hdrained q hne) hroom
    · simp [isBlocked, hcap] at hblocked
  | blocked q => simp [Phase, hwait] at hphase
  | outside =>
    simp only [hwait] at hs
    split at hs
    · cases hs
    split at hs
    · cases hs
      simp at hexited
    rw [Option.map_eq_some_iff] at hs
    obtain ⟨d, hd, hs'⟩ := hs
    have hpopped : d.session.popped = s.dispatch.session.popped := by
      rcases DispatchLoop.loopStep_session hd with ⟨pc, hsession⟩ | hsession
      · rw [hsession]
      · rw [hsession]
        rcases s.dispatch.session.popped_dispatchStep (s.pool s.asked).hasCapacity
          s.dispatch.session.dispatcher with h | ⟨q, e, h⟩
        · exact h
        · refine absurd ?_ hpop
          rw [← hs', popCount, popCount, hsession, h]
          exact entryCount_lt_update _ _ _
    rw [H.submitted P hwait] at hs'
    exact H.loopStep P hwait hbroken hd hpopped hs'.symm hblocked

/-- What a step of another thread leaves as it is. -/
structure Elsewhere (s s' : BacklogLoop) : Prop where
  wait : s'.wait = s.wait
  loop : s'.dispatch.loop = s.dispatch.loop
  dispatcher : s'.dispatch.session.dispatcher = s.dispatch.session.dispatcher
  exited : s'.exited = s.exited
  running : s.exited = false → ∀ q, (s'.pool q).running = (s.pool q).running

/-- A pool of workers is replaced by another one in the same state. -/
theorem running_update {p : ThreadPool PendingSubmit}
    (h : p.running = (s.pool q).running) (q' : Priority) :
    (Function.update s.pool q p q').running = (s.pool q').running := by
  by_cases hq : q' = q
  · subst hq
    rw [Function.update_self, h]
  · rw [Function.update_of_ne hq]

theorem Elsewhere.of_step (hs : (backlogLoop caps m workerThreads).step s a = some s')
    (hdispatcher : a ≠ .dispatcher)
    (htimeout : a ≠ .timeout) : Elsewhere s s' := by
  cases a with
  | dispatcher => exact absurd rfl hdispatcher
  | timeout => exact absurd rfl htimeout
  | push r =>
    simp only [backlogLoop] at hs
    split at hs <;> cases hs
    exact ⟨rfl, rfl, rfl, rfl, fun _ _ => rfl⟩
  | client =>
    simp only [backlogLoop, Option.map_eq_some_iff] at hs
    obtain ⟨d, hd, rfl⟩ := hs
    obtain ⟨hloop, hdispatcher, -, -⟩ := DispatchLoop.clientStep_frame hd
    exact ⟨rfl, hloop, hdispatcher, rfl, fun _ _ => rfl⟩
  | worker q =>
    simp only [backlogLoop, Option.map_eq_some_iff] at hs
    obtain ⟨p, hp, rfl⟩ := hs
    exact ⟨rfl, rfl, rfl, rfl, fun _ => running_update (ThreadPool.hasCapacity_takeTask hp).1⟩
  | finish q i =>
    simp only [backlogLoop, Option.map_eq_some_iff, ThreadPool.finishTask,
      Option.ite_none_right_eq_some, Option.some.injEq] at hs
    obtain ⟨p, ⟨-, rfl⟩, rfl⟩ := hs
    exact ⟨rfl, rfl, rfl, rfl, fun _ => running_update rfl⟩
  | markBroken =>
    cases hs
    refine ⟨rfl, rfl, ?_, rfl, fun _ _ => rfl⟩
    simp only [RequestSession.breakStep]
    split <;> rfl
  | stop =>
    cases hs
    exact ⟨rfl, rfl, rfl, rfl, fun _ _ => rfl⟩
  | stopPool q =>
    simp only [backlogLoop, Option.ite_none_right_eq_some, Option.some.injEq] at hs
    obtain ⟨hexited, rfl⟩ := hs
    exact ⟨rfl, rfl, rfl, rfl, fun h => by simp [h] at hexited⟩

theorem Elsewhere.atTop (h : Elsewhere s s') : s'.atTop = s.atTop := by
  rw [BacklogLoop.atTop, BacklogLoop.atTop, h.wait, h.loop]

namespace Placed

theorem frame (P : Placed s) (h : Elsewhere s s') : Placed s' where
  waiting := by
    rw [h.wait, h.loop]
    exact P.waiting
  away := by
    rw [h.loop, h.dispatcher]
    exact P.away
  running hrunning q := by
    rw [h.exited] at hrunning
    rw [h.running hrunning]
    exact P.running hrunning q
  exited hexited := by
    rw [h.exited] at hexited
    rw [h.atTop]
    exact P.exited hexited

theorem submitted_running (s : BacklogLoop) (q : Priority) :
    (s.submitted q).running = (s.pool q).running := by
  unfold submitted
  cases hpc : s.dispatch.session.dispatcher with
  | submitting q' nf task =>
    by_cases h : q = q'
    · subst h
      simp only [Function.update_self, ThreadPool.trySubmit]
      split <;> rfl
    · simp only [Function.update_of_ne h]
  | _ => rfl

theorem dispatcherStep (P : Placed s) (hs : s.dispatcherStep = some s') : Placed s' := by
  unfold BacklogLoop.dispatcherStep at hs
  cases hwait : s.wait with
  | entering q =>
    have htop := P.waiting (by simp [hwait])
    simp only [hwait, Option.some.injEq] at hs
    subst hs
    refine ⟨fun _ => htop, P.away, P.running, fun h => ?_⟩
    have := P.exited h
    simp [atTop, hwait] at this
  | blocked q =>
    have htop := P.waiting (by simp [hwait])
    simp only [hwait, Option.ite_none_right_eq_some, Option.some.injEq] at hs
    obtain ⟨-, rfl⟩ := hs
    exact ⟨fun _ => htop, P.away, P.running, fun _ => by simp [atTop, htop]⟩
  | outside =>
    simp only [hwait] at hs
    split at hs
    · cases hs
    next hrunning =>
      split at hs
      next htop =>
        cases hs
        exact ⟨by simp, P.away, nofun, fun _ => by simp [atTop, htop.1]⟩
      next =>
        rw [Option.map_eq_some_iff] at hs
        obtain ⟨d, hd, rfl⟩ := hs
        refine ⟨?_, DispatchLoop.loopStep_away hd P.away, ?_, fun h => absurd h hrunning⟩
        · intro hne
          -- only `HandleBackloggedQueues` starts a wait
          cases hloop : s.dispatch.loop with
          | backlogNormal highBacklogged =>
            have hasked : s.asked = .normal := by
              simp [asked, P.away (by rw [hloop]; rfl), hloop]
            simp only [DispatchLoop.loopStep, hloop, hasked] at hd
            split at hd
            · cases hd
              rfl
            · simp_all [backlogWait]
          | _ => simp [backlogWait, hloop] at hne
        · intro h q
          rw [submitted_running]
          exact P.running h q

theorem timeout (P : Placed s) (hs : s.timeout = some s') : Placed s' := by
  unfold BacklogLoop.timeout at hs
  cases hwait : s.wait with
  | blocked q =>
    have htop := P.waiting (by simp [hwait])
    simp only [hwait, Option.some.injEq] at hs
    subst hs
    exact ⟨fun _ => htop, P.away, P.running, fun _ => by simp [atTop, htop]⟩
  | entering q => simp [hwait] at hs
  | outside =>
    simp only [hwait, Option.map_eq_some_iff, DispatchLoop.pollTimeout] at hs
    obtain ⟨d, hd, rfl⟩ := hs
    split at hd <;> cases hd
    next hloop =>
      exact ⟨by simp, fun _ => P.away (by rw [hloop]; rfl), P.running, fun _ => by simp [atTop]⟩

theorem step (P : Placed s)
    (hs : (backlogLoop caps m workerThreads).step s a = some s') : Placed s' := by
  cases a with
  | dispatcher => exact P.dispatcherStep hs
  | timeout => exact P.timeout hs
  | _ => exact P.frame (.of_step hs (by simp) (by simp))

end Placed

/-- The first step of an iteration does not end it. -/
theorem atTop_dispatcherStep (htop : s.atTop = true) (hexited : s'.exited = false)
    (hs : s.dispatcherStep = some s') : s'.atTop = false := by
  simp only [atTop, Bool.and_eq_true, decide_eq_true_eq] at htop
  unfold dispatcherStep at hs
  simp only [htop.1] at hs
  split at hs
  · cases hs
  split at hs
  · cases hs
    simp at hexited
  · simp only [DispatchLoop.loopStep, htop.2, Option.map_some, Option.some.injEq] at hs
    subst hs
    simp [atTop, DispatchLoop.enterDrain]

/-- Any step but a timeout, in an iteration that neither pops nor blocks nor sees a push. -/
theorem Unproductive.step (H : Unproductive s₀ s) (P : Placed s)
    {h : LoopHistory} (hok : DrainedWhenBroken (s, h) a) (htimeout : a ≠ .timeout)
    (hs : (backlogLoop caps m workerThreads).step s a = some s') (hexited : s'.exited = false)
    (hpush : ¬ s.pushCount < s'.pushCount) (hpop : ¬ s.popCount < s'.popCount)
    (hblocked : s'.isBlocked = false) :
    ((s'.atTop && !s.atTop) = true → s'.potential < s₀.potential) ∧
      ((s'.atTop && !s.atTop) = false → Unproductive s₀ s') := by
  -- another thread does not move the dispatcher
  have hother : s'.atTop = s.atTop → Unproductive s₀ s' →
      ((s'.atTop && !s.atTop) = true → s'.potential < s₀.potential) ∧
        ((s'.atTop && !s.atTop) = false → Unproductive s₀ s') := by
    intro htop hu
    rw [htop]
    exact ⟨by simp, fun _ => hu⟩
  cases a with
  | push r =>
    simp only [backlogLoop] at hs
    split at hs <;> cases hs
    next hidle =>
      refine hother rfl (H.frame rfl rfl rfl rfl (fun _ => rfl) (fun _ => rfl) (fun _ => id)
        (fun _ => id) ?_)
      simp [DispatchLoop.signals, DispatchLoop.readable, hidle, NotifyPc.owes]
  | client =>
    simp only [backlogLoop, Option.map_eq_some_iff] at hs
    obtain ⟨d, hd, rfl⟩ := hs
    obtain ⟨hloop, hdispatcher, -, hring⟩ := DispatchLoop.clientStep_frame hd
    obtain ⟨hpushed, hquiet⟩ | ⟨q, e, hpushed⟩ := DispatchLoop.clientStep_pushed hd
    · obtain ⟨hevent, hsignals⟩ := DispatchLoop.clientStep_signals hd hpushed
      refine hother (by simp [atTop, hloop]) (H.frame rfl hloop hdispatcher ?_ ?_ ?_
        (fun _ => id) hevent hsignals)
      · exact DispatchLoop.clientStep_highWork hd
      · exact fun q => (hring q).2 (hquiet q)
      · exact fun q => (hring q).1
    · refine absurd ?_ hpush
      rw [pushCount, pushCount, hpushed]
      exact entryCount_lt_update _ _ _
  | dispatcher =>
    have hbroken : s.dispatch.session.state = .broken → ∀ q, ¬ s.NonEmpty q := by
      intro hstate
      obtain ⟨hhigh, hnormal⟩ := hok hstate
      rintro (_ | _)
      · exact hnormal
      · exact hhigh
    obtain ⟨hend, hgo⟩ := H.dispatcherStep P hexited hbroken hs hpop hblocked
    cases htop : s.atTop with
    | true => simpa [atTop_dispatcherStep htop hexited hs] using hgo
    | false => simpa using ⟨hend, hgo⟩
  | timeout => exact absurd rfl htimeout
  | worker q =>
    simp only [backlogLoop, Option.map_eq_some_iff] at hs
    obtain ⟨p, hp, rfl⟩ := hs
    refine hother rfl (H.frame rfl rfl rfl rfl (fun _ => rfl) (fun _ => rfl) ?_ (fun _ => id)
      le_rfl)
    intro q' hroom
    by_cases h : q' = q
    · subst h
      simpa using (ThreadPool.hasCapacity_takeTask hp).2 hroom
    · simpa [h] using hroom
  | finish q i =>
    simp only [backlogLoop, Option.map_eq_some_iff, ThreadPool.finishTask,
      Option.ite_none_right_eq_some, Option.some.injEq] at hs
    obtain ⟨p, ⟨-, rfl⟩, rfl⟩ := hs
    refine hother rfl (H.frame rfl rfl rfl rfl (fun _ => rfl) (fun _ => rfl) ?_ (fun _ => id)
      le_rfl)
    intro q' hroom
    by_cases h : q' = q
    · subst h
      simpa [ThreadPool.hasCapacity] using hroom
    · simpa [h] using hroom
  | markBroken =>
    cases hs
    refine hother rfl (H.frame rfl rfl ?_ rfl (fun _ => ?_) (fun _ => ?_) (fun _ => id)
      (fun _ => id) le_rfl)
    · simp only [RequestSession.breakStep]
      split <;> rfl
    · rw [RequestSession.breakStep_ring]
    · rw [RequestSession.breakStep_ring]
  | stop =>
    cases hs
    exact hother rfl (H.frame rfl rfl rfl rfl (fun _ => rfl) (fun _ => rfl) (fun _ => id)
      (fun _ => id) le_rfl)
  | stopPool q =>
    simp only [backlogLoop, Option.ite_none_right_eq_some, Option.some.injEq] at hs
    obtain ⟨hdone, rfl⟩ := hs
    simp [hdone] at hexited

end BacklogLoop

open BacklogLoop

/-- Each iteration that counts has used up some of the potential. -/
structure SpinInv (p : BacklogLoop × LoopHistory) : Prop where
  placed : p.1.Placed
  bound : p.2.idle + p.2.start.potential ≤ 5
  blocked : p.1.isBlocked = true → p.2.excused = true
  unproductive : p.2.excused = false → p.1.exited = false → Unproductive p.2.start p.1

theorem not_isBlocked_of_atTop {s : BacklogLoop} (h : s.atTop = true) : s.isBlocked = false := by
  simp only [atTop, Bool.and_eq_true, decide_eq_true_eq] at h
  simp [isBlocked, h]

/-- The dispatcher leaves its loop between two iterations. -/
theorem exited_step {s s' : BacklogLoop}
    (hs : (backlogLoop caps m workerThreads).step s a = some s') :
    s'.exited = s.exited ∨ (s.atTop = true ∧ s'.exited = true) := by
  cases a with
  | dispatcher =>
    simp only [backlogLoop, BacklogLoop.dispatcherStep] at hs
    cases hwait : s.wait with
    | entering q =>
      simp only [hwait, Option.some.injEq] at hs
      subst hs
      exact .inl rfl
    | blocked q =>
      simp only [hwait, Option.ite_none_right_eq_some, Option.some.injEq] at hs
      obtain ⟨-, rfl⟩ := hs
      exact .inl rfl
    | outside =>
      simp only [hwait] at hs
      split at hs
      · cases hs
      split at hs
      next htop =>
        cases hs
        exact .inr ⟨by simp [atTop, hwait, htop.1], rfl⟩
      next =>
        rw [Option.map_eq_some_iff] at hs
        obtain ⟨d, -, rfl⟩ := hs
        exact .inl rfl
  | timeout =>
    simp only [backlogLoop, BacklogLoop.timeout] at hs
    split at hs
    · cases hs
      exact .inl rfl
    · cases hs
    · rw [Option.map_eq_some_iff] at hs
      obtain ⟨d, -, rfl⟩ := hs
      exact .inl rfl
  | _ => exact .inl (Elsewhere.of_step hs (by simp) (by simp)).exited

/-- The history after a step, if the iteration goes on as it has to. -/
theorem SpinInv.note {s s' : BacklogLoop} {h : LoopHistory} (H : SpinInv (s, h)) (P : s'.Placed)
    (hexit : s'.exited = true → s.atTop = true)
    (hstep : h.excused = false → s'.exited = false → ¬ s.pushCount < s'.pushCount →
      ¬ s.popCount < s'.popCount → s'.isBlocked = false →
      ((s'.atTop && !s.atTop) = true → s'.potential < h.start.potential) ∧
        ((s'.atTop && !s.atTop) = false → Unproductive h.start s')) :
    SpinInv (s', h.note s s') := by
  have hbound : h.idle + h.start.potential ≤ 5 := H.bound
  have hle := s'.potential_le
  have hstart := h.start.potential_le
  unfold LoopHistory.note
  split
  · -- a push: the counting begins anew
    refine ⟨P, by simpa using hle, fun hblocked => ?_, fun hnot _ => ?_⟩
    · by_contra hnot
      simp [not_isBlocked_of_atTop (by simpa using hnot)] at hblocked
    · exact .begin (by simpa using hnot)
  next hpush =>
    split
    next hend =>
      have htop : s'.atTop = true := by
        rw [Bool.and_eq_true] at hend
        exact hend.1
      refine ⟨P, ?_, fun hblocked => ?_, fun _ _ => .begin htop⟩
      · dsimp only
        split
        next => simpa using hle
        next hquiet =>
          simp only [Bool.or_eq_true, decide_eq_true_eq, not_or, Bool.not_eq_true] at hquiet
          obtain ⟨⟨hexcused, hpop⟩, hblocked⟩ := hquiet
          have hexited : s'.exited = false := by
            by_contra hexited
            simp [hexit (by simpa using hexited)] at hend
          have hlt := (hstep hexcused hexited hpush hpop hblocked).1 hend
          omega
      · simp [not_isBlocked_of_atTop htop] at hblocked
    next hend =>
      dsimp only
      split
      next => exact ⟨P, by simpa using hstart, fun _ => rfl, nofun⟩
      next hquiet =>
        simp only [Bool.or_eq_true, decide_eq_true_eq, not_or, Bool.not_eq_true] at hquiet
        obtain ⟨⟨hexcused, hpop⟩, hblocked⟩ := hquiet
        refine ⟨P, hbound, fun h => by simp [hblocked] at h, fun _ hexited => ?_⟩
        exact (hstep hexcused hexited hpush hpop hblocked).2 (by simpa using hend)

theorem SpinInv.step {p p' : BacklogLoop × LoopHistory} (H : SpinInv p)
    (hok : DrainedWhenBroken p a)
    (hs : (countedLoop caps m workerThreads).step p a = some p') : SpinInv p' := by
  obtain ⟨s, h⟩ := p
  simp only [countedLoop, Option.ite_none_right_eq_some, Option.map_eq_some_iff] at hs
  obtain ⟨htimely, s', hs, rfl⟩ := hs
  have hleft := exited_step hs
  have hexit : s'.exited = true → s.atTop = true := by
    intro hexited
    rcases hleft with hsame | ⟨htop, -⟩
    · exact H.placed.exited (hsame ▸ hexited)
    · exact htop
  refine H.note (H.placed.step hs) hexit ?_
  intro hexcused hexited hpush hpop hblocked
  have htimeout : a ≠ .timeout := by
    rintro rfl
    have := H.blocked htimely
    simp [hexcused] at this
  have hbefore : s.exited = false := by
    rcases hleft with hsame | ⟨-, hdone⟩
    · exact hsame ▸ hexited
    · simp [hdone] at hexited
  exact (H.unproductive hexcused hbefore).step H.placed hok htimeout hs hexited hpush hpop hblocked

/-- **A dispatcher does not spin on a session that is alive or drained.** In every run in which
the dispatcher takes no step on a broken session that has requests left, at most five
iterations in a row neither pop a request nor block, unless a request is pushed. -/
theorem idle_le_of_reach (caps : Priority → RingCapacity) (m : ℕ → PendingSubmit)
    (workerThreads : Priority → UInt32) {p : BacklogLoop × LoopHistory}
    (h : (countedLoop caps m workerThreads).Reach DrainedWhenBroken p) : p.2.idle ≤ 5 := by
  have H : SpinInv p := by
    refine Machine.Reach.invariant (I := SpinInv) ?_ ?_ h
    · refine ⟨⟨by simp [countedLoop, backlogLoop], fun _ => rfl, fun _ _ => rfl, nofun⟩, ?_, nofun,
        fun _ _ => .begin rfl⟩
      show 0 + (backlogLoop caps m workerThreads).init.potential ≤ 5
      rw [Nat.zero_add]
      exact potential_le _
    · exact fun _ _ _ H hok hs => H.step hok hs
  exact (Nat.le_add_right _ _).trans H.bound

/-- `defaultBacklog` with the history of its iterations. -/
def defaultCounted : Machine (BacklogLoop × LoopHistory) BacklogAction :=
  countedLoop (fun _ => ⟨8, validRingSize_eight⟩) (fun _ => ⟨0, .normal, {}⟩) fun _ => 1

/-- Two normal requests are in the executor and a third one is in the ring when the dispatcher
has waited 100 ms. In its next iteration it finds the executor full, then a worker makes room,
and it finds no backlog. -/
def roomInBetween : List BacklogAction :=
  pushAndSignal 1 .normal ++ List.replicate 20 .dispatcher ++ .worker .normal ::
    pushAndSignal 2 .normal ++ .push (enqueueSubmitLocked 3 .normal {}) ::
    List.replicate 8 .client ++ List.replicate 21 .dispatcher ++ .timeout ::
    List.replicate 8 .dispatcher ++ [.finish .normal 0, .worker .normal] ++
    List.replicate 4 .dispatcher

theorem idle_le_roomInBetween :
    ∃ p, defaultCounted.Reach DrainedWhenBroken p ∧ p.2.idle = 1 ∧ p.2.idle ≤ 5 := by
  obtain ⟨p, hreach, hidle⟩ := defaultCounted.exists_reachOk DrainedWhenBroken roomInBetween
    (P := fun p => p.2.idle = 1) (by decide +kernel)
  exact ⟨p, hreach, hidle, idle_le_of_reach _ _ _ hreach⟩

/-- The dispatcher is between two iterations, its session is broken, a high request is left in
the ring, and both executors have room. -/
structure Spinning (s : BacklogLoop) : Prop where
  loop : s.dispatch.loop = .top
  wait : s.wait = .outside
  dispatcher : s.dispatch.session.dispatcher = .outside
  state : s.dispatch.session.state = .broken
  pending : s.dispatch.pending .high = true
  room : ∀ q, (s.pool q).hasCapacity = true
  exited : s.exited = false
  running : s.running = true

/-- The state at another point of the loop. -/
def BacklogLoop.moved (s : BacklogLoop) (pc : LoopPc) (dispatcher : DispatcherPc) : BacklogLoop :=
  { s with
    dispatch := { s.dispatch with
      session := { s.dispatch.session with dispatcher }
      loop := pc
      highWork := false }
    wait := .outside }

namespace Spinning

variable {s : BacklogLoop} {h : LoopHistory}

/-- The ten steps of the iteration. `PopRequest` refuses both rings, there is no backlog, and
the first look of `SpinForRingActivity` finds the request. -/
theorem dispatcherStep (H : Spinning s) :
    s.dispatcherStep = some (s.moved .drainHigh (.draining .high false)) ∧
    (s.moved .drainHigh (.draining .high false)).dispatcherStep =
      some (s.moved .drainHigh (.checking .high false)) ∧
    (s.moved .drainHigh (.checking .high false)).dispatcherStep = some (s.moved .drainHigh .outside) ∧
    (s.moved .drainHigh .outside).dispatcherStep =
      some (s.moved .drainNormal (.draining .normal false)) ∧
    (s.moved .drainNormal (.draining .normal false)).dispatcherStep =
      some (s.moved .drainNormal (.checking .normal false)) ∧
    (s.moved .drainNormal (.checking .normal false)).dispatcherStep =
      some (s.moved .drainNormal .outside) ∧
    (s.moved .drainNormal .outside).dispatcherStep = some (s.moved .backlogHigh .outside) ∧
    (s.moved .backlogHigh .outside).dispatcherStep = some (s.moved (.backlogNormal false) .outside) ∧
    (s.moved (.backlogNormal false) .outside).dispatcherStep = some (s.moved (.spinHigh 0) .outside) ∧
    (s.moved (.spinHigh 0) .outside).dispatcherStep = some (s.moved .top .outside) := by
  obtain ⟨hloop, hwait, hdispatcher, hstate, hpending, hroom, hexited, hrunning⟩ := H
  refine ⟨?_, ?_, ?_, ?_, ?_, ?_, ?_, ?_, ?_, ?_⟩
  all_goals
    simp [BacklogLoop.dispatcherStep, BacklogLoop.moved, hloop, hwait, hdispatcher, hstate, hexited,
      hrunning, hroom, DispatchLoop.loopStep, DispatchLoop.enterDrain, DispatchLoop.inDrain,
      submitted, backlogWait, RequestSession.dispatchStep, RequestSession.leaveDrain]
  exact hpending

/-- A step inside of an iteration leaves the history alone, if it has nothing to record. -/
theorem note_moved (s : BacklogLoop) {h : LoopHistory} (hexcused : h.excused = false)
    {pc : LoopPc} (htop : pc ≠ .top) (hpolling : pc ≠ .polling) (dispatcher : DispatcherPc)
    {s₁ : BacklogLoop} (hpushed : s₁.dispatch.session.pushed = s.dispatch.session.pushed)
    (hpopped : s₁.dispatch.session.popped = s.dispatch.session.popped) :
    h.note s₁ (s.moved pc dispatcher) = h := by
  have hpush : s₁.pushCount = (s.moved pc dispatcher).pushCount := congrArg entryCount hpushed
  have hpop : s₁.popCount = (s.moved pc dispatcher).popCount := congrArg entryCount hpopped
  have hnot : (s.moved pc dispatcher).atTop = false := by simp [atTop, BacklogLoop.moved, htop]
  have hblocked : (s.moved pc dispatcher).isBlocked = false := by
    simp [isBlocked, BacklogLoop.moved, hpolling]
  simp [LoopHistory.note, hpush, hpop, hnot, hblocked, hexcused]

/-- The iteration is counted, and the next one begins in the same state. -/
theorem iterate (H : Spinning s) (hexcused : h.excused = false) :
    defaultCounted.run (s, h) (List.replicate 10 .dispatcher) =
      some (s.moved .top .outside,
        { idle := h.idle + 1, excused := false, start := s.moved .top .outside }) := by
  obtain ⟨h1, h2, h3, h4, h5, h6, h7, h8, h9, h10⟩ := H.dispatcherStep
  have hstep : ∀ {s₁ pc dpc}, s₁.dispatcherStep = some (s.moved pc dpc) → pc ≠ .top →
      pc ≠ .polling → s₁.dispatch.session.pushed = s.dispatch.session.pushed →
      s₁.dispatch.session.popped = s.dispatch.session.popped →
      defaultCounted.step (s₁, h) .dispatcher = some (s.moved pc dpc, h) := by
    intro s₁ pc dpc hs htop hpolling hpushed hpopped
    have hnote := note_moved s hexcused htop hpolling dpc hpushed hpopped
    simp [defaultCounted, countedLoop, timely, backlogLoop, hs, hnote]
  have hlast : defaultCounted.step (s.moved (.spinHigh 0) .outside, h) .dispatcher =
      some (s.moved .top .outside,
        { idle := h.idle + 1, excused := false, start := s.moved .top .outside }) := by
    have hnote : h.note (s.moved (.spinHigh 0) .outside) (s.moved .top .outside) =
        { idle := h.idle + 1, excused := false, start := s.moved .top .outside } := by
      simp [LoopHistory.note, pushCount, popCount, atTop, isBlocked, BacklogLoop.moved, hexcused]
    simp [defaultCounted, countedLoop, timely, backlogLoop, h10, hnote]
  simp only [List.replicate, Machine.run_cons, Machine.run_nil,
    hstep h1 (by simp) (by simp) rfl rfl, hstep h2 (by simp) (by simp) rfl rfl,
    hstep h3 (by simp) (by simp) rfl rfl, hstep h4 (by simp) (by simp) rfl rfl,
    hstep h5 (by simp) (by simp) rfl rfl, hstep h6 (by simp) (by simp) rfl rfl,
    hstep h7 (by simp) (by simp) rfl rfl, hstep h8 (by simp) (by simp) rfl rfl,
    hstep h9 (by simp) (by simp) rfl rfl, hlast, Option.bind_some]

theorem moved (H : Spinning s) : Spinning (s.moved .top .outside) :=
  ⟨rfl, rfl, rfl, H.state, H.pending, H.room, H.exited, H.running⟩

/-- Any number of iterations. -/
theorem iterations (H : Spinning s) (hexcused : h.excused = false) (n : ℕ) :
    ∃ p, defaultCounted.run (s, h) (List.replicate (10 * n) .dispatcher) = some p ∧
      p.2.idle = h.idle + n := by
  induction n generalizing s h with
  | zero => exact ⟨_, rfl, rfl⟩
  | succ n ih =>
    obtain ⟨p, hp, hidle⟩ := ih (h := ⟨h.idle + 1, false, _⟩) H.moved rfl
    refine ⟨p, ?_, by rw [hidle]; dsimp only; omega⟩
    rw [Nat.mul_succ, Nat.add_comm, List.replicate_add, Machine.run_append,
      H.iterate hexcused, Option.bind_some]
    exact hp

end Spinning

/-- The session breaks before the dispatcher has seen the only request. -/
def brokenSchedule : List BacklogAction := pushAndSignal 0 .high ++ [.markBroken]

/-- From then on there is no bound: the dispatcher alone, without a push, goes through as many
iterations as one likes that neither pop nor block. -/
theorem not_idle_le_of_broken :
    ∃ p, defaultCounted.Reach Machine.Always p ∧ p.1.running = true ∧
      p.1.dispatch.session.state = .broken ∧
      ∀ n, ∃ p', defaultCounted.run p (List.replicate (10 * n) .dispatcher) = some p' ∧
        p'.2.idle = n := by
  obtain ⟨⟨s, h⟩, hreach, hloop, hwait, hdispatcher, hstate, hpending, hhigh, hnormal, hexited,
    hrunning, hexcused, hidle⟩ :=
    defaultCounted.exists_reach brokenSchedule
    (P := fun p => p.1.dispatch.loop = .top ∧ p.1.wait = .outside ∧
      p.1.dispatch.session.dispatcher = .outside ∧ p.1.dispatch.session.state = .broken ∧
      p.1.dispatch.pending .high = true ∧ (p.1.pool .high).hasCapacity = true ∧
      (p.1.pool .normal).hasCapacity = true ∧ p.1.exited = false ∧ p.1.running = true ∧
      p.2.excused = false ∧ p.2.idle = 0) (by decide +kernel)
  have H : Spinning s := by
    refine ⟨hloop, hwait, hdispatcher, hstate, hpending, ?_, hexited, hrunning⟩
    rintro (_ | _)
    · exact hnormal
    · exact hhigh
  refine ⟨(s, h), hreach, hrunning, hstate, fun n => ?_⟩
  obtain ⟨p', hp', hn⟩ := H.iterations hexcused n
  exact ⟨p', hp', by rw [hn, show h.idle = 0 from hidle, Nat.zero_add]⟩

end MemRpc
