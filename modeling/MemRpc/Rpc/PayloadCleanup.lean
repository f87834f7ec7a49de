import MemRpc.Lib.Machine
import MemRpc.Core.RingSteps

/-!
# Payload files of a breaking session

A payload that does not fit a ring entry travels in a file, and the entry names the file.
Whoever pops the entry consumes the file. When the session breaks, the entries left in the
rings are popped by nobody, and two parties clean up after them: `MarkSessionBroken` scans
the rings and removes the files it finds, and a push that finds the session broken after
its tail store removes its own file.

The scan works with copies of the cursors that are stale when it uses them. `Cleared` says
what is known of an entry: it was popped, its file was removed, or its push has not made
its second look at the state word yet and will find it broken. The scan clears what was
published before it read the tail; what is published later clears itself.

One client and one server, each with one thread that pushes and one that pops, and any
number of threads in `MarkSessionBroken`. Every access to a shared word or a slot is a
step. Each push has a file of its own, named after the push. What the server's retry
budget allows is part of the action.

## Main definitions

* `PusherPc`, `PopperPc`, `SweepPc`: the points of the threads.
* `payloadCleanup`: the machine.
* `Cleaned`: no file of an entry that nobody will pop is left.
-/

namespace MemRpc

open Concurrency Cyclic

/-- The two ends of a session. -/
inductive Peer
  | client
  | server
  deriving DecidableEq, Repr

/-- Who pushes to a ring. -/
def QueueKind.producer : QueueKind → Peer
  | .highRequest | .normalRequest => .client
  | .response => .server

/-- Who pops from a ring. -/
def QueueKind.consumer : QueueKind → Peer
  | .highRequest | .normalRequest => .server
  | .response => .client

/-- A ring entry with the push that wrote it. `file` says that the payload kind is
`PAYLOAD_KIND_FILE_REF`; the file is the one that was prepared for this push. -/
structure TransferEntry where
  call : ℕ
  queue : QueueKind
  file : Bool
  deriving DecidableEq, Repr

/-- The points of `PushRequest` and `PushResponse` with what their callers do on failure. -/
inductive PusherPc
  | idle
  | checking (e : TransferEntry)
  | pushing (pc : PushPc TransferEntry)
  | rechecking (e : TransferEntry)
  | full (e : TransferEntry)
  | removing (e : TransferEntry)
  deriving DecidableEq, Repr

/-- The points of `PopRequest` and `PopResponse`. -/
inductive PopperPc
  | idle
  | checking (q : QueueKind)
  | popping (q : QueueKind) (pc : PopPc TransferEntry)
  deriving DecidableEq, Repr

/-- The points of `RemovePendingFilePayloads` in `MarkSessionBroken`, after the store of
`Broken`. -/
inductive SweepPc
  | outside
  | readHead (q : QueueKind)
  | readTail (q : QueueKind) (head : UInt32)
  | scanning (q : QueueKind) (head count : UInt32) (i : ℕ)
  deriving DecidableEq, Repr

/-- The scan of the rings in their order. -/
def SweepPc.after : QueueKind → SweepPc
  | .highRequest => .readHead .normalRequest
  | .normalRequest => .readHead .response
  | .response => .outside

/-- A session and its threads. -/
structure PayloadCleanup (ι : Type) where
  state : SessionState := .alive
  ring : QueueKind → Ring TransferEntry
  pusher : Peer → PusherPc := fun _ => .idle
  popper : Peer → PopperPc := fun _ => .idle
  breaker : ι → SweepPc := fun _ => .outside
  /-- The pushes that have begun. -/
  calls : ℕ := 0
  pushed : QueueKind → List TransferEntry := fun _ => []
  popped : QueueKind → List TransferEntry := fun _ => []
  /-- The pushes whose file has been removed. -/
  removed : List ℕ := []
  /-- Some `MarkSessionBroken` has returned. -/
  swept : Bool := false

namespace PayloadCleanup

variable {ι : Type}

def setPusher (s : PayloadCleanup ι) (p : Peer) (pc : PusherPc) : PayloadCleanup ι :=
  { s with pusher := Function.update s.pusher p pc }

def setPopper (s : PayloadCleanup ι) (p : Peer) (pc : PopperPc) : PayloadCleanup ι :=
  { s with popper := Function.update s.popper p pc }

def setRing (s : PayloadCleanup ι) (q : QueueKind) (r : Ring TransferEntry) : PayloadCleanup ι :=
  { s with ring := Function.update s.ring q r }

/-- `RemoveFilePayloadFromTransport`. -/
def remove (s : PayloadCleanup ι) (e : TransferEntry) : PayloadCleanup ι :=
  if e.file then { s with removed := e.call :: s.removed } else s

/-- The next step of a pusher. On a full ring the client removes the file and prepares a new
one for its next try, and the server tries again with the same entry while `retry`. -/
def pusherStep (s : PayloadCleanup ι) (p : Peer) (retry : Bool) : Option (PayloadCleanup ι) :=
  match s.pusher p with
  | .idle => none
  | .checking e =>
    match s.state with
    | .alive => some (s.setPusher p (.pushing (.loadHead e)))
    | .broken => some (s.setPusher p (.removing e))
  | .pushing pc =>
    let q := pc.entry.queue
    match pushStep (s.ring q) pc with
    | (r, .running pc') => some ((s.setRing q r).setPusher p (.pushing pc'))
    | (r, .returned .ok) =>
      some { (s.setRing q r).setPusher p (.rechecking pc.entry) with
        pushed := Function.update s.pushed q (s.pushed q ++ [pc.entry]) }
    | (r, .returned _) => some ((s.setRing q r).setPusher p (.full pc.entry))
  | .rechecking e =>
    match s.state with
    | .alive => some (s.setPusher p .idle)
    | .broken => some (s.setPusher p (.removing e))
  | .full e =>
    match p with
    | .client => some (s.setPusher p (.removing e))
    | .server => some (s.setPusher p (if retry then .checking e else .removing e))
  | .removing e => some ((s.remove e).setPusher p .idle)

/-- The next step of a popper. -/
def popperStep (s : PayloadCleanup ι) (p : Peer) : Option (PayloadCleanup ι) :=
  match s.popper p with
  | .idle => none
  | .checking q =>
    match s.state with
    | .alive => some (s.setPopper p (.popping q .loadTail))
    | .broken => some (s.setPopper p .idle)
  | .popping q pc =>
    match popStep (s.ring q) pc with
    | (r, .running pc') => some ((s.setRing q r).setPopper p (.popping q pc'))
    | (r, .returned (some e)) =>
      some { (s.setRing q r).setPopper p .idle with
        popped := Function.update s.popped q (s.popped q ++ [e]) }
    | (r, .returned none) => some ((s.setRing q r).setPopper p .idle)

section

variable [DecidableEq ι]

def setBreaker (s : PayloadCleanup ι) (i : ι) (pc : SweepPc) : PayloadCleanup ι :=
  { s with breaker := Function.update s.breaker i pc }

/-- Go on to the next ring, or return. -/
def sweepNext (s : PayloadCleanup ι) (i : ι) (q : QueueKind) : PayloadCleanup ι :=
  { s.setBreaker i (.after q) with swept := s.swept || q = .response }

/-- The next step of `RemovePendingFilePayloads`. -/
def sweepStep (s : PayloadCleanup ι) (i : ι) : Option (PayloadCleanup ι) :=
  match s.breaker i with
  | .outside => none
  | .readHead q =>
    if (s.ring q).cursor.capacity = 0 then some (s.sweepNext i q)
    else some (s.setBreaker i (.readTail q (s.ring q).cursor.head))
  | .readTail q head =>
    some (s.setBreaker i
      (.scanning q head (min ((s.ring q).cursor.tail - head) (s.ring q).cursor.capacity) 0))
  | .scanning q head count k =>
    if k < count.toNat then
      some ((s.remove ((s.ring q).readSlot (head + UInt32.ofNat k))).setBreaker i
        (.scanning q head count (k + 1)))
    else some (s.sweepNext i q)

end

end PayloadCleanup

/-- Who moves. -/
inductive CleanupAction (ι : Type)
  | push (q : QueueKind) (file : Bool)
  | pusher (p : Peer) (retry : Bool)
  | pop (q : QueueKind)
  | popper (p : Peer)
  | markBroken (i : ι)
  | sweep (i : ι)

/-- All interleavings of the pushers, the poppers and the threads in `MarkSessionBroken`. -/
def payloadCleanup (ι : Type) [DecidableEq ι] (caps : QueueKind → RingCapacity)
    (m : ℕ → TransferEntry) : Machine (PayloadCleanup ι) (CleanupAction ι) where
  init := { ring := fun q => Ring.create (caps q).size m }
  step s
    | .push q file =>
      match s.pusher q.producer with
      | .idle =>
        some { s.setPusher q.producer (.checking ⟨s.calls, q, file⟩) with
          calls := s.calls + 1 }
      | _ => none
    | .pusher p retry => s.pusherStep p retry
    | .pop q =>
      match s.popper q.consumer with
      | .idle => some (s.setPopper q.consumer (.checking q))
      | _ => none
    | .popper p => s.popperStep p
    | .markBroken i =>
      match s.breaker i with
      | .outside => some { s.setBreaker i (.readHead .highRequest) with state := .broken }
      | _ => none
    | .sweep i => s.sweepStep i

/-! ## The property -/

namespace PayloadCleanup

variable {ι : Type}

/-- Once a `MarkSessionBroken` and all pushes have returned, every entry with a file that was
written to a ring was popped, or its file was removed. -/
def Cleaned (s : PayloadCleanup ι) : Prop :=
  s.swept = true → (∀ p, s.pusher p = .idle) →
    ∀ q, ∀ e ∈ s.pushed q, e.file = true → e ∈ s.popped q ∨ e.call ∈ s.removed

end PayloadCleanup

/-- A slot is written only while the slots of the ring's window are distinct: the capacity
divides `2 ^ 32`, or fewer than `2 ^ 32` entries have been pushed. -/
def SlotsDistinct {ι : Type} (s : PayloadCleanup ι) : CleanupAction ι → Prop
  | .pusher p _ =>
    match s.pusher p with
    | .pushing pc => SlotGuard (s.ring pc.entry.queue) (s.pushed pc.entry.queue) pc
    | _ => True
  | _ => True

instance {ι : Type} (s : PayloadCleanup ι) (a : CleanupAction ι) :
    Decidable (SlotsDistinct s a) := by
  unfold SlotsDistinct
  split
  · split <;> infer_instance
  · infer_instance

/-! ## What is known of an entry -/

/-- The push under way on a ring. -/
def PusherPc.push? (q : QueueKind) : PusherPc → Option (PushPc TransferEntry)
  | .pushing pc => if pc.entry.queue = q then some pc else none
  | _ => none

/-- The entry of the push. -/
def PusherPc.carried? : PusherPc → Option TransferEntry
  | .idle => none
  | .pushing pc => some pc.entry
  | .checking e | .rechecking e | .full e | .removing e => some e

/-- The pop under way on a ring. -/
def PopperPc.pop? (q : QueueKind) : PopperPc → Option (PopPc TransferEntry)
  | .popping q' pc => if q' = q then some pc else none
  | _ => none

def PopperPc.queue? : PopperPc → Option QueueKind
  | .idle => none
  | .checking q | .popping q _ => some q

/-- The order in which the rings are scanned. -/
def QueueKind.rank : QueueKind → ℕ
  | .highRequest => 0
  | .normalRequest => 1
  | .response => 2

variable {q : QueueKind} {e : TransferEntry}

namespace PayloadCleanup

variable {ι : Type}

/-- The entry was popped, or has no file left. -/
def Done (s : PayloadCleanup ι) (q : QueueKind) (j : ℕ) : Prop :=
  j < (s.popped q).length ∨
    ∀ e, (s.pushed q)[j]? = some e → e.file = true → e.call ∈ s.removed

/-- The entry was published by a push that is going to look at the state word, or has found
it broken. -/
def InFlight (s : PayloadCleanup ι) (q : QueueKind) (j : ℕ) : Prop :=
  j + 1 = (s.pushed q).length ∧ ∃ e, (s.pushed q)[j]? = some e ∧
    (s.pusher q.producer = .rechecking e ∨ s.pusher q.producer = .removing e)

theorem not_inFlight {s : PayloadCleanup ι} {j : ℕ} {pc : PusherPc}
    (hpc : s.pusher q.producer = pc) (hrechecking : ∀ e, pc ≠ .rechecking e)
    (hremoving : ∀ e, pc ≠ .removing e) : ¬ s.InFlight q j := by
  rintro ⟨-, e, -, hat | hat⟩
  · exact hrechecking e (hpc ▸ hat)
  · exact hremoving e (hpc ▸ hat)

def Cleared (s : PayloadCleanup ι) (q : QueueKind) (j : ℕ) : Prop := s.Done q j ∨ s.InFlight q j

/-- All entries of the ring are cleared. -/
def Swept (s : PayloadCleanup ι) (q : QueueKind) : Prop :=
  ∀ j < (s.pushed q).length, s.Cleared q j

/-- The number of pops under way on a ring. -/
def pops (s : PayloadCleanup ι) (q : QueueKind) : ℕ :=
  if ((s.popper q.consumer).pop? q).isSome then 1 else 0

theorem pops_le (s : PayloadCleanup ι) (q : QueueKind) : s.pops q ≤ 1 := by
  unfold pops
  split <;> omega

/-- What a thread in `MarkSessionBroken` knows. The copy of the head is one pop behind at most,
since no pop begins on a broken session. The scan has cleared all but the entries between
its copies whose slots it has not reached. -/
def Known (s : PayloadCleanup ι) : SweepPc → Prop
  | .outside => True
  | .readHead q => ∀ q', q'.rank < q.rank → s.Swept q'
  | .readTail q head =>
    (∀ q', q'.rank < q.rank → s.Swept q') ∧
      ∃ h, head = UInt32.ofNat h ∧ h ≤ (s.popped q).length ∧
        (s.popped q).length + s.pops q ≤ h + 1
  | .scanning q head count k =>
    (∀ q', q'.rank < q.rank → s.Swept q') ∧
      ∃ h t, head = UInt32.ofNat h ∧ t ≤ (s.pushed q).length ∧
        count.toNat = min (t - h) (s.ring q).cap ∧
        ∀ j < (s.pushed q).length, s.Cleared q j ∨
          h ≤ j ∧ j < t ∧ k ≤ (j - h) % (s.ring q).cap

/-- What happens to a broken session as its threads go on: entries stay cleared, the entries
that are still published are cleared, and no pop begins. -/
structure Later (s s' : PayloadCleanup ι) : Prop where
  cap : ∀ q, (s'.ring q).cap = (s.ring q).cap
  popped : ∀ q, (s.popped q).length ≤ (s'.popped q).length
  pops : ∀ q, (s'.popped q).length + s'.pops q ≤ (s.popped q).length + s.pops q
  pushed : ∀ q, (s.pushed q).length ≤ (s'.pushed q).length
  cleared : ∀ q j, j < (s'.pushed q).length → (j < (s.pushed q).length → s.Cleared q j) →
    s'.Cleared q j

namespace Later

variable {s s' : PayloadCleanup ι}

theorem swept (L : s.Later s') (h : s.Swept q) : s'.Swept q :=
  fun j hj => L.cleared q j hj fun hlt => h j hlt

theorem known (L : s.Later s') {pc : SweepPc} (h : s.Known pc) : s'.Known pc := by
  cases pc with
  | outside => trivial
  | readHead q => exact fun q' hq => L.swept (h q' hq)
  | readTail q head =>
    obtain ⟨hearlier, n, hhead, hle, hpops⟩ := h
    exact ⟨fun q' hq => L.swept (hearlier q' hq), n, hhead, hle.trans (L.popped q),
      (L.pops q).trans hpops⟩
  | scanning q head count k =>
    obtain ⟨hearlier, n, t, hhead, hle, hcount, hscan⟩ := h
    refine ⟨fun q' hq => L.swept (hearlier q' hq), n, t, hhead, hle.trans (L.pushed q), ?_, ?_⟩
    · rw [L.cap]
      exact hcount
    · intro j hj
      rw [L.cap]
      by_cases hahead : n ≤ j ∧ j < t ∧ k ≤ (j - n) % (s.ring q).cap
      · exact .inr hahead
      · refine .inl (L.cleared q j hj ?_)
        intro hlt
        exact (hscan j hlt).resolve_right hahead

end Later

/-- Done is for good. -/
theorem Done.mono {s s' : PayloadCleanup ι} {j : ℕ} (h : s.Done q j)
    (hpopped : (s.popped q).length ≤ (s'.popped q).length)
    (hpushed : j < (s.pushed q).length → (s'.pushed q)[j]? = (s.pushed q)[j]?)
    (hlt : j < (s.pushed q).length) (hremoved : s.removed ⊆ s'.removed) : s'.Done q j := by
  rcases h with hpop | hfile
  · exact .inl (hpop.trans_le hpopped)
  · refine .inr fun e he hf => hremoved (hfile e ?_ hf)
    rw [← hpushed hlt]
    exact he

theorem subset_remove (s : PayloadCleanup ι) (e : TransferEntry) :
    s.removed ⊆ (s.remove e).removed := by
  unfold remove
  split
  · exact List.subset_cons_self _ _
  · exact List.Subset.refl _

theorem mem_remove (s : PayloadCleanup ι) (he : e.file = true) :
    e.call ∈ (s.remove e).removed := by
  simp [remove, he]

@[simp] theorem remove_frame (s : PayloadCleanup ι) (e : TransferEntry) :
    (s.remove e).state = s.state ∧ (s.remove e).ring = s.ring ∧ (s.remove e).pusher = s.pusher ∧
      (s.remove e).popper = s.popper ∧ (s.remove e).breaker = s.breaker ∧
      (s.remove e).pushed = s.pushed ∧ (s.remove e).popped = s.popped ∧
      (s.remove e).swept = s.swept := by
  unfold remove
  split <;> simp

/-! ## The invariant -/

/-- The rings hold what was pushed and not popped, every thread works on its own rings, and
the threads in `MarkSessionBroken` know what they should. -/
structure Inv (s : PayloadCleanup ι) : Prop where
  shared : ∀ q, SharedRing (s.ring q) (s.pushed q) (s.popped q)
    ((s.pusher q.producer).push? q) ((s.popper q.consumer).pop? q)
  cap_pos : ∀ q, 0 < (s.ring q).cap
  cap_le : ∀ q, (s.ring q).cap ≤ 2 ^ 20
  distinct : ∀ q, NoAlias (s.ring q).cap (s.pushed q).length
  written : ∀ q e tail, (s.pusher q.producer).push? q = some (.storeTail e tail) →
    NoAlias (s.ring q).cap ((s.pushed q).length + 1)
  pusher_queue : ∀ p, ∀ e ∈ (s.pusher p).carried?, e.queue.producer = p
  popper_queue : ∀ p, ∀ q ∈ (s.popper p).queue?, q.consumer = p
  broken : s.swept = true ∨ (∃ i, s.breaker i ≠ .outside) → s.state = .broken
  known : ∀ i, s.Known (s.breaker i)
  swept : s.swept = true → ∀ q, s.Swept q

variable {s s' : PayloadCleanup ι} {p : Peer}

/-- A step of a pusher that publishes nothing. -/
theorem Later.of_pusher (hcap : ∀ q, (s'.ring q).cap = (s.ring q).cap)
    (hpopper : s'.popper = s.popper) (hpopped : s'.popped = s.popped)
    (hpushed : s'.pushed = s.pushed) (hremoved : s.removed ⊆ s'.removed)
    (hothers : ∀ p', p' ≠ p → s'.pusher p' = s.pusher p')
    (hflight : ∀ q j, q.producer = p → s.InFlight q j → s'.Cleared q j) : s.Later s' where
  cap := hcap
  popped q := by rw [hpopped]
  pops q := by simp only [hpopped, PayloadCleanup.pops, hpopper, le_refl]
  pushed q := by rw [hpushed]
  cleared q j hj h := by
    rw [hpushed] at hj
    rcases h hj with hdone | hflying
    · exact .inl (hdone.mono (by rw [hpopped]) (fun _ => by rw [hpushed]) hj hremoved)
    · by_cases hq : q.producer = p
      · exact hflight q j hq hflying
      · right
        simpa only [InFlight, hpushed, hothers _ hq] using hflying

/-- A step of a popper. -/
theorem Later.of_popper (hcap : ∀ q, (s'.ring q).cap = (s.ring q).cap)
    (hpushed : s'.pushed = s.pushed) (hpusher : s'.pusher = s.pusher)
    (hremoved : s'.removed = s.removed)
    (hpopped : ∀ q, (s.popped q).length ≤ (s'.popped q).length)
    (hpops : ∀ q, (s'.popped q).length + s'.pops q ≤ (s.popped q).length + s.pops q) :
    s.Later s' where
  cap := hcap
  popped := hpopped
  pops := hpops
  pushed q := by rw [hpushed]
  cleared q j hj h := by
    rw [hpushed] at hj
    rcases h hj with hdone | hflying
    · exact .inl (hdone.mono (hpopped q) (fun _ => by rw [hpushed]) hj (by rw [hremoved]; simp))
    · right
      simpa only [InFlight, hpushed, hpusher] using hflying

variable {q₀ : QueueKind}

/-- A push publishes its entry. -/
theorem Later.of_publish (hcap : ∀ q, (s'.ring q).cap = (s.ring q).cap)
    (hpopper : s'.popper = s.popper) (hpopped : s'.popped = s.popped)
    (hremoved : s'.removed = s.removed)
    (hpushed : s'.pushed = Function.update s.pushed q₀ (s.pushed q₀ ++ [e]))
    (hothers : ∀ p, p ≠ q₀.producer → s'.pusher p = s.pusher p)
    (hidle : ∀ e', s.pusher q₀.producer ≠ .rechecking e' ∧ s.pusher q₀.producer ≠ .removing e')
    (hflight : s'.pusher q₀.producer = .rechecking e) : s.Later s' where
  cap := hcap
  popped q := by rw [hpopped]
  pops q := by simp only [hpopped, PayloadCleanup.pops, hpopper, le_refl]
  pushed q := by
    by_cases hq : q = q₀
    · subst hq
      simp [hpushed]
    · simp [hpushed, hq]
  cleared q j hj h := by
    by_cases hlt : j < (s.pushed q).length
    · have hsame : (s'.pushed q)[j]? = (s.pushed q)[j]? := by
        by_cases hq : q = q₀
        · subst hq
          simp [hpushed, List.getElem?_append_left hlt]
        · simp [hpushed, hq]
      rcases h hlt with hdone | ⟨hlast, e', he, hpc⟩
      · exact .inl (hdone.mono (by rw [hpopped]) (fun _ => hsame) hlt (by rw [hremoved]; simp))
      · have hne : q.producer ≠ q₀.producer := by
          intro heq
          rw [heq] at hpc
          rcases hpc with hpc | hpc
          · exact (hidle e').1 hpc
          · exact (hidle e').2 hpc
        have hq : q ≠ q₀ := fun heq => hne (by rw [heq])
        refine .inr ⟨?_, e', ?_, ?_⟩
        · simpa [hpushed, hq] using hlast
        · rw [hsame]
          exact he
        · rw [hothers _ hne]
          exact hpc
    · -- the only new entry is the one just published
      have hq : q = q₀ := by
        by_contra hq
        simp [hpushed, hq] at hj
        omega
      subst hq
      have hj' : j = (s.pushed q).length := by
        simp [hpushed] at hj
        omega
      subst hj'
      exact .inr ⟨by simp [hpushed], e, by simp [hpushed], .inl hflight⟩

variable {pc : PushPc TransferEntry}

theorem cap_of_pushStep {ring r : Ring TransferEntry}
    {outcome : Progress (PushPc TransferEntry) StatusCode}
    (hstep : pushStep ring pc = (r, outcome)) : r.cap = ring.cap := by
  have hcap := capacity_pushStep ring pc
  rw [hstep] at hcap
  exact congrArg UInt32.toNat hcap

theorem cap_of_popStep {ring r : Ring TransferEntry} {pc : PopPc TransferEntry}
    {outcome : Progress (PopPc TransferEntry) (Option TransferEntry)}
    (hstep : popStep ring pc = (r, outcome)) : r.cap = ring.cap := by
  have hcap := capacity_popStep ring pc
  rw [hstep] at hcap
  exact congrArg UInt32.toNat hcap

variable {r : Ring TransferEntry}

theorem cap_setRing (hr : r.cap = (s.ring q₀).cap)
    (q : QueueKind) : ((s.setRing q₀ r).ring q).cap = (s.ring q).cap := by
  unfold setRing
  by_cases hq : q = q₀
  · subst hq
    simpa using hr
  · simp [hq]

namespace Inv

/-- A step outside of `MarkSessionBroken`. -/
theorem of_later (H : s.Inv) (hstate : s'.state = s.state) (hbreaker : s'.breaker = s.breaker)
    (hswept : s'.swept = s.swept) (hlater : s.state = .broken → s.Later s')
    (hcap : ∀ q, (s'.ring q).cap = (s.ring q).cap)
    (hshared : ∀ q, SharedRing (s'.ring q) (s'.pushed q) (s'.popped q)
      ((s'.pusher q.producer).push? q) ((s'.popper q.consumer).pop? q))
    (hdistinct : ∀ q, NoAlias (s.ring q).cap (s'.pushed q).length)
    (hwritten : ∀ q e tail, (s'.pusher q.producer).push? q = some (.storeTail e tail) →
      NoAlias (s.ring q).cap ((s'.pushed q).length + 1))
    (hpusher : ∀ p, ∀ e ∈ (s'.pusher p).carried?, e.queue.producer = p)
    (hpopper : ∀ p, ∀ q ∈ (s'.popper p).queue?, q.consumer = p) : s'.Inv where
  shared := hshared
  cap_pos q := by rw [hcap]; exact H.cap_pos q
  cap_le q := by rw [hcap]; exact H.cap_le q
  distinct q := by rw [hcap]; exact hdistinct q
  written q := by rw [hcap]; exact hwritten q
  pusher_queue := hpusher
  popper_queue := hpopper
  broken h := by
    rw [hstate]
    rw [hbreaker, hswept] at h
    exact H.broken h
  known i := by
    rw [hbreaker]
    by_cases hout : s.breaker i = .outside
    · rw [hout]
      trivial
    · exact (hlater (H.broken (.inr ⟨i, hout⟩))).known (H.known i)
  swept h q := by
    rw [hswept] at h
    exact (hlater (H.broken (.inl h))).swept (H.swept h q)

/-- A pusher moves outside of the ring calls, or begins one. -/
theorem pusherQuiet (H : s.Inv) {pc : PusherPc} (hstate : s'.state = s.state)
    (hring : s'.ring = s.ring) (hpopper : s'.popper = s.popper) (hbreaker : s'.breaker = s.breaker)
    (hpushed : s'.pushed = s.pushed) (hpopped : s'.popped = s.popped)
    (hswept : s'.swept = s.swept) (hremoved : s.removed ⊆ s'.removed)
    (hpc : s'.pusher = Function.update s.pusher p pc)
    (hold : ∀ q, (s.pusher p).push? q = none)
    (hnew : ∀ q, pc.push? q = none ∨ ∃ e, pc.push? q = some (.loadHead e))
    (hentry : ∀ e ∈ pc.carried?, e.queue.producer = p)
    (hflight : s.state = .broken → ∀ q j, q.producer = p → s.InFlight q j → s'.Cleared q j) :
    s'.Inv := by
  have hself : s'.pusher p = pc := by rw [hpc, Function.update_self]
  have hothers : ∀ p', p' ≠ p → s'.pusher p' = s.pusher p' := by
    intro p' hne
    rw [hpc, Function.update_of_ne hne]
  have hbegin : ∀ q, (s'.pusher q.producer).push? q = (s.pusher q.producer).push? q ∨
      (s.pusher q.producer).push? q = none ∧
        ∃ e, (s'.pusher q.producer).push? q = some (.loadHead e) := by
    intro q
    by_cases hq : q.producer = p
    · rw [hq, hself, hold q]
      exact (hnew q).imp_right fun h => ⟨rfl, h⟩
    · rw [hothers _ hq]
      exact .inl rfl
  refine H.of_later hstate hbreaker hswept ?_ (by simp [hring]) ?_ ?_ ?_ ?_ ?_
  · intro hbroken
    exact Later.of_pusher (by simp [hring]) hpopper hpopped hpushed hremoved hothers
      (hflight hbroken)
  · intro q
    have hshared := H.shared q
    rw [hring, hpushed, hpopped, hpopper]
    rcases hbegin q with hsame | ⟨hnone, e, hload⟩
    · rw [hsame]
      exact hshared
    · rw [hnone] at hshared
      rw [hload]
      exact hshared.beginPush e
  · rw [hpushed]
    exact H.distinct
  · intro q e tail htail
    rw [hpushed]
    rcases hbegin q with hsame | ⟨-, e', hload⟩
    · exact H.written q e tail (by rw [← hsame, htail])
    · rw [hload] at htail
      cases htail
  · intro p'
    by_cases hp : p' = p
    · subst hp
      rw [hself]
      exact hentry
    · rw [hothers p' hp]
      exact H.pusher_queue p'
  · rw [hpopper]
    exact H.popper_queue

/-- An access of a push to its ring. -/
theorem pusherAccess (H : s.Inv) {pc' : PusherPc} {pushed : List TransferEntry}
    (hpc : s.pusher p = .pushing pc) (hq₀ : pc.entry.queue = q₀) (hr : r.cap = (s.ring q₀).cap)
    (hstate : s'.state = s.state) (hpopper : s'.popper = s.popper)
    (hbreaker : s'.breaker = s.breaker) (hpopped : s'.popped = s.popped)
    (hswept : s'.swept = s.swept) (hring : s'.ring = Function.update s.ring q₀ r)
    (hpusher : s'.pusher = Function.update s.pusher p pc')
    (hpushed : s'.pushed = Function.update s.pushed q₀ pushed)
    (hshared : ∀ consumer,
      SharedRing (s.ring q₀) (s.pushed q₀) (s.popped q₀) (some pc) consumer →
      SharedRing r pushed (s.popped q₀) (pc'.push? q₀) consumer)
    (hdistinct : NoAlias r.cap pushed.length)
    (hwritten : ∀ e tail, pc'.push? q₀ = some (.storeTail e tail) →
      NoAlias r.cap (pushed.length + 1))
    (hother : ∀ q, q ≠ q₀ → pc'.push? q = none) (hentry : pc'.carried? = some pc.entry)
    (hlater : s.state = .broken → s.Later s') : s'.Inv := by
  have hp : q₀.producer = p := by
    rw [← hq₀]
    exact H.pusher_queue p pc.entry (by simp [hpc, PusherPc.carried?])
  have hself : s'.pusher p = pc' := by rw [hpusher, Function.update_self]
  refine H.of_later hstate hbreaker hswept hlater ?_ ?_ ?_ ?_ ?_ ?_
  · intro q
    by_cases hq : q = q₀
    · subst hq
      simpa [hring] using hr
    · simp [hring, hq]
  · intro q
    have hq' := H.shared q
    rw [hpopped, hpopper]
    by_cases hq : q = q₀
    · subst hq
      rw [hp, hpc] at hq'
      simp only [PusherPc.push?, hq₀, if_true] at hq'
      simpa [hring, hpushed, hp, hself] using hshared _ hq'
    · by_cases hqp : q.producer = p
      · rw [hqp, hpc] at hq'
        simp only [PusherPc.push?, hq₀, if_neg (Ne.symm hq)] at hq'
        simpa [hring, hpushed, hqp, hself, hq, hother q hq] using hq'
      · simpa [hring, hpushed, hpusher, hqp, hq] using hq'
  · intro q
    by_cases hq : q = q₀
    · subst hq
      rw [← hr]
      simpa [hpushed] using hdistinct
    · simpa [hpushed, hq] using H.distinct q
  · intro q e tail htail
    by_cases hq : q = q₀
    · subst hq
      rw [← hr]
      rw [hp, hself] at htail
      simpa [hpushed] using hwritten e tail htail
    · by_cases hqp : q.producer = p
      · rw [hqp, hself, hother q hq] at htail
        cases htail
      · simpa [hpushed, hq] using H.written q e tail (by simpa [hpusher, hqp] using htail)
  · intro p' e he
    by_cases hp' : p' = p
    · subst hp'
      rw [hself, hentry] at he
      cases he
      rw [hq₀, hp]
    · exact H.pusher_queue p' e (by simpa [hpusher, hp'] using he)
  · rw [hpopper]
    exact H.popper_queue

/-- An access of a push after which it goes on. -/
theorem pusherRunning (H : s.Inv) {pc pc' : PushPc TransferEntry} (hpc : s.pusher p = .pushing pc)
    (hguard : SlotGuard (s.ring pc.entry.queue) (s.pushed pc.entry.queue) pc)
    (hstep : pushStep (s.ring pc.entry.queue) pc = (r, .running pc')) :
    ((s.setRing pc.entry.queue r).setPusher p (.pushing pc')).Inv := by
  have hcap := cap_of_pushStep hstep
  have hentry := (pushStep_running hstep).2
  have hflight : ∀ q j, q.producer = p → ¬ s.InFlight q j := by
    rintro q j rfl
    exact not_inFlight hpc nofun nofun
  have hpush : (PusherPc.pushing pc').push? pc.entry.queue = some pc' := by
    simp [PusherPc.push?, hentry]
  refine H.pusherAccess hpc rfl hcap rfl rfl rfl rfl rfl rfl rfl
    (Function.update_eq_self _ _).symm ?_ ?_ ?_ ?_ ?_ ?_
  · intro consumer hshared
    rw [hpush]
    exact hshared.push_running hguard hstep
  · rw [hcap]
    exact H.distinct _
  · intro e tail htail
    rw [hpush] at htail
    cases htail
    rw [hcap]
    cases PushMove.of_pushStep hstep
    exact hguard e tail rfl
  · intro q hq
    simp [PusherPc.push?, hentry, Ne.symm hq]
  · simp [PusherPc.carried?, hentry]
  · intro _
    refine Later.of_pusher (p := p) ?_ rfl rfl rfl (List.Subset.refl _) ?_
      fun q j hqp h => absurd h (hflight q j hqp)
    · exact cap_setRing hcap
    · intro p' hp'
      simp [setPusher, setRing, hp']

/-- The last access of a push publishes its entry. -/
theorem pusherOk (H : s.Inv) (hpc : s.pusher p = .pushing pc)
    (hstep : pushStep (s.ring pc.entry.queue) pc = (r, .returned .ok)) :
    ({ (s.setRing pc.entry.queue r).setPusher p (.rechecking pc.entry) with
      pushed := Function.update s.pushed pc.entry.queue
        (s.pushed pc.entry.queue ++ [pc.entry]) } : PayloadCleanup ι).Inv := by
  have hcap := cap_of_pushStep hstep
  have hp : pc.entry.queue.producer = p :=
    H.pusher_queue p pc.entry (by simp [hpc, PusherPc.carried?])
  refine H.pusherAccess hpc rfl hcap rfl rfl rfl rfl rfl rfl rfl rfl ?_ ?_ ?_ ?_ rfl ?_
  · intro consumer hshared
    exact hshared.push_ok hstep
  · rcases pushStep_returned hstep with ⟨hst, -⟩ | ⟨-, e, tail, hlast, -⟩
    · cases hst
    · rw [hcap, List.length_append, List.length_singleton]
      refine H.written _ e tail ?_
      rw [hp, hpc]
      simp only [PusherPc.push?, if_true, hlast]
  · intro e tail htail
    cases htail
  · intro q _
    rfl
  · intro _
    refine Later.of_publish (e := pc.entry) ?_ rfl rfl rfl rfl ?_ ?_ ?_
    · exact cap_setRing hcap
    · intro p' hp'
      rw [hp] at hp'
      simp [setPusher, setRing, hp']
    · intro e'
      rw [hp, hpc]
      simp
    · rw [hp]
      simp [setPusher]

/-- A push finds its ring full. -/
theorem pusherFull (H : s.Inv)
    {status : StatusCode} (hpc : s.pusher p = .pushing pc) (hstatus : status ≠ .ok)
    (hstep : pushStep (s.ring pc.entry.queue) pc = (r, .returned status)) :
    ((s.setRing pc.entry.queue r).setPusher p (.full pc.entry)).Inv := by
  have hflight : ∀ q j, q.producer = p → ¬ s.InFlight q j := by
    rintro q j rfl
    exact not_inFlight hpc nofun nofun
  rcases pushStep_returned hstep with ⟨-, rfl, -⟩ | ⟨hst, -⟩
  swap
  · exact absurd hst hstatus
  refine H.pusherAccess hpc rfl rfl rfl rfl rfl rfl rfl rfl rfl
    (Function.update_eq_self _ _).symm ?_ (H.distinct _) ?_ (fun _ _ => rfl) rfl ?_
  · intro consumer hshared
    exact hshared.endPush
  · intro e tail htail
    cases htail
  · intro _
    refine Later.of_pusher (p := p) ?_ rfl rfl rfl (List.Subset.refl _) ?_
      fun q j hqp h => absurd h (hflight q j hqp)
    · intro q
      simp [setPusher, setRing]
    · intro p' hp'
      simp [setPusher, setRing, hp']

/-- A push that has nothing in flight goes on outside of the ring calls, or begins one. -/
theorem pusherApart (H : s.Inv) {pc : PusherPc} (hflight : ∀ q j, q.producer = p → ¬ s.InFlight q j)
    (hold : ∀ q, (s.pusher p).push? q = none)
    (hnew : ∀ q, pc.push? q = none ∨ ∃ e, pc.push? q = some (.loadHead e))
    (hentry : ∀ e ∈ pc.carried?, e.queue.producer = p) : (s.setPusher p pc).Inv :=
  H.pusherQuiet rfl rfl rfl rfl rfl rfl rfl (List.Subset.refl _) rfl hold hnew hentry
    fun _ q j hqp h => absurd h (hflight q j hqp)

/-- A push that has published its entry finds the session alive and returns. -/
theorem pusherKept (H : s.Inv) (hpc : s.pusher p = .rechecking e)
    (halive : s.state = .alive) : (s.setPusher p .idle).Inv :=
  H.pusherQuiet rfl rfl rfl rfl rfl rfl rfl (List.Subset.refl _) rfl
    (by simp [hpc, PusherPc.push?]) (fun q => .inl rfl) (by simp [PusherPc.carried?])
    fun hbroken => by simp [halive] at hbroken

/-- A push that has published its entry finds the session broken. -/
theorem pusherRevoked (H : s.Inv)
    (hpc : s.pusher p = .rechecking e) : (s.setPusher p (.removing e)).Inv := by
  have hq : e.queue.producer = p := H.pusher_queue p e (by simp [hpc, PusherPc.carried?])
  refine H.pusherQuiet rfl rfl rfl rfl rfl rfl rfl (List.Subset.refl _) rfl
    (by simp [hpc, PusherPc.push?]) (fun q => .inl rfl)
    (by simpa [PusherPc.carried?] using hq) ?_
  rintro - q j rfl ⟨hlast, e', he, hpc'⟩
  obtain rfl : e = e' := by simpa [hpc] using hpc'
  exact .inr ⟨hlast, e, he, .inr (by simp [setPusher])⟩

/-- A push that found the session broken removes its own file. -/
theorem pusherRemove (H : s.Inv)
    (hpc : s.pusher p = .removing e) : ((s.remove e).setPusher p .idle).Inv := by
  obtain ⟨hstate, hring, hpusher, hpopper, hbreaker, hpushed, hpopped, hswept⟩ :=
    s.remove_frame e
  have hidle : ((s.remove e).setPusher p .idle).pusher = Function.update s.pusher p .idle := by
    simp [setPusher]
  refine H.pusherQuiet hstate hring hpopper hbreaker hpushed hpopped hswept
    (s.subset_remove e) hidle (by simp [hpc, PusherPc.push?]) (fun q => .inl rfl)
    (by simp [PusherPc.carried?]) ?_
  rintro - q j rfl ⟨hlast, e', he, hpc'⟩
  obtain rfl : e = e' := by simpa [hpc] using hpc'
  refine .inl (.inr ?_)
  intro e'' he'' hfile
  simp only [setPusher, hpushed, he, Option.some.injEq] at he''
  subst he''
  exact s.mem_remove hfile

theorem pusherStep (H : s.Inv) {retry : Bool}
    (hok : SlotsDistinct s (.pusher p retry)) (hs : s.pusherStep p retry = some s') : s'.Inv := by
  unfold PayloadCleanup.pusherStep at hs
  have hentry := H.pusher_queue p
  cases hpc : s.pusher p with
  | idle => simp [hpc] at hs
  | checking e =>
    have hq : e.queue.producer = p := hentry e (by simp [hpc, PusherPc.carried?])
    have hflight : ∀ q j, q.producer = p → ¬ s.InFlight q j := by
      rintro q j rfl
      exact not_inFlight hpc nofun nofun
    simp only [hpc] at hs
    split at hs
    · cases hs
      refine H.pusherApart hflight (by simp [hpc, PusherPc.push?]) ?_ ?_
      · intro q
        by_cases he : e.queue = q
        · exact .inr ⟨e, by simp [PusherPc.push?, PushPc.entry, he]⟩
        · exact .inl (by simp [PusherPc.push?, PushPc.entry, he])
      · simpa [PusherPc.carried?, PushPc.entry] using hq
    · cases hs
      exact H.pusherApart hflight (by simp [hpc, PusherPc.push?]) (fun q => .inl rfl)
        (by simpa [PusherPc.carried?] using hq)
  | pushing pc =>
    have hguard : SlotGuard (s.ring pc.entry.queue) (s.pushed pc.entry.queue) pc := by
      simpa [SlotsDistinct, hpc] using hok
    simp only [hpc] at hs
    rcases hstep : pushStep (s.ring pc.entry.queue) pc with ⟨r, pc' | status⟩
    · simp only [hstep, Option.some.injEq] at hs
      exact hs ▸ H.pusherRunning hpc hguard hstep
    · by_cases hstatus : status = .ok
      · subst hstatus
        simp only [hstep, Option.some.injEq] at hs
        exact hs ▸ H.pusherOk hpc hstep
      · simp only [hstep, Option.some.injEq] at hs
        exact hs ▸ H.pusherFull hpc hstatus hstep
  | rechecking e =>
    simp only [hpc] at hs
    split at hs
    · next halive =>
        cases hs
        exact H.pusherKept hpc halive
    · cases hs
      exact H.pusherRevoked hpc
  | full e =>
    have hq : e.queue.producer = p := hentry e (by simp [hpc, PusherPc.carried?])
    have hflight : ∀ q j, q.producer = p → ¬ s.InFlight q j := by
      rintro q j rfl
      exact not_inFlight hpc nofun nofun
    have hgo : ∀ pc : PusherPc, (∀ q, pc.push? q = none) → (∀ e' ∈ pc.carried?, e' = e) →
        (s.setPusher p pc).Inv := by
      intro pc hpush he
      refine H.pusherApart hflight (by simp [hpc, PusherPc.push?]) (fun q => .inl (hpush q)) ?_
      intro e' he'
      rw [he e' he']
      exact hq
    simp only [hpc] at hs
    split at hs
    · cases hs
      exact hgo _ (fun _ => rfl) (by simp [PusherPc.carried?])
    · cases hs
      cases retry with
      | true => exact hgo _ (fun _ => rfl) (by simp [PusherPc.carried?])
      | false => exact hgo _ (fun _ => rfl) (by simp [PusherPc.carried?])
  | removing e =>
    simp only [hpc, Option.some.injEq] at hs
    subst hs
    exact H.pusherRemove hpc

/-- A step of a popper: the state of its pop, the ring and what was popped. -/
theorem popperAccess (H : s.Inv) {pc' : PopperPc}
    {popped : List TransferEntry} (hp : q₀.consumer = p)
    (hr : r.cap = (s.ring q₀).cap) (hstate : s'.state = s.state) (hpusher : s'.pusher = s.pusher)
    (hbreaker : s'.breaker = s.breaker) (hpushed : s'.pushed = s.pushed)
    (hremoved : s'.removed = s.removed) (hswept : s'.swept = s.swept)
    (hring : s'.ring = Function.update s.ring q₀ r)
    (hpopper : s'.popper = Function.update s.popper p pc')
    (hpopped : s'.popped = Function.update s.popped q₀ popped)
    (hshared : ∀ producer,
      SharedRing (s.ring q₀) (s.pushed q₀) (s.popped q₀) producer ((s.popper p).pop? q₀) →
      SharedRing r (s.pushed q₀) popped producer (pc'.pop? q₀))
    (hold : ∀ q, q ≠ q₀ → (s.popper p).pop? q = none)
    (hnew : ∀ q, q ≠ q₀ → pc'.pop? q = none) (hqueue : ∀ q ∈ pc'.queue?, q.consumer = p)
    (hgrows : (s.popped q₀).length ≤ popped.length)
    (hpops : s.state = .broken → popped.length + (if (pc'.pop? q₀).isSome then 1 else 0) ≤
      (s.popped q₀).length + if ((s.popper p).pop? q₀).isSome then 1 else 0) : s'.Inv := by
  have hself : s'.popper p = pc' := by rw [hpopper, Function.update_self]
  have hcap : ∀ q, (s'.ring q).cap = (s.ring q).cap := by
    intro q
    by_cases hq : q = q₀
    · subst hq
      simpa [hring] using hr
    · simp [hring, hq]
  -- on the other rings neither the old nor the new point has a pop under way
  have hother : ∀ q, q ≠ q₀ → (s'.popper q.consumer).pop? q = (s.popper q.consumer).pop? q := by
    intro q hq
    by_cases hqp : q.consumer = p
    · rw [hqp, hself, hnew q hq, hold q hq]
    · rw [hpopper, Function.update_of_ne hqp]
  refine H.of_later hstate hbreaker hswept ?_ hcap ?_ ?_ ?_ ?_ ?_
  · intro hbroken
    refine Later.of_popper hcap hpushed hpusher hremoved ?_ ?_
    · intro q
      by_cases hq : q = q₀
      · subst hq
        simpa [hpopped] using hgrows
      · simp [hpopped, hq]
    · intro q
      by_cases hq : q = q₀
      · subst hq
        simpa [hpopped, pops, hp, hself] using hpops hbroken
      · simp [hpopped, pops, hq, hother q hq]
  · intro q
    have hq' := H.shared q
    rw [hpushed, hpusher]
    by_cases hq : q = q₀
    · subst hq
      rw [hp] at hq' ⊢
      simpa [hring, hpopped, hself] using hshared _ hq'
    · rw [hother q hq]
      simpa [hring, hpopped, hq] using hq'
  · rw [hpushed]
    exact H.distinct
  · rw [hpushed, hpusher]
    exact H.written
  · rw [hpusher]
    exact H.pusher_queue
  · intro p'
    by_cases hp' : p' = p
    · subst hp'
      rw [hself]
      exact hqueue
    · rw [hpopper, Function.update_of_ne hp']
      exact H.popper_queue p'

theorem popped_eq_update (s : PayloadCleanup ι) (q : QueueKind) :
    s.popped = Function.update s.popped q (s.popped q) :=
  (Function.update_eq_self _ _).symm

/-- A pop begins on an alive session. -/
theorem popperBegin (H : s.Inv) (hpc : s.popper p = .checking q)
    (halive : s.state = .alive) : (s.setPopper p (.popping q .loadTail)).Inv := by
  have hp : q.consumer = p := H.popper_queue p q (by simp [hpc, PopperPc.queue?])
  refine H.popperAccess hp rfl rfl rfl rfl rfl rfl rfl (Function.update_eq_self _ _).symm
    rfl (popped_eq_update s q) ?_ ?_ ?_ ?_ le_rfl ?_
  · intro producer hshared
    simp only [hpc, PopperPc.pop?, if_true] at hshared ⊢
    exact hshared.beginPop
  · simp [hpc, PopperPc.pop?]
  · intro q' hq'
    simp [PopperPc.pop?, Ne.symm hq']
  · simpa [PopperPc.queue?] using hp
  · intro hbroken
    simp [halive] at hbroken

/-- A pop is refused by the state. -/
theorem popperRefused (H : s.Inv) (hpc : s.popper p = .checking q) : (s.setPopper p .idle).Inv := by
  have hp : q.consumer = p := H.popper_queue p q (by simp [hpc, PopperPc.queue?])
  refine H.popperAccess hp rfl rfl rfl rfl rfl rfl rfl (Function.update_eq_self _ _).symm
    rfl (popped_eq_update s q) ?_ ?_ (fun _ _ => rfl) (by simp [PopperPc.queue?])
    le_rfl ?_
  · intro producer hshared
    simpa [hpc, PopperPc.pop?] using hshared
  · simp [hpc, PopperPc.pop?]
  · intro _
    simp [hpc, PopperPc.pop?]

/-- An access of a pop after which it goes on. -/
theorem popperRunning (H : s.Inv) {pc pc' : PopPc TransferEntry} (hpc : s.popper p = .popping q pc)
    (hstep : popStep (s.ring q) pc = (r, .running pc')) :
    ((s.setRing q r).setPopper p (.popping q pc')).Inv := by
  have hp : q.consumer = p := H.popper_queue p q (by simp [hpc, PopperPc.queue?])
  refine H.popperAccess hp (cap_of_popStep hstep) rfl rfl rfl rfl rfl rfl rfl rfl
    (popped_eq_update s q) ?_ ?_ ?_ ?_ le_rfl ?_
  · intro producer hshared
    simp only [hpc, PopperPc.pop?, if_true] at hshared ⊢
    exact hshared.pop_running hstep
  · intro q' hq'
    simp [hpc, PopperPc.pop?, Ne.symm hq']
  · intro q' hq'
    simp [PopperPc.pop?, Ne.symm hq']
  · simpa [PopperPc.queue?] using hp
  · intro _
    simp [hpc, PopperPc.pop?]

/-- A pop finds its ring empty. -/
theorem popperEmpty (H : s.Inv) {pc : PopPc TransferEntry} (hpc : s.popper p = .popping q pc)
    (hstep : popStep (s.ring q) pc = (r, .returned none)) :
    ((s.setRing q r).setPopper p .idle).Inv := by
  have hp : q.consumer = p := H.popper_queue p q (by simp [hpc, PopperPc.queue?])
  rcases popStep_returned hstep with ⟨-, rfl, -⟩ | ⟨e, head, hres, -⟩
  swap
  · cases hres
  refine H.popperAccess hp rfl rfl rfl rfl rfl rfl rfl rfl rfl
    (popped_eq_update s q) ?_ ?_ (fun _ _ => rfl) (by simp [PopperPc.queue?])
    le_rfl ?_
  · intro producer hshared
    exact hshared.endPop
  · intro q' hq'
    simp [hpc, PopperPc.pop?, Ne.symm hq']
  · intro _
    simp [hpc, PopperPc.pop?]

/-- The last access of a pop takes the entry. -/
theorem popperTaken (H : s.Inv) {pc : PopPc TransferEntry} (hpc : s.popper p = .popping q pc)
    (hstep : popStep (s.ring q) pc = (r, .returned (some e))) :
    ({ (s.setRing q r).setPopper p .idle with
      popped := Function.update s.popped q (s.popped q ++ [e]) } : PayloadCleanup ι).Inv := by
  have hp : q.consumer = p := H.popper_queue p q (by simp [hpc, PopperPc.queue?])
  refine H.popperAccess hp (cap_of_popStep hstep) rfl rfl rfl rfl rfl rfl rfl rfl rfl ?_ ?_
    (fun _ _ => rfl) (by simp [PopperPc.queue?]) (by simp) ?_
  · intro producer hshared
    simp only [hpc, PopperPc.pop?, if_true] at hshared
    exact (hshared.pop_some hstep).1
  · intro q' hq'
    simp [hpc, PopperPc.pop?, Ne.symm hq']
  · intro _
    simp [hpc, PopperPc.pop?]

theorem popperStep (H : s.Inv) (hs : s.popperStep p = some s') : s'.Inv := by
  unfold PayloadCleanup.popperStep at hs
  cases hpc : s.popper p with
  | idle => simp [hpc] at hs
  | checking q =>
    simp only [hpc] at hs
    split at hs
    · next halive =>
        cases hs
        exact H.popperBegin hpc halive
    · cases hs
      exact H.popperRefused hpc
  | popping q pc =>
    simp only [hpc] at hs
    rcases hstep : popStep (s.ring q) pc with ⟨r, pc' | _ | e⟩
    · simp only [hstep, Option.some.injEq] at hs
      exact hs ▸ H.popperRunning hpc hstep
    · simp only [hstep, Option.some.injEq] at hs
      exact hs ▸ H.popperEmpty hpc hstep
    · simp only [hstep, Option.some.injEq] at hs
      exact hs ▸ H.popperTaken hpc hstep

/-- The slot that the scan reads is the one of the entry it is due to clear. -/
theorem readSlot_scan (H : s.Inv) {h k j : ℕ}
    (hj : (s.pushed q)[j]? = some e) (hpopped : (s.popped q).length ≤ j) (hle : h ≤ j)
    (hk : (j - h) % (s.ring q).cap = k) :
    (s.ring q).readSlot (UInt32.ofNat h + UInt32.ofNat k) = e := by
  obtain ⟨hlt, he⟩ := List.getElem?_eq_some_iff.mp hj
  have hkle : k ≤ j - h := hk ▸ Nat.mod_le _ _
  have hmod : (h + k) % (s.ring q).cap = j % (s.ring q).cap := by
    have hj' : j = h + (j - h) := by omega
    rw [hj', ← hk, Nat.add_mod_mod]
  have hslot : slot (s.ring q).cap (h + k) = slot (s.ring q).cap j := by
    rw [(H.distinct q).slot_eq (by omega), (H.distinct q).slot_eq hlt, hmod]
  rw [← UInt32.ofNat_add, Ring.readSlot_ofNat, hslot, (H.shared q).holds.slots j hlt hpopped, he]

section

variable [DecidableEq ι] {i : ι}

/-- A step of a thread in `MarkSessionBroken`. -/
theorem breakerMove (H : s.Inv) {pc' : SweepPc} (hstate : s'.state = .broken)
    (hring : s'.ring = s.ring) (hpusher : s'.pusher = s.pusher) (hpopper : s'.popper = s.popper)
    (hpushed : s'.pushed = s.pushed) (hpopped : s'.popped = s.popped)
    (hremoved : s.removed ⊆ s'.removed) (hbreaker : s'.breaker = Function.update s.breaker i pc')
    (hknown : s.Later s' → s'.Known pc')
    (hswept : s.Later s' → s'.swept = true → ∀ q, s'.Swept q) : s'.Inv := by
  have hlater : s.Later s' := by
    refine Later.of_pusher (p := .client) (by simp [hring]) hpopper hpopped hpushed hremoved
      (fun _ _ => by rw [hpusher]) ?_
    intro q j _ hflying
    right
    simpa only [InFlight, hpushed, hpusher] using hflying
  refine ⟨?_, ?_, ?_, ?_, ?_, ?_, ?_, fun _ => hstate, ?_, hswept hlater⟩
  · rw [hring, hpusher, hpopper, hpushed, hpopped]
    exact H.shared
  · rw [hring]
    exact H.cap_pos
  · rw [hring]
    exact H.cap_le
  · rw [hring, hpushed]
    exact H.distinct
  · rw [hring, hpushed, hpusher]
    exact H.written
  · rw [hpusher]
    exact H.pusher_queue
  · rw [hpopper]
    exact H.popper_queue
  · intro i'
    by_cases hi : i' = i
    · subst hi
      rw [hbreaker, Function.update_self]
      exact hknown hlater
    · rw [hbreaker, Function.update_of_ne hi]
      exact hlater.known (H.known i')

/-- The scan of a ring is complete. -/
theorem sweepNext (H : s.Inv) (hbroken : s.state = .broken)
    (hearlier : ∀ q', q'.rank < q.rank → s.Swept q') (hq : s.Swept q) :
    (s.sweepNext i q).Inv := by
  refine H.breakerMove hbroken rfl rfl rfl rfl rfl (List.Subset.refl _) rfl ?_ ?_
  · intro L
    cases q with
    | highRequest =>
      intro q' hq'
      cases q' with
      | highRequest => exact L.swept hq
      | normalRequest | response => simp [QueueKind.rank] at hq'
    | normalRequest =>
      intro q' hq'
      cases q' with
      | highRequest => exact L.swept (hearlier _ (by decide))
      | normalRequest => exact L.swept hq
      | response => simp [QueueKind.rank] at hq'
    | response => trivial
  · intro L hswept q'
    by_cases hlast : q = .response
    · subst hlast
      cases q' with
      | highRequest | normalRequest => exact L.swept (hearlier _ (by decide))
      | response => exact L.swept hq
    · refine L.swept (H.swept ?_ q')
      simpa [PayloadCleanup.sweepNext, setBreaker, hlast] using hswept

/-- The scan of a ring reads the head. -/
theorem sweepHead (H : s.Inv) (hpc : s.breaker i = .readHead q) :
    (s.setBreaker i (.readTail q (s.ring q).cursor.head)).Inv := by
  have hknown := H.known i
  rw [hpc] at hknown
  refine H.breakerMove (H.broken (.inr ⟨i, by simp [hpc]⟩)) rfl rfl rfl rfl rfl
    (List.Subset.refl _) rfl ?_ fun L hswept q' => L.swept (H.swept hswept q')
  intro L
  refine ⟨fun q' hq' => L.swept (hknown q' hq'), (s.popped q).length,
    (H.shared q).holds.cursors.head_eq, le_rfl, ?_⟩
  exact Nat.add_le_add_left (pops_le _ q) _

/-- The scan of a ring reads the tail, and is going to look at every entry that was pushed. -/
theorem sweepTail (H : s.Inv) {head : UInt32} (hpc : s.breaker i = .readTail q head) :
    (s.setBreaker i (.scanning q head
      (min ((s.ring q).cursor.tail - head) (s.ring q).cursor.capacity) 0)).Inv := by
  have hknown := H.known i
  rw [hpc] at hknown
  obtain ⟨hearlier, h, rfl, hle, hpops⟩ := hknown
  have hcursors := (H.shared q).holds.cursors
  have hroom : (s.pushed q).length ≤ (s.popped q).length + (s.ring q).cap := hcursors.room
  have hcount : (min ((s.ring q).cursor.tail - UInt32.ofNat h)
      (s.ring q).cursor.capacity).toNat = min ((s.pushed q).length - h) (s.ring q).cap := by
    have hcap := H.cap_le q
    have hdist := toNat_ofNat_sub (a := (s.pushed q).length) (b := h)
      (hle.trans hcursors.le) (by omega)
    rw [UInt32.toNat_min, hcursors.tail_eq, hdist, Ring.cap]
  refine H.breakerMove (H.broken (.inr ⟨i, by simp [hpc]⟩)) rfl rfl rfl rfl rfl
    (List.Subset.refl _) rfl ?_ fun L hswept q' => L.swept (H.swept hswept q')
  intro L
  refine ⟨fun q' hq' => L.swept (hearlier q' hq'), h, (s.pushed q).length, rfl, le_rfl,
    hcount, ?_⟩
  intro j hj
  by_cases hjh : j < h
  · exact .inl (.inl (.inl (hjh.trans_le hle)))
  · exact .inr ⟨by omega, hj, Nat.zero_le _⟩

/-- The scan of a ring removes the file of a slot. -/
theorem sweepSlot (H : s.Inv) {head count : UInt32} {k : ℕ}
    (hpc : s.breaker i = .scanning q head count k) :
    ((s.remove ((s.ring q).readSlot (head + UInt32.ofNat k))).setBreaker i
      (.scanning q head count (k + 1))).Inv := by
  have hbroken := H.broken (.inr ⟨i, by simp [hpc]⟩)
  have hknown := H.known i
  rw [hpc] at hknown
  obtain ⟨hearlier, h, t, rfl, htle, hcount, hscan⟩ := hknown
  obtain ⟨hstate, hring, hpusher, hpopper, hbreaker, hpushed, hpopped, hswept⟩ :=
    s.remove_frame ((s.ring q).readSlot (UInt32.ofNat h + UInt32.ofNat k))
  refine H.breakerMove (hstate.trans hbroken) hring hpusher hpopper hpushed hpopped
    (s.subset_remove _) (by simp [setBreaker]; rfl) ?_ ?_
  · intro L
    refine ⟨fun q' hq' => L.swept (hearlier q' hq'), h, t, rfl, htle.trans (L.pushed q), ?_, ?_⟩
    · rw [L.cap]
      exact hcount
    · intro j hj
      rw [L.cap]
      have hlt : j < (s.pushed q).length := by simpa [setBreaker, hpushed] using hj
      rcases hscan j hlt with hcleared | ⟨hhj, hjt, hk⟩
      · exact .inl (L.cleared q j hj fun _ => hcleared)
      · rcases hk.lt_or_eq with hk | hk
        · exact .inr ⟨hhj, hjt, hk⟩
        · -- this is the entry whose slot was read
          left
          left
          by_cases hdone : j < (s.popped q).length
          · exact .inl (by simpa [setBreaker, hpopped] using hdone)
          · refine .inr fun e he hfile => ?_
            have he' : (s.pushed q)[j]? = some e := by simpa [setBreaker, hpushed] using he
            have hslot := H.readSlot_scan he' (by omega) hhj hk.symm
            simpa [setBreaker, hslot] using s.mem_remove hfile
  · intro L hswept' q'
    refine L.swept (H.swept ?_ q')
    simpa [setBreaker, hswept] using hswept'

/-- The scan of a ring is over, and the ring is swept. -/
theorem sweepDone (H : s.Inv) {head count : UInt32} {k : ℕ}
    (hpc : s.breaker i = .scanning q head count k) (hdone : ¬ k < count.toNat) :
    (s.sweepNext i q).Inv := by
  have hknown := H.known i
  rw [hpc] at hknown
  obtain ⟨hearlier, h, t, rfl, htle, hcount, hscan⟩ := hknown
  refine H.sweepNext (H.broken (.inr ⟨i, by simp [hpc]⟩)) hearlier ?_
  intro j hj
  refine (hscan j hj).resolve_right ?_
  rintro ⟨hhj, hjt, hk⟩
  have hmodlt := Nat.mod_lt (j - h) (H.cap_pos q)
  have hmodle := Nat.mod_le (j - h) (s.ring q).cap
  omega

theorem sweepStep (H : s.Inv) (hs : s.sweepStep i = some s') : s'.Inv := by
  unfold PayloadCleanup.sweepStep at hs
  cases hpc : s.breaker i with
  | outside => simp [hpc] at hs
  | readHead q =>
    have hcap : (s.ring q).cursor.capacity ≠ 0 := by
      intro hzero
      have := H.cap_pos q
      simp [Ring.cap, hzero] at this
    simp only [hpc] at hs
    rw [if_neg hcap, Option.some.injEq] at hs
    exact hs ▸ H.sweepHead hpc
  | readTail q head =>
    simp only [hpc, Option.some.injEq] at hs
    exact hs ▸ H.sweepTail hpc
  | scanning q head count k =>
    simp only [hpc] at hs
    split at hs
    · cases hs
      exact H.sweepSlot hpc
    · next hdone =>
        cases hs
        exact H.sweepDone hpc hdone

theorem step (H : s.Inv) {caps : QueueKind → RingCapacity} {m : ℕ → TransferEntry}
    {a : CleanupAction ι} (hok : SlotsDistinct s a)
    (hs : (payloadCleanup ι caps m).step s a = some s') : s'.Inv := by
  cases a with
  | push q file =>
    simp only [payloadCleanup] at hs
    split at hs
    · rename_i hpc
      cases hs
      refine H.pusherQuiet rfl rfl rfl rfl rfl rfl rfl (List.Subset.refl _) rfl
        (by simp [hpc, PusherPc.push?]) (fun q => .inl rfl) (by simp [PusherPc.carried?]) ?_
      rintro - q' j hq' ⟨-, e', -, hpc' | hpc'⟩ <;> simp [hq', hpc] at hpc'
    · cases hs
  | pusher p retry => exact H.pusherStep hok hs
  | pop q =>
    simp only [payloadCleanup] at hs
    split at hs
    · rename_i hpc
      cases hs
      refine H.popperAccess rfl rfl rfl rfl rfl rfl rfl rfl
        (Function.update_eq_self _ _).symm rfl (Function.update_eq_self q s.popped).symm
        ?_ ?_ ?_ ?_
        le_rfl ?_
      · intro producer hshared
        simpa [hpc, PopperPc.pop?] using hshared
      · simp [hpc, PopperPc.pop?]
      · intro q' hq'
        rfl
      · simp [PopperPc.queue?]
      · intro _
        simp [hpc, PopperPc.pop?]
    · cases hs
  | popper p => exact H.popperStep hs
  | markBroken i =>
    simp only [payloadCleanup] at hs
    split at hs
    · cases hs
      refine H.breakerMove rfl rfl rfl rfl rfl rfl (List.Subset.refl _) rfl ?_
        fun L hswept q => L.swept (H.swept hswept q)
      intro _ q' hq'
      cases q' <;> simp [QueueKind.rank] at hq'
    · cases hs
  | sweep i => exact H.sweepStep hs

theorem of_reach {caps : QueueKind → RingCapacity} {m : ℕ → TransferEntry}
    (h : (payloadCleanup ι caps m).Reach SlotsDistinct s) : s.Inv := by
  refine Machine.Reach.invariant (I := Inv) ?_ ?_ h
  · refine ⟨fun q => SharedRing.create _ _, fun q => (caps q).pos, fun q => (caps q).le,
      fun q => .inr (by simp [payloadCleanup]), ?_, ?_, ?_, ?_, fun _ => trivial, ?_⟩
    · simp [payloadCleanup, PusherPc.push?]
    · simp [payloadCleanup, PusherPc.carried?]
    · simp [payloadCleanup, PopperPc.queue?]
    · simp [payloadCleanup]
    · simp [payloadCleanup]
  · intro s a s' H hok hs
    exact H.step hok hs

end

/-- With no push under way every swept ring is clean. -/
theorem cleaned (H : s.Inv) : s.Cleaned := by
  intro hswept hidle q e he hfile
  obtain ⟨j, hj, rfl⟩ := List.mem_iff_getElem.mp he
  rcases H.swept hswept q j hj with (hpop | hremoved) | ⟨-, e', -, hpc⟩
  · left
    have hpre := (H.shared q).holds.isPrefix
    rw [← hpre.getElem hpop]
    exact List.getElem_mem hpop
  · exact .inr (hremoved _ (List.getElem?_eq_getElem hj) hfile)
  · simp [hidle] at hpc

end Inv

end PayloadCleanup

/-- **A breaking session leaves no payload file behind.** In every run in which slots are
written only while the slots of the window are distinct, once a `MarkSessionBroken` and all
pushes have returned, every entry with a file that was ever written to a ring was popped,
or its file was removed. -/
theorem cleaned_of_slotsDistinct {ι : Type} [DecidableEq ι] (caps : QueueKind → RingCapacity)
    (m : ℕ → TransferEntry) {s : PayloadCleanup ι}
    (h : (payloadCleanup ι caps m).Reach SlotsDistinct s) : s.Cleaned :=
  (PayloadCleanup.Inv.of_reach h).cleaned

/-- Rings of eight slots, one thread that breaks the session. -/
def defaultCleanup : Machine (PayloadCleanup Unit) (CleanupAction Unit) :=
  payloadCleanup Unit (fun _ => ⟨8, validRingSize_eight⟩) fun _ => ⟨0, .normalRequest, false⟩

/-- A first request with a file is published before the break, and a second one has stored its
tail. `MarkSessionBroken` scans both, then the second push finds the session broken. -/
def breakSchedule : List (CleanupAction Unit) :=
  .push .normalRequest true :: List.replicate 6 (.pusher .client false) ++
    .push .normalRequest true :: List.replicate 5 (.pusher .client false) ++
    .markBroken () :: List.replicate 11 (.sweep ()) ++ List.replicate 2 (.pusher .client false)

theorem cleaned_breakSchedule :
    ∃ s, defaultCleanup.Reach SlotsDistinct s ∧ s.swept = true ∧
      (s.pushed .normalRequest).length = 2 ∧ s.popped .normalRequest = [] ∧
      ∀ e ∈ s.pushed .normalRequest, e.file = true →
        e ∈ s.popped .normalRequest ∨ e.call ∈ s.removed := by
  obtain ⟨s, hreach, hswept, hclient, hserver, hpushed, hpopped⟩ :=
    defaultCleanup.exists_reachOk SlotsDistinct breakSchedule
    (P := fun s => s.swept = true ∧ s.pusher .client = .idle ∧ s.pusher .server = .idle ∧
      (s.pushed .normalRequest).length = 2 ∧ s.popped .normalRequest = []) (by decide +kernel)
  have hidle : ∀ p, s.pusher p = .idle := by
    intro p
    cases p with
    | client => exact hclient
    | server => exact hserver
  exact ⟨s, hreach, hswept, hpushed, hpopped,
    cleaned_of_slotsDistinct _ _ hreach hswept hidle .normalRequest⟩

/-! ## The wrap of a ring of three slots -/

namespace PayloadCleanup

/-- A push with nobody else moving. -/
def pushAlone (q : QueueKind) (file : Bool) : List (CleanupAction Unit) :=
  .push q file :: List.replicate 6 (.pusher q.producer false)

/-- A pop with nobody else moving. -/
def popAlone (q : QueueKind) : List (CleanupAction Unit) :=
  .pop q :: List.replicate 5 (.popper q.consumer)

/-- The session after a push that returns `Ok`. -/
def afterPush (s : PayloadCleanup Unit) (q : QueueKind) (file : Bool) : PayloadCleanup Unit :=
  { s with
    ring := Function.update s.ring q
      (((s.ring q).writeSlot (s.ring q).cursor.tail ⟨s.calls, q, file⟩).storeTail
        ((s.ring q).cursor.tail + 1))
    calls := s.calls + 1
    pushed := Function.update s.pushed q (s.pushed q ++ [⟨s.calls, q, file⟩]) }

/-- The session after a pop that returns an entry. -/
def afterPop (s : PayloadCleanup Unit) (q : QueueKind) : PayloadCleanup Unit :=
  { s with
    ring := Function.update s.ring q ((s.ring q).storeHead ((s.ring q).cursor.head + 1))
    popped := Function.update s.popped q
      (s.popped q ++ [(s.ring q).readSlot (s.ring q).cursor.head]) }

section

variable {caps : QueueKind → RingCapacity} {m : ℕ → TransferEntry} {s : PayloadCleanup Unit}

theorem run_pushAlone (halive : s.state = .alive)
    (hidle : s.pusher q.producer = .idle) (file : Bool)
    (hroom : ¬ (s.ring q).cursor.tail - (s.ring q).cursor.head ≥ (s.ring q).cursor.capacity) :
    (payloadCleanup Unit caps m).run s (pushAlone q file) = some (s.afterPush q file) := by
  have hback : Function.update s.pusher q.producer .idle = s.pusher := by
    rw [← hidle, Function.update_eq_self]
  simp only [pushAlone, afterPush, List.replicate, Machine.run, payloadCleanup, hidle,
    pusherStep, setPusher, setRing, halive, pushStep, hroom, Option.bind_some,
    Function.update_self, PushPc.entry, Function.update_idem, hback, if_false]

theorem run_popAlone (halive : s.state = .alive) (hidle : s.popper q.consumer = .idle)
    (hne : (s.ring q).cursor.tail ≠ (s.ring q).cursor.head) :
    (payloadCleanup Unit caps m).run s (popAlone q) = some (s.afterPop q) := by
  have hback : Function.update s.popper q.consumer .idle = s.popper := by
    rw [← hidle, Function.update_eq_self]
  simp only [popAlone, afterPop, List.replicate, Machine.run, payloadCleanup, hidle,
    popperStep, setPopper, setRing, halive, popStep, hne, Option.bind_some, Function.update_self,
    Function.update_idem, hback, if_false]

end

/-- Rings of three slots, which do not divide `2 ^ 32`. -/
def threeSlots : Machine (PayloadCleanup Unit) (CleanupAction Unit) :=
  payloadCleanup Unit (fun _ => ⟨3, by decide⟩) fun _ => ⟨0, .normalRequest, false⟩

/-- `n` requests without files have been pushed and popped one by one. -/
structure Quiet (n : ℕ) (s : PayloadCleanup Unit) : Prop where
  state : s.state = .alive
  pusher : ∀ p, s.pusher p = .idle
  popper : ∀ p, s.popper p = .idle
  breaker : s.breaker () = .outside
  removed : s.removed = []
  calls : s.calls = n
  cursor : (s.ring .normalRequest).cursor = ⟨UInt32.ofNat n, UInt32.ofNat n, 3⟩
  others : ∀ q, q ≠ .normalRequest → (s.ring q).cursor = ⟨0, 0, 3⟩
  popped : ∀ e ∈ s.popped .normalRequest, e.file = false

theorem Quiet.round {n : ℕ} {s : PayloadCleanup Unit} (Q : Quiet n s)
    (h : threeSlots.Reach Machine.Always s) :
    ∃ s', threeSlots.Reach Machine.Always s' ∧ Quiet (n + 1) s' := by
  have hroom : ¬ (s.ring .normalRequest).cursor.tail - (s.ring .normalRequest).cursor.head ≥
      (s.ring .normalRequest).cursor.capacity := by
    simp only [Q.cursor, UInt32.sub_self]
    decide
  have hpush := h.run (run_pushAlone Q.state (Q.pusher _) false hroom)
  have hpop := hpush.run (run_popAlone (q := .normalRequest) (s := s.afterPush .normalRequest false)
    Q.state (Q.popper _) (by simp [afterPush, Q.cursor]))
  refine ⟨_, hpop, Q.state, Q.pusher, Q.popper, Q.breaker, Q.removed, ?_, ?_, ?_, ?_⟩
  · simp [afterPop, afterPush, Q.calls]
  · simp [afterPop, afterPush, Q.cursor, ofNat_succ]
  · intro q hq
    simpa [afterPop, afterPush, hq] using Q.others q hq
  · intro e he
    simp only [afterPop, Function.update_self, List.mem_append, List.mem_singleton] at he
    rcases he with he | rfl
    · exact Q.popped e he
    · simp [afterPush, Ring.readSlot, Ring.writeSlot, Q.cursor]

theorem exists_quiet (n : ℕ) : ∃ s, threeSlots.Reach Machine.Always s ∧ Quiet n s := by
  induction n with
  | zero =>
    exact ⟨_, .init, rfl, fun _ => rfl, fun _ => rfl, rfl, rfl, rfl, rfl, fun _ _ => rfl, nofun⟩
  | succ n ih =>
    obtain ⟨s, hs, Q⟩ := ih
    exact Q.round hs

theorem run_sweepEmpty {s : PayloadCleanup Unit} (hpc : s.breaker () = .readHead q)
    (hcursor : (s.ring q).cursor = ⟨0, 0, 3⟩) :
    threeSlots.run s (List.replicate 3 (.sweep ())) = some (s.sweepNext () q) := by
  have hcap : (3 : UInt32) ≠ 0 := by decide
  have hcount : ¬ 0 < (min ((0 : UInt32) - 0) 3).toNat := by decide
  simp only [List.replicate, Machine.run, threeSlots, payloadCleanup, sweepStep, hpc, hcursor,
    if_neg hcap, Option.bind_some, setBreaker, Function.update_self, if_neg hcount, sweepNext,
    Function.update_idem]

/-- At the wrap the scan reads the slots of the last cursor before it and the first one after;
in a ring of three slots they are the same. -/
theorem run_sweepWrap {s : PayloadCleanup Unit} (hpc : s.breaker () = .readHead .normalRequest)
    (hcursor : (s.ring .normalRequest).cursor = ⟨4294967295, 1, 3⟩)
    (hlast : (s.ring .normalRequest).readSlot 4294967295 = e)
    (hfirst : (s.ring .normalRequest).readSlot 0 = e) (hfile : e.file = true) :
    threeSlots.run s (List.replicate 5 (.sweep ())) =
      some ({ s with removed := e.call :: e.call :: s.removed }.sweepNext () .normalRequest) := by
  have hcap : (3 : UInt32) ≠ 0 := by decide
  have hcount : min ((1 : UInt32) - 4294967295) 3 = 2 := by decide
  have htwo : (2 : UInt32).toNat = 2 := rfl
  have hslot : (4294967295 : UInt32) + UInt32.ofNat 0 = 4294967295 := by decide
  have hslot' : (4294967295 : UInt32) + UInt32.ofNat 1 = 0 := by decide
  simp only [List.replicate, Machine.run, threeSlots, payloadCleanup, sweepStep, hpc, hcursor,
    if_neg hcap, Option.bind_some, setBreaker, Function.update_self, hcount, htwo, sweepNext,
    Function.update_idem, Nat.zero_lt_two, Nat.one_lt_two, lt_irrefl, if_true, if_false, zero_add,
    Nat.reduceAdd, hslot, hslot', hlast, hfirst, remove, hfile]

end PayloadCleanup

open PayloadCleanup in
/-- At the wrap of the cursors the second of two requests with files overwrites the first one,
and nobody removes the file of the first. -/
theorem not_cleaned_of_wrap : ∃ s, threeSlots.Reach Machine.Always s ∧ ¬ s.Cleaned := by
  obtain ⟨s, hs, Q⟩ := exists_quiet (2 ^ 32 - 1)
  have hcursor : (s.ring .normalRequest).cursor = ⟨4294967295, 4294967295, 3⟩ := Q.cursor
  have hnext : (4294967295 : UInt32) + 1 = 0 := by decide
  have hcursor₁ : ((s.afterPush .normalRequest true).ring .normalRequest).cursor =
      ⟨4294967295, 0, 3⟩ := by simp [afterPush, hcursor, hnext]
  have hcursor₂ : (((s.afterPush .normalRequest true).afterPush .normalRequest true).ring
      .normalRequest).cursor = ⟨4294967295, 1, 3⟩ := by
    simp [afterPush, hcursor, hnext]
  -- two requests with files, one before the wrap and one after it
  have hfirst := hs.run (run_pushAlone Q.state (Q.pusher _) true (by rw [hcursor]; decide))
  have hsecond := hfirst.run (run_pushAlone (s := s.afterPush .normalRequest true)
    Q.state (Q.pusher _) true (by rw [hcursor₁]; decide))
  set s₂ := (s.afterPush .normalRequest true).afterPush .normalRequest true with hs₂
  have hothers : ∀ q, q ≠ .normalRequest → (s₂.ring q).cursor = ⟨0, 0, 3⟩ := by
    intro q hq
    simpa [hs₂, afterPush, hq] using Q.others q hq
  have hslots : ∀ tail : UInt32, (tail % 3).toNat = 0 →
      (s₂.ring .normalRequest).readSlot tail = ⟨s.calls + 1, .normalRequest, true⟩ := by
    intro tail htail
    simp [hs₂, afterPush, Ring.readSlot, Ring.writeSlot, hcursor, hnext, htail]
  -- nothing but the break is left to do
  have hbroken : threeSlots.Reach Machine.Always
      { s₂.setBreaker () (.readHead .highRequest) with state := .broken } := by
    refine .step (.markBroken ()) hsecond trivial ?_
    have hbreaker : s₂.breaker () = .outside := Q.breaker
    simp only [threeSlots, payloadCleanup, hbreaker]
  have hhigh := hbroken.run (run_sweepEmpty (q := .highRequest) (by simp [setBreaker])
    (hothers _ (by decide)))
  have hnormal := hhigh.run (run_sweepWrap (by simp [setBreaker, sweepNext, SweepPc.after])
    hcursor₂ (hslots _ (by decide)) (hslots _ (by decide)) rfl)
  have hresponse := hnormal.run (run_sweepEmpty (q := .response)
    (by simp [setBreaker, sweepNext, SweepPc.after]) (hothers _ (by decide)))
  refine ⟨_, hresponse, ?_⟩
  intro hcleaned
  have hmem : (⟨s.calls, .normalRequest, true⟩ : TransferEntry) ∈ s₂.pushed .normalRequest := by
    simp [hs₂, afterPush]
  rcases hcleaned (by simp [sweepNext]) Q.pusher .normalRequest _ hmem rfl with hpop | hremoved
  · exact absurd (Q.popped _ hpop) (by simp)
  · have hempty : s₂.removed = [] := Q.removed
    simp [sweepNext, setBreaker, hempty] at hremoved

end MemRpc
