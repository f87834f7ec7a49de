import MemRpc.Lib.Machine
import MemRpc.Lib.RobustMutex

/-!
# The client attachment of a session

At most one client uses a shared-memory session at a time. Two words of the header say who:
`clientAttached` and `activeClientPid`, written one at a time under `clientStateMutex`. A
process that ends between two of the writes leaves a mix of old and new words behind, and a
process that ends later leaves both; whoever attaches next tells an abandoned attachment
from a live one by the pid alone. `InitMutex` makes the mutex robust only where the platform
defines `PTHREAD_MUTEX_ROBUST` as a macro.

Any number of `Session` objects in any number of processes call `Attach` as clients and
`Reset`, one call at a time on each object. Each access to a shared word, to the mutex or to
the process table is a step, and a process may end between any two steps. What the system
answers (mapping and validating the header, a lock that times out or fails) is part of the
action. A pid is not reused: it is alive until its process has ended.

A `Session` owns the attachment from the moment `TryAcquireClientAttachment` says so until
its `Reset` stores `clientAttached = 0`. The rest of `Reset` clears `ownsClientAttachment_`
only at its very end, when another client may have attached already; nothing reads the flag
in between.

## Main definitions

* `AttachPc`: the points of `Attach` and `Reset`.
* `clientAttachment`: the machine.
* `Attachment.Owns`: an object in a live process owns the attachment.
-/

namespace MemRpc

open Concurrency

universe u

/-- Who called `LockSharedMutex`. `ReleaseClientAttachment` is called by `Reset`, which
`attaching` says is the one at the beginning of `Attach`. -/
inductive LockCall
  | acquire
  | release (attaching : Bool)
  deriving DecidableEq, Repr

/-- The points of `Attach` and `Reset`: `recovering` and `abandoning` are in `LockSharedMutex`
after `EOWNERDEAD`, `readAttached` to `unlocking` in `TryAcquireClientAttachment`, and
`releaseAttached` to `unlockReleased` in `ReleaseClientAttachment`. -/
inductive AttachPc
  | idle
  | releasing (attaching : Bool)
  | finishing (released attaching : Bool)
  | mapping
  | locking (call : LockCall)
  | recovering (call : LockCall)
  | abandoning (call : LockCall)
  | readAttached
  | readPid
  | probing (pid : UInt32)
  | clearAttached
  | clearPid
  | storeAttached
  | storePid
  | storeOwns
  | unlocking
  | refusing
  | releaseAttached (attaching : Bool)
  | releasePid (attaching : Bool)
  | unlockReleased (attaching : Bool)
  deriving DecidableEq, Repr

/-- `Reset` has given the attachment up. -/
def AttachPc.released : AttachPc → Bool
  | .releasePid _ | .unlockReleased _ | .finishing true _ => true
  | _ => false

/-- What `LockSharedMutex` returns to when it fails: both callers go on with `Reset`. -/
def LockCall.failed : LockCall → AttachPc
  | .acquire => .releasing false
  | .release attaching => .finishing false attaching

/-- What `LockSharedMutex` returns to when it holds the mutex. -/
def LockCall.locked : LockCall → AttachPc
  | .acquire => .readAttached
  | .release attaching => .releaseAttached attaching

/-- A `Session`. -/
structure SessionObject where
  /-- `header_` is not null. -/
  mapped : Bool := false
  ownsClientAttachment : Bool := false
  pc : AttachPc := .idle
  deriving DecidableEq, Repr

/-- The processes of the `Session` objects. -/
structure Processes (ι : Type u) where
  pid : ι → UInt32
  pid_ne_zero : ∀ o, pid o ≠ 0
  /-- `InitMutex` is built with `PTHREAD_MUTEX_ROBUST`. -/
  robust : Bool

/-- The words of the header, the mutex, the objects, and the pids whose process has ended. -/
structure Attachment (ι : Type u) where
  clientAttached : UInt32 := 0
  activeClientPid : UInt32 := 0
  mutex : RobustMutex ι := .free
  object : ι → SessionObject := fun _ => {}
  ended : UInt32 → Bool := fun _ => false

namespace Attachment

variable {ι : Type u}

/-- `ProcessIsAlive`. -/
def processIsAlive (s : Attachment ι) (pid : UInt32) : Bool := pid != 0 && !s.ended pid

section

variable [DecidableEq ι]

def setObject (s : Attachment ι) (o : ι) (v : SessionObject) : Attachment ι :=
  { s with object := Function.update s.object o v }

def goto (s : Attachment ι) (o : ι) (pc : AttachPc) : Attachment ι :=
  s.setObject o { s.object o with pc }

/-- The next step of the call on an object. `ok` answers `MapAndValidateHeader` and
`RemapWithActualLayout`, and whether a lock is waited for to the end. -/
def step (s : Attachment ι) (pid : UInt32) (o : ι) (ok : Bool) : Option (Attachment ι) :=
  match (s.object o).pc with
  | .idle => none
  | .releasing attaching =>
    if (s.object o).mapped && (s.object o).ownsClientAttachment then
      some (s.goto o (.locking (.release attaching)))
    else some (s.goto o (.finishing false attaching))
  | .finishing _ attaching =>
    some (s.setObject o { pc := if attaching then .mapping else .idle })
  | .mapping =>
    if ok then some (s.setObject o { mapped := true, pc := .locking .acquire })
    else some (s.goto o .idle)
  | .locking call =>
    if ok then
      (s.mutex.lock o).map fun mutex =>
        { s.goto o (if mutex = .held o then call.locked else .recovering call) with mutex }
    else some (s.goto o call.failed)
  | .recovering call => some { s.goto o (.abandoning call) with mutex := s.mutex.consistent }
  | .abandoning call => some { s.goto o call.failed with mutex := s.mutex.unlock }
  | .readAttached => some (s.goto o (if s.clientAttached ≠ 0 then .readPid else .storeAttached))
  | .readPid => some (s.goto o (.probing s.activeClientPid))
  | .probing p => some (s.goto o (if s.processIsAlive p then .refusing else .clearAttached))
  | .clearAttached => some { s.goto o .clearPid with clientAttached := 0 }
  | .clearPid => some { s.goto o .storeAttached with activeClientPid := 0 }
  | .storeAttached => some { s.goto o .storePid with clientAttached := 1 }
  | .storePid => some { s.goto o .storeOwns with activeClientPid := pid }
  | .storeOwns =>
    some (s.setObject o { s.object o with ownsClientAttachment := true, pc := .unlocking })
  | .unlocking => some { s.goto o .idle with mutex := s.mutex.unlock }
  | .refusing => some { s.goto o (.releasing false) with mutex := s.mutex.unlock }
  | .releaseAttached attaching =>
    some { s.goto o (.releasePid attaching) with clientAttached := 0 }
  | .releasePid attaching =>
    some { s.goto o (.unlockReleased attaching) with activeClientPid := 0 }
  | .unlockReleased attaching =>
    some { s.goto o (.finishing true attaching) with mutex := s.mutex.unlock }

end

end Attachment

/-- Who moves. -/
inductive AttachAction (ι : Type u)
  | attach (o : ι)
  | reset (o : ι)
  | step (o : ι) (ok : Bool)
  /-- The process with the pid ends. -/
  | crash (pid : UInt32)

/-- All interleavings of the calls on the objects and of the ends of their processes. -/
def clientAttachment {ι : Type u} [DecidableEq ι] (P : Processes ι) :
    Machine (Attachment ι) (AttachAction ι) where
  init := {}
  step s
    | .attach o =>
      if s.ended (P.pid o) = false ∧ (s.object o).pc = .idle then
        some (s.goto o (.releasing true))
      else none
    | .reset o =>
      if s.ended (P.pid o) = false ∧ (s.object o).pc = .idle then
        some (s.goto o (.releasing false))
      else none
    | .step o ok => if s.ended (P.pid o) = false then s.step (P.pid o) o ok else none
    | .crash pid =>
      some { s with
        ended := Function.update s.ended pid true
        mutex := s.mutex.crash P.robust fun o => P.pid o = pid }

namespace Attachment

variable {ι : Type u}

/-- The object is in a live process and owns the attachment. -/
def Owns (s : Attachment ι) (P : Processes ι) (o : ι) : Prop :=
  s.ended (P.pid o) = false ∧ (s.object o).ownsClientAttachment = true ∧
    (s.object o).pc.released = false

instance (s : Attachment ι) (P : Processes ι) (o : ι) : Decidable (s.Owns P o) :=
  inferInstanceAs (Decidable (_ ∧ _))

/-- Nobody owns the attachment. -/
def Vacant (s : Attachment ι) (P : Processes ι) : Prop := ∀ o, ¬ s.Owns P o

/-! ## What is known at each point -/

/-- What the caller knows at a point of `Attach` or `Reset`. The flag is down until the
attachment is acquired and up until it is released; inside a critical section the words are
what the caller has read or written, and it writes them only while nobody owns the
attachment. -/
def Known (s : Attachment ι) (P : Processes ι) (o : ι) : AttachPc → Prop
  | .idle | .releasing _ | .finishing _ _ => True
  | .mapping | .locking .acquire => (s.object o).ownsClientAttachment = false
  | .locking (.release _) => (s.object o).ownsClientAttachment = true
  | .recovering .acquire | .abandoning .acquire | .readAttached | .readPid | .refusing =>
    s.mutex.holder = some o ∧ (s.object o).ownsClientAttachment = false
  | .recovering (.release _) | .abandoning (.release _) | .releaseAttached _ =>
    s.mutex.holder = some o ∧ (s.object o).ownsClientAttachment = true
  | .unlocking => s.mutex.holder = some o
  | .probing p =>
    s.mutex.holder = some o ∧ (s.object o).ownsClientAttachment = false ∧ s.activeClientPid = p
  | .clearAttached | .clearPid | .storeAttached =>
    s.mutex.holder = some o ∧ (s.object o).ownsClientAttachment = false ∧ s.Vacant P
  | .storePid =>
    s.mutex.holder = some o ∧ (s.object o).ownsClientAttachment = false ∧ s.Vacant P ∧
      s.clientAttached = 1
  | .storeOwns =>
    s.mutex.holder = some o ∧ (s.object o).ownsClientAttachment = false ∧ s.Vacant P ∧
      s.clientAttached = 1 ∧ s.activeClientPid = P.pid o
  | .releasePid _ | .unlockReleased _ => s.mutex.holder = some o ∧ s.Vacant P

variable {o : ι} {pc : AttachPc}

/-- Knowledge survives a step of another object: it changes nothing that the holder of the
mutex relies on. -/
theorem Known.frame {s s' : Attachment ι} {P : Processes ι} (hobject : s'.object o = s.object o)
    (hholder : s.mutex.holder = some o → s'.mutex.holder = some o ∧
      s'.clientAttached = s.clientAttached ∧ s'.activeClientPid = s.activeClientPid ∧
      (s.Vacant P → s'.Vacant P)) (h : s.Known P o pc) : s'.Known P o pc := by
  cases pc with
  | locking call | recovering call | abandoning call =>
    cases call <;> simp_all [Known]
  | _ => simp_all [Known]

/-- Who owns the attachment is the one the words name, there is at most one owner, and every
live caller knows what it should. -/
structure Inv (s : Attachment ι) (P : Processes ι) : Prop where
  known : ∀ o, s.ended (P.pid o) = false → s.Known P o (s.object o).pc
  words : ∀ o, s.Owns P o → s.clientAttached ≠ 0 ∧ s.activeClientPid = P.pid o
  unique : ∀ o o', s.Owns P o → s.Owns P o' → o = o'

namespace Inv

variable {s s' : Attachment ι} {P : Processes ι}

/-- A step of one object that leaves the words alone and makes no owner. -/
theorem quiet (H : s.Inv P) (hobject : ∀ x, x ≠ o → s'.object x = s.object x)
    (hended : s'.ended = s.ended) (hattached : s'.clientAttached = s.clientAttached)
    (hpid : s'.activeClientPid = s.activeClientPid)
    (hholder : ∀ x, x ≠ o → s.mutex.holder = some x → s'.mutex.holder = some x)
    (howns : s'.Owns P o → s.Owns P o)
    (hknown : s.ended (P.pid o) = false → s'.Known P o (s'.object o).pc) : s'.Inv P := by
  have hless : ∀ x, s'.Owns P x → s.Owns P x := by
    intro x hx
    by_cases hxo : x = o
    · subst hxo
      exact howns hx
    · simpa only [Owns, hended, hobject x hxo] using hx
  refine ⟨?_, ?_, ?_⟩
  · intro x hx
    rw [hended] at hx
    by_cases hxo : x = o
    · subst hxo
      exact hknown hx
    · rw [hobject x hxo]
      refine (H.known x hx).frame (hobject x hxo) ?_
      intro hhold
      exact ⟨hholder x hxo hhold, hattached, hpid, fun hvacant y hy => hvacant y (hless y hy)⟩
  · intro x hx
    rw [hattached, hpid]
    exact H.words x (hless x hx)
  · intro x y hx hy
    exact H.unique x y (hless x hx) (hless y hy)

/-- A step of the holder of the mutex that leaves nobody or only itself as the owner. -/
theorem write (H : s.Inv P) (hobject : ∀ x, x ≠ o → s'.object x = s.object x)
    (hended : s'.ended = s.ended) (hholder : s.mutex.holder = some o)
    (hothers : ∀ x, x ≠ o → ¬ s.Owns P x)
    (hknown : s'.Known P o (s'.object o).pc)
    (hwords : s'.Owns P o → s'.clientAttached ≠ 0 ∧ s'.activeClientPid = P.pid o) :
    s'.Inv P := by
  have howner : ∀ x, s'.Owns P x → x = o := by
    intro x hx
    by_contra hxo
    exact hothers x hxo (by simpa only [Owns, hended, hobject x hxo] using hx)
  refine ⟨?_, ?_, ?_⟩
  · intro x hx
    rw [hended] at hx
    by_cases hxo : x = o
    · subst hxo
      exact hknown
    · rw [hobject x hxo]
      refine (H.known x hx).frame (hobject x hxo) ?_
      intro hhold
      rw [hholder, Option.some.injEq] at hhold
      exact absurd hhold.symm hxo
  · intro x hx
    obtain rfl := howner x hx
    exact hwords hx
  · intro x y hx hy
    rw [howner x hx, howner y hy]

/-- A process ends: its objects own nothing, and whoever holds the mutex keeps it. -/
theorem crash (H : s.Inv P) (pid : UInt32) :
    ({ s with
      ended := Function.update s.ended pid true
      mutex := s.mutex.crash P.robust fun o => P.pid o = pid } : Attachment ι).Inv P := by
  have hsurvives : ∀ x, Function.update s.ended pid true (P.pid x) = false →
      P.pid x ≠ pid ∧ s.ended (P.pid x) = false := by
    intro x hx
    by_cases hpid : P.pid x = pid
    · simp [hpid] at hx
    · exact ⟨hpid, by simpa [hpid] using hx⟩
  have hless : ∀ x, ({ s with
      ended := Function.update s.ended pid true
      mutex := s.mutex.crash P.robust fun o => P.pid o = pid } : Attachment ι).Owns P x → s.Owns P x :=
    fun x hx => ⟨(hsurvives x hx.1).2, hx.2⟩
  refine ⟨?_, fun x hx => H.words x (hless x hx),
    fun x y hx hy => H.unique x y (hless x hx) (hless y hy)⟩
  intro x hx
  obtain ⟨hne, hlive⟩ := hsurvives x hx
  refine Known.frame (s := s) rfl ?_ (H.known x hlive)
  intro hhold
  exact ⟨RobustMutex.holder_crash hhold (by simpa using hne), rfl, rfl,
    fun hvacant y hy => hvacant y (hless y hy)⟩

section

variable [DecidableEq ι]

@[simp] theorem object_setObject_self (s : Attachment ι) (o : ι) (v : SessionObject) :
    (s.setObject o v).object o = v := by
  simp [setObject]

theorem object_setObject_of_ne (s : Attachment ι) {o x : ι} (v : SessionObject) (h : x ≠ o) :
    (s.setObject o v).object x = s.object x := by
  simp [setObject, h]

/-- The attachment is vacant after a step if no other object was the owner, and the one that
moves is not. -/
theorem vacant_of (h : ∀ x, x ≠ o → ¬ s.Owns P x)
    (hobject : ∀ x, x ≠ o → s'.object x = s.object x) (hended : s'.ended = s.ended)
    (ho : ¬ s'.Owns P o) : s'.Vacant P := by
  intro x hx
  by_cases hxo : x = o
  · subst hxo
    exact ho hx
  · exact h x hxo (by simpa only [Owns, hended, hobject x hxo] using hx)

variable {m : RobustMutex ι}

/-- A step that leaves words and flags alone. -/
theorem move (H : s.Inv P) (hmutex : ∀ x, x ≠ o → s.mutex.holder = some x → m.holder = some x)
    (hreleased : (s.object o).pc.released = true → pc.released = true)
    (hknown : ({ s.goto o pc with mutex := m } : Attachment ι).Known P o pc) :
    ({ s.goto o pc with mutex := m } : Attachment ι).Inv P := by
  refine H.quiet (o := o) (fun x hx => object_setObject_of_ne s _ hx) rfl rfl rfl hmutex ?_ ?_
  · rintro ⟨hlive, hflag, hpc⟩
    refine ⟨hlive, by simpa [Attachment.goto] using hflag, ?_⟩
    by_contra hne
    rw [Bool.not_eq_false] at hne
    simp [Attachment.goto, hreleased hne] at hpc
  · intro _
    simpa [Attachment.goto] using hknown

/-- A move that leaves the mutex alone as well. -/
theorem goto (H : s.Inv P) (hreleased : (s.object o).pc.released = true → pc.released = true)
    (hknown : (s.goto o pc).Known P o pc) : (s.goto o pc).Inv P :=
  H.move (fun _ _ => id) hreleased hknown

/-- The holder of the mutex moves. -/
theorem moveHolder (H : s.Inv P) (hholder : s.mutex.holder = some o)
    (hreleased : (s.object o).pc.released = true → pc.released = true)
    (hknown : ({ s.goto o pc with mutex := m } : Attachment ι).Known P o pc) :
    ({ s.goto o pc with mutex := m } : Attachment ι).Inv P := by
  refine H.move ?_ hreleased hknown
  intro x hx hhold
  rw [hholder, Option.some.injEq] at hhold
  exact absurd hhold.symm hx

/-- The holder of the mutex stores a word, and nobody owns the attachment then. -/
theorem store (H : s.Inv P) (hholder : s.mutex.holder = some o)
    (hothers : ∀ x, x ≠ o → ¬ s.Owns P x)
    (hobject : s'.object = (s.goto o pc).object) (hended : s'.ended = s.ended)
    (hflag : (s.object o).ownsClientAttachment = false ∨ pc.released = true)
    (hknown : s'.Vacant P →
      (s'.object o).ownsClientAttachment = (s.object o).ownsClientAttachment →
      s'.Known P o pc) : s'.Inv P := by
  have hsame : ∀ x, x ≠ o → s'.object x = s.object x := fun x hx => by
    rw [hobject]
    exact object_setObject_of_ne s _ hx
  have hself : s'.object o = { s.object o with pc } := by simp [hobject, Attachment.goto]
  have hnot : ¬ s'.Owns P o := by
    rintro ⟨-, hflag', hpc⟩
    rcases hflag with h | h <;> simp_all
  refine H.write hsame hended hholder hothers ?_ (fun h => absurd h hnot)
  have := hknown (vacant_of hothers hsame hended hnot) (by rw [hself])
  simpa only [hself] using this

theorem lock (H : s.Inv P) {call : LockCall} (hpc : (s.object o).pc = .locking call)
    (hknown : s.Known P o (.locking call)) (hm : s.mutex.lock o = some m) :
    ({ s.goto o (if m = .held o then call.locked else .recovering call) with mutex := m } :
      Attachment ι).Inv P := by
  obtain ⟨hfree, hheld⟩ := RobustMutex.holder_lock hm
  refine H.move ?_ (by simp [hpc, AttachPc.released]) ?_
  · intro x _ hhold
    simp [hfree] at hhold
  · split <;> cases call <;> simp_all [Known, LockCall.locked, Attachment.goto]

/-- The holder of the mutex goes on to claim an attachment that nobody owns. -/
theorem vacant_goto (hvacant : s.Vacant P)
    (hflag : (s.object o).ownsClientAttachment = false) (pc : AttachPc) :
    (s.goto o pc).Vacant P :=
  vacant_of (fun x _ => hvacant x) (fun x hx => object_setObject_of_ne s _ hx) rfl
    (by simp [Owns, Attachment.goto, hflag])

theorem step (H : s.Inv P) {ok : Bool} (hlive : s.ended (P.pid o) = false)
    (hs : s.step (P.pid o) o ok = some s') : s'.Inv P := by
  have hknown := H.known o hlive
  unfold Attachment.step at hs
  generalize hpc : (s.object o).pc = pc at hs hknown
  cases pc with
  | idle => cases hs
  | releasing attaching =>
    dsimp only at hs
    split at hs
    · rename_i hflag
      cases hs
      refine H.goto (by simp [hpc, AttachPc.released]) ?_
      simp_all [Known, Attachment.goto]
    · cases hs
      exact H.goto (by simp [hpc, AttachPc.released]) trivial
  | finishing released attaching =>
    cases hs
    refine H.quiet (o := o) (fun x hx => object_setObject_of_ne s _ hx) rfl rfl rfl
      (fun _ _ => id) (by simp [Owns]) fun _ => ?_
    cases attaching <;> simp [Known]
  | mapping =>
    dsimp only at hs
    split at hs
    · cases hs
      exact H.quiet (o := o) (fun x hx => object_setObject_of_ne s _ hx) rfl rfl rfl
        (fun _ _ => id) (by simp [Owns]) fun _ => by simp [Known]
    · cases hs
      exact H.goto (by simp [hpc, AttachPc.released]) trivial
  | locking call =>
    dsimp only at hs
    split at hs
    · obtain ⟨m, hm, rfl⟩ := Option.map_eq_some_iff.mp hs
      exact H.lock hpc hknown hm
    · cases hs
      refine H.goto (by simp [hpc, AttachPc.released]) ?_
      cases call <;> trivial
  | recovering call =>
    cases hs
    refine H.move (fun x _ h => by simpa using h) (by simp [hpc, AttachPc.released]) ?_
    cases call <;> simp_all [Known, Attachment.goto, setObject]
  | abandoning call =>
    cases hs
    have hholder : s.mutex.holder = some o := by cases call <;> exact hknown.1
    refine H.moveHolder hholder (by simp [hpc, AttachPc.released]) ?_
    cases call <;> trivial
  | readAttached =>
    obtain ⟨hholder, hflag⟩ := hknown
    cases hs
    refine H.goto (by simp [hpc, AttachPc.released]) ?_
    split
    · exact ⟨hholder, by simpa [Attachment.goto] using hflag⟩
    · rename_i hzero
      -- an owner would have left its mark in the word
      have hvacant : s.Vacant P := fun x hx => hzero (H.words x hx).1
      exact ⟨hholder, by simpa [Attachment.goto] using hflag, vacant_goto hvacant hflag _⟩
  | readPid =>
    obtain ⟨hholder, hflag⟩ := hknown
    cases hs
    refine H.goto (by simp [hpc, AttachPc.released]) ?_
    exact ⟨hholder, by simpa [Attachment.goto] using hflag, rfl⟩
  | probing p =>
    obtain ⟨hholder, hflag, hp⟩ := hknown
    cases hs
    refine H.goto (by simp [hpc, AttachPc.released]) ?_
    split
    · exact ⟨hholder, by simpa [Attachment.goto] using hflag⟩
    · rename_i hdead
      -- an owner is alive, and the word holds its pid
      have hvacant : s.Vacant P := by
        intro x hx
        refine hdead ?_
        rw [← hp, (H.words x hx).2]
        simp [processIsAlive, P.pid_ne_zero x, hx.1]
      exact ⟨hholder, by simpa [Attachment.goto] using hflag, vacant_goto hvacant hflag _⟩
  | clearAttached | clearPid =>
    obtain ⟨hholder, hflag, hvacant⟩ := hknown
    cases hs
    exact H.store hholder (fun x _ => hvacant x) rfl rfl (.inl hflag)
      fun hv hf => ⟨hholder, hf.trans hflag, hv⟩
  | storeAttached =>
    obtain ⟨hholder, hflag, hvacant⟩ := hknown
    cases hs
    exact H.store hholder (fun x _ => hvacant x) rfl rfl (.inl hflag)
      fun hv hf => ⟨hholder, hf.trans hflag, hv, rfl⟩
  | storePid =>
    obtain ⟨hholder, hflag, hvacant, hattached⟩ := hknown
    cases hs
    exact H.store hholder (fun x _ => hvacant x) rfl rfl (.inl hflag)
      fun hv hf => ⟨hholder, hf.trans hflag, hv, hattached, rfl⟩
  | storeOwns =>
    obtain ⟨hholder, -, hvacant, hattached, hpid⟩ := hknown
    cases hs
    refine H.write (o := o) (fun x hx => object_setObject_of_ne s _ hx) rfl hholder
      (fun x _ => hvacant x) ?_ ?_
    · simpa [Known, setObject] using hholder
    · intro _
      exact ⟨by simp [setObject, hattached], hpid⟩
  | unlocking =>
    cases hs
    exact H.moveHolder hknown (by simp [hpc, AttachPc.released]) trivial
  | refusing =>
    cases hs
    exact H.moveHolder hknown.1 (by simp [hpc, AttachPc.released]) trivial
  | releaseAttached attaching =>
    obtain ⟨hholder, hflag⟩ := hknown
    cases hs
    have howns : s.Owns P o := ⟨hlive, hflag, by simp [hpc, AttachPc.released]⟩
    have hothers : ∀ x, x ≠ o → ¬ s.Owns P x := fun x hx h => hx (H.unique x o h howns)
    exact H.store hholder hothers rfl rfl (.inr rfl) fun hv _ => ⟨hholder, hv⟩
  | releasePid attaching =>
    obtain ⟨hholder, hvacant⟩ := hknown
    cases hs
    exact H.store hholder (fun x _ => hvacant x) rfl rfl (.inr rfl) fun hv _ => ⟨hholder, hv⟩
  | unlockReleased attaching =>
    cases hs
    exact H.moveHolder hknown.1 (fun _ => rfl) trivial

theorem of_reach (h : (clientAttachment P).Reach Machine.Always s) : s.Inv P := by
  refine Machine.Reach.invariant (I := fun s => s.Inv P) ?_ ?_ h
  · have hvacant : ((clientAttachment P).init).Vacant P := by simp [Vacant, Owns, clientAttachment]
    exact ⟨fun _ _ => trivial, fun o ho => absurd ho (hvacant o), fun o _ ho => absurd ho (hvacant o)⟩
  · intro s a s' H _ hs
    cases a with
    | attach o | reset o =>
      simp only [clientAttachment, Option.ite_none_right_eq_some, Option.some.injEq] at hs
      obtain ⟨⟨-, hpc⟩, rfl⟩ := hs
      exact H.goto (by simp [hpc, AttachPc.released]) trivial
    | step o ok =>
      simp only [clientAttachment, Option.ite_none_right_eq_some] at hs
      exact H.step hs.1 hs.2
    | crash pid =>
      cases hs
      exact H.crash pid

end

end Inv

end Attachment

/-- **The client attachment is exclusive.** In every run, whatever processes attach, reset and
end at whatever point, and whether or not the mutex is robust, two `Session` objects in live
processes that own the attachment are the same object. -/
theorem clientAttachment_exclusive {ι : Type u} [DecidableEq ι] (P : Processes ι)
    {s : Attachment ι} (h : (clientAttachment P).Reach Machine.Always s) {o o' : ι}
    (ho : s.Owns P o) (ho' : s.Owns P o') : o = o' :=
  (Attachment.Inv.of_reach h).unique o o' ho ho'

/-- Two processes with one `Session` each. -/
def twoProcesses : Processes Bool where
  pid o := if o then 2 else 1
  pid_ne_zero o := by cases o <;> decide
  robust := true

/-- The first process ends between the stores of its two words. The second one is told of the
dead owner, tries again, finds a word that names no process, and attaches. -/
def crashSchedule : List (AttachAction Bool) :=
  .attach false :: List.replicate 6 (.step false true) ++ .crash 1 ::
    .attach true :: List.replicate 8 (.step true true) ++
    .attach true :: List.replicate 13 (.step true true)

theorem clientAttachment_exclusive_crashSchedule :
    ∃ s, (clientAttachment twoProcesses).Reach Machine.Always s ∧ s.activeClientPid = 2 ∧
      s.Owns twoProcesses true ∧ ∀ o, s.Owns twoProcesses o → o = true := by
  obtain ⟨s, hreach, hpid, howns⟩ := (clientAttachment twoProcesses).exists_reach crashSchedule
    (P := fun s => s.activeClientPid = 2 ∧ s.Owns twoProcesses true) (by decide +kernel)
  exact ⟨s, hreach, hpid, howns, fun o ho => clientAttachment_exclusive _ hreach ho howns⟩

end MemRpc
