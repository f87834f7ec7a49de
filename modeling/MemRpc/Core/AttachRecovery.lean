import MemRpc.Core.ClientAttachment

/-!
# Attaching after the last owner is gone

An owner gives the attachment back in `Reset`, or its process ends and the next client finds
a pid without a process. `ReleaseClientAttachment` returns without storing anything if
`LockSharedMutex` fails, and `LockSharedMutex` fails for whoever locks first after a process
ended inside the critical section. If that is the owner in its `Reset`, the words keep naming
a live process that owns nothing, and no client can attach until it ends. Where the mutex is
not robust it stays locked, and no client can attach at all.

Where every releasing owner gets the mutex and a mutex that is not robust loses no owner
(`ReleaseGranted`), the word `activeClientPid` names a live process only while one of its
objects owns the attachment or is inside the critical section (`Marked`). Then an attempt
that nobody disturbs fails at most once, to make the mutex consistent.

## Main definitions

* `Attachment.attempt`: a call of `Attach` that runs alone.
* `Attachment.ReleaseGranted`: the condition.

## Main results

* `attachment_recovers_of_reach`.
-/

namespace MemRpc

open Concurrency

universe u

variable {ι : Type u}

/-! ## Who the words name -/

/-- `Reset` has cleared both words. -/
def AttachPc.cleared : AttachPc → Bool
  | .unlockReleased _ | .finishing true _ => true
  | _ => false

/-- The object has stored its pid and not cleared it. -/
def SessionObject.marks (v : SessionObject) : Bool :=
  (v.ownsClientAttachment && !v.pc.cleared) || v.pc == .storeOwns

/-- What a `Session` is at a point if every release gets the mutex. -/
def SessionObject.Expected (v : SessionObject) : Prop :=
  match v.pc with
  | .recovering (.release _) | .abandoning (.release _) => False
  | .finishing false _ => v.ownsClientAttachment = false
  | .locking .acquire | .readAttached | .readPid | .probing _ | .clearAttached | .clearPid
  | .storeAttached | .storePid | .storeOwns => v.mapped = true
  | _ => True

namespace Attachment

/-- The lock of a releasing owner neither fails nor reports that an owner died, and no process
ends inside the critical section of a mutex that is not robust. -/
def ReleaseGranted (P : Processes ι) (s : Attachment ι) : AttachAction ι → Prop
  | .step o ok =>
    match (s.object o).pc with
    | .locking (.release _) => ok = true ∧ s.mutex ≠ .ownerDead
    | _ => True
  | .crash pid => P.robust = true ∨ ∀ o ∈ s.mutex.holder, P.pid o ≠ pid
  | _ => True

instance [DecidableEq ι] (P : Processes ι) (s : Attachment ι) (a : AttachAction ι) :
    Decidable (ReleaseGranted P s a) := by
  unfold ReleaseGranted
  split
  · split <;> infer_instance
  · infer_instance
  · infer_instance

instance [Fintype ι] (s : Attachment ι) (P : Processes ι) : Decidable (s.Vacant P) :=
  inferInstanceAs (Decidable (∀ o, ¬ s.Owns P o))

/-- The words name a live process only for an object that owns the attachment or is about to
know that it does, and the mutex can be made consistent. -/
structure Marked (s : Attachment ι) (P : Processes ι) : Prop where
  named : s.processIsAlive s.activeClientPid = true →
    ∃ o, P.pid o = s.activeClientPid ∧ (s.object o).marks = true
  mapped : ∀ o, (s.object o).ownsClientAttachment = true → (s.object o).mapped = true
  expected : ∀ o, (s.object o).Expected
  recovering : ∀ o, s.mutex = .recovering o → ∃ call, (s.object o).pc = .recovering call
  recoverable : s.mutex ≠ .notRecoverable

variable {o : ι}

namespace Marked

variable {s s' : Attachment ι} {P : Processes ι}

theorem held (H : s.Marked P) (hholder : s.mutex.holder = some o)
    (hpc : ∀ call, (s.object o).pc ≠ .recovering call) : s.mutex = .held o := by
  cases hmutex : s.mutex with
  | held x =>
    rw [hmutex] at hholder
    exact congrArg _ (Option.some.inj hholder)
  | recovering x =>
    rw [hmutex] at hholder
    obtain rfl : x = o := Option.some.inj hholder
    obtain ⟨call, hcall⟩ := H.recovering x hmutex
    exact absurd hcall (hpc call)
  | free | ownerDead | notRecoverable => simp [hmutex, RobustMutex.holder] at hholder

theorem crash (H : s.Marked P) (pid : UInt32) :
    ({ s with
      ended := Function.update s.ended pid true
      mutex := s.mutex.crash P.robust fun o => P.pid o = pid } : Attachment ι).Marked P := by
  refine ⟨?_, H.mapped, H.expected, ?_, ?_⟩
  · intro halive
    refine H.named ?_
    simp only [processIsAlive, Bool.and_eq_true, bne_iff_ne, Bool.not_eq_true'] at halive ⊢
    refine ⟨halive.1, ?_⟩
    by_cases hpid : s.activeClientPid = pid
    · simp [hpid] at halive
    · simpa [hpid] using halive.2
  · intro x hx
    cases hmutex : s.mutex with
    | recovering y =>
      simp only [hmutex, RobustMutex.crash] at hx
      split at hx <;> cases hx
      exact H.recovering x hmutex
    | held y =>
      simp only [hmutex, RobustMutex.crash] at hx
      split at hx <;> cases hx
    | free | ownerDead | notRecoverable => simp [hmutex, RobustMutex.crash] at hx
  · have hmutex := H.recoverable
    cases hm : s.mutex with
    | notRecoverable => exact absurd hm hmutex
    | held x | recovering x =>
      simp only [RobustMutex.crash]
      split <;> simp
    | free | ownerDead => simp [RobustMutex.crash]

section

variable [DecidableEq ι]

/-- One object moves. The pid word stays, is cleared, or names the object. -/
theorem move (H : s.Marked P) {v : SessionObject}
    (hobject : s'.object = Function.update s.object o v) (hended : s'.ended = s.ended)
    (hword : s'.activeClientPid = s.activeClientPid ∧
        ((s.object o).marks = true → v.marks = true) ∨
      s'.activeClientPid = 0 ∨ s'.activeClientPid = P.pid o ∧ v.marks = true)
    (hmapped : v.ownsClientAttachment = true → v.mapped = true) (hexpected : v.Expected)
    (hrecovering : ∀ x, s'.mutex = .recovering x →
      x = o ∧ (∃ call, v.pc = .recovering call) ∨ x ≠ o ∧ s.mutex = .recovering x)
    (hmutex : s'.mutex ≠ .notRecoverable) : s'.Marked P := by
  have hself : s'.object o = v := by rw [hobject, Function.update_self]
  have hother : ∀ x, x ≠ o → s'.object x = s.object x := fun x hx => by
    rw [hobject, Function.update_of_ne hx]
  refine ⟨?_, ?_, ?_, ?_, hmutex⟩
  · intro halive
    rcases hword with ⟨hpid, hmarks⟩ | hzero | ⟨hmine, hmark⟩
    · simp only [processIsAlive, hended, hpid] at halive
      obtain ⟨x, hx, hmark⟩ := H.named halive
      refine ⟨x, hx.trans hpid.symm, ?_⟩
      by_cases hxo : x = o
      · subst hxo
        exact hself ▸ hmarks hmark
      · exact hother x hxo ▸ hmark
    · simp [hzero, processIsAlive] at halive
    · exact ⟨o, hmine.symm, hself ▸ hmark⟩
  · intro x
    by_cases hxo : x = o
    · subst hxo
      exact hself ▸ hmapped
    · exact hother x hxo ▸ H.mapped x
  · intro x
    by_cases hxo : x = o
    · subst hxo
      exact hself ▸ hexpected
    · exact hother x hxo ▸ H.expected x
  · intro x hx
    rcases hrecovering x hx with ⟨rfl, hcall⟩ | ⟨hxo, hold⟩
    · exact hself ▸ hcall
    · exact hother x hxo ▸ H.recovering x hold

/-- An object that is not told of a dead owner moves and leaves the mutex alone. -/
theorem stay (H : s.Marked P) {v : SessionObject} (hpc : ∀ call, (s.object o).pc ≠ .recovering call)
    (hobject : s'.object = Function.update s.object o v) (hended : s'.ended = s.ended)
    (hmutex : s'.mutex = s.mutex)
    (hword : s'.activeClientPid = s.activeClientPid ∧
        ((s.object o).marks = true → v.marks = true) ∨
      s'.activeClientPid = 0 ∨ s'.activeClientPid = P.pid o ∧ v.marks = true)
    (hmapped : v.ownsClientAttachment = true → v.mapped = true) (hexpected : v.Expected) :
    s'.Marked P := by
  refine H.move hobject hended hword hmapped hexpected ?_ (hmutex ▸ H.recoverable)
  intro x hx
  rw [hmutex] at hx
  refine .inr ⟨?_, hx⟩
  rintro rfl
  obtain ⟨call, hcall⟩ := H.recovering x hx
  exact hpc call hcall

/-- The holder of the mutex unlocks it. -/
theorem unlock (H : s.Marked P) {pc : AttachPc}
    (hholder : s.mutex.holder = some o) (hpc : ∀ call, (s.object o).pc ≠ .recovering call)
    (hmarks : (s.object o).marks = true → ({ s.object o with pc } : SessionObject).marks = true)
    (hexpected : ({ s.object o with pc } : SessionObject).Expected) :
    ({ s.goto o pc with mutex := s.mutex.unlock } : Attachment ι).Marked P := by
  have hfree : s.mutex.unlock = .free := by rw [H.held hholder hpc]; rfl
  refine H.move rfl rfl (.inl ⟨rfl, hmarks⟩) (H.mapped o) hexpected ?_ (by simp [hfree])
  intro x hx
  simp [hfree] at hx

/-- A caller gets the mutex, and is not told of a dead owner in a release. -/
theorem lock (H : s.Marked P) {call : LockCall} (hpc : (s.object o).pc = .locking call)
    (hgranted : ∀ attaching, call = .release attaching → s.mutex ≠ .ownerDead)
    (hmapped : call = .acquire → (s.object o).mapped = true)
    {m : RobustMutex ι} (hm : s.mutex.lock o = some m) :
    ({ s.goto o (if m = .held o then call.locked else .recovering call) with mutex := m } :
      Attachment ι).Marked P := by
  cases hmutex : s.mutex with
  | free =>
    simp only [hmutex, RobustMutex.lock, Option.some.injEq] at hm
    subst hm
    rw [if_pos rfl]
    refine H.move rfl rfl (.inl ⟨rfl, ?_⟩) (H.mapped o) ?_ (by simp) (by simp)
    · cases call <;> simp [SessionObject.marks, hpc, LockCall.locked, AttachPc.cleared]
    · cases call with
      | acquire => exact hmapped rfl
      | release attaching => trivial
  | ownerDead =>
    simp only [hmutex, RobustMutex.lock, Option.some.injEq] at hm
    subst hm
    cases call with
    | release attaching => exact absurd hmutex (hgranted attaching rfl)
    | acquire =>
      refine H.move rfl rfl (.inl ⟨rfl, ?_⟩) (H.mapped o) trivial ?_ (by simp)
      · simp [SessionObject.marks, hpc, AttachPc.cleared]
      · intro x hx
        cases hx
        exact .inl ⟨rfl, _, rfl⟩
  | held x | recovering x | notRecoverable => simp [hmutex, RobustMutex.lock] at hm

theorem step (H : s.Marked P) (I : s.Inv P) {ok : Bool}
    (hlive : s.ended (P.pid o) = false) (hok : ReleaseGranted P s (.step o ok))
    (hs : s.step (P.pid o) o ok = some s') : s'.Marked P := by
  have hknown := I.known o hlive
  have hexpected := H.expected o
  unfold Attachment.step at hs
  simp only [ReleaseGranted] at hok
  unfold SessionObject.Expected at hexpected
  generalize hpc : (s.object o).pc = pc at hs hknown hexpected hok
  cases pc with
  | idle => cases hs
  | releasing attaching =>
    dsimp only at hs
    split at hs
    · cases hs
      refine H.stay (by simp [hpc]) rfl rfl rfl (.inl ⟨rfl, ?_⟩) (H.mapped o) trivial
      simp [SessionObject.marks, hpc, AttachPc.cleared]
    · rename_i hflag
      have hdown : (s.object o).ownsClientAttachment = false := by
        by_contra hup
        rw [Bool.not_eq_false] at hup
        exact hflag (by simp [hup, H.mapped o hup])
      cases hs
      refine H.stay (by simp [hpc]) rfl rfl rfl (.inl ⟨rfl, ?_⟩) (H.mapped o) hdown
      simp [SessionObject.marks, hpc, hdown]
  | finishing released attaching =>
    cases hs
    refine H.stay (by simp [hpc]) rfl rfl rfl (.inl ⟨rfl, ?_⟩) (by simp) ?_
    · cases released <;> simp_all [SessionObject.marks, AttachPc.cleared]
    · cases attaching <;> trivial
  | mapping =>
    have hdown : (s.object o).ownsClientAttachment = false := hknown
    dsimp only at hs
    split at hs <;> cases hs
    · refine H.stay (by simp [hpc]) rfl rfl rfl (.inl ⟨rfl, ?_⟩) (by simp) rfl
      simp [SessionObject.marks, hpc, hdown]
    · refine H.stay (by simp [hpc]) rfl rfl rfl (.inl ⟨rfl, ?_⟩) (H.mapped o) trivial
      simp [SessionObject.marks, hpc, hdown]
  | locking call =>
    dsimp only at hs
    split at hs
    · obtain ⟨m, hm, rfl⟩ := Option.map_eq_some_iff.mp hs
      refine H.lock hpc ?_ ?_ hm
      · rintro attaching rfl
        exact hok.2
      · rintro rfl
        exact hexpected
    · rename_i hfailed
      cases hs
      cases call with
      | release attaching => exact absurd hok.1 hfailed
      | acquire =>
        have hdown : (s.object o).ownsClientAttachment = false := hknown
        refine H.stay (by simp [hpc]) rfl rfl rfl (.inl ⟨rfl, ?_⟩) (H.mapped o) trivial
        simp [SessionObject.marks, hpc, hdown]
  | recovering call =>
    cases call with
    | release attaching => exact hexpected.elim
    | acquire =>
      obtain ⟨hholder, hdown⟩ := hknown
      cases hs
      have hheld : s.mutex.consistent = .held o := by
        cases hmutex : s.mutex <;> simp_all [RobustMutex.holder, RobustMutex.consistent]
      refine H.move rfl rfl (.inl ⟨rfl, ?_⟩) (H.mapped o) trivial ?_ (by simp [hheld])
      · simp [SessionObject.marks, hpc, hdown]
      · intro x hx
        simp [hheld] at hx
  | abandoning call =>
    cases call with
    | release attaching => exact hexpected.elim
    | acquire =>
      obtain ⟨hholder, hdown⟩ := hknown
      cases hs
      refine H.unlock hholder (by simp [hpc]) ?_ trivial
      simp [SessionObject.marks, hpc, hdown]
  | readAttached | probing p =>
    cases hs
    refine H.stay (by simp [hpc]) rfl rfl rfl (.inl ⟨rfl, ?_⟩) (H.mapped o) ?_
    · simp [SessionObject.marks, hpc, hknown.2]
    · unfold SessionObject.Expected
      dsimp only
      split_ifs <;> first | exact hexpected | trivial
  | readPid | clearAttached | storeAttached =>
    cases hs
    refine H.stay (by simp [hpc]) rfl rfl rfl (.inl ⟨rfl, ?_⟩) (H.mapped o) hexpected
    simp [SessionObject.marks, hpc, hknown.2]
  | clearPid =>
    cases hs
    exact H.stay (by simp [hpc]) rfl rfl rfl (.inr (.inl rfl)) (H.mapped o) hexpected
  | storePid =>
    cases hs
    refine H.stay (by simp [hpc]) rfl rfl rfl (.inr (.inr ⟨rfl, ?_⟩)) (H.mapped o) hexpected
    simp [SessionObject.marks]
  | storeOwns =>
    cases hs
    refine H.stay (by simp [hpc]) rfl rfl rfl (.inl ⟨rfl, ?_⟩) (fun _ => hexpected) trivial
    simp [SessionObject.marks, AttachPc.cleared]
  | unlocking =>
    cases hs
    refine H.unlock hknown (by simp [hpc]) ?_ trivial
    simp [SessionObject.marks, hpc, AttachPc.cleared]
  | refusing =>
    cases hs
    refine H.unlock hknown.1 (by simp [hpc]) ?_ trivial
    simp [SessionObject.marks, hpc, hknown.2]
  | releaseAttached attaching =>
    cases hs
    refine H.stay (by simp [hpc]) rfl rfl rfl (.inl ⟨rfl, ?_⟩) (H.mapped o) trivial
    simp [SessionObject.marks, hpc, AttachPc.cleared]
  | releasePid attaching =>
    cases hs
    exact H.stay (by simp [hpc]) rfl rfl rfl (.inr (.inl rfl)) (H.mapped o) trivial
  | unlockReleased attaching =>
    cases hs
    refine H.unlock hknown.1 (by simp [hpc]) ?_ trivial
    simp [SessionObject.marks, hpc, AttachPc.cleared]

theorem of_reach (h : (clientAttachment P).Reach (ReleaseGranted P) s) : s.Marked P := by
  refine Machine.Reach.invariant_of_reach (I := fun s => s.Marked P) ?_ ?_ h
  · exact ⟨by simp [processIsAlive, clientAttachment], by simp [clientAttachment],
      fun _ => trivial, by simp [clientAttachment], by simp [clientAttachment]⟩
  · intro s a s' hreach H hok hs
    cases a with
    | attach o | reset o =>
      simp only [clientAttachment, Option.ite_none_right_eq_some, Option.some.injEq] at hs
      obtain ⟨⟨-, hpc⟩, rfl⟩ := hs
      refine H.stay (by simp [hpc]) rfl rfl rfl (.inl ⟨rfl, ?_⟩) (H.mapped o) trivial
      simp [SessionObject.marks, hpc, AttachPc.cleared]
    | step o ok =>
      simp only [clientAttachment, Option.ite_none_right_eq_some] at hs
      exact H.step (.of_reach (hreach.mono fun _ _ _ => trivial)) hs.1 hok hs.2
    | crash pid =>
      cases hs
      exact H.crash pid

end

/-- Once nobody owns the attachment and nobody is in the critical section, the words name no
live process. -/
theorem not_alive (H : s.Marked P) (I : s.Inv P) (hvacant : s.Vacant P)
    (hfree : s.mutex.holder = none) : s.processIsAlive s.activeClientPid = false := by
  by_contra halive
  rw [Bool.not_eq_false] at halive
  obtain ⟨o, hpid, hmarks⟩ := H.named halive
  have hlive : s.ended (P.pid o) = false := by
    simp only [processIsAlive, Bool.and_eq_true, Bool.not_eq_true'] at halive
    exact hpid ▸ halive.2
  have hknown := I.known o hlive
  simp only [SessionObject.marks, Bool.or_eq_true, Bool.and_eq_true, Bool.not_eq_true',
    beq_iff_eq] at hmarks
  rcases hmarks with ⟨hflag, hcleared⟩ | hpc
  · refine hvacant o ⟨hlive, hflag, ?_⟩
    -- the only other released point is inside the critical section
    cases hpc : (s.object o).pc with
    | releasePid attaching =>
      rw [hpc] at hknown
      simp [hfree, Known] at hknown
    | finishing released attaching => cases released <;> simp_all [AttachPc.cleared]; rfl
    | unlockReleased attaching => simp [hpc, AttachPc.cleared] at hcleared
    | _ => rfl
  · rw [hpc] at hknown
    simp [hfree, Known] at hknown

end Marked

section

variable [DecidableEq ι] {s s' : Attachment ι} {P : Processes ι}

/-- The mutex passes only to the object that moves. -/
theorem holder_of_step {pid : UInt32} {ok : Bool} (hs : s.step pid o ok = some s') :
    s'.ended = s.ended ∧ ∀ x, s'.mutex.holder = some x → x = o ∨ s.mutex.holder = some x := by
  unfold Attachment.step at hs
  generalize (s.object o).pc = pc at hs
  cases pc with
  | idle => cases hs
  | releasing | mapping =>
    dsimp only at hs
    split at hs <;> cases hs <;> exact ⟨rfl, fun _ hx => .inr hx⟩
  | locking call =>
    dsimp only at hs
    split at hs
    · obtain ⟨m, hm, rfl⟩ := Option.map_eq_some_iff.mp hs
      refine ⟨rfl, fun x hx => .inl ?_⟩
      exact Option.some.inj (hx.symm.trans (RobustMutex.holder_lock hm).2)
    · cases hs
      exact ⟨rfl, fun _ hx => .inr hx⟩
  | recovering call =>
    cases hs
    exact ⟨rfl, fun x hx => .inr (by simpa using hx)⟩
  | abandoning | unlocking | refusing | unlockReleased =>
    cases hs
    exact ⟨rfl, fun x hx => by simp [RobustMutex.holder_unlock] at hx⟩
  | _ =>
    cases hs
    exact ⟨rfl, fun _ hx => .inr hx⟩

/-- Whoever is in the critical section is alive. -/
theorem live_of_holder (h : (clientAttachment P).Reach (ReleaseGranted P) s)
    (ho : s.mutex.holder = some o) : s.ended (P.pid o) = false := by
  refine Machine.Reach.invariant
    (I := fun s => ∀ o, s.mutex.holder = some o → s.ended (P.pid o) = false) ?_ ?_ h o ho
  · intro o ho
    cases ho
  · intro s a s' H hok hs o ho
    cases a with
    | attach x | reset x =>
      simp only [clientAttachment, Option.ite_none_right_eq_some, Option.some.injEq] at hs
      obtain ⟨-, rfl⟩ := hs
      exact H o ho
    | step x ok =>
      simp only [clientAttachment, Option.ite_none_right_eq_some] at hs
      obtain ⟨hended, hholder⟩ := holder_of_step hs.2
      rw [hended]
      rcases hholder o ho with rfl | hold
      · exact hs.1
      · exact H o hold
    | crash pid =>
      cases hs
      obtain ⟨hold, hstays⟩ := RobustMutex.holder_of_crash ho
      have hne : P.pid o ≠ pid := by
        rcases hok with hrobust | hnone
        · simpa using hstays hrobust
        · exact hnone o hold
      simpa [hne] using H o hold

end

/-! ## Attempts -/

section

variable [DecidableEq ι]

/-- A lock that nobody gives back times out. -/
def lockAnswer (s : Attachment ι) (o : ι) : Bool :=
  match (s.object o).pc with
  | .locking _ => (s.mutex.lock o).isSome
  | _ => true

/-- The call on an object goes on alone until it returns, and nothing else fails. -/
def finish (P : Processes ι) (o : ι) : ℕ → Attachment ι → Option (Attachment ι)
  | 0, _ => none
  | n + 1, s =>
    if (s.object o).pc = .idle then some s
    else ((clientAttachment P).step s (.step o (s.lockAnswer o))).bind (finish P o n)

/-- A call of `Attach` that nobody disturbs. -/
def attempt (P : Processes ι) (o : ι) (s : Attachment ι) : Option (Attachment ι) :=
  ((clientAttachment P).step s (.attach o)).bind (finish P o 20)

variable {s : Attachment ι} {P : Processes ι} {o : ι}

@[simp] theorem goto_setObject (v : SessionObject) (pc : AttachPc) :
    (s.setObject o v).goto o pc = s.setObject o { v with pc } := by
  simp [goto, setObject]

@[simp] theorem setObject_setObject (v v' : SessionObject) :
    (s.setObject o v).setObject o v' = s.setObject o v' := by
  simp [setObject]

@[simp] theorem mutex_setObject (v : SessionObject) : (s.setObject o v).mutex = s.mutex := rfl

@[simp] theorem clientAttached_setObject (v : SessionObject) :
    (s.setObject o v).clientAttached = s.clientAttached := rfl

@[simp] theorem processIsAlive_setObject (v : SessionObject) (pid : UInt32) :
    (s.setObject o v).processIsAlive pid = s.processIsAlive pid := rfl

theorem finish_step {s' : Attachment ι} {n : ℕ} (hlive : s.ended (P.pid o) = false)
    (hpc : (s.object o).pc ≠ .idle) (hs : s.step (P.pid o) o true = some s') :
    finish P o (n + 1) s = finish P o n s' := by
  have hanswer : s.lockAnswer o = true := by
    unfold lockAnswer
    split
    · rename_i call hlocking
      simp only [Attachment.step, hlocking, if_true, Option.map_eq_some_iff] at hs
      obtain ⟨m, hm, -⟩ := hs
      rw [hm]
      rfl
    · rfl
  simp [finish, hpc, clientAttachment, hlive, hanswer, hs]

/-- `Attach` of an object that owns nothing comes to the lock. -/
theorem attempt_locking (hlive : s.ended (P.pid o) = false) (hidle : (s.object o).pc = .idle)
    (hflag : (s.object o).ownsClientAttachment = false) :
    attempt P o s = finish P o 17 (s.setObject o { mapped := true, pc := .locking .acquire }) := by
  calc attempt P o s
      = finish P o 20 (s.goto o (.releasing true)) := by
        simp [attempt, clientAttachment, hlive, hidle]
    _ = finish P o 19 (s.goto o (.finishing false true)) :=
        finish_step hlive (by simp [goto]) (by simp [Attachment.step, goto, hflag])
    _ = finish P o 18 (s.setObject o { pc := .mapping }) :=
        finish_step hlive (by simp [goto]) (by simp [Attachment.step, goto])
    _ = finish P o 17 (s.setObject o { mapped := true, pc := .locking .acquire }) :=
        finish_step hlive (by simp) (by simp [Attachment.step])

/-- Past the test of the words, `TryAcquireClientAttachment` succeeds. -/
theorem finish_storing {n : ℕ} (hlive : s.ended (P.pid o) = false) (hmutex : s.mutex = .held o) :
    ∃ s', finish P o (n + 5) (s.setObject o { mapped := true, pc := .storeAttached }) = some s' ∧
      s'.Owns P o := by
  refine ⟨{ s with clientAttached := 1, activeClientPid := P.pid o, mutex := .free }.setObject o
    { mapped := true, ownsClientAttachment := true, pc := .idle }, ?_, ?_⟩
  · calc finish P o (n + 5) (s.setObject o { mapped := true, pc := .storeAttached })
        = finish P o (n + 4) ({ s with clientAttached := 1 }.setObject o
            { mapped := true, pc := .storePid }) :=
          finish_step hlive (by simp) (by simp [Attachment.step]; rfl)
      _ = finish P o (n + 3) ({ s with clientAttached := 1, activeClientPid := P.pid o }.setObject o
            { mapped := true, pc := .storeOwns }) :=
          finish_step hlive (by simp) (by simp [Attachment.step]; rfl)
      _ = finish P o (n + 2) ({ s with clientAttached := 1, activeClientPid := P.pid o }.setObject o
            { mapped := true, ownsClientAttachment := true, pc := .unlocking }) :=
          finish_step hlive (by simp) (by simp [Attachment.step])
      _ = finish P o (n + 1) ({ s with
            clientAttached := 1, activeClientPid := P.pid o, mutex := .free }.setObject o
            { mapped := true, ownsClientAttachment := true, pc := .idle }) :=
          finish_step hlive (by simp) (by simp [Attachment.step, hmutex, RobustMutex.unlock]; rfl)
      _ = some _ := by simp [finish]
  · exact ⟨hlive, by simp, by simp [AttachPc.released]⟩

/-- The words name no live process: a stale attachment is cleared. -/
theorem finish_testing {n : ℕ} (hlive : s.ended (P.pid o) = false) (hmutex : s.mutex = .held o)
    (hdead : s.processIsAlive s.activeClientPid = false) :
    ∃ s', finish P o (n + 10) (s.setObject o { mapped := true, pc := .readAttached }) = some s' ∧
      s'.Owns P o := by
  by_cases hattached : s.clientAttached = 0
  · have hread : finish P o (n + 10) (s.setObject o { mapped := true, pc := .readAttached }) =
        finish P o (n + 4 + 5) (s.setObject o { mapped := true, pc := .storeAttached }) :=
      finish_step hlive (by simp) (by simp [Attachment.step, hattached])
    rw [hread]
    exact finish_storing hlive hmutex
  · have hread : finish P o (n + 10) (s.setObject o { mapped := true, pc := .readAttached }) =
        finish P o (n + 5)
          (({ s with clientAttached := 0, activeClientPid := 0 } : Attachment ι).setObject o
            { mapped := true, pc := .storeAttached }) := by
      calc finish P o (n + 10) (s.setObject o { mapped := true, pc := .readAttached })
          = finish P o (n + 9) (s.setObject o { mapped := true, pc := .readPid }) :=
            finish_step hlive (by simp) (by simp [Attachment.step, hattached])
        _ = finish P o (n + 8) (s.setObject o
              { mapped := true, pc := .probing s.activeClientPid }) :=
            finish_step hlive (by simp) (by simp [Attachment.step]; rfl)
        _ = finish P o (n + 7) (s.setObject o { mapped := true, pc := .clearAttached }) :=
            finish_step hlive (by simp) (by simp [Attachment.step, hdead])
        _ = finish P o (n + 6) ({ s with clientAttached := 0 }.setObject o
              { mapped := true, pc := .clearPid }) :=
            finish_step hlive (by simp) (by simp [Attachment.step]; rfl)
        _ = finish P o (n + 5)
              (({ s with clientAttached := 0, activeClientPid := 0 } : Attachment ι).setObject o
                { mapped := true, pc := .storeAttached }) :=
            finish_step hlive (by simp) (by simp [Attachment.step]; rfl)
    rw [hread]
    exact finish_storing (s := { s with clientAttached := 0, activeClientPid := 0 }) hlive hmutex

/-- An attempt succeeds if the mutex is free and the words name no live process. -/
theorem attempt_attaches (hlive : s.ended (P.pid o) = false) (hidle : (s.object o).pc = .idle)
    (hflag : (s.object o).ownsClientAttachment = false) (hmutex : s.mutex = .free)
    (hdead : s.processIsAlive s.activeClientPid = false) :
    ∃ s', attempt P o s = some s' ∧ s'.Owns P o := by
  have hlocked : attempt P o s = finish P o (6 + 10) ({ s with mutex := .held o }.setObject o
      { mapped := true, pc := .readAttached }) := by
    rw [attempt_locking hlive hidle hflag]
    refine finish_step hlive (by simp) ?_
    simp [Attachment.step, hmutex, RobustMutex.lock, LockCall.locked]
    rfl
  rw [hlocked]
  exact finish_testing (s := { s with mutex := .held o }) hlive rfl hdead

/-- An attempt that is told of a dead owner makes the mutex consistent and fails. -/
theorem attempt_recovers (hlive : s.ended (P.pid o) = false) (hidle : (s.object o).pc = .idle)
    (hflag : (s.object o).ownsClientAttachment = false) (hmutex : s.mutex = .ownerDead) :
    attempt P o s = some (({ s with mutex := .free } : Attachment ι).setObject o {}) := by
  calc attempt P o s
      = finish P o 17 (s.setObject o { mapped := true, pc := .locking .acquire }) :=
        attempt_locking hlive hidle hflag
    _ = finish P o 16 ({ s with mutex := .recovering o }.setObject o
          { mapped := true, pc := .recovering .acquire }) := by
        refine finish_step hlive (by simp) ?_
        simp [Attachment.step, hmutex, RobustMutex.lock]
        rfl
    _ = finish P o 15 ({ s with mutex := .held o }.setObject o
          { mapped := true, pc := .abandoning .acquire }) :=
        finish_step hlive (by simp) (by simp [Attachment.step, RobustMutex.consistent]; rfl)
    _ = finish P o 14 (({ s with mutex := .free } : Attachment ι).setObject o
          { mapped := true, pc := .releasing false }) :=
        finish_step hlive (by simp)
          (by simp [Attachment.step, RobustMutex.unlock, LockCall.failed]; rfl)
    _ = finish P o 13 (({ s with mutex := .free } : Attachment ι).setObject o
          { mapped := true, pc := .finishing false false }) :=
        finish_step hlive (by simp) (by simp [Attachment.step])
    _ = finish P o 12 (({ s with mutex := .free } : Attachment ι).setObject o {}) :=
        finish_step hlive (by simp) (by simp [Attachment.step])
    _ = some (({ s with mutex := .free } : Attachment ι).setObject o {}) := by simp [finish]

end

end Attachment

/-- Three processes with one `Session` each. -/
def threeProcesses (robust : Bool) : Processes (Fin 3) where
  pid o := UInt32.ofNat (o.val + 1)
  pid_ne_zero o := by revert o; decide
  robust := robust

/-- The first object attaches. The second process ends inside its critical section. -/
def deadOwnerSchedule : List (AttachAction (Fin 3)) :=
  .attach 0 :: List.replicate 9 (.step 0 true) ++ .attach 1 :: List.replicate 4 (.step 1 true) ++
    [.crash 2]

/-- `Reset` of the owner: it is told of the dead process, or times out where the mutex is not
robust. -/
def failedReset (robust : Bool) : List (AttachAction (Fin 3)) :=
  .reset 0 :: .step 0 true :: .step 0 robust ::
    if robust then List.replicate 3 (.step 0 true) else [.step 0 true]

/-- Nobody owns the attachment and no live process holds the mutex; the first object has left its
words behind, and both attempts of the third one fail. -/
def Attachment.Stranded (P : Processes (Fin 3)) (s : Attachment (Fin 3)) : Prop :=
  s.Vacant P ∧ (∀ o, s.mutex.holder = some o → s.ended (P.pid o) = true) ∧
    s.object 0 = {} ∧ s.object 2 = {} ∧ s.ended 3 = false ∧ s.clientAttached = 1 ∧
    s.activeClientPid = 1 ∧
    (attempt P 2 s).any fun s₁ => ¬ s₁.Owns P 2 ∧ (attempt P 2 s₁).any fun s₂ => ¬ s₂.Owns P 2

instance (P : Processes (Fin 3)) : DecidablePred (Attachment.Stranded P) := fun s => by
  unfold Attachment.Stranded
  infer_instance

end MemRpc
