import Mathlib.Tactic

/-!
# Robust mutexes

A mutex in memory that several processes share. If it is robust and the process of the owner
ends inside the critical section, the next owner is told so and has to make the mutex
consistent before it unlocks it; a mutex unlocked in the inconsistent state can never be
locked again. A mutex that is not robust stays locked by an owner that has ended.

## Main definitions

* `RobustMutex`: the states of a mutex whose owners are of type `ι`.
* `RobustMutex.lock`, `consistent`, `unlock`, `crash`: its transitions.
* `RobustMutex.holder`: who is inside.
-/

namespace Concurrency

universe u

/-- The states of a robust mutex. -/
inductive RobustMutex (ι : Type u)
  | free
  | held (o : ι)
  /-- The owner died inside. -/
  | ownerDead
  /-- The next owner has locked the mutex and not made it consistent. -/
  | recovering (o : ι)
  | notRecoverable
  deriving DecidableEq, Repr

namespace RobustMutex

variable {ι : Type u}

/-- Lock a mutex that nobody holds. -/
def lock (o : ι) : RobustMutex ι → Option (RobustMutex ι)
  | .free => some (.held o)
  | .ownerDead => some (.recovering o)
  | _ => none

def consistent : RobustMutex ι → RobustMutex ι
  | .recovering o => .held o
  | m => m

def unlock : RobustMutex ι → RobustMutex ι
  | .held _ => .free
  | .recovering _ => .notRecoverable
  | m => m

/-- The owners with `dies` end. -/
def crash (robust : Bool) (dies : ι → Bool) : RobustMutex ι → RobustMutex ι
  | .held o => if robust && dies o then .ownerDead else .held o
  | .recovering o => if robust && dies o then .ownerDead else .recovering o
  | m => m

/-- Who is in the critical section. -/
def holder : RobustMutex ι → Option ι
  | .held o | .recovering o => some o
  | _ => none

theorem holder_lock {m m' : RobustMutex ι} {o : ι} (h : m.lock o = some m') :
    m.holder = none ∧ m'.holder = some o := by
  cases m <;> simp_all [lock, holder] <;> subst h <;> rfl

@[simp] theorem holder_consistent (m : RobustMutex ι) : m.consistent.holder = m.holder := by
  cases m <;> rfl

/-- A survivor keeps the mutex. -/
theorem holder_crash {m : RobustMutex ι} {robust : Bool} {dies : ι → Bool} {o : ι}
    (h : m.holder = some o) (ho : dies o = false) : (m.crash robust dies).holder = some o := by
  cases m <;> simp_all [crash, holder]

/-- A crash makes no owner, and a robust mutex does not stay with an owner that ended. -/
theorem holder_of_crash {m : RobustMutex ι} {robust : Bool} {dies : ι → Bool} {o : ι}
    (h : (m.crash robust dies).holder = some o) :
    m.holder = some o ∧ (robust = true → dies o = false) := by
  cases m with
  | held x | recovering x =>
    simp only [crash] at h
    split at h
    · cases h
    · rename_i hstays
      cases h
      exact ⟨rfl, fun hrobust => by simpa [hrobust] using hstays⟩
  | free | ownerDead | notRecoverable => cases h

theorem holder_unlock (m : RobustMutex ι) : m.unlock.holder = none := by
  cases m <;> rfl

end RobustMutex

end Concurrency
