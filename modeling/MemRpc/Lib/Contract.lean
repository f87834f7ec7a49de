import Mathlib.Tactic

/-!
# Contracts of operations

A thread is a list of operations, and executing an operation may leave further operations
to execute in its place. A `Contract` says of every operation what has to hold where it
starts and what then holds once it is over, with everything it has left to do. The
operations of a thread `Meet` a contract in a state if each of them starts as it must,
whatever the ones before it do within their contracts.

Two rules carry the proofs. An operation is replaced by the operations it leaves
(`Meets.append`), which only have to establish its postcondition. And other threads may
interfere, as long as their steps are within a relation under which the contract is stable
(`Meets.interfere`).

## Main definitions

* `Contract`, `Contract.Meets`.
* `Contract.Stable`: interference that a contract tolerates.
-/

namespace Concurrency

/-- A pre- and a postcondition for every operation. The postcondition relates the states
before and after. -/
structure Contract (γ ω : Type*) where
  pre : ω → γ → Prop
  post : ω → γ → γ → Prop

namespace Contract

variable {γ ω : Type*} (C : Contract γ ω)

/-- The operations start as they must when they are executed one after the other, and `Q`
holds after the last. -/
def Meets (Q : γ → Prop) : List ω → γ → Prop
  | [], s => Q s
  | op :: ops, s => C.pre op s ∧ ∀ s', C.post op s s' → Meets Q ops s'

variable {C} {Q Q' : γ → Prop} {R : γ → γ → Prop} {op : ω} {ops rest : List ω} {s s' : γ}

/-- Operations one after the other. -/
theorem Meets.append (h : C.Meets Q ops s) (hrest : ∀ s', Q s' → C.Meets Q' rest s') :
    C.Meets Q' (ops ++ rest) s := by
  induction ops generalizing s with
  | nil => exact hrest s h
  | cons op ops ih => exact ⟨h.1, fun s' hs' => ih (h.2 s' hs')⟩

/-- The same program for every element of a list, which keeps `I`. -/
theorem meets_flatMap {α : Type*} {I : γ → Prop} {f : α → List ω} (l : List α)
    (h : ∀ x ∈ l, ∀ s, I s → C.Meets I (f x) s) (hs : I s) : C.Meets I (l.flatMap f) s := by
  induction l generalizing s with
  | nil => exact hs
  | cons x l ih =>
    obtain ⟨hx, hl⟩ := List.forall_mem_cons.mp h
    exact (hx s hs).append fun s' hs' => ih hl hs'

theorem meets_map {α : Type*} {I : γ → Prop} {f : α → ω} (l : List α)
    (h : ∀ x ∈ l, ∀ s, I s → C.pre (f x) s ∧ ∀ s', C.post (f x) s s' → I s') (hs : I s) :
    C.Meets I (l.map f) s := by
  induction l generalizing s with
  | nil => exact hs
  | cons x l ih =>
    obtain ⟨hx, hl⟩ := List.forall_mem_cons.mp h
    exact ⟨(hx s hs).1, fun s' hs' => ih hl ((hx s hs).2 s' hs')⟩

/-! ## Interference -/

/-- Steps of others within `R` do not invalidate what an operation relies on. -/
structure Stable (C : Contract γ ω) (R : γ → γ → Prop) (op : ω) : Prop where
  pre : ∀ {s s'}, R s s' → C.pre op s → C.pre op s'
  post : ∀ {s s' s''}, R s s' → C.post op s' s'' → C.post op s s''

/-- The operations still start as they must after a step of another thread. -/
theorem Meets.interfere (hop : C.Stable R op) (h : C.Meets Q (op :: ops) s) (hs : R s s') :
    C.Meets Q (op :: ops) s' :=
  ⟨hop.pre hs h.1, fun s'' hs'' => h.2 s'' (hop.post hs hs'')⟩

end Contract

end Concurrency
