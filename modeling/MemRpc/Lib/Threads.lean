import Mathlib.Logic.Function.Basic
import Mathlib.Tactic

/-!
# Threads as lists of operations

A `Pool` is one shared state and, for every thread, the list of operations the thread has
still to execute. Executing an operation changes the shared state and replaces the
operation by others: the body of a call it makes, or the next round of a loop. What a
thread holds in its hands is then what its remaining operations mention, and a fact about
all of them is kept by a step as soon as the new operations have it.

## Main definitions

* `Pool`: a shared state with the remaining operations of each thread.
* `Pool.exec`: a thread executes its first operation.
* `Pool.start`: an idle thread is given a program.
-/

namespace Concurrency

/-- A shared state and, for each thread, the operations it has still to execute. -/
structure Pool (γ τ ω : Type*) where
  shared : γ
  ops : τ → List ω

namespace Pool

variable {γ τ ω : Type*} [DecidableEq τ]

/-- Thread `t` executes its first operation. `f` computes the shared state after it and
the operations that take its place. -/
def exec (f : γ → ω → Option (γ × List ω)) (s : Pool γ τ ω) (t : τ) : Option (Pool γ τ ω) :=
  match s.ops t with
  | [] => none
  | op :: rest =>
    (f s.shared op).map fun r => ⟨r.1, Function.update s.ops t (r.2 ++ rest)⟩

/-- A thread that has nothing to execute is given a program. -/
def start (s : Pool γ τ ω) (t : τ) (program : List ω) : Option (Pool γ τ ω) :=
  if (s.ops t).isEmpty then some { s with ops := Function.update s.ops t program } else none

variable {f : γ → ω → Option (γ × List ω)} {s s' : Pool γ τ ω} {t u : τ} {op o : ω}
  {rest next program : List ω}

theorem exec_eq_some (h : s.exec f t = some s') :
    ∃ op rest next, s.ops t = op :: rest ∧ f s.shared op = some (s'.shared, next) ∧
      s'.ops = Function.update s.ops t (next ++ rest) := by
  unfold exec at h
  split at h
  · cases h
  · rename_i op rest hops
    obtain ⟨⟨g, next⟩, hf, rfl⟩ := Option.map_eq_some_iff.mp h
    exact ⟨op, rest, next, hops, hf, rfl⟩

theorem start_eq_some (h : s.start t program = some s') :
    s.ops t = [] ∧ s' = { s with ops := Function.update s.ops t program } := by
  unfold start at h
  split at h
  · rename_i hempty
    exact ⟨List.isEmpty_iff.mp hempty, (Option.some.inj h).symm⟩
  · cases h

/-- The operations after a step are those before it and the new ones. -/
theorem mem_update (hops : s.ops t = op :: rest)
    (ho : o ∈ Function.update s.ops t (next ++ rest) u) : o ∈ s.ops u ∨ u = t ∧ o ∈ next := by
  by_cases hu : u = t
  · subst hu
    rw [Function.update_self, List.mem_append] at ho
    rcases ho with hn | hr
    · exact .inr ⟨rfl, hn⟩
    · exact .inl (hops ▸ List.mem_cons_of_mem _ hr)
  · rw [Function.update_of_ne hu] at ho
    exact .inl ho

/-- A fact about the remaining operations of every thread is kept by a step whose new
operations have it. -/
theorem forall_update {P : τ → ω → Prop} (hall : ∀ u, (s.ops u).Forall (P u))
    (hops : s.ops t = op :: rest) (hnext : next.Forall (P t)) (u : τ) :
    (Function.update s.ops t (next ++ rest) u).Forall (P u) := by
  rw [List.forall_iff_forall_mem]
  intro o ho
  rcases mem_update hops ho with hold | ⟨rfl, hn⟩
  · exact List.forall_iff_forall_mem.mp (hall u) o hold
  · exact List.forall_iff_forall_mem.mp hnext o hn

theorem mem_start (ho : o ∈ Function.update s.ops t program u) :
    o ∈ s.ops u ∨ u = t ∧ o ∈ program := by
  by_cases hu : u = t
  · subst hu
    rw [Function.update_self] at ho
    exact .inr ⟨rfl, ho⟩
  · rw [Function.update_of_ne hu] at ho
    exact .inl ho

theorem forall_start {P : τ → ω → Prop} (hall : ∀ u, (s.ops u).Forall (P u))
    (hprogram : program.Forall (P t)) (u : τ) :
    (Function.update s.ops t program u).Forall (P u) := by
  by_cases hu : u = t
  · subst hu
    rw [Function.update_self]
    exact hprogram
  · rw [Function.update_of_ne hu]
    exact hall u

end Pool

/-! ## Programs built from lists -/

section

variable {α ω : Type*} {P : ω → Prop} {l : List α}

theorem forall_map {f : α → ω} (h : ∀ x, P (f x)) : (l.map f).Forall P := by
  rw [List.forall_iff_forall_mem]
  intro o ho
  obtain ⟨x, -, rfl⟩ := List.mem_map.mp ho
  exact h x

theorem forall_flatMap {f : α → List ω} (h : ∀ x, (f x).Forall P) : (l.flatMap f).Forall P := by
  rw [List.forall_iff_forall_mem]
  intro o ho
  obtain ⟨x, -, hx⟩ := List.mem_flatMap.mp ho
  exact List.forall_iff_forall_mem.mp (h x) o hx

end

end Concurrency
