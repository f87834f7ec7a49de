import Mathlib.Tactic

/-!
# Step machines and guarded runs

A concurrent system is a `Machine`: one initial state and a partial step
function. An action names the party that moves together with every choice the
environment makes for it, so a run is a list of actions and an interleaving is
one such list. The step function computes, hence a concrete schedule can be
executed.

Safety is stated over `Reach ok`, the states of the runs whose every step meets
the condition `ok` in the state before the step; `Reach` with the condition
`Always` ranges over every run. `Reach.invariant` packages the induction once.

## Main definitions

* `Machine`: initial state and partial step.
* `Machine.run`: execute a schedule.
* `Machine.Reach`: the states of the runs that respect a step condition.
* `Machine.startFrom`: the runs that go on from a state.
* `Machine.track`: the machine with a history of its runs.
* `Machine.Refines`: a stuttering forward simulation given by a function.
-/

namespace Concurrency

universe u v

/-- A system with one initial state whose steps are selected by actions. -/
structure Machine (σ : Type u) (ι : Type v) where
  /-- The state every run starts from. -/
  init : σ
  /-- The successor of a state under an action, if the action is enabled. -/
  step : σ → ι → Option σ

namespace Machine

variable {σ : Type u} {ι : Type v}

/-- The step condition that admits every step. -/
def Always : σ → ι → Prop := fun _ _ => True

instance (s : σ) (a : ι) : Decidable (Always s a) := inferInstanceAs (Decidable True)

/-- The states of the runs whose every step meets `ok`. -/
inductive Reach (M : Machine σ ι) (ok : σ → ι → Prop) : σ → Prop
  | init : Reach M ok M.init
  | step {s s' : σ} (a : ι) : Reach M ok s → ok s a → M.step s a = some s' → Reach M ok s'

/-- Execute a schedule from a state. -/
def run (M : Machine σ ι) : σ → List ι → Option σ
  | s, [] => some s
  | s, a :: as => (M.step s a).bind fun s' => M.run s' as

@[simp] theorem run_nil (M : Machine σ ι) (s : σ) : M.run s [] = some s := rfl

theorem run_cons (M : Machine σ ι) (s : σ) (a : ι) (as : List ι) :
    M.run s (a :: as) = (M.step s a).bind fun s' => M.run s' as := rfl

theorem run_append (M : Machine σ ι) (s : σ) (as bs : List ι) :
    M.run s (as ++ bs) = (M.run s as).bind fun s' => M.run s' bs := by
  induction as generalizing s with
  | nil => rfl
  | cons a as ih =>
    simp only [List.cons_append, run_cons, Option.bind_assoc]
    exact congrArg _ (funext ih)

variable {M : Machine σ ι} {ok : σ → ι → Prop}

/-- The induction over a guarded run: an invariant holds initially and every
admitted step keeps it. -/
theorem Reach.invariant {I : σ → Prop} (hinit : I M.init)
    (hstep : ∀ s a s', I s → ok s a → M.step s a = some s' → I s')
    {s : σ} (h : M.Reach ok s) : I s := by
  induction h with
  | init => exact hinit
  | step a _ hok hs ih => exact hstep _ a _ ih hok hs

/-- The same induction for an invariant that rests on earlier ones: the state before the
step is known to be reachable. -/
theorem Reach.invariant_of_reach {I : σ → Prop} (hinit : I M.init)
    (hstep : ∀ s a s', M.Reach ok s → I s → ok s a → M.step s a = some s' → I s')
    {s : σ} (h : M.Reach ok s) : I s := by
  induction h with
  | init => exact hinit
  | step a hreach hok hs ih => exact hstep _ a _ hreach ih hok hs

/-- A schedule whose steps are unrestricted extends any guarded run that admits
every step. -/
theorem Reach.run {s t : σ} {as : List ι}
    (h : M.Reach Always s) (hrun : M.run s as = some t) : M.Reach Always t := by
  induction as generalizing s with
  | nil =>
    rw [run_nil, Option.some.injEq] at hrun
    exact hrun ▸ h
  | cons a as ih =>
    rw [run_cons, Option.bind_eq_some_iff] at hrun
    obtain ⟨s', hs, hrest⟩ := hrun
    exact ih (.step a h trivial hs) hrest

/-- The final state of an executed schedule is reachable. -/
theorem reach_of_run {t : σ} (as : List ι) (hrun : M.run M.init as = some t) : M.Reach Always t :=
  Reach.run .init hrun

/-- A stronger step condition admits fewer runs. -/
theorem Reach.mono {ok ok' : σ → ι → Prop}
    (hsub : ∀ s a, ok s a → ok' s a) {s : σ} (h : M.Reach ok s) : M.Reach ok' s := by
  induction h with
  | init => exact .init
  | step a _ hok hs ih => exact .step a ih (hsub _ _ hok) hs

/-- Execute a schedule as far as every step meets a condition. -/
def runOk (M : Machine σ ι) (ok : σ → ι → Prop) [∀ s a, Decidable (ok s a)] :
    σ → List ι → Option σ
  | s, [] => some s
  | s, a :: as => if ok s a then (M.step s a).bind fun s' => M.runOk ok s' as else none

theorem Reach.runOk [∀ s a, Decidable (ok s a)] {s t : σ}
    {as : List ι} (h : M.Reach ok s) (hrun : M.runOk ok s as = some t) : M.Reach ok t := by
  induction as generalizing s with
  | nil =>
    simp only [Machine.runOk, Option.some.injEq] at hrun
    exact hrun ▸ h
  | cons a as ih =>
    simp only [Machine.runOk, Option.ite_none_right_eq_some, Option.bind_eq_some_iff] at hrun
    obtain ⟨hok, s', hs, hrest⟩ := hrun
    exact ih (.step a h hok hs) hrest

/-- The final state of a schedule executed under a condition is reachable under it. -/
theorem reach_of_runOk [∀ s a, Decidable (ok s a)] {t : σ}
    (as : List ι) (hrun : M.runOk ok M.init as = some t) : M.Reach ok t :=
  Reach.runOk .init hrun

/-- A schedule executed under a condition is executed. -/
theorem run_of_runOk [∀ s a, Decidable (ok s a)] {s t : σ}
    {as : List ι} (hrun : M.runOk ok s as = some t) : M.run s as = some t := by
  induction as generalizing s with
  | nil => exact hrun
  | cons a as ih =>
    simp only [Machine.runOk, Option.ite_none_right_eq_some, Option.bind_eq_some_iff] at hrun
    obtain ⟨-, s', hs, hrest⟩ := hrun
    rw [run_cons, hs]
    exact ih hrest

/-- A fact that evaluates to true of the outcome of a schedule: the schedule runs to its
end, and the fact holds there. -/
theorem exists_of_any {o : Option σ} {P : σ → Prop} [DecidablePred P]
    (h : o.any (fun s => P s) = true) : ∃ s, o = some s ∧ P s := by
  obtain ⟨s, hs, hP⟩ := (Option.any_eq_true _ _).mp h
  exact ⟨s, hs, of_decide_eq_true hP⟩

/-- A fact that holds where a schedule ends holds in some reachable state. -/
theorem exists_reach (M : Machine σ ι) (as : List ι) {P : σ → Prop} [DecidablePred P]
    (h : (M.run M.init as).any (fun s => P s) = true) : ∃ s, M.Reach Always s ∧ P s := by
  obtain ⟨s, hs, hP⟩ := exists_of_any h
  exact ⟨s, reach_of_run as hs, hP⟩

/-- The same under a step condition. -/
theorem exists_reachOk (M : Machine σ ι) (ok : σ → ι → Prop) [∀ s a, Decidable (ok s a)]
    (as : List ι) {P : σ → Prop} [DecidablePred P]
    (h : (M.runOk ok M.init as).any (fun s => P s) = true) : ∃ s, M.Reach ok s ∧ P s := by
  obtain ⟨s, hs, hP⟩ := exists_of_any h
  exact ⟨s, reach_of_runOk as hs, hP⟩

/-! ## Continuations -/

/-- The machine whose runs go on from a state. -/
def startFrom (M : Machine σ ι) (s : σ) : Machine σ ι := { M with init := s }

/-- A run and one that goes on from its last state. -/
theorem Reach.trans {s t : σ} (h : M.Reach ok s)
    (hrest : (M.startFrom s).Reach ok t) : M.Reach ok t := by
  induction hrest with
  | init => exact h
  | step a _ hok hs ih => exact .step a ih hok hs

/-! ## History -/

/-- The machine with a history that every step brings up to date. -/
def track {η : Type*} (M : Machine σ ι) (start : η) (note : η → σ → η) : Machine (σ × η) ι where
  init := (M.init, start)
  step p a := (M.step p.1 a).map fun s' => (s', note p.2 s')

theorem track_step {η : Type*} {start : η} {note : η → σ → η} {p p' : σ × η}
    {a : ι} (hs : (M.track start note).step p a = some p') :
    M.step p.1 a = some p'.1 ∧ p'.2 = note p.2 p'.1 := by
  simp only [track, Option.map_eq_some_iff] at hs
  obtain ⟨s', hs', rfl⟩ := hs
  exact ⟨hs', rfl⟩

/-! ## Refinement -/

/-- `M` refines `A` along `view`: every admitted step from a reachable state is a
step of `A` between the views, or leaves the view as it is. -/
structure Refines {τ : Type u} {κ : Type v} (M : Machine σ ι) (ok : σ → ι → Prop)
    (A : Machine τ κ) (view : σ → τ) : Prop where
  init : view M.init = A.init
  step : ∀ s a s', M.Reach ok s → ok s a → M.step s a = some s' →
    view s' = view s ∨ ∃ b, A.step (view s) b = some (view s')

/-- The views of a refining system are states of the abstract one. -/
theorem Refines.reach {τ : Type u} {κ : Type v}
    {A : Machine τ κ} {view : σ → τ} (R : M.Refines ok A view) {s : σ} (h : M.Reach ok s) :
    A.Reach Always (view s) := by
  induction h with
  | init => exact R.init ▸ .init
  | step a hreach hok hs ih =>
    rcases R.step _ a _ hreach hok hs with hstay | ⟨b, hb⟩
    · exact hstay ▸ ih
    · exact .step b ih trivial hb

end Machine

end Concurrency
