import Mathlib.Tactic

/-!
# Moving bytes in pieces

`read`, `write`, `send` and `recv` may move fewer bytes than they are asked to, be interrupted,
or fail, and a loop around them asks for the rest until everything has been moved. What the
calls answer is a list; once it is used up, a call moves all that it is asked to, so the loop
ends on every list.

## Main definitions

* `Transfer.Answer`: what one call does.
* `Transfer.moveOnce`: a call on its own.
* `Transfer.moveAll`: the loop.
-/

namespace Transfer

universe u

/-- What one call does. It moves at most as many bytes as it was asked to. -/
inductive Answer
  | moved (n : ℕ)
  | interrupted
  | failed
  deriving DecidableEq, Repr

/-- The call ends the loop early. An interrupted call is made again if `retry`. -/
def Answer.Ends (retry : Bool) : Answer → Prop
  | .moved n => n = 0
  | .interrupted => retry = false
  | .failed => True

/-- What was done: whether it succeeded, what was moved, and the answers not used. -/
structure Outcome (α : Type u) where
  done : Bool
  moved : List α
  rest : List Answer

variable {α : Type u} {retry : Bool}

/-- One call, which is not made again. -/
def moveOnce : List Answer → List α → Outcome α
  | [], data => ⟨true, data, []⟩
  | .moved n :: answers, data => ⟨true, data.take n, answers⟩
  | .interrupted :: answers, _ | .failed :: answers, _ => ⟨false, [], answers⟩

/-- The loop that moves all of `data`. -/
def moveAll (retry : Bool) : List Answer → List α → Outcome α
  | [], data => ⟨true, data, []⟩
  | answer :: answers, data =>
    if data.isEmpty then ⟨true, [], answer :: answers⟩
    else
      match answer with
      | .moved 0 | .failed => ⟨false, [], answers⟩
      | .interrupted => if retry then moveAll retry answers data else ⟨false, [], answers⟩
      | .moved (n + 1) =>
        let r := moveAll retry answers (data.drop (n + 1))
        ⟨r.done, data.take (n + 1) ++ r.moved, r.rest⟩

/-- A loop that has finished has moved everything. -/
theorem moved_of_done {answers : List Answer} {data : List α}
    (h : (moveAll retry answers data).done = true) : (moveAll retry answers data).moved = data := by
  induction answers generalizing data with
  | nil => rfl
  | cons answer answers ih =>
    unfold moveAll at h ⊢
    split
    · rename_i hempty
      exact (List.isEmpty_iff.mp hempty).symm
    · rename_i hne
      simp only [hne, Bool.false_eq_true, if_false] at h
      cases answer with
      | failed => cases h
      | interrupted =>
        cases retry with
        | false => cases h
        | true => exact ih h
      | moved n =>
        cases n with
        | zero => cases h
        | succ n =>
          change data.take (n + 1) ++ (moveAll retry answers (data.drop (n + 1))).moved = data
          rw [ih h, List.take_append_drop]

/-- The loop finishes unless a call ends it. -/
theorem done_of_forall {answers : List Answer} (h : ∀ a ∈ answers, ¬ a.Ends retry)
    (data : List α) : (moveAll retry answers data).done = true := by
  induction answers generalizing data with
  | nil => rfl
  | cons answer answers ih =>
    obtain ⟨hanswer, hanswers⟩ := List.forall_mem_cons.mp h
    unfold moveAll
    split
    · rfl
    · cases answer with
      | failed => exact absurd trivial hanswer
      | interrupted =>
        have hretry : retry = true := Bool.eq_true_of_not_eq_false hanswer
        simp only [hretry, if_true]
        exact hretry ▸ ih hanswers data
      | moved n =>
        cases n with
        | zero => exact absurd rfl hanswer
        | succ n => exact ih hanswers _

end Transfer
