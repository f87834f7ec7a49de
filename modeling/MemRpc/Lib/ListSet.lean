import Mathlib.Data.List.Destutter
import Mathlib.Data.List.Sort

/-!
# Lists that stand for sets

A list that is sorted and then freed of equal neighbours depends only on which elements it has.
So two lists denote the same set exactly if they are brought into the same form
(`sortUnique_eq_iff`).
-/

namespace ListSet

variable {α : Type*} {l : List α}

/-- In a sorted list without equal neighbours all elements are different. -/
theorem nodup_of_isChain_ne {r : α → α → Prop} [IsTrans α r] [Std.Antisymm r]
    (hsorted : l.Pairwise r) (hchain : l.IsChain (· ≠ ·)) : l.Nodup := by
  induction l with
  | nil => exact List.nodup_nil
  | cons a l ih =>
    obtain ⟨ha, hl⟩ := List.pairwise_cons.mp hsorted
    refine List.nodup_cons.mpr ⟨fun hmem => ?_, ih hl hchain.tail⟩
    cases l with
    | nil => cases hmem
    | cons b l =>
      have hab : a ≠ b := (List.isChain_cons_cons.mp hchain).1
      rcases List.mem_cons.mp hmem with heq | hmem
      · exact hab heq
      · -- `b` stands between two occurrences of `a`
        have hba : r b a := (List.pairwise_cons.mp hl).1 a hmem
        exact hab (antisymm (ha b List.mem_cons_self) hba)

variable [DecidableEq α]

theorem mem_destutter'_ne {a b : α} :
    a ∈ l.destutter' (· ≠ ·) b ↔ a ∈ b :: l := by
  induction l generalizing b with
  | nil => rfl
  | cons c l ih =>
    by_cases hbc : b = c
    · rw [List.destutter'_cons_neg _ (not_not.mpr hbc), ih, hbc]
      simp
    · rw [List.destutter'_cons_pos _ hbc, List.mem_cons, ih, ← List.mem_cons]

/-- Dropping equal neighbours keeps the elements. -/
theorem mem_destutter_ne {a : α} : a ∈ l.destutter (· ≠ ·) ↔ a ∈ l := by
  cases l with
  | nil => rfl
  | cons b l => rw [List.destutter_cons', mem_destutter'_ne]

variable (r : α → α → Prop) [DecidableRel r]

/-- Sort a list and drop equal neighbours. -/
def sortUnique (l : List α) : List α := (l.insertionSort r).destutter (· ≠ ·)

theorem mem_sortUnique {a : α} : a ∈ sortUnique r l ↔ a ∈ l := by
  rw [sortUnique, mem_destutter_ne, (List.perm_insertionSort r l).mem_iff]

variable [IsTrans α r] [Std.Total r]

theorem pairwise_sortUnique (l : List α) : (sortUnique r l).Pairwise r :=
  (List.pairwise_insertionSort r l).sublist (List.destutter_sublist _ _)

variable [Std.Antisymm r]

theorem nodup_sortUnique (l : List α) : (sortUnique r l).Nodup :=
  nodup_of_isChain_ne (pairwise_sortUnique r l) (List.isChain_destutter _ _)

/-- Two lists have the same form exactly if they have the same elements. -/
theorem sortUnique_eq_iff {l l' : List α} :
    sortUnique r l = sortUnique r l' ↔ ∀ a, a ∈ l ↔ a ∈ l' := by
  constructor
  · intro h a
    rw [← mem_sortUnique r, h, mem_sortUnique r]
  · intro h
    have hperm : (sortUnique r l).Perm (sortUnique r l') := by
      rw [List.perm_ext_iff_of_nodup (nodup_sortUnique r l) (nodup_sortUnique r l')]
      intro a
      rw [mem_sortUnique r, mem_sortUnique r, h]
    exact hperm.eq_of_pairwise (fun _ _ _ _ => antisymm) (pairwise_sortUnique r l)
      (pairwise_sortUnique r l')

end ListSet
