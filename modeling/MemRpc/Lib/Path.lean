import Mathlib.Data.List.Basic

/-!
# Paths and their lexical normalisation

A path is a list of characters, and its components are what the slashes separate. Normalising
drops the empty components and the single dots, and lets two dots cancel the component before
them. A path that extends a directory and has no parent component stays in the directory.

## Main definitions

* `Path.normalise`: the components that are left.

## Main results

* `Path.normalise_of_inside`.
-/

namespace Path

universe u

variable {α : Type u} [DecidableEq α] {slash dot : α}

/-- One component of a path, over the components before it, the nearest first. -/
def push (dot : α) (before : List (List α)) (component : List α) : List (List α) :=
  if component = [] ∨ component = [dot] then before
  else if component = [dot, dot] then before.tail
  else component :: before

/-- The components of a path that are left after normalising it. -/
def normalise (slash dot : α) (path : List α) : List (List α) :=
  ((path.splitOn slash).foldl (push dot) []).reverse

/-- The first component starts the path, and every component is a part of it. -/
theorem splitOn_parts {path first : List α} {rest : List (List α)}
    (h : path.splitOn slash = first :: rest) :
    first <+: path ∧ ∀ component ∈ rest, component <:+: path := by
  induction path generalizing first rest with
  | nil =>
    cases h
    exact ⟨List.prefix_rfl, nofun⟩
  | cons x path ih =>
    obtain ⟨first', rest', hsplit⟩ := List.exists_cons_of_ne_nil (List.splitOn_ne_nil slash path)
    obtain ⟨hfirst, hrest⟩ := ih hsplit
    have hcons := (List.suffix_cons x path).isInfix
    rw [List.splitOn_cons_eq_if_modifyHead, hsplit] at h
    split at h
    · cases h
      refine ⟨List.nil_prefix, ?_⟩
      intro component hmem
      rcases List.mem_cons.mp hmem with rfl | hmem
      · exact hfirst.isInfix.trans hcons
      · exact (hrest component hmem).trans hcons
    · cases h
      exact ⟨List.cons_prefix_cons.mpr ⟨rfl, hfirst⟩, fun c hc => (hrest c hc).trans hcons⟩

theorem infix_of_mem_splitOn {path component : List α} (h : component ∈ path.splitOn slash) :
    component <:+: path := by
  obtain ⟨first, rest, hsplit⟩ := List.exists_cons_of_ne_nil (List.splitOn_ne_nil slash path)
  rw [hsplit] at h
  obtain ⟨hfirst, hrest⟩ := splitOn_parts hsplit
  rcases List.mem_cons.mp h with rfl | hmem
  · exact hfirst.isInfix
  · exact hrest component hmem

/-- Components other than the parent leave what is before them. -/
theorem suffix_foldl_push {components : List (List α)} (h : [dot, dot] ∉ components)
    (before : List (List α)) : before <:+ components.foldl (push dot) before := by
  induction components generalizing before with
  | nil => exact List.suffix_rfl
  | cons component components ih =>
    obtain ⟨hne, hrest⟩ := not_or.mp (mt List.mem_cons.mpr h)
    refine List.IsSuffix.trans ?_ (ih hrest _)
    unfold push
    split
    · exact List.suffix_rfl
    · rw [if_neg (Ne.symm hne)]
      exact List.suffix_cons ..

/-- A path below a directory without a parent component stays below it. -/
theorem normalise_of_inside {dir path : List α} (hdir : dir ++ [slash] <+: path)
    (hparent : [dot, dot] ∉ path.splitOn slash) :
    normalise slash dot dir <+: normalise slash dot path := by
  obtain ⟨rest, rfl⟩ := hdir
  rw [List.append_assoc, List.singleton_append, List.splitOn_append_cons_self] at hparent
  rw [normalise, normalise, List.append_assoc, List.singleton_append,
    List.splitOn_append_cons_self, List.foldl_append, List.reverse_prefix]
  exact suffix_foldl_push (fun h => hparent (List.mem_append_right _ h)) _

end Path
