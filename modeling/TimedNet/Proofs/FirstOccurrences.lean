import Mathlib.Data.List.Basic
import Mathlib.Data.List.Induction
import TimedNet.Ordered

/-!
# `TimedNet.Proofs.FirstOccurrences` — the members of a list in the order of their first occurrences

A walk that collects what it has not met before goes through a list from the left and adds at the right. So
everything about the collection is told by what one more member at the end of the list does to it
(`eraseDups_concat`), and the proofs are inductions from the end of the list.

## Contents
- `FirstOccurrences`: what it means for a list to be the first occurrences of another; `nodup`.
- `eraseDups_concat`: one turn; `eraseDups_eq_union`: all of them.
- `firstOccurrences_eraseDups`: what is left without the repetitions.
- `eraseDups_map_eraseDups`: a function may be applied before or after repetitions are left out.
-/

namespace TimedNet

universe u v

variable {α : Type u} {β : Type v} [BEq α] [LawfulBEq α] [BEq β] [LawfulBEq β]

/-- The members of a list, each once, in the order in which they occur first. -/
structure FirstOccurrences (l firsts : List α) : Prop where
  mem_iff : ∀ a, a ∈ firsts ↔ a ∈ l
  ordered : firsts.Pairwise fun a b => l.idxOf a < l.idxOf b

omit [LawfulBEq α] in
theorem FirstOccurrences.nodup {l firsts : List α} (h : FirstOccurrences l firsts) : firsts.Nodup := by
  apply h.ordered.imp
  rintro a b hlt rfl
  exact Nat.lt_irrefl _ hlt

/-! ## One turn -/

theorem insert_eraseDups_of_mem {l : List α} {a : α} (h : a ∈ l) :
    Ordered.insert l.eraseDups a = l.eraseDups :=
  if_pos (List.contains_iff_mem.mpr (List.mem_eraseDups.mpr h))

theorem insert_eraseDups_of_not_mem {l : List α} {a : α} (h : a ∉ l) :
    Ordered.insert l.eraseDups a = l.eraseDups ++ [a] := by
  apply if_neg
  intro hcontains
  exact h (List.mem_eraseDups.mp (List.contains_iff_mem.mp hcontains))

/-- A member at the end counts only when it is a new one. -/
theorem eraseDups_concat (l : List α) (a : α) :
    (l ++ [a]).eraseDups = Ordered.insert l.eraseDups a := by
  rw [List.eraseDups_append]
  by_cases h : a ∈ l
  · simp [List.removeAll, h, insert_eraseDups_of_mem]
  · simp [List.removeAll, h, insert_eraseDups_of_not_mem, List.eraseDups_cons]

/-! ## A whole list -/

/-- **Collecting from the left** leaves out the repetitions. -/
theorem eraseDups_eq_union (l : List α) : l.eraseDups = Ordered.union [] l := by
  induction l using List.reverseRecOn with
  | nil => rfl
  | append_singleton l a ih =>
    rw [eraseDups_concat, ih, Ordered.union_append]
    rfl

/-- **What is left without the repetitions** are the first occurrences. -/
theorem firstOccurrences_eraseDups (l : List α) : FirstOccurrences l l.eraseDups := by
  refine ⟨fun a => List.mem_eraseDups, ?_⟩
  induction l using List.reverseRecOn with
  | nil => exact List.Pairwise.nil
  | append_singleton l a ih =>
    -- What was met before keeps its place.
    have hplace : ∀ b ∈ l.eraseDups, (l ++ [a]).idxOf b = l.idxOf b := by
      intro b hb
      exact List.idxOf_append_of_mem (List.mem_eraseDups.mp hb)
    have hold : l.eraseDups.Pairwise fun b c => (l ++ [a]).idxOf b < (l ++ [a]).idxOf c := by
      apply ih.imp_of_mem
      intro b c hb hc hlt
      rw [hplace b hb, hplace c hc]
      exact hlt
    rw [eraseDups_concat]
    by_cases h : a ∈ l
    · rw [insert_eraseDups_of_mem h]
      exact hold
    · rw [insert_eraseDups_of_not_mem h]
      apply List.pairwise_append.mpr
      refine ⟨hold, List.pairwise_singleton _ _, ?_⟩
      intro b hb c hc
      rw [List.mem_singleton.mp hc, hplace b hb, List.idxOf_append_of_notMem h, List.idxOf_cons_self]
      exact List.idxOf_lt_length_of_mem (List.mem_eraseDups.mp hb)

/-- **A function may be applied before or after repetitions are left out**, as long as they are left out in
    the end. -/
theorem eraseDups_map_eraseDups (f : α → β) (l : List α) :
    (l.eraseDups.map f).eraseDups = (l.map f).eraseDups := by
  induction l using List.reverseRecOn with
  | nil => rfl
  | append_singleton l a ih =>
    rw [List.map_append, List.map_singleton, eraseDups_concat, eraseDups_concat, ← ih]
    by_cases h : a ∈ l
    · have himage : f a ∈ l.eraseDups.map f := List.mem_map_of_mem (List.mem_eraseDups.mpr h)
      rw [insert_eraseDups_of_mem h, insert_eraseDups_of_mem himage]
    · rw [insert_eraseDups_of_not_mem h, List.map_append, List.map_singleton, eraseDups_concat]

end TimedNet
