import Mathlib.Data.Finset.Sort

/-!
# `TimedNet.Proofs.Sorting` — stable sorting

What stability means for a sorted list, seen member by member and key by key. A list in the order of a key
is known once its parts with one key are known.

* `filter_mergeSort`: the members that satisfy a condition are sorted as if there were no others.
* `flatMap_filter`: a sorted list as its groups.
* `eq_of_filter_eq`: two sorted lists with the same groups.
* `eq_mergeSort`: the only stable sort.
-/

namespace TimedNet

variable {α : Type} {le : α → α → Bool}

/-- A list that is cut in two where a condition starts to fail is cut at one place. -/
theorem append_inj_of_filter {q : α → Bool} {l₁ l₂ m₁ m₂ : List α} (h : l₁ ++ l₂ = m₁ ++ m₂)
    (hl₁ : ∀ a ∈ l₁, q a = true) (hl₂ : ∀ a ∈ l₂, q a = false)
    (hm₁ : ∀ a ∈ m₁, q a = true) (hm₂ : ∀ a ∈ m₂, q a = false) : l₁ = m₁ ∧ l₂ = m₂ := by
  have hfirst : l₁ = m₁ := by
    have hfilter := congrArg (List.filter q) h
    rwa [List.filter_append, List.filter_append, List.filter_eq_self.mpr hl₁,
      List.filter_eq_self.mpr hm₁, List.filter_eq_nil_iff.mpr (by simpa using hl₂),
      List.filter_eq_nil_iff.mpr (by simpa using hm₂), List.append_nil, List.append_nil] at hfilter
  exact ⟨hfirst, List.append_cancel_left (hfirst ▸ h)⟩

/-- **A stable sort sorts the members that satisfy a condition as if there were no others.** -/
theorem filter_mergeSort (htrans : ∀ a b c, le a b = true → le b c = true → le a c = true)
    (htotal : ∀ a b, (le a b || le b a) = true) (p : α → Bool) (l : List α) :
    (l.mergeSort le).filter p = (l.filter p).mergeSort le := by
  induction l with
  | nil => simp
  | cons a l ih =>
    obtain ⟨l₁, l₂, hsorted, hrest, hbefore⟩ := List.mergeSort_cons htrans htotal a l
    rw [hrest, List.filter_append] at ih
    rw [hsorted, List.filter_append]
    by_cases ha : p a = true
    · obtain ⟨m₁, m₂, hsorted', hrest', hbefore'⟩ :=
        List.mergeSort_cons htrans htotal a (l.filter p)
      rw [List.filter_cons_of_pos ha, List.filter_cons_of_pos ha, hsorted']
      -- In both lists `a` stands behind what comes strictly before it, and before the rest.
      have hafter : ∀ {k : List α} {k₁ k₂ : List α}, (a :: k).mergeSort le = k₁ ++ a :: k₂ →
          ∀ b ∈ k₂, (!le a b) = false := by
        intro k k₁ k₂ hk b hb
        have hpairwise := hk ▸ List.pairwise_mergeSort htrans htotal (a :: k)
        have hle := List.rel_of_pairwise_cons (List.pairwise_append.mp hpairwise).2.1 hb
        rw [hle, Bool.not_true]
      obtain ⟨h₁, h₂⟩ := append_inj_of_filter (q := fun b => !le a b) (ih.trans hrest')
        (fun b hb => hbefore b (List.mem_of_mem_filter hb))
        (fun b hb => hafter hsorted b (List.mem_of_mem_filter hb)) hbefore' (hafter hsorted')
      rw [h₁, h₂]
    · rw [List.filter_cons_of_neg ha, List.filter_cons_of_neg ha, ih]

/-- **A list in the order of a key is the concatenation of the parts with one key.** -/
theorem flatMap_filter {f : α → Int} {keys : List Int} (hkeys : keys.Pairwise (· < ·)) {l : List α}
    (hl : (l.map f).Pairwise (· ≤ ·)) (hmem : ∀ a ∈ l, f a ∈ keys) :
    (keys.flatMap fun y => l.filter fun a => f a == y) = l := by
  induction l with
  | nil => simp
  | cons a l ih =>
    rw [List.map_cons, List.pairwise_cons] at hl
    obtain ⟨ha, hmem⟩ := List.forall_mem_cons.mp hmem
    have hrest := ih hl.2 hmem
    obtain ⟨before, after, rfl⟩ := List.append_of_mem ha
    obtain ⟨-, hafter, hbefore⟩ := List.pairwise_append.mp hkeys
    rw [List.pairwise_cons] at hafter
    -- No member has a smaller key than `a`.
    have hnone : ∀ {k : List α}, (∀ b ∈ k, f a ≤ f b) →
        (before.flatMap fun y => k.filter fun b => f b == y) = [] := by
      intro k hk
      refine List.flatMap_eq_nil_iff.mpr fun y hy => List.filter_eq_nil_iff.mpr fun b hb => ?_
      have := hbefore y hy (f a) (List.mem_cons_self ..)
      have := hk b hb
      simp only [beq_iff_eq]
      omega
    have hle : ∀ b ∈ l, f a ≤ f b := fun b hb => hl.1 _ (List.mem_map_of_mem hb)
    have hskip : (after.flatMap fun y => (a :: l).filter fun b => f b == y)
        = after.flatMap fun y => l.filter fun b => f b == y := by
      refine List.flatMap_congr fun y hy => List.filter_cons_of_neg ?_
      have := hafter.1 y hy
      simp only [beq_iff_eq]
      omega
    rw [List.flatMap_append, hnone hle, List.nil_append, List.flatMap_cons] at hrest
    rw [List.flatMap_append, hnone (List.forall_mem_cons.mpr ⟨le_refl _, hle⟩), List.nil_append,
      List.flatMap_cons, hskip, List.filter_cons_of_pos (by simp), List.cons_append, hrest]

/-- Two lists in the order of a key are the same if their parts with one key are. -/
theorem eq_of_filter_eq {f : α → Int} {l m : List α} (hl : (l.map f).Pairwise (· ≤ ·))
    (hm : (m.map f).Pairwise (· ≤ ·))
    (h : ∀ y, (l.filter fun a => f a == y) = m.filter fun a => f a == y) : l = m := by
  let keys := (l.map f ++ m.map f).toFinset.sort
  have hkeys : keys.Pairwise (· < ·) := (Finset.sortedLT_sort _).pairwise
  have hmem : ∀ a, a ∈ l ∨ a ∈ m → f a ∈ keys := by
    intro a ha
    refine (Finset.mem_sort (· ≤ ·)).mpr (List.mem_toFinset.mpr (List.mem_append.mpr ?_))
    exact ha.imp List.mem_map_of_mem List.mem_map_of_mem
  calc l = keys.flatMap fun y => l.filter fun a => f a == y :=
        (flatMap_filter hkeys hl fun a ha => hmem a (Or.inl ha)).symm
    _ = keys.flatMap fun y => m.filter fun a => f a == y := by simp only [h]
    _ = m := flatMap_filter hkeys hm fun a ha => hmem a (Or.inr ha)

/-- **A list is the stable sort of another** if it is in order and, for every key, the members with that
    key stand in it as they do in the other. -/
theorem eq_mergeSort {f : α → Int} {l m : List α} (hl : (l.map f).Pairwise (· ≤ ·))
    (h : ∀ y, (l.filter fun a => f a == y) = m.filter fun a => f a == y) :
    l = m.mergeSort fun a b => f a ≤ f b := by
  have htrans : ∀ a b c, decide (f a ≤ f b) = true → decide (f b ≤ f c) = true →
      decide (f a ≤ f c) = true := by
    simp only [decide_eq_true_eq]
    omega
  have htotal : ∀ a b, (decide (f a ≤ f b) || decide (f b ≤ f a)) = true := by
    simp only [Bool.or_eq_true, decide_eq_true_eq]
    omega
  refine eq_of_filter_eq hl ?_ fun y => ?_
  · refine List.pairwise_map.mpr ((List.pairwise_mergeSort htrans htotal m).imp ?_)
    exact fun h => of_decide_eq_true h
  · -- Members with one key are in order as they stand.
    rw [h, filter_mergeSort htrans htotal]
    refine (List.mergeSort_of_pairwise ?_).symm
    refine List.pairwise_of_forall_mem_list fun a ha b hb => ?_
    have ha' := (List.mem_filter.mp ha).2
    have hb' := (List.mem_filter.mp hb).2
    simp only [beq_iff_eq, decide_eq_true_eq] at ha' hb' ⊢
    omega

end TimedNet
