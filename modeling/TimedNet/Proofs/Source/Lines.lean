import TimedNet.Proofs.Sorting
import TimedNet.Source.LineTable

/-!
# `TimedNet.Proofs.Source.Lines` — a line table and the lines that were registered in it

A table of lines in order falls into two parts at every offset: the lines up to it and the lines after it.
The binary search finds the place between the two, so a new line is put behind those at its own position,
and a look-up gives the last line of the first part. Hence a table is the stable sort of what was
registered in it.

* `searchAfter_splits`: what the search finds, by its loop invariant.
* `insert_eq_insertIdx`, `exists_insert_eq`: where a line is put.
* `find_eq_getLast?`: what is found.
* `HasArrived`: what has been registered; `HasArrived.insert`, `HasArrived.toList_eq`: a stable sort of it.
* `HasArrived.find_eq_none_iff`, `HasArrived.find_eq_some_iff`: look-ups told by what was registered.
-/

namespace TimedNet.LineTable

variable {t : LineTable} {e : LineInfo} {q : Int}

/-- The lines are in order of their positions. -/
def Ordered (t : LineTable) : Prop :=
  (t.entries.toList.map LineInfo.position).Pairwise (· ≤ ·)

/-- The lines before an index are those that start at `q` or before it. -/
def SplitsAt (entries : Array LineInfo) (q : Int) (k : Nat) : Prop :=
  ∀ i (h : i < entries.size), entries[i].position ≤ q ↔ i < k

theorem Ordered.position_le (h : t.Ordered) {i j : Nat} (hij : i ≤ j) (hj : j < t.entries.size) :
    t.entries[i].position ≤ t.entries[j].position := by
  rcases Nat.eq_or_lt_of_le hij with rfl | hlt
  · exact Int.le_refl _
  · exact List.pairwise_iff_getElem.mp (List.pairwise_map.mp h) i j (by simp; omega) (by simpa) hlt

/-- **What the binary search finds.** The search keeps that all lines before `lo` start at `q` or before
    it and all lines from `hi` on start after it. -/
theorem searchAfter_splits (h : t.Ordered) {lo hi : Nat} (bound : hi ≤ t.entries.size) (hle : lo ≤ hi)
    (hbefore : ∀ i (hi : i < t.entries.size), i < lo → t.entries[i].position ≤ q)
    (hafter : ∀ i (hi' : i < t.entries.size), hi ≤ i → q < t.entries[i].position) :
    SplitsAt t.entries q (searchAfter t.entries q lo hi bound) := by
  fun_induction searchAfter t.entries q lo hi bound with
  | case1 lo hi bound range hmiddle ih =>
    refine ih (by omega) (fun i hi' hlt => ?_) hafter
    exact Int.le_trans (h.position_le (Nat.le_of_lt_succ hlt) _) hmiddle
  | case2 lo hi bound range hmiddle ih =>
    apply ih (by omega) hbefore
    intro i hi' hge
    exact Int.lt_of_lt_of_le (Int.not_le.mp hmiddle) (h.position_le hge hi')
  | case3 lo hi bound range =>
    intro i hi'
    refine ⟨fun hpos => ?_, hbefore i hi'⟩
    by_contra hlt
    exact absurd (hafter i hi' (by omega)) (Int.not_lt.mpr hpos)

theorem splitsAt_upperBound (h : t.Ordered) (q : Int) : SplitsAt t.entries q (t.upperBound q) :=
  searchAfter_splits h _ (Nat.zero_le _) (fun _ _ hlt => absurd hlt (Nat.not_lt_zero _))
    fun _ hi hge => absurd hi (Nat.not_lt.mpr hge)

/-- **The two parts of a table at an offset**: the first `upperBound` lines and the rest. -/
theorem exists_parts (h : t.Ordered) (q : Int) : ∃ before after,
    t.entries.toList = before ++ after ∧ before.length = t.upperBound q
      ∧ (∀ x ∈ before, x.position ≤ q) ∧ ∀ x ∈ after, q < x.position := by
  have hsplits := splitsAt_upperBound h q
  refine ⟨t.entries.toList.take (t.upperBound q), t.entries.toList.drop (t.upperBound q),
    (List.take_append_drop _ _).symm, ?_, fun x hx => ?_, fun x hx => ?_⟩
  · rw [List.length_take]
    exact Nat.min_eq_left (t.upperBound_le q)
  · obtain ⟨i, hi, rfl⟩ := List.mem_take_iff_getElem.mp hx
    rw [Nat.lt_min] at hi
    exact (hsplits i hi.2).mpr hi.1
  · obtain ⟨i, hi, rfl⟩ := List.mem_drop_iff_getElem.mp hx
    apply Int.not_le.mp
    intro hle
    exact absurd ((hsplits _ (Nat.add_comm i _ ▸ hi)).mp hle) (Nat.not_lt.mpr (Nat.le_add_right _ _))

/-! ## Registering -/

/-- **Both ways to register a line agree**: appending is what putting it at the place found would do. -/
theorem insert_eq_insertIdx (h : t.Ordered) (e : LineInfo) :
    t.insert e = ⟨t.entries.insertIdx (t.upperBound e.position) e (t.upperBound_le e.position)⟩ := by
  have hatEnd : t.upperBound e.position = t.entries.size →
      t.entries.insertIdx (t.upperBound e.position) e (t.upperBound_le e.position)
        = t.entries.push e := by
    intro hsize
    simp only [hsize, Array.insertIdx_size_self]
  unfold insert
  split
  · next hback =>
    have hempty : t.entries.size = 0 := by simpa using hback
    rw [hatEnd]
    have := t.upperBound_le e.position
    omega
  · next last hback =>
    split
    · next hle =>
      -- The last line is one of those up to the new one, so all are.
      obtain ⟨hlast, hget⟩ := Array.getElem?_eq_some_iff.mp (Array.back?_eq_getElem?.symm.trans hback)
      rw [hatEnd]
      have hlt := (splitsAt_upperBound h e.position _ hlast).mp (hget ▸ hle)
      have := t.upperBound_le e.position
      omega
    · rfl

theorem insertIdx_length_append {α : Type} (before after : List α) (a : α) :
    (before ++ after).insertIdx before.length a = before ++ a :: after := by
  induction before with
  | nil => rfl
  | cons b before ih => simp [ih]

/-- A new line is put behind the lines that start at its position or before it. -/
theorem exists_insert_eq (h : t.Ordered) (e : LineInfo) : ∃ before after,
    t.entries.toList = before ++ after ∧ (t.insert e).entries.toList = before ++ e :: after
      ∧ (∀ x ∈ before, x.position ≤ e.position) ∧ ∀ x ∈ after, e.position < x.position := by
  obtain ⟨before, after, hparts, hlength, hbefore, hafter⟩ := exists_parts h e.position
  refine ⟨before, after, hparts, ?_, hbefore, hafter⟩
  rw [insert_eq_insertIdx h, Array.toList_insertIdx, hparts, ← hlength,
    insertIdx_length_append]

theorem Ordered.insert (h : t.Ordered) (e : LineInfo) : (t.insert e).Ordered := by
  obtain ⟨before, after, hparts, hinsert, hbefore, hafter⟩ := exists_insert_eq h e
  unfold Ordered at h ⊢
  rw [hparts, List.map_append, List.pairwise_append] at h
  rw [hinsert, List.map_append, List.map_cons, List.pairwise_append, List.pairwise_cons]
  refine ⟨h.1, ⟨?_, h.2.1⟩, ?_⟩
  · exact List.forall_mem_map.mpr fun x hx => Int.le_of_lt (hafter x hx)
  · intro y hy z hz
    rcases List.mem_cons.mp hz with rfl | hz
    · obtain ⟨x, hx, rfl⟩ := List.mem_map.mp hy
      exact hbefore x hx
    · exact h.2.2 y hy z hz

/-- A new line becomes the last one at its position and is not seen at any other. -/
theorem filter_insert (h : t.Ordered) (e : LineInfo) (y : Int) :
    ((t.insert e).entries.toList.filter fun x => x.position == y)
      = (t.entries.toList ++ [e]).filter fun x => x.position == y := by
  obtain ⟨before, after, hparts, hinsert, hbefore, hafter⟩ := exists_insert_eq h e
  rw [hinsert, hparts, List.append_assoc, List.filter_append, List.filter_append,
    List.filter_append, List.filter_cons]
  split
  · next hy =>
    have hnone : (after.filter fun x => x.position == y) = [] := by
      apply List.filter_eq_nil_iff.mpr
      intro x hx
      have := hafter x hx
      simp only [beq_iff_eq] at hy ⊢
      omega
    rw [hnone, List.nil_append, List.filter_cons, if_pos hy]
    rfl
  · next hy => rw [List.filter_cons, if_neg hy, List.filter_nil, List.append_nil]

/-! ## What has been registered -/

/-- The table is in order and has, for every position, the lines that arrived there in the order in which
    they arrived. -/
structure HasArrived (t : LineTable) (arrived : List LineInfo) : Prop where
  ordered : t.Ordered
  filter : ∀ y, (t.entries.toList.filter fun x => x.position == y)
    = arrived.filter fun x => x.position == y

variable {arrived : List LineInfo}

theorem hasArrived_nil : HasArrived {} [] := ⟨List.Pairwise.nil, fun _ => rfl⟩

theorem HasArrived.insert (h : t.HasArrived arrived) (e : LineInfo) :
    (t.insert e).HasArrived (arrived ++ [e]) where
  ordered := h.ordered.insert e
  filter y := by
    rw [filter_insert h.ordered, List.filter_append, h.filter, List.filter_append]

theorem HasArrived.foldl (h : t.HasArrived arrived) (es : List LineInfo) :
    (es.foldl LineTable.insert t).HasArrived (arrived ++ es) := by
  induction es generalizing t arrived with
  | nil => rwa [List.append_nil]
  | cons e es ih => simpa using ih (h.insert e)

/-- **A table is the stable sort of what arrived.** -/
theorem HasArrived.toList_eq (h : t.HasArrived arrived) :
    t.entries.toList = arrived.mergeSort fun x y => x.position ≤ y.position :=
  eq_mergeSort h.ordered h.filter

theorem HasArrived.mem_iff (h : t.HasArrived arrived) : e ∈ t.entries.toList ↔ e ∈ arrived := by
  rw [h.toList_eq, List.mem_mergeSort]

/-! ## Looking up -/

/-- What is found is the last line of the first part. -/
theorem find_eq_getLast? {before after : List LineInfo} (hparts : t.entries.toList = before ++ after)
    (hlength : before.length = t.upperBound q) : t.find q = before.getLast? := by
  unfold find
  rw [← hlength]
  cases hb : before.length with
  | zero => rw [List.length_eq_zero_iff.mp hb, List.getLast?_nil]
  | succ i =>
    have hi : i < before.length := by omega
    show t.entries[i]? = before.getLast?
    rw [← Array.getElem?_toList, hparts, List.getElem?_append_left hi, List.getLast?_eq_getElem?, hb]
    rfl

/-- The line that arrived last of all at the greatest position up to `q`. -/
structure Latest (arrived : List LineInfo) (q : Int) (e : LineInfo) : Prop where
  upTo : e.position ≤ q
  greatest : ∀ x ∈ arrived, x.position ≤ q → x.position ≤ e.position
  last : (arrived.filter fun x => x.position == e.position).getLast? = some e

theorem Latest.mem (h : Latest arrived q e) : e ∈ arrived :=
  List.mem_of_mem_filter (List.mem_of_getLast? h.last)

/-- There is one such line at most. -/
theorem Latest.unique {e' : LineInfo} (h : Latest arrived q e) (h' : Latest arrived q e') : e = e' := by
  have heq : e.position = e'.position :=
    Int.le_antisymm (h'.greatest e h.mem h.upTo) (h.greatest e' h'.mem h'.upTo)
  exact Option.some.inj (h.last.symm.trans (heq ▸ h'.last))

theorem HasArrived.latest_of_find (h : t.HasArrived arrived) (hfind : t.find q = some e) :
    Latest arrived q e := by
  obtain ⟨before, after, hparts, hlength, hbefore, hafter⟩ := exists_parts h.ordered q
  rw [find_eq_getLast? hparts hlength] at hfind
  obtain ⟨first, rfl⟩ := List.getLast?_eq_some_iff.mp hfind
  have hupTo : e.position ≤ q := hbefore e (by simp)
  refine ⟨hupTo, fun x hx hxq => ?_, ?_⟩
  · -- What starts up to `q` is in the first part, of which `e` is the last.
    rw [← h.mem_iff, hparts] at hx
    have hx' : x ∈ first ++ [e] := by
      apply (List.mem_append.mp hx).resolve_right
      intro hlate
      exact absurd (hafter x hlate) (Int.not_lt.mpr hxq)
    have hordered := h.ordered
    rw [Ordered, hparts, List.map_append, List.map_append, List.pairwise_append,
      List.pairwise_append] at hordered
    rcases List.mem_append.mp hx' with hfirst | hlast
    · exact hordered.1.2.2 _ (List.mem_map_of_mem hfirst) _ (by simp)
    · rw [List.mem_singleton.mp hlast]
  · have hnone : (after.filter fun x => x.position == e.position) = [] := by
      apply List.filter_eq_nil_iff.mpr
      intro x hx
      have := hafter x hx
      simp only [beq_iff_eq]
      omega
    rw [← h.filter, hparts, List.filter_append, hnone, List.append_nil, List.filter_append,
      List.filter_cons_of_pos (by simp), List.filter_nil, List.getLast?_concat]

/-- **Nothing is found** exactly when every line that arrived starts later. -/
theorem HasArrived.find_eq_none_iff (h : t.HasArrived arrived) :
    t.find q = none ↔ ∀ x ∈ arrived, q < x.position := by
  obtain ⟨before, after, hparts, hlength, hbefore, hafter⟩ := exists_parts h.ordered q
  rw [find_eq_getLast? hparts hlength, List.getLast?_eq_none_iff]
  constructor
  · rintro rfl x hx
    rw [← h.mem_iff, hparts, List.nil_append] at hx
    exact hafter x hx
  · intro hall
    apply List.eq_nil_iff_forall_not_mem.mpr
    intro x hx
    have hlate := hall x (h.mem_iff.mp (hparts ▸ List.mem_append_left _ hx))
    exact absurd (hbefore x hx) (Int.not_le.mpr hlate)

/-- **What is found** is the line that arrived last at the greatest position up to the offset. -/
theorem HasArrived.find_eq_some_iff (h : t.HasArrived arrived) :
    t.find q = some e ↔ Latest arrived q e := by
  refine ⟨h.latest_of_find, ?_⟩
  intro hlatest
  cases hfind : t.find q with
  | none => exact absurd (h.find_eq_none_iff.mp hfind e hlatest.mem) (Int.not_lt.mpr hlatest.upTo)
  | some e' => rw [(h.latest_of_find hfind).unique hlatest]

end TimedNet.LineTable
