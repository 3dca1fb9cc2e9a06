import TimedNet.Table

/-!
# `TimedNet.Relocation` — where copied entities went

When some entities of a kind are copied in one go, their copies stand one after the other at the end
of the table. A relocation leads from an entity to its copy, and from any other entity to itself.

## Contents
- `Relocation`, `Relocation.apply`.
- `apply_of_not_mem`, `apply_of_mem`: the two cases.
- `apply_injective`: no two entities that were there before share a place.
- `base_le_apply`, `apply_lt`: a copy stands among the copies.
- `get_pushAll_apply`: what stands there.
- `CopiesParts`: copies have the copies of parts; `CopiesParts.unique`, `CopiesParts.disjoint`: no part is
  shared afterwards if none was before.
-/

namespace TimedNet

/-- The entities that were copied, and the position of the copy of the first of them. -/
structure Relocation (k : Kind) where
  sources : List (Ref k)
  base : Nat
deriving Repr

namespace Relocation

variable {k : Kind}

/-- Where an entity, or its copy if there is one, stands. -/
def apply (ρ : Relocation k) (r : Ref k) : Ref k :=
  if r ∈ ρ.sources then ⟨ρ.base + ρ.sources.idxOf r⟩ else r

instance : CoeFun (Relocation k) (fun _ => Ref k → Ref k) := ⟨apply⟩

theorem apply_of_mem {ρ : Relocation k} {r : Ref k} (h : r ∈ ρ.sources) :
    ρ r = ⟨ρ.base + ρ.sources.idxOf r⟩ := if_pos h

theorem apply_of_not_mem {ρ : Relocation k} {r : Ref k} (h : r ∉ ρ.sources) : ρ r = r := if_neg h

/-- No two copied entities have their copies in one place. -/
theorem apply_injective_of_mem {ρ : Relocation k} {r s : Ref k} (hr : r ∈ ρ.sources)
    (hs : s ∈ ρ.sources) (h : ρ r = ρ s) : r = s := by
  rw [apply_of_mem hr, apply_of_mem hs] at h
  have hidx : ρ.sources.idxOf r = ρ.sources.idxOf s := by
    have := congrArg Ref.index h
    simpa using this
  rw [← List.getElem_idxOf (List.idxOf_lt_length_iff.mpr hr),
    ← List.getElem_idxOf (List.idxOf_lt_length_iff.mpr hs)]
  simp only [hidx]

/-- When all entities stand before the place of the first copy, no two of them have one place. -/
theorem apply_injective {ρ : Relocation k} {r s : Ref k} (hr : r.index < ρ.base)
    (hs : s.index < ρ.base) (h : ρ r = ρ s) : r = s := by
  by_cases hmr : r ∈ ρ.sources <;> by_cases hms : s ∈ ρ.sources
  · exact apply_injective_of_mem hmr hms h
  · rw [apply_of_mem hmr, apply_of_not_mem hms] at h
    rw [← h] at hs
    exact absurd hs (by simp)
  · rw [apply_of_not_mem hmr, apply_of_mem hms] at h
    rw [h] at hr
    exact absurd hr (by simp)
  · rwa [apply_of_not_mem hmr, apply_of_not_mem hms] at h

theorem base_le_apply {ρ : Relocation k} {r : Ref k} (h : r ∈ ρ.sources) :
    ρ.base ≤ (ρ r).index := by
  rw [apply_of_mem h]
  exact Nat.le_add_right _ _

theorem apply_lt {ρ : Relocation k} {r : Ref k} (h : r ∈ ρ.sources) :
    (ρ r).index < ρ.base + ρ.sources.length := by
  rw [apply_of_mem h]
  exact Nat.add_lt_add_left (List.idxOf_lt_length_iff.mpr h) _

/-- The copies stand in the order of what was copied. -/
theorem apply_of_getElem? {ρ : Relocation k} (hdistinct : ρ.sources.Nodup) {i : Nat} {r : Ref k}
    (h : ρ.sources[i]? = some r) : ρ r = ⟨ρ.base + i⟩ := by
  obtain ⟨hlt, rfl⟩ := List.getElem?_eq_some_iff.mp h
  rw [apply_of_mem (List.getElem_mem hlt), hdistinct.idxOf_getElem]

section Tables

universe u

variable {α : Type u} [Inhabited α]

/-- At the place of a copy stands what was put into the table for it. -/
theorem get_pushAll_apply {ρ : Relocation k} {t : Table k α} {as : List α} (hbase : ρ.base = t.size)
    {r : Ref k} (h : r ∈ ρ.sources) :
    (t.pushAll as).get (ρ r) = as[ρ.sources.idxOf r]?.getD default := by
  rw [apply_of_mem h, hbase, Table.get_pushAll_add]

/-- When all copies are made by one function, that function made the one at each place. -/
theorem get_pushAll_map_apply {ρ : Relocation k} {t : Table k α} {f : Ref k → α}
    (hbase : ρ.base = t.size) {r : Ref k} (h : r ∈ ρ.sources) :
    (t.pushAll (ρ.sources.map f)).get (ρ r) = f r := by
  rw [get_pushAll_apply hbase h, List.getElem?_map,
    List.getElem?_eq_getElem (List.idxOf_lt_length_iff.mpr h), List.getElem_idxOf]
  rfl

/-- The same when only the first of the copies have been made. -/
theorem get_pushAll_map_of_begins {ρ : Relocation k} {t : Table k α} {f : Ref k → α}
    (hbase : ρ.base = t.size) {l : List (Ref k)} (hl : l <+: ρ.sources) {r : Ref k} (h : r ∈ l) :
    (t.pushAll (l.map f)).get (ρ r) = f r := by
  obtain ⟨rest, hrest⟩ := hl
  rw [apply_of_mem (hrest ▸ List.mem_append_left rest h), ← hrest, List.idxOf_append, if_pos h, hbase,
    Table.get_pushAll_add, List.getElem?_map, List.getElem?_eq_getElem (List.idxOf_lt_length_iff.mpr h),
    List.getElem_idxOf]
  rfl

omit [Inhabited α] in
theorem mem_pushAll_apply {ρ : Relocation k} {t : Table k α} {as : List α} (hbase : ρ.base = t.size)
    (hlength : as.length = ρ.sources.length) {r : Ref k} (h : r ∈ ρ.sources) :
    ρ r ∈ t.pushAll as := by
  rw [Table.mem_pushAll, hlength, ← hbase]
  exact apply_lt h

omit [Inhabited α] in
/-- Every entity of the table has a place in the table that received the copies. -/
theorem apply_mem_pushAll {ρ : Relocation k} {t : Table k α} {as : List α} (hbase : ρ.base = t.size)
    (hlength : as.length = ρ.sources.length) {r : Ref k} (h : r ∈ t) : ρ r ∈ t.pushAll as := by
  by_cases hr : r ∈ ρ.sources
  · exact mem_pushAll_apply hbase hlength hr
  · rw [apply_of_not_mem hr]
    exact Table.mem_pushAll_of_mem as h

omit [Inhabited α] in
/-- An entity that was there before is no copy. -/
theorem ne_apply_of_mem {ρ : Relocation k} {t : Table k α} (hbase : ρ.base = t.size) {q r : Ref k}
    (hq : q ∈ t) (hr : r ∈ ρ.sources) : q ≠ ρ r := by
  rintro rfl
  have hle := base_le_apply hr
  rw [hbase] at hle
  exact Nat.not_le_of_lt hq hle

omit [Inhabited α] in
/-- After a table received copies, its entities are those of before and the copies. -/
theorem mem_or_eq_apply {ρ : Relocation k} {t : Table k α} {as : List α} (hbase : ρ.base = t.size)
    (hlength : as.length = ρ.sources.length) (hdistinct : ρ.sources.Nodup) {q : Ref k}
    (hq : q ∈ t.pushAll as) : q ∈ t ∨ ∃ r ∈ ρ.sources, q = ρ r := by
  by_cases hold : q ∈ t
  · exact Or.inl hold
  · refine Or.inr ?_
    rw [Table.mem_pushAll, hlength] at hq
    rw [Table.mem_def] at hold
    obtain ⟨i, hi⟩ := Nat.exists_eq_add_of_le (Nat.le_of_not_lt hold)
    have hlt : i < ρ.sources.length := by omega
    refine ⟨ρ.sources[i], List.getElem_mem hlt, ?_⟩
    rw [apply_of_getElem? hdistinct (List.getElem?_eq_getElem hlt), hbase, ← hi]

omit [Inhabited α] in
/-- The next copy stands where the relocation leads. -/
theorem next_pushAll_map {ρ : Relocation k} {t : Table k α} {f : Ref k → α} (hbase : ρ.base = t.size)
    (hdistinct : ρ.sources.Nodup) {l : List (Ref k)} {r : Ref k} (hl : l ++ [r] <+: ρ.sources) :
    (t.pushAll (l.map f)).next = ρ r := by
  obtain ⟨rest, hrest⟩ := hl
  have hat : ρ.sources[l.length]? = some r := by
    rw [← hrest]
    simp
  rw [apply_of_getElem? hdistinct hat, Table.next, Table.size_pushAll, List.length_map, hbase]

omit [Inhabited α] in
/-- A change of one copy. -/
theorem modify_pushAll_map {ρ : Relocation k} {t : Table k α} {g : Ref k → α} (hbase : ρ.base = t.size)
    (hdistinct : ρ.sources.Nodup) {l : List (Ref k)} (hl : l <+: ρ.sources) {q : Ref k} (hq : q ∈ l)
    (f : α → α) :
    (t.pushAll (l.map g)).modify (ρ q) f
      = t.pushAll (l.map fun r => if r = q then f (g r) else g r) := by
  refine Table.eq_of_get? fun r => ?_
  have hmem : q ∈ ρ.sources := hl.subset hq
  rw [Table.get?_modify]
  by_cases hold : r.index < t.size
  · have hne : ρ q ≠ r := fun heq => absurd (heq ▸ base_le_apply hmem) (by omega)
    rw [if_neg hne, Table.get?_pushAll_of_lt _ hold, Table.get?_pushAll_of_lt _ hold]
  · obtain ⟨i, hi⟩ := Nat.exists_eq_add_of_le (Nat.le_of_not_lt hold)
    obtain rfl : r = ⟨t.size + i⟩ := congrArg Ref.mk hi
    rw [Table.get?_pushAll_add, Table.get?_pushAll_add, List.getElem?_map, List.getElem?_map]
    cases hat : l[i]? with
    | none => simp
    | some p =>
      have hsource : ρ.sources[i]? = some p := by
        obtain ⟨rest, hrest⟩ := hl
        rw [← hrest, List.getElem?_append_left (List.getElem?_eq_some_iff.mp hat).1, hat]
      have hplace : ρ p = ⟨t.size + i⟩ := by rw [apply_of_getElem? hdistinct hsource, hbase]
      by_cases hp : p = q
      · simp [← hp, hplace]
      · have hne : ρ q ≠ ⟨t.size + i⟩ := fun heq =>
          hp (apply_injective_of_mem (hl.subset (List.mem_of_getElem? hat)) hmem
            (hplace.trans heq.symm))
        simp [hp, hne]

omit [Inhabited α] in
/-- The same change of several copies, for a change that makes no difference where it was made already. -/
theorem foldl_modify_pushAll {ρ : Relocation k} {t : Table k α} {f : α → α} {g g' : Ref k → α}
    (hbase : ρ.base = t.size) (hdistinct : ρ.sources.Nodup) {l : List (Ref k)} (hl : l <+: ρ.sources)
    {qs : List (Ref k)} (hqs : ∀ q ∈ qs, q ∈ l) (hchanged : ∀ q ∈ qs, f (g q) = g' q ∧ f (g' q) = g' q)
    (hrest : ∀ r ∈ l, r ∉ qs → g r = g' r) :
    (qs.map ρ).foldl (fun t r => t.modify r f) (t.pushAll (l.map g)) = t.pushAll (l.map g') := by
  induction qs generalizing g with
  | nil => exact congrArg t.pushAll (List.map_congr_left fun r hr => hrest r hr List.not_mem_nil)
  | cons q qs ih =>
    rw [List.map_cons, List.foldl_cons,
      modify_pushAll_map hbase hdistinct hl (hqs q List.mem_cons_self) f]
    apply ih
    · exact fun p hp => hqs p (List.mem_cons_of_mem _ hp)
    · intro p hp
      have hp := hchanged p (List.mem_cons_of_mem _ hp)
      refine ⟨?_, hp.2⟩
      by_cases heq : p = q
      · rw [if_pos heq, hp.1, hp.2]
      · rw [if_neg heq, hp.1]
    · intro r hr hnot
      by_cases heq : r = q
      · rw [if_pos heq, heq, (hchanged q List.mem_cons_self).1]
      · rw [if_neg heq]
        exact hrest r hr (by simp [heq, hnot])

end Tables

/-! ## Parts -/

section Parts

universe u v w

variable {l : Kind} {α : Type u} {β : Type v} {γ : Type w} {ρ : Relocation l} {parts : Table l γ}

/-- Every entity of `u` is one of `t` with the part that it had, or the copy that `σ` leads to of one of
    `t`, with the copy of the part which that one had. -/
def CopiesParts (ρ : Relocation l) (parts : Table l γ) (σ : Ref k → Ref k) (t u : Table k α)
    (part part' : Ref k → Ref l) : Prop :=
  ∀ r ∈ u, (r ∈ t ∧ part r ∈ parts ∧ part' r = part r)
    ∨ ∃ q ∈ t, r = σ q ∧ part q ∈ ρ.sources ∧ part' r = ρ (part q)

/-- If no two entities shared a part, none do afterwards. -/
theorem CopiesParts.unique {σ : Ref k → Ref k} {t u : Table k α} {part part' : Ref k → Ref l}
    (h : CopiesParts ρ parts σ t u part part') (hbase : ρ.base = parts.size)
    (hunique : ∀ p ∈ t, ∀ q ∈ t, part p = part q → p = q) :
    ∀ p ∈ u, ∀ q ∈ u, part' p = part' q → p = q := by
  intro p hp q hq heq
  rcases h p hp with ⟨hpt, hold, hpx⟩ | ⟨p', hpt, hpσ, hnew, hpx⟩ <;>
    rcases h q hq with ⟨hqt, hold', hqx⟩ | ⟨q', hqt, hqσ, hnew', hqx⟩ <;> rw [hpx, hqx] at heq
  · exact hunique p hpt q hqt heq
  · exact absurd heq (ne_apply_of_mem hbase hold hnew')
  · exact absurd heq.symm (ne_apply_of_mem hbase hold' hnew)
  · -- Two copies with one part were made from one entity.
    rw [hpσ, hqσ, hunique p' hpt q' hqt (apply_injective_of_mem hnew hnew' heq)]

/-- If the entities of two kinds shared no part, they share none afterwards. -/
theorem CopiesParts.disjoint {m : Kind} {σ : Ref k → Ref k} {t u : Table k α}
    {part part' : Ref k → Ref l} (h : CopiesParts ρ parts σ t u part part') {τ : Ref m → Ref m}
    {v w : Table m β} {other other' : Ref m → Ref l} (h' : CopiesParts ρ parts τ v w other other')
    (hbase : ρ.base = parts.size) (hdisjoint : ∀ p ∈ t, ∀ q ∈ v, part p ≠ other q) :
    ∀ p ∈ u, ∀ q ∈ w, part' p ≠ other' q := by
  intro p hp q hq heq
  rcases h p hp with ⟨hpt, hold, hpx⟩ | ⟨p', hpt, _, hnew, hpx⟩ <;>
    rcases h' q hq with ⟨hqv, hold', hqx⟩ | ⟨q', hqv, _, hnew', hqx⟩ <;> rw [hpx, hqx] at heq
  · exact hdisjoint p hpt q hqv heq
  · exact ne_apply_of_mem hbase hold hnew' heq
  · exact ne_apply_of_mem hbase hold' hnew heq.symm
  · exact hdisjoint p' hpt q' hqv (apply_injective_of_mem hnew hnew' heq)

end Parts

end Relocation

end TimedNet
