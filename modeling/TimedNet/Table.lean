import TimedNet.Reference

/-!
# `TimedNet.Table` — append-only tables of entities

A table gives every entity it receives the next position and never moves or drops one, so a
reference stays good for as long as the table grows. What an entry holds may change; which entry a
reference means may not.

## Contents
- `Table`, `Table.get?`, `Table.get`: a table and its view.
- `Table.push`, `Table.pushAll`, `Table.modify`: one more entry, several more, a changed entry.
- One equation for each of them through `get?`, `get` and `size`.
- `r ∈ t`: a reference leads to an entity of the table; `next_not_mem`, `mem_push`, `mem_pushAll`.
- `Table.Keeps`: what the entities of a table have in common with what they become.
- `Table.Renews`: which entities of a table are not as they were.
- `Table.unique_push`, `Table.ordered_push`, `Table.forall_push`: what holds of a table with one more
  entity.
-/

namespace TimedNet

universe u

/-- The entities of one kind, in order of arrival. -/
structure Table (k : Kind) (α : Type u) where
  entries : Array α := #[]
deriving Repr

namespace Table

variable {k : Kind} {α : Type u}

instance : Inhabited (Table k α) := ⟨{}⟩

/-- How many entities there are. -/
def size (t : Table k α) : Nat := t.entries.size

/-- The reference that the next entity will have. -/
def next (t : Table k α) : Ref k := ⟨t.size⟩

/-- The entity behind a reference, if there is one. -/
def get? (t : Table k α) (r : Ref k) : Option α := t.entries[r.index]?

/-- The entity behind a reference; a dangling reference gives the default. -/
def get [Inhabited α] (t : Table k α) (r : Ref k) : α := (t.get? r).getD default

/-- The table with one more entity, which `next` refers to. -/
def push (t : Table k α) (a : α) : Table k α := ⟨t.entries.push a⟩

/-- The table with several more entities, at consecutive positions. -/
def pushAll (t : Table k α) (as : List α) : Table k α := ⟨t.entries ++ as.toArray⟩

/-- The table with the entity behind `r` changed by `f`. -/
def modify (t : Table k α) (r : Ref k) (f : α → α) : Table k α := ⟨t.entries.modify r.index f⟩

/-- All entities, in order. -/
def toList (t : Table k α) : List α := t.entries.toList

/-! ## What the operations do to the view -/

@[simp] theorem size_push (t : Table k α) (a : α) : (t.push a).size = t.size + 1 := by
  simp [push, size]

@[simp] theorem size_pushAll (t : Table k α) (as : List α) :
    (t.pushAll as).size = t.size + as.length := by
  simp [pushAll, size]

@[simp] theorem size_modify (t : Table k α) (r : Ref k) (f : α → α) :
    (t.modify r f).size = t.size := by
  simp [modify, size]

theorem get?_eq_none_iff {t : Table k α} {r : Ref k} : t.get? r = none ↔ t.size ≤ r.index := by
  simp [get?, size]

theorem lt_size_of_get?_eq_some {t : Table k α} {r : Ref k} {a : α} (h : t.get? r = some a) :
    r.index < t.size := by
  by_cases hr : r.index < t.size
  · exact hr
  · rw [get?_eq_none_iff.mpr (Nat.le_of_not_lt hr)] at h
    exact absurd h (by simp)

theorem get?_push (t : Table k α) (a : α) (r : Ref k) :
    (t.push a).get? r = if r = t.next then some a else t.get? r := by
  cases r with
  | mk i => simp [push, get?, next, size, Array.getElem?_push]

theorem get?_push_of_lt {t : Table k α} {r : Ref k} (a : α) (h : r.index < t.size) :
    (t.push a).get? r = t.get? r := by
  rw [get?_push, if_neg]
  intro hr
  simp [hr, next] at h

@[simp] theorem get?_push_next (t : Table k α) (a : α) : (t.push a).get? t.next = some a := by
  simp [get?_push]

theorem get?_pushAll_of_lt {t : Table k α} {r : Ref k} (as : List α) (h : r.index < t.size) :
    (t.pushAll as).get? r = t.get? r := by
  simp only [size] at h
  simp [pushAll, get?, Array.getElem?_append, h]

theorem get?_pushAll_add (t : Table k α) (as : List α) (i : Nat) :
    (t.pushAll as).get? ⟨t.size + i⟩ = as[i]? := by
  have h : ¬ t.entries.size + i < t.entries.size := by omega
  simp only [pushAll, get?, size, Array.getElem?_append, if_neg h, Nat.add_sub_cancel_left,
    List.getElem?_toArray]

theorem get?_modify (t : Table k α) (r s : Ref k) (f : α → α) :
    (t.modify r f).get? s = if r = s then (t.get? s).map f else t.get? s := by
  cases r with
  | mk i => cases s with
    | mk j => simp [modify, get?, Array.getElem?_modify]

theorem get_eq_of_get? [Inhabited α] {t u : Table k α} {r : Ref k} (h : t.get? r = u.get? r) :
    t.get r = u.get r := by
  simp [get, h]

/-- Tables in which every reference leads to the same are the same. -/
theorem eq_of_get? {t u : Table k α} (h : ∀ r, t.get? r = u.get? r) : t = u :=
  congrArg Table.mk (Array.ext_getElem? fun i => h ⟨i⟩)

@[simp] theorem pushAll_nil (t : Table k α) : t.pushAll [] = t := by
  simp [pushAll]

theorem pushAll_singleton (t : Table k α) (a : α) : t.pushAll [a] = t.push a := by
  simp [pushAll, push]

theorem push_pushAll (t : Table k α) (as : List α) (a : α) :
    (t.pushAll as).push a = t.pushAll (as ++ [a]) := by
  simp [pushAll, push]

theorem pushAll_pushAll (t : Table k α) (as bs : List α) :
    (t.pushAll as).pushAll bs = t.pushAll (as ++ bs) := by
  simp [pushAll]

/-- A change of the entity that came last. -/
theorem modify_push_next (t : Table k α) (a : α) (f : α → α) :
    (t.push a).modify t.next f = t.push (f a) := by
  refine eq_of_get? fun r => ?_
  rw [get?_modify, get?_push, get?_push]
  by_cases hr : r = t.next
  · rw [if_pos hr.symm, if_pos hr, if_pos hr]
    rfl
  · rw [if_neg (Ne.symm hr), if_neg hr, if_neg hr]

/-! ## References that lead somewhere -/

/-- A reference leads to an entity of the table. -/
instance : Membership (Ref k) (Table k α) := ⟨fun t r => r.index < t.size⟩

instance (t : Table k α) (r : Ref k) : Decidable (r ∈ t) :=
  inferInstanceAs (Decidable (r.index < t.size))

theorem mem_def {t : Table k α} {r : Ref k} : r ∈ t ↔ r.index < t.size := Iff.rfl

theorem next_not_mem (t : Table k α) : t.next ∉ t := Nat.lt_irrefl _

theorem mem_pushAll {t : Table k α} {as : List α} {r : Ref k} :
    r ∈ t.pushAll as ↔ r.index < t.size + as.length := by
  rw [mem_def, size_pushAll]

theorem mem_pushAll_of_mem {t : Table k α} (as : List α) {r : Ref k} (h : r ∈ t) :
    r ∈ t.pushAll as :=
  mem_pushAll.mpr (Nat.lt_of_lt_of_le h (Nat.le_add_right _ _))

theorem mem_push {t : Table k α} {a : α} {r : Ref k} : r ∈ t.push a ↔ r ∈ t ∨ r = t.next := by
  rw [mem_def, size_push, mem_def]
  constructor
  · intro h
    rcases Nat.lt_succ_iff_lt_or_eq.mp h with hlt | heq
    · exact Or.inl hlt
    · exact Or.inr (congrArg Ref.mk heq)
  · rintro (hlt | rfl)
    · exact Nat.lt_succ_of_lt hlt
    · exact Nat.lt_succ_self _

theorem mem_push_of_mem {t : Table k α} (a : α) {r : Ref k} (h : r ∈ t) : r ∈ t.push a :=
  mem_push.mpr (Or.inl h)

theorem next_mem_push (t : Table k α) (a : α) : t.next ∈ t.push a := mem_push.mpr (Or.inr rfl)

@[simp] theorem mem_modify {t : Table k α} {r q : Ref k} {f : α → α} :
    r ∈ t.modify q f ↔ r ∈ t := by
  rw [mem_def, size_modify, mem_def]

theorem ne_next_of_mem {t : Table k α} {r : Ref k} (h : r ∈ t) : r ≠ t.next := by
  rintro rfl
  exact next_not_mem t h

/-- A change of an entity before the one that came last. -/
theorem modify_push_of_mem {t : Table k α} {r : Ref k} (a : α) (f : α → α) (h : r ∈ t) :
    (t.push a).modify r f = (t.modify r f).push a := by
  refine eq_of_get? fun q => ?_
  have hnext : (t.modify r f).next = t.next := congrArg Ref.mk (size_modify t r f)
  rw [get?_modify, get?_push, get?_push, get?_modify, hnext]
  by_cases hq : q = t.next
  · rw [if_pos hq, if_pos hq, if_neg fun hr => ne_next_of_mem h (hr.trans hq)]
  · rw [if_neg hq, if_neg hq]

section Get

variable [Inhabited α]

theorem get_pushAll_of_mem {t : Table k α} {r : Ref k} (as : List α) (h : r ∈ t) :
    (t.pushAll as).get r = t.get r :=
  get_eq_of_get? (get?_pushAll_of_lt as h)

theorem get_pushAll_add (t : Table k α) (as : List α) (i : Nat) :
    (t.pushAll as).get ⟨t.size + i⟩ = as[i]?.getD default := by
  rw [get, get?_pushAll_add]

theorem get_push_of_mem {t : Table k α} {r : Ref k} (a : α) (h : r ∈ t) :
    (t.push a).get r = t.get r :=
  get_eq_of_get? (get?_push_of_lt a h)

@[simp] theorem get_push_next (t : Table k α) (a : α) : (t.push a).get t.next = a := by
  rw [get, get?_push_next]
  rfl

theorem get_modify_self {t : Table k α} {r : Ref k} (f : α → α) (h : r ∈ t) :
    (t.modify r f).get r = f (t.get r) := by
  obtain ⟨a, ha⟩ := Option.ne_none_iff_exists'.mp
    (mt get?_eq_none_iff.mp (Nat.not_le_of_lt h))
  rw [get, get?_modify, if_pos rfl, get, ha]
  rfl

theorem get_modify_of_ne {t : Table k α} {r q : Ref k} (f : α → α) (h : q ≠ r) :
    (t.modify q f).get r = t.get r := by
  apply get_eq_of_get?
  rw [get?_modify, if_neg h]

/-- A change is what it makes of the entity that is there. -/
theorem modify_congr {t : Table k α} {r : Ref k} {f g : α → α}
    (h : r ∈ t → f (t.get r) = g (t.get r)) : t.modify r f = t.modify r g := by
  refine congrArg Table.mk (Array.ext_getElem? fun i => ?_)
  rw [Array.getElem?_modify, Array.getElem?_modify]
  split
  · next hi =>
    subst hi
    cases hget : t.entries[r.index]? with
    | none => rfl
    | some a =>
      have ht : t.get r = a := by rw [get, get?, hget]; rfl
      have hmem : r ∈ t := lt_size_of_get?_eq_some hget
      have hfg := h hmem
      rw [ht] at hfg
      exact congrArg some hfg
  · rfl

end Get

/-! ## Tables before and after -/

variable [Inhabited α]

/-- Every entity is there afterwards and related by `R` to what it was. -/
def Keeps (R : α → α → Prop) (t u : Table k α) : Prop :=
  ∀ r ∈ t, r ∈ u ∧ R (t.get r) (u.get r)

theorem Keeps.refl {R : α → α → Prop} (hR : ∀ a, R a a) (t : Table k α) : t.Keeps R t :=
  fun r hr => ⟨hr, hR (t.get r)⟩

theorem Keeps.trans {R : α → α → Prop} {t u v : Table k α} (h : t.Keeps R u) (h' : u.Keeps R v)
    (hR : ∀ {a b c}, R a b → R b c → R a c) : t.Keeps R v :=
  fun r hr => ⟨(h' r (h r hr).1).1, hR (h r hr).2 (h' r (h r hr).1).2⟩

theorem keeps_pushAll {R : α → α → Prop} (hR : ∀ a, R a a) (t : Table k α) (as : List α) :
    t.Keeps R (t.pushAll as) := by
  intro r hr
  rw [get_pushAll_of_mem as hr]
  exact ⟨mem_pushAll_of_mem as hr, hR _⟩

theorem keeps_push {R : α → α → Prop} (hR : ∀ a, R a a) (t : Table k α) (a : α) :
    t.Keeps R (t.push a) := by
  intro r hr
  rw [get_push_of_mem a hr]
  exact ⟨mem_push_of_mem a hr, hR _⟩

theorem keeps_modify {R : α → α → Prop} (hR : ∀ a, R a a) {t : Table k α} {q : Ref k} {f : α → α}
    (hf : q ∈ t → R (t.get q) (f (t.get q))) : t.Keeps R (t.modify q f) := by
  intro r hr
  refine ⟨mem_modify.mpr hr, ?_⟩
  by_cases hq : q = r
  · subst hq
    rw [get_modify_self f hr]
    exact hf hr
  · rw [get_modify_of_ne f hq]
    exact hR _

/-- Every entity afterwards is one that was there, as it was, or satisfies `P`. -/
def Renews (P : Ref k → α → Prop) (t u : Table k α) : Prop :=
  ∀ r ∈ u, (r ∈ t ∧ u.get r = t.get r) ∨ P r (u.get r)

theorem Renews.refl (P : Ref k → α → Prop) (t : Table k α) : t.Renews P t :=
  fun _ hr => Or.inl ⟨hr, rfl⟩

theorem renews_push {P : Ref k → α → Prop} {t : Table k α} {a : α} (ha : P t.next a) :
    t.Renews P (t.push a) := by
  intro r hr
  rcases mem_push.mp hr with hold | rfl
  · exact Or.inl ⟨hold, get_push_of_mem a hold⟩
  · rw [get_push_next]
    exact Or.inr ha

theorem renews_pushAll {P : Ref k → α → Prop} {t : Table k α} {as : List α}
    (has : ∀ i a, as[i]? = some a → P ⟨t.size + i⟩ a) : t.Renews P (t.pushAll as) := by
  intro r hr
  by_cases hold : r ∈ t
  · exact Or.inl ⟨hold, get_pushAll_of_mem as hold⟩
  · rw [mem_pushAll] at hr
    rw [mem_def] at hold
    obtain ⟨i, hi⟩ := Nat.exists_eq_add_of_le (Nat.le_of_not_lt hold)
    have hlt : i < as.length := by omega
    obtain rfl : r = ⟨t.size + i⟩ := congrArg Ref.mk hi
    rw [get_pushAll_add, List.getElem?_eq_getElem hlt]
    exact Or.inr (has i as[i] (List.getElem?_eq_getElem hlt))

theorem renews_modify {P : Ref k → α → Prop} {t : Table k α} {q : Ref k} {f : α → α}
    (hf : q ∈ t → P q (f (t.get q))) : t.Renews P (t.modify q f) := by
  intro r hr
  rw [mem_modify] at hr
  by_cases hq : q = r
  · subst hq
    rw [get_modify_self f hr]
    exact Or.inr (hf hr)
  · exact Or.inl ⟨hr, get_modify_of_ne f hq⟩

/-- What holds of all entities that were there, and of those that are new, holds of all. -/
theorem Renews.forall {P : Ref k → α → Prop} {t u : Table k α} (h : t.Renews P u)
    (hold : ∀ r ∈ t, P r (t.get r)) : ∀ r ∈ u, P r (u.get r) := by
  intro r hr
  rcases h r hr with ⟨hmem, heq⟩ | hnew
  · rw [heq]
    exact hold r hmem
  · exact hnew

/-! ## A table with one more entity -/

/-- If no two entities are related, and none is related to a new one, then no two are related with the
    new one among them. -/
theorem unique_push {R : α → α → Prop} (hsymm : ∀ {a b}, R a b → R b a) {t : Table k α} {a : α}
    (h : ∀ p ∈ t, ∀ q ∈ t, R (t.get p) (t.get q) → p = q) (ha : ∀ p ∈ t, ¬ R (t.get p) a) :
    ∀ p ∈ t.push a, ∀ q ∈ t.push a, R ((t.push a).get p) ((t.push a).get q) → p = q := by
  intro p hp q hq hR
  rcases mem_push.mp hp with hp | rfl <;> rcases mem_push.mp hq with hq | rfl
  · rw [get_push_of_mem a hp, get_push_of_mem a hq] at hR
    exact h p hp q hq hR
  · rw [get_push_of_mem a hp, get_push_next] at hR
    exact absurd hR (ha p hp)
  · rw [get_push_next, get_push_of_mem a hq] at hR
    exact absurd (hsymm hR) (ha q hq)
  · rfl

/-- The same of entities that list things: if no two list one thing, and none lists what a new one does,
    then no two list one thing with the new one among them. -/
theorem unshared_push {β : Type} (lists : α → List β) {t : Table k α} {a : α}
    (h : ∀ p ∈ t, ∀ q ∈ t, ∀ b ∈ lists (t.get p), b ∈ lists (t.get q) → p = q)
    (ha : ∀ p ∈ t, ∀ b ∈ lists (t.get p), b ∉ lists a) :
    ∀ p ∈ t.push a, ∀ q ∈ t.push a,
      ∀ b ∈ lists ((t.push a).get p), b ∈ lists ((t.push a).get q) → p = q := by
  intro p hp q hq b hbp hbq
  refine unique_push (R := fun x y => ∃ b ∈ lists x, b ∈ lists y) ?_ ?_ ?_ p hp q hq ⟨b, hbp, hbq⟩
  · rintro x y ⟨b, hx, hy⟩
    exact ⟨b, hy, hx⟩
  · rintro p hp q hq ⟨b, hbp, hbq⟩
    exact h p hp q hq b hbp hbq
  · rintro p hp ⟨b, hbp, hba⟩
    exact ha p hp b hbp hba

/-- If every entity is related to all later ones, and all of them are to a new one, then every entity is
    still related to all later ones. -/
theorem ordered_push {R : α → α → Prop} {t : Table k α} {a : α}
    (h : ∀ p ∈ t, ∀ q ∈ t, p.index < q.index → R (t.get p) (t.get q)) (ha : ∀ p ∈ t, R (t.get p) a) :
    ∀ p ∈ t.push a, ∀ q ∈ t.push a, p.index < q.index →
      R ((t.push a).get p) ((t.push a).get q) := by
  intro p hp q hq hlt
  rcases mem_push.mp hp with hp | rfl <;> rcases mem_push.mp hq with hq | rfl
  · rw [get_push_of_mem a hp, get_push_of_mem a hq]
    exact h p hp q hq hlt
  · rw [get_push_of_mem a hp, get_push_next]
    exact ha p hp
  · -- Nothing is later than the new one.
    exact absurd hlt (Nat.not_lt_of_lt hq)
  · exact absurd hlt (Nat.lt_irrefl _)

/-- What holds of all entities that were there and of a new one holds of all. -/
theorem forall_push {P : α → Prop} {t : Table k α} {a : α} (h : ∀ p ∈ t, P (t.get p)) (ha : P a) :
    ∀ p ∈ t.push a, P ((t.push a).get p) :=
  (renews_push (P := fun _ => P) ha).forall h

end Table

end TimedNet
