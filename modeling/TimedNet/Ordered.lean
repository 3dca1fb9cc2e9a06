/-!
# `TimedNet.Ordered` — sets and maps in order of arrival

Sets of symbols and maps from parameters to arguments keep the order in which their members came.
A member that is there already stays where it is.

## Contents
- `Ordered.insert`, `Ordered.union`: sets as lists without repetition.
- `Ordered.put`, `Ordered.get?`: maps as lists of pairs with distinct keys.
- `mem_insert`, `mem_union`: the members.
- `union_of_subset`, `union_of_nodup`, `exists_union_eq`: what a union adds, and where.
- `put_of_not_mem`, `foldl_put_eq_append`, `mem_of_mem_foldl_put`: what is put where.
- `get?_eq_none_iff`, `get?_put_of_eq_none`, `get?_eq_some_iff`: what is found under a key.
- `get?_eq_of_mem_iff`, `get?_map_pair`: entries in another order, and entries made by a function.
-/

namespace TimedNet.Ordered

universe u v

variable {α : Type u} {β : Type v} [BEq α]

/-- The set with one more member. -/
def insert (set : List α) (a : α) : List α := if set.contains a then set else set ++ [a]

/-- The set with several more members. -/
def union (set : List α) (as : List α) : List α := as.foldl insert set

/-- The map with `b` under `a`, in place of what was there, or at the end. -/
def put (map : List (α × β)) (a : α) (b : β) : List (α × β) :=
  if map.any (fun entry => entry.1 == a) then
    map.map fun entry => if entry.1 == a then (a, b) else entry
  else map ++ [(a, b)]

/-- What the map holds under `a`. -/
def get? (map : List (α × β)) (a : α) : Option β :=
  (map.find? fun entry => entry.1 == a).map Prod.snd

theorem get?_cons (key : α) (b : β) (map : List (α × β)) (a : α) :
    get? ((key, b) :: map) a = if key == a then some b else get? map a := by
  rw [get?, List.find?_cons]
  cases h : key == a with
  | true => rfl
  | false => rfl

theorem mem_of_mem_put {map : List (α × β)} {a : α} {b : β} {entry : α × β}
    (h : entry ∈ put map a b) : entry ∈ map ∨ entry = (a, b) := by
  unfold put at h
  split at h
  · obtain ⟨old, hold, heq⟩ := List.mem_map.mp h
    split at heq
    · exact Or.inr heq.symm
    · exact Or.inl (heq ▸ hold)
  · rcases List.mem_append.mp h with hold | hnew
    · exact Or.inl hold
    · exact Or.inr (List.mem_singleton.mp hnew)

theorem mem_of_mem_foldl_put {entries map : List (α × β)} {entry : α × β}
    (h : entry ∈ entries.foldl (fun map entry => put map entry.1 entry.2) map) :
    entry ∈ map ∨ entry ∈ entries := by
  induction entries generalizing map with
  | nil => exact Or.inl h
  | cons first entries ih =>
    rcases ih h with hput | hrest
    · rcases mem_of_mem_put hput with hold | rfl
      · exact Or.inl hold
      · exact Or.inr List.mem_cons_self
    · exact Or.inr (List.mem_cons_of_mem _ hrest)

theorem union_append (set as bs : List α) : union set (as ++ bs) = union (union set as) bs :=
  List.foldl_append

variable [LawfulBEq α]

theorem mem_insert {set : List α} {a b : α} : b ∈ insert set a ↔ b ∈ set ∨ b = a := by
  unfold insert
  split
  · next h =>
    have ha : a ∈ set := by simpa using h
    constructor
    · exact Or.inl
    · rintro (hb | rfl)
      · exact hb
      · exact ha
  · simp

theorem mem_union {set as : List α} {b : α} : b ∈ union set as ↔ b ∈ set ∨ b ∈ as := by
  unfold union
  induction as generalizing set with
  | nil => simp
  | cons a as ih => rw [List.foldl_cons, ih, mem_insert, List.mem_cons, or_assoc]

/-- Members that are there already add nothing. -/
theorem union_of_subset {set as : List α} (h : ∀ a ∈ as, a ∈ set) : union set as = set := by
  unfold union
  induction as with
  | nil => rfl
  | cons a as ih =>
    rw [List.forall_mem_cons] at h
    rw [List.foldl_cons, insert, if_pos (by simpa using h.1)]
    exact ih h.2

/-- New and distinct members go to the end, in their order. -/
theorem union_of_nodup {set as : List α} (hnodup : as.Nodup) (hnew : ∀ a ∈ as, a ∉ set) :
    union set as = set ++ as := by
  unfold union
  induction as generalizing set with
  | nil => simp
  | cons a as ih =>
    rw [List.nodup_cons] at hnodup
    rw [List.forall_mem_cons] at hnew
    rw [List.foldl_cons, insert, if_neg (by simpa using hnew.1), ih hnodup.2]
    · simp
    · intro b hb hmem
      rcases List.mem_append.mp hmem with hset | ha
      · exact hnew.2 b hb hset
      · obtain rfl := List.mem_singleton.mp ha
        exact hnodup.1 hb

/-- What a union adds to a set are distinct members that the set did not have. -/
theorem exists_union_eq (set as : List α) :
    ∃ rest, union set as = set ++ rest ∧ rest.Nodup ∧ ∀ a ∈ rest, a ∉ set := by
  induction as generalizing set with
  | nil => exact ⟨[], by simp [union], List.nodup_nil, by simp⟩
  | cons a as ih =>
    obtain ⟨rest, heq, hnodup, hnew⟩ := ih (insert set a)
    rw [union, List.foldl_cons, ← union, heq]
    by_cases ha : a ∈ set
    · have hsame : insert set a = set := if_pos (by simpa using ha)
      rw [hsame] at hnew ⊢
      exact ⟨rest, rfl, hnodup, hnew⟩
    · have hadd : insert set a = set ++ [a] := if_neg (by simpa using ha)
      rw [hadd] at hnew ⊢
      refine ⟨a :: rest, by simp, List.nodup_cons.mpr ⟨fun hmem => ?_, hnodup⟩, ?_⟩
      · exact hnew a hmem (by simp)
      · intro b hb
        rcases List.mem_cons.mp hb with rfl | hb
        · exact ha
        · exact fun hset => hnew b hb (by simp [hset])

/-- A new key goes to the end. -/
theorem put_of_not_mem {map : List (α × β)} {a : α} {b : β} (h : a ∉ map.map Prod.fst) :
    put map a b = map ++ [(a, b)] := by
  have hany : ¬ map.any (fun entry => entry.1 == a) = true := by
    intro hany
    obtain ⟨entry, hmem, he⟩ := List.any_eq_true.mp hany
    exact h (List.mem_map.mpr ⟨entry, hmem, by simpa using he⟩)
  rw [put, if_neg hany]

/-- Entries under new and distinct keys go to the end, in their order. -/
theorem foldl_put_eq_append {map entries : List (α × β)} (hnodup : (entries.map Prod.fst).Nodup)
    (hnew : ∀ entry ∈ entries, entry.1 ∉ map.map Prod.fst) :
    entries.foldl (fun map entry => put map entry.1 entry.2) map = map ++ entries := by
  induction entries generalizing map with
  | nil => simp
  | cons entry entries ih =>
    rw [List.map_cons, List.nodup_cons] at hnodup
    rw [List.foldl_cons, put_of_not_mem (hnew entry List.mem_cons_self), ih hnodup.2]
    · simp
    · intro other hother hmem
      rw [List.map_append, List.mem_append] at hmem
      rcases hmem with hmem | hmem
      · exact hnew other (List.mem_cons_of_mem _ hother) hmem
      · have heq : other.1 = entry.1 := by simpa using hmem
        exact hnodup.1 (heq ▸ List.mem_map_of_mem hother)

/-- Nothing is found exactly under a key that is not there. -/
theorem get?_eq_none_iff {map : List (α × β)} {a : α} :
    get? map a = none ↔ a ∉ map.map Prod.fst := by
  unfold get?
  rw [Option.map_eq_none_iff, List.find?_eq_none]
  constructor
  · intro h hmem
    obtain ⟨entry, hentry, rfl⟩ := List.mem_map.mp hmem
    exact h entry hentry (by simp)
  · intro h entry hentry he
    exact h (List.mem_map.mpr ⟨entry, hentry, by simpa using he⟩)

/-- What was put under a new key is found there. -/
theorem get?_put_of_eq_none {map : List (α × β)} {a : α} {b : β} (h : get? map a = none) :
    get? (put map a b) a = some b := by
  have hfind : map.find? (fun entry => entry.1 == a) = none := Option.map_eq_none_iff.mp h
  rw [put_of_not_mem (get?_eq_none_iff.mp h), get?, List.find?_append, hfind]
  simp

theorem mem_of_get?_eq_some {map : List (α × β)} {a : α} {b : β} (h : get? map a = some b) :
    (a, b) ∈ map := by
  unfold get? at h
  obtain ⟨entry, hfind, rfl⟩ := Option.map_eq_some_iff.mp h
  have hkey : entry.1 = a := by simpa using List.find?_some hfind
  exact hkey ▸ List.mem_of_find?_eq_some hfind

/-- When the keys are distinct, an entry is found exactly under its key. -/
theorem get?_eq_some_iff {map : List (α × β)} {a : α} {b : β} (h : (map.map Prod.fst).Nodup) :
    get? map a = some b ↔ (a, b) ∈ map := by
  constructor
  · exact mem_of_get?_eq_some
  · intro hmem
    induction map with
    | nil => exact absurd hmem (by simp)
    | cons entry map ih =>
      rw [List.map_cons, List.nodup_cons] at h
      rcases List.mem_cons.mp hmem with rfl | htail
      · rw [get?_cons, if_pos (beq_self_eq_true a)]
      · have hne : ¬ (entry.1 == a) = true := by
          intro he
          exact h.1 ((eq_of_beq he) ▸ List.mem_map_of_mem htail)
        rw [get?_cons, if_neg hne]
        exact ih h.2 htail

/-- When no key has two entries, their order makes no difference. -/
theorem get?_eq_of_mem_iff {map map' : List (α × β)} (hmem : ∀ entry, entry ∈ map ↔ entry ∈ map')
    (hunique : ∀ a b b', (a, b) ∈ map → (a, b') ∈ map → b = b') (a : α) : get? map a = get? map' a := by
  cases h : get? map a with
  | none =>
    have hnone : a ∉ map'.map Prod.fst := by
      intro hkey
      obtain ⟨entry, hentry, heq⟩ := List.mem_map.mp hkey
      exact get?_eq_none_iff.mp h (List.mem_map.mpr ⟨entry, (hmem entry).mpr hentry, heq⟩)
    exact (get?_eq_none_iff.mpr hnone).symm
  | some b =>
    have hb := (hmem _).mp (mem_of_get?_eq_some h)
    cases h' : get? map' a with
    | none => exact absurd (List.mem_map_of_mem hb) (get?_eq_none_iff.mp h')
    | some b' =>
      have hb' := (hmem _).mpr (mem_of_get?_eq_some h')
      rw [hunique a b b' (mem_of_get?_eq_some h) hb']

/-- A map that is given by a function on its keys. -/
theorem get?_map_pair (keys : List α) (f : α → β) (a : α) :
    get? (keys.map fun key => (key, f key)) a = if keys.contains a then some (f a) else none := by
  induction keys with
  | nil => rfl
  | cons key keys ih =>
    rw [List.map_cons, get?_cons, ih]
    by_cases hkey : key = a
    · subst hkey
      simp
    · simp [hkey, Ne.symm hkey]

end TimedNet.Ordered
