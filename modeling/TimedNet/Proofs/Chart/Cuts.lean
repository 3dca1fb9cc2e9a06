import Mathlib.Data.Finset.Card
import TimedNet.Proofs.Chart.Partition

/-!
# `TimedNet.Proofs.Chart.Cuts` — cuts are finite sets

A cut lists simregions, and compares them by the numbers of their events. As long as no simregion changes
while a cut holds it, no two members of a cut have the same numbers. Then a cut is the set of the triples
of its members, and the comparison of cuts, which looks at sizes and at one inclusion only, decides whether
two sets are equal.

* `Simregion.triple`, `Cut.keys`, `Cut.triples`: what a simregion is compared by, and the set of a cut.
* `Cut.contains_iff`, `Cut.triples_add`, `Cut.triples_erase`, `Cut.equal_iff`: the operations on sets.
* `Operation.keepsCuts`, `Operation.edits`: programs that change no member; what changes a cut.
* `Step.charts`, `Sound.region_perform`, `Sound.cut_perform`: when a simregion changes, and when a cut does.
* `Store.Holds`, `Run.holds`: members are there and differ, in every reachable cut.
* `Store.SetsOfTriples`, `Store.cuts_are_sets`: all this for every reachable store.
-/

namespace TimedNet

/-- What a simregion is compared by: the numbers of its message, of its condition and of its update. -/
def Simregion.triple (r : Simregion) : Int × Int × Int := (r.message.nr, r.condition.nr, r.update.nr)

theorem Simregion.equal_iff {r q : Simregion} : r.equal q = true ↔ r.triple = q.triple := by
  simp [equal, triple, and_assoc]

/-! ## Cuts as sets -/

namespace Cut

variable {α : Type} {view : α → Simregion} {c d : Cut α} {a : α}

/-- The triples of the members, in order of insertion. -/
def keys (view : α → Simregion) (c : Cut α) : List (Int × Int × Int) :=
  c.members.map fun a => (view a).triple

/-- The set that a cut stands for. -/
def triples (view : α → Simregion) (c : Cut α) : Finset (Int × Int × Int) := (c.keys view).toFinset

theorem keys_congr {other : α → Simregion} (h : ∀ a ∈ c.members, other a = view a) :
    c.keys other = c.keys view :=
  List.map_congr_left fun a ha => congrArg Simregion.triple (h a ha)

theorem contains_iff : c.contains view a = true ↔ (view a).triple ∈ c.triples view := by
  unfold contains triples keys
  rw [List.any_eq_true, List.mem_toFinset, List.mem_map]
  exact exists_congr fun b => and_congr_right fun _ => Simregion.equal_iff

theorem add_of_contains (h : c.contains view a = true) : c.add view a = c := if_pos h

theorem add_of_not_contains (h : ¬c.contains view a = true) :
    c.add view a = { c with members := c.members ++ [a] } := if_neg h

theorem nodup_keys_add (h : (c.keys view).Nodup) (a : α) : ((c.add view a).keys view).Nodup := by
  by_cases hcontains : c.contains view a = true
  · rw [add_of_contains hcontains]
    exact h
  · rw [add_of_not_contains hcontains]
    rw [contains_iff, triples, List.mem_toFinset] at hcontains
    unfold keys at h hcontains ⊢
    rw [List.map_append, List.map_singleton]
    exact List.concat_eq_append ▸ List.Nodup.concat hcontains h

/-- **Adding is insertion.** -/
theorem triples_add (a : α) : (c.add view a).triples view = insert (view a).triple (c.triples view) := by
  by_cases hcontains : c.contains view a = true
  · rw [add_of_contains hcontains, Finset.insert_eq_of_mem (contains_iff.mp hcontains)]
  · rw [add_of_not_contains hcontains]
    ext key
    simp [triples, keys]

/-- Erasing the first member that satisfies a condition erases all that do, if there is one at most. -/
theorem eraseP_eq_filter {p : α → Bool} {as : List α} (h : as.Pairwise fun a b => p a = true → ¬p b = true) :
    as.eraseP p = as.filter fun a => !p a := by
  induction as with
  | nil => rfl
  | cons a as ih =>
    obtain ⟨ha, has⟩ := List.pairwise_cons.mp h
    by_cases hp : p a = true
    · rw [List.eraseP_cons_of_pos hp, List.filter_cons_of_neg (by simpa using hp),
        List.filter_eq_self.mpr fun b hb => by simpa using ha b hb hp]
    · rw [List.eraseP_cons_of_neg hp, List.filter_cons_of_pos (by simpa using hp), ih has]

/-- **Erasing removes the member with a triple and nothing else.** -/
theorem members_erase (h : (c.keys view).Nodup) (a : α) :
    (c.erase view a).members = c.members.filter fun b => decide ((view b).triple ≠ (view a).triple) := by
  have hone : c.members.Pairwise fun b b' =>
      (view b).equal (view a) = true → ¬(view b').equal (view a) = true := by
    refine (List.pairwise_map.mp h).imp fun hne heq heq' => hne ?_
    rw [Simregion.equal_iff.mp heq, Simregion.equal_iff.mp heq']
  unfold erase
  rw [eraseP_eq_filter hone]
  refine List.filter_congr fun b _ => ?_
  rw [Bool.eq_iff_iff, Bool.not_eq_true', ← Bool.not_eq_true, Simregion.equal_iff, decide_eq_true_iff]

theorem keys_erase (h : (c.keys view).Nodup) (a : α) :
    (c.erase view a).keys view = (c.keys view).filter fun key => decide (key ≠ (view a).triple) := by
  rw [keys, members_erase h, keys, List.filter_map]
  rfl

theorem nodup_keys_erase (h : (c.keys view).Nodup) (a : α) : ((c.erase view a).keys view).Nodup := by
  rw [keys_erase h]
  exact h.filter _

/-- **Erasing is deletion.** -/
theorem triples_erase (h : (c.keys view).Nodup) (a : α) :
    (c.erase view a).triples view = (c.triples view).erase (view a).triple := by
  ext key
  rw [triples, keys_erase h, triples, List.mem_toFinset, List.mem_filter, decide_eq_true_iff,
    Finset.mem_erase, List.mem_toFinset, and_comm]

/-- **Cuts are equal when their sets are.** Equal sizes and one inclusion suffice, as neither cut counts a
    triple twice. -/
theorem equal_iff (hc : (c.keys view).Nodup) (hd : (d.keys view).Nodup) :
    c.equal view d = true ↔ c.triples view = d.triples view := by
  have hcard : ∀ {e : Cut α}, (e.keys view).Nodup → (e.triples view).card = e.size := fun h => by
    rw [triples, List.toFinset_card_of_nodup h, keys, List.length_map, size]
  have hsubset : (c.members.all (d.contains view)) = true ↔ c.triples view ⊆ d.triples view := by
    rw [List.all_eq_true]
    constructor
    · intro h key hkey
      rw [triples, List.mem_toFinset, keys] at hkey
      obtain ⟨a, ha, rfl⟩ := List.mem_map.mp hkey
      exact contains_iff.mp (h a ha)
    · intro h a ha
      refine contains_iff.mpr (h ?_)
      rw [triples, List.mem_toFinset]
      exact List.mem_map_of_mem ha
  rw [equal, Bool.and_eq_true, beq_iff_eq, hsubset]
  constructor
  · rintro ⟨hsize, hle⟩
    refine Finset.eq_of_subset_of_card_le hle ?_
    rw [hcard hc, hcard hd, hsize]
  · intro heq
    rw [← hcard hc, ← hcard hd, heq]
    exact ⟨rfl, Finset.Subset.refl _⟩

/-- Whatever counts no triple twice at each step counts none twice in the end. -/
theorem nodup_keys_foldl {f : Cut α → α → Cut α}
    (hf : ∀ {c}, (c.keys view).Nodup → ∀ a, ((f c a).keys view).Nodup)
    (h : (c.keys view).Nodup) (as : List α) : ((as.foldl f c).keys view).Nodup := by
  induction as generalizing c with
  | nil => exact h
  | cons a as ih => exact ih (hf h a)

/-- A cut after several insertions, in whatever order. -/
theorem triples_foldl_add (as : List α) : (as.foldl (Cut.add view) c).triples view
    = (as.map fun a => (view a).triple).toFinset ∪ c.triples view := by
  induction as generalizing c with
  | nil => simp
  | cons a as ih => rw [List.foldl_cons, ih, triples_add]; simp

/-- A cut after several deletions, in whatever order. -/
theorem triples_foldl_erase (h : (c.keys view).Nodup) (as : List α) :
    (as.foldl (Cut.erase view) c).triples view
      = c.triples view \ (as.map fun a => (view a).triple).toFinset := by
  induction as generalizing c with
  | nil => simp
  | cons a as ih =>
    rw [List.foldl_cons, ih (nodup_keys_erase h a), triples_erase h, List.map_cons, List.toFinset_cons,
      Finset.sdiff_insert, Finset.erase_sdiff_comm]

end Cut

/-! ## What operations do to simregions and cuts -/

namespace Operation

/-- Cuts stay what they are when simregions change: an operation changes no simregion that a cut holds,
    starts a cut empty or as a copy, and adds simregions that are there. -/
def keepsCuts (s : Store) : Operation → Bool
  | .setRegion r _ => s.cuts.toList.all fun c => decide (r ∉ c.members)
  | .newCut cut => cut.members = [] || s.cuts.toList.any fun c => decide (cut.members = c.members)
  | .addToCut _ r => decide (r ∈ s.regions)
  | _ => true

/-- The operation adds something to a cut or erases something from it. -/
def edits (c : CutId) : Operation → Bool
  | .addToCut d _ | .eraseFromCut d _ => d == c
  | _ => false

end Operation

namespace Store

variable {s s' : Store} {w : Write} {op : Operation} {c : CutId} {r : RegionId}

theorem mem_toList_cuts (hc : c ∈ s.cuts) : s.cut c ∈ s.cuts.toList := by
  have hlt : c.index < s.cuts.entries.size := hc
  have hget : s.cut c = s.cuts.entries[c.index] := by
    unfold cut Table.get Table.get?
    rw [Array.getElem?_eq_getElem hlt, Option.getD_some]
  rw [hget]
  exact Array.getElem_mem_toList hlt

theorem exists_of_mem_toList_cuts {cut : Cut RegionId} (h : cut ∈ s.cuts.toList) :
    ∃ c ∈ s.cuts, s.cut c = cut := by
  obtain ⟨i, hi, rfl⟩ := List.mem_iff_getElem.mp h
  have hlt : i < s.cuts.entries.size := hi
  refine ⟨⟨i⟩, hlt, ?_⟩
  unfold Store.cut Table.get Table.get?
  rw [Array.getElem?_eq_getElem hlt, Option.getD_some]
  rfl

/-- The steps that belong to documents leave simregions and cuts alone. -/
theorem Step.charts (h : s.Step w s') (hw : w ≠ .aside) : s'.regions = s.regions ∧ s'.cuts = s.cuts := by
  cases h with
  | aside => exact absurd rfl hw
  | _ => exact ⟨rfl, rfl⟩

theorem Path.charts (h : Path (· ≠ .aside) s s') : s'.regions = s.regions ∧ s'.cuts = s.cuts := by
  induction h with
  | refl => exact ⟨rfl, rfl⟩
  | step _ hw hstep ih =>
    obtain ⟨hregions, hcuts⟩ := hstep.charts hw
    exact ⟨hregions.trans ih.1, hcuts.trans ih.2⟩

/-- So do the operations that take such steps only. -/
theorem Sound.charts (h : s.Sound) (hop : op.Admissible s) (hw : ∀ w ∈ op.writes s, w ≠ .aside) :
    (s.perform op).regions = s.regions ∧ (s.perform op).cuts = s.cuts :=
  ((h.path_perform hop).imp hw).charts

/-- **A simregion changes only when it is set.** -/
theorem Sound.region_perform (h : s.Sound) (hop : op.Admissible s) (hr : r ∈ s.regions)
    (hset : ∀ x, op ≠ .setRegion r x) :
    r ∈ (s.perform op).regions ∧ (s.perform op).region r = s.region r := by
  cases op with
  | newRegions regions => exact ⟨Table.mem_pushAll_of_mem _ hr, Table.get_pushAll_of_mem _ hr⟩
  | setRegion q x =>
    have hne : q ≠ r := fun heq => hset x (by rw [heq])
    exact ⟨Table.mem_modify.mpr hr, Table.get_modify_of_ne _ hne⟩
  | newCut | addToCut | eraseFromCut | newQuery | setQuery | newArena | pushToArena => exact ⟨hr, rfl⟩
  | _ =>
    obtain ⟨hregions, -⟩ := h.charts hop (by simp [Operation.writes])
    rw [region, region, hregions]
    exact ⟨hr, rfl⟩

/-- **A cut changes only when something is added to it or erased from it.** -/
theorem Sound.cut_perform (h : s.Sound) (hop : op.Admissible s) (hc : c ∈ s.cuts) :
    c ∈ (s.perform op).cuts ∧ (op.edits c = false → (s.perform op).cut c = s.cut c) := by
  cases op with
  | newCut cut => exact ⟨Table.mem_push_of_mem _ hc, fun _ => Table.get_push_of_mem _ hc⟩
  | addToCut d r | eraseFromCut d r =>
    refine ⟨Table.mem_modify.mpr hc, fun hother => Table.get_modify_of_ne _ ?_⟩
    exact beq_eq_false_iff_ne.mp hother
  | newRegions | setRegion | newQuery | setQuery | newArena | pushToArena =>
    exact ⟨hc, fun _ => rfl⟩
  | _ =>
    obtain ⟨-, hcuts⟩ := h.charts hop (by simp [Operation.writes])
    rw [cut, cut, hcuts]
    exact ⟨hc, fun _ => rfl⟩

theorem cut_addToCut (hc : c ∈ s.cuts) (r : RegionId) :
    (s.addToCut c r).cut c = (s.cut c).add s.region r := Table.get_modify_self _ hc

theorem cut_eraseFromCut (hc : c ∈ s.cuts) (r : RegionId) :
    (s.eraseFromCut c r).1.cut c = (s.cut c).erase s.region r := Table.get_modify_self _ hc

theorem Sound.mem_cuts_perform (h : s.Sound) (hop : op.Admissible s) (hc : c ∈ (s.perform op).cuts) :
    c ∈ s.cuts ∨ ∃ cut, op = .newCut cut ∧ c = s.cuts.next := by
  cases op with
  | newCut cut => exact (Table.mem_push.mp hc).imp_right fun heq => ⟨cut, rfl, heq⟩
  | addToCut | eraseFromCut => exact Or.inl (Table.mem_modify.mp hc)
  | newRegions | setRegion | newQuery | setQuery | newArena | pushToArena => exact Or.inl hc
  | _ =>
    obtain ⟨-, hcuts⟩ := h.charts hop (by simp [Operation.writes])
    exact Or.inl (hcuts ▸ hc)

/-! ## Reachable cuts -/

/-- The set that a cut of the store stands for. -/
def triples (s : Store) (c : CutId) : Finset (Int × Int × Int) := (s.cut c).triples s.region

/-- The members of a cut are simregions of the store, and no two of them have the same triple. -/
structure Holds (s : Store) (c : CutId) : Prop where
  mem : ∀ r ∈ (s.cut c).members, r ∈ s.regions
  distinct : ((s.cut c).keys s.region).Nodup

/-- The cut and the simregions in it are as they were. -/
structure Unmoved (s : Store) (c : CutId) (s' : Store) : Prop where
  cut : s'.cut c = s.cut c
  mem : ∀ r ∈ (s.cut c).members, r ∈ s'.regions
  region : ∀ r ∈ (s.cut c).members, s'.region r = s.region r

theorem Unmoved.keys (h : s.Unmoved c s') : (s'.cut c).keys s'.region = (s.cut c).keys s.region := by
  rw [h.cut]
  exact Cut.keys_congr h.region

theorem Unmoved.triples (h : s.Unmoved c s') : s'.triples c = s.triples c :=
  congrArg List.toFinset h.keys

theorem Unmoved.holds (h : s.Unmoved c s') (hc : s.Holds c) : s'.Holds c where
  mem := by
    rw [h.cut]
    exact h.mem
  distinct := by
    rw [h.keys]
    exact hc.distinct

theorem Unmoved.trans {s'' : Store} (h : s.Unmoved c s') (h' : s'.Unmoved c s'') : s.Unmoved c s'' where
  cut := h'.cut.trans h.cut
  mem r hr := h'.mem r (by rwa [h.cut])
  region r hr := (h'.region r (by rwa [h.cut])).trans (h.region r hr)

/-- The members of a cut stay as they are, whatever happens to the cut. -/
theorem Sound.region_of_keepsCuts (h : s.Sound) (hop : op.Admissible s) (hkeeps : op.keepsCuts s = true)
    (hc : c ∈ s.cuts) (hholds : s.Holds c) (hr : r ∈ (s.cut c).members) :
    r ∈ (s.perform op).regions ∧ (s.perform op).region r = s.region r := by
  refine h.region_perform hop (hholds.mem r hr) ?_
  rintro x rfl
  have hfree := List.all_eq_true.mp hkeeps (s.cut c) (mem_toList_cuts hc)
  exact of_decide_eq_true hfree hr

theorem Sound.unmoved_perform (h : s.Sound) (hop : op.Admissible s) (hkeeps : op.keepsCuts s = true)
    (hc : c ∈ s.cuts) (hholds : s.Holds c) (hedits : op.edits c = false) :
    s.Unmoved c (s.perform op) where
  cut := (h.cut_perform hop hc).2 hedits
  mem _ hr := (h.region_of_keepsCuts hop hkeeps hc hholds hr).1
  region _ hr := (h.region_of_keepsCuts hop hkeeps hc hholds hr).2

/-- A cut with one more simregion of the store, or with one less, holds what it should. -/
theorem Holds.addToCut (hholds : s.Holds c) (hc : c ∈ s.cuts) (hr : r ∈ s.regions) :
    (s.addToCut c r).Holds c where
  mem := by
    rw [cut_addToCut hc]
    intro q hq
    by_cases hcontains : (s.cut c).contains s.region r = true
    · rw [Cut.add_of_contains hcontains] at hq
      exact hholds.mem q hq
    · rw [Cut.add_of_not_contains hcontains] at hq
      rcases List.mem_append.mp hq with hq | hq
      · exact hholds.mem q hq
      · exact List.mem_singleton.mp hq ▸ hr
  distinct := by
    rw [cut_addToCut hc]
    exact Cut.nodup_keys_add hholds.distinct r

theorem Holds.eraseFromCut (hholds : s.Holds c) (hc : c ∈ s.cuts) (r : RegionId) :
    (s.eraseFromCut c r).1.Holds c where
  mem := by
    rw [cut_eraseFromCut hc]
    exact fun q hq => hholds.mem q (List.mem_of_mem_eraseP hq)
  distinct := by
    rw [cut_eraseFromCut hc]
    exact Cut.nodup_keys_erase hholds.distinct r

/-- A new cut starts empty or with the members of another. -/
theorem holds_newCut {cut : Cut RegionId} (hall : ∀ c ∈ s.cuts, s.Holds c)
    (hkeeps : (Operation.newCut cut).keepsCuts s = true) : (s.newCut cut).1.Holds s.cuts.next := by
  have hnew : (s.newCut cut).1.cut s.cuts.next = cut := Table.get_push_next _ _
  simp only [Operation.keepsCuts, Bool.or_eq_true, decide_eq_true_eq, List.any_eq_true] at hkeeps
  rcases hkeeps with hempty | ⟨other, hother, heq⟩
  · refine ⟨?_, ?_⟩
    · rw [hnew, hempty]
      exact fun _ hr => absurd hr List.not_mem_nil
    · rw [hnew, Cut.keys, hempty]
      exact List.nodup_nil
  · obtain ⟨c, hc, rfl⟩ := exists_of_mem_toList_cuts hother
    refine ⟨?_, ?_⟩
    · rw [hnew, heq]
      exact (hall c hc).mem
    · rw [hnew, Cut.keys, heq]
      exact (hall c hc).distinct

/-- **Every operation that keeps the cuts leaves all of them as they should be.** -/
theorem Sound.holds_perform (h : s.Sound) (hop : op.Admissible s) (hkeeps : op.keepsCuts s = true)
    (hall : ∀ c ∈ s.cuts, s.Holds c) : ∀ c ∈ (s.perform op).cuts, (s.perform op).Holds c := by
  intro c hc
  rcases h.mem_cuts_perform hop hc with hold | ⟨cut, rfl, rfl⟩
  · have hholds := hall c hold
    by_cases hedits : op.edits c = true
    · cases op with
      | addToCut d r =>
        obtain rfl := beq_iff_eq.mp hedits
        exact hholds.addToCut hold (of_decide_eq_true hkeeps)
      | eraseFromCut d r =>
        obtain rfl := beq_iff_eq.mp hedits
        exact hholds.eraseFromCut hold r
      | _ => exact absurd hedits Bool.false_ne_true
    · exact (h.unmoved_perform hop hkeeps hold hholds (Bool.not_eq_true _ ▸ hedits)).holds hholds
  · exact holds_newCut hall hkeeps

theorem Run.holds (hrun : Run (fun s op => op.keepsCuts s = true) {} s) :
    ∀ c ∈ s.cuts, s.Holds c := by
  induction hrun with
  | refl => exact fun c hc => absurd hc (Nat.not_lt_zero _)
  | step run op hadmissible hkeeps ih =>
    exact (run.sound sound_empty).holds_perform hadmissible hkeeps ih

/-- **What is not edited stays.** -/
theorem Run.unmoved {start : Store} (hstart : start.Sound) (hc : c ∈ start.cuts)
    (hholds : start.Holds c)
    (hrun : Run (fun s op => op.keepsCuts s = true ∧ op.edits c = false) start s) :
    c ∈ s.cuts ∧ start.Unmoved c s := by
  induction hrun with
  | refl => exact ⟨hc, rfl, hholds.mem, fun _ _ => rfl⟩
  | step run op hadmissible hcondition ih =>
    obtain ⟨hmem, hunmoved⟩ := ih
    have hsound := run.sound hstart
    have hstep := hsound.unmoved_perform hadmissible hcondition.1 hmem (hunmoved.holds hholds) hcondition.2
    exact ⟨(hsound.cut_perform hadmissible hmem).1, hunmoved.trans hstep⟩

/-- The cuts of a store are sets of triples. No cut holds a triple twice; looking for a simregion, adding it
    and erasing it are membership, insertion and deletion, erasing says whether there was something to
    erase and removes nothing else; and the comparison of cuts is the equality of sets, so it is an
    equivalence and does not depend on the order in which simregions came in and went out. -/
structure SetsOfTriples (s : Store) : Prop where
  distinct : ∀ c ∈ s.cuts, ((s.cut c).members.map fun r => (s.region r).triple).Nodup
  contains : ∀ c ∈ s.cuts, ∀ r,
    (s.cut c).contains s.region r = true ↔ (s.region r).triple ∈ s.triples c
  add : ∀ c ∈ s.cuts, ∀ r, (s.addToCut c r).triples c = insert (s.region r).triple (s.triples c)
  erase : ∀ c ∈ s.cuts, ∀ r,
    (s.eraseFromCut c r).1.triples c = (s.triples c).erase (s.region r).triple
  erased : ∀ c ∈ s.cuts, ∀ r, (s.eraseFromCut c r).2 = true ↔ (s.region r).triple ∈ s.triples c
  left : ∀ c ∈ s.cuts, ∀ r, ((s.eraseFromCut c r).1.cut c).members
    = (s.cut c).members.filter fun q => decide ((s.region q).triple ≠ (s.region r).triple)
  equal : ∀ c ∈ s.cuts, ∀ d ∈ s.cuts,
    (s.cut c).equal s.region (s.cut d) = true ↔ s.triples c = s.triples d
  equivalence : Equivalence fun c d : { c // c ∈ s.cuts } =>
    (s.cut c).equal s.region (s.cut d) = true
  order : ∀ c ∈ s.cuts, ∀ d ∈ s.cuts, (s.cut c).equal s.region (s.cut d) = true →
    ∀ added added' erased erased' : List RegionId, added.Perm added' → erased.Perm erased' →
      (erased.foldl (Cut.erase s.region) (added.foldl (Cut.add s.region) (s.cut c))).equal s.region
        (erased'.foldl (Cut.erase s.region) (added'.foldl (Cut.add s.region) (s.cut d))) = true

theorem setsOfTriples_of_holds (hall : ∀ c ∈ s.cuts, s.Holds c) : s.SetsOfTriples := by
  have hequal : ∀ c ∈ s.cuts, ∀ d ∈ s.cuts,
      ((s.cut c).equal s.region (s.cut d) = true ↔ s.triples c = s.triples d) :=
    fun c hc d hd => Cut.equal_iff (hall c hc).distinct (hall d hd).distinct
  exact
    { distinct := fun c hc => (hall c hc).distinct
      contains := fun c _ r => Cut.contains_iff
      add := fun c hc r => by
        rw [triples, cut_addToCut hc]
        exact Cut.triples_add r
      erase := fun c hc r => by
        rw [triples, cut_eraseFromCut hc]
        exact Cut.triples_erase (hall c hc).distinct r
      erased := fun c _ r => Cut.contains_iff
      left := fun c hc r => by
        rw [cut_eraseFromCut hc]
        exact Cut.members_erase (hall c hc).distinct r
      equal := hequal
      equivalence :=
        { refl := fun c => (hequal c c.2 c c.2).mpr rfl
          symm := fun {c d} h => (hequal d d.2 c c.2).mpr ((hequal c c.2 d d.2).mp h).symm
          trans := fun {c d e} h h' => (hequal c c.2 e e.2).mpr
            (((hequal c c.2 d d.2).mp h).trans ((hequal d d.2 e e.2).mp h')) }
      order := fun c hc d hd h added added' erased erased' hadded herased => by
        have hc' := Cut.nodup_keys_foldl Cut.nodup_keys_add (hall c hc).distinct added
        have hd' := Cut.nodup_keys_foldl Cut.nodup_keys_add (hall d hd).distinct added'
        have hc'' := Cut.nodup_keys_foldl Cut.nodup_keys_erase hc' erased
        have hd'' := Cut.nodup_keys_foldl Cut.nodup_keys_erase hd' erased'
        have hsame : (s.cut c).triples s.region = (s.cut d).triples s.region := (hequal c hc d hd).mp h
        rw [Cut.equal_iff hc'' hd'', Cut.triples_foldl_erase hc', Cut.triples_foldl_erase hd',
          Cut.triples_foldl_add, Cut.triples_foldl_add, hsame, List.toFinset_eq_of_perm _ _ (hadded.map _),
          List.toFinset_eq_of_perm _ _ (herased.map _)] }

/-- A copy of a cut can be made without harm. -/
theorem keepsCuts_copy (hc : c ∈ s.cuts) (nr : Int) :
    (Operation.newCut ((s.cut c).copy nr)).keepsCuts s = true := by
  unfold Operation.keepsCuts
  rw [Bool.or_eq_true, List.any_eq_true]
  exact Or.inr ⟨s.cut c, mem_toList_cuts hc, decide_eq_true rfl⟩

/-- **Cuts are finite sets.** For every program that changes no simregion while a cut holds it, and starts
    cuts empty or as copies: the cuts are sets of triples; a cut that the rest of the program does not edit
    stays the same, and so do the simregions in it; a copy is a new cut with the same set, and nothing that
    is done to it, nor to other cuts, changes the cut that it was copied from. -/
theorem cuts_are_sets (hrun : Run (fun s op => op.keepsCuts s = true) {} s) :
    s.SetsOfTriples ∧ ∀ c ∈ s.cuts,
      (∀ s', Run (fun s op => op.keepsCuts s = true ∧ op.edits c = false) s s' → s.Unmoved c s')
      ∧ ∀ (nr : Int) (copied : Store) (d : CutId), s.newCut ((s.cut c).copy nr) = (copied, d) →
          d ∈ copied.cuts ∧ d ∉ s.cuts ∧ copied.triples d = s.triples c
          ∧ ∀ s', Run (fun s op => op.keepsCuts s = true ∧ op.edits c = false) copied s' →
              s.Unmoved c s' ∧ s'.triples c = s.triples c := by
  have hsound := hrun.sound sound_empty
  have hall := hrun.holds
  refine ⟨setsOfTriples_of_holds hall, fun c hc => ⟨fun s' hrun' => ?_, ?_⟩⟩
  · exact (Run.unmoved hsound hc (hall c hc) hrun').2
  · intro nr copied d hcopy
    have hkeeps := keepsCuts_copy hc nr
    obtain ⟨hmem, hcut, hregion⟩ := newCut_cases hcopy
    obtain ⟨rfl, rfl⟩ := Prod.mk.inj hcopy
    -- Making the copy is a step of the program that does not edit the original.
    have hadmissible : (Operation.newCut ((s.cut c).copy nr)).Admissible s :=
      ⟨fun _ h => absurd h List.not_mem_nil, fun _ h => absurd h List.not_mem_nil,
        fun _ h => absurd h List.not_mem_nil, trivial⟩
    have hcopied := hsound.unmoved_perform hadmissible hkeeps hc (hall c hc) rfl
    have hsound' := (hsound.path_perform hadmissible).sound hsound
    have hc' := (hsound.cut_perform hadmissible hc).1
    refine ⟨hmem, Table.next_not_mem s.cuts, ?_, fun s' hrun' => ?_⟩
    · rw [triples, hcut, hregion]
      rfl
    · have hunmoved := hcopied.trans (Run.unmoved hsound' hc' (hcopied.holds (hall c hc)) hrun').2
      exact ⟨hunmoved, hunmoved.triples⟩

/-- Two derivations of one chart fill two cuts in different orders, and the cuts are equal. Erasing from a copy
    of the first, through a simregion of the second derivation, leaves the first as it was. -/
theorem cuts_are_sets_two_derivations : ∃ s copied later : Store,
    Run (fun s op => op.keepsCuts s = true) {} s
    ∧ (s.cut ⟨0⟩).members = [⟨0⟩, ⟨1⟩] ∧ (s.cut ⟨1⟩).members = [⟨3⟩, ⟨2⟩]
    ∧ (s.cut ⟨0⟩).equal s.region (s.cut ⟨1⟩) = true ∧ s.triples ⟨0⟩ = s.triples ⟨1⟩
    ∧ s.newCut ((s.cut ⟨0⟩).copy 7) = (copied, ⟨2⟩) ∧ copied.triples ⟨2⟩ = s.triples ⟨0⟩
    ∧ Run (fun s op => op.keepsCuts s = true ∧ op.edits ⟨0⟩ = false) copied later
    ∧ (later.cut ⟨2⟩).members = [⟨1⟩] ∧ later.triples ⟨0⟩ = s.triples ⟨0⟩ := by
  let first : Simregion := { message := { nr := 0, location := 1, source := ⟨1, 0⟩, target := ⟨1, 1⟩ } }
  let second : Simregion := { nr := 1, update := { nr := 0, location := 2, anchor := ⟨1, 1⟩ } }
  let ops : List Operation :=
    [.newRegions [first, second], .newRegions [first, second], .newCut { nr := 1 }, .newCut { nr := 2 },
      .addToCut ⟨0⟩ ⟨0⟩, .addToCut ⟨0⟩ ⟨1⟩, .addToCut ⟨1⟩ ⟨3⟩, .addToCut ⟨1⟩ ⟨2⟩, .addToCut ⟨1⟩ ⟨0⟩]
  let rest : List Operation := [.eraseFromCut ⟨2⟩ ⟨2⟩]
  have hperforms : ({} : Store).Performs (fun s op => op.keepsCuts s = true) ops := by decide
  have hrun : Run (fun s op => op.keepsCuts s = true) {} (ops.foldl perform {}) :=
    Run.refl.performs hperforms
  have hc : (⟨0⟩ : CutId) ∈ (ops.foldl perform {}).cuts := by decide
  have hd : (⟨1⟩ : CutId) ∈ (ops.foldl perform {}).cuts := by decide
  have hequal : ((ops.foldl perform {}).cut ⟨0⟩).equal (ops.foldl perform {}).region
      ((ops.foldl perform {}).cut ⟨1⟩) = true := by decide
  have hnext : (ops.foldl perform {}).cuts.next = ⟨2⟩ := by decide
  have hcopy : (ops.foldl perform {}).newCut (((ops.foldl perform {}).cut ⟨0⟩).copy 7)
      = (((ops.foldl perform {}).newCut (((ops.foldl perform {}).cut ⟨0⟩).copy 7)).1, ⟨2⟩) :=
    Prod.ext rfl hnext
  have hperforms' : ((ops.foldl perform {}).newCut (((ops.foldl perform {}).cut ⟨0⟩).copy 7)).1.Performs
      (fun s op => op.keepsCuts s = true ∧ op.edits ⟨0⟩ = false) rest := by decide
  have hrun' := Run.refl.performs hperforms'
  obtain ⟨hsets, hkept⟩ := cuts_are_sets hrun
  obtain ⟨-, -, hcopied, hlater⟩ := (hkept ⟨0⟩ hc).2 7 _ ⟨2⟩ hcopy
  exact ⟨_, _, _, hrun, by decide, by decide, hequal, (hsets.equal _ hc _ hd).mp hequal, hcopy, hcopied,
    hrun', by decide, (hlater _ hrun').2⟩

end Store

end TimedNet
