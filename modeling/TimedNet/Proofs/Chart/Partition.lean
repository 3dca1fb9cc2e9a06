import TimedNet.Proofs.Chart.Grouping
import TimedNet.Proofs.Run.Bodies

/-!
# `TimedNet.Proofs.Chart.Partition` — the simregions of a chart partition its events

The events of a reachable chart are numbered and anchored at its own lines. Hence each of them is in
exactly one of the simregions, and what a simregion holds is on one row and shares a line of the chart.

* `existsUnique_of_perm`, `Events.Shared.apart`: shared-out events are in one place, in simregions that
  differ.
* `Cut.members_foldl_add`: a cut takes up simregions that differ.
* `Condition.isOn_iff`, `Update.isOn_iff`, `Events.Anchored`: from numbers of lines to lines.
* `Events.Partition`, `Shared.partition`: the partition.
* `Store.simregions_partition`: it holds of every reachable chart.
-/

namespace TimedNet

/-! ## Simregions that differ -/

section Differing

variable {α : Type} {nr : α → Int} {slot : Simregion → α} {as : List α} {regions : List Simregion}

/-- An event is in one simregion only. -/
theorem existsUnique_of_perm {f : Simregion → Option α} (hperm : (regions.filterMap f).Perm as)
    (hdistinct : as.Nodup) {a : α} (ha : a ∈ as) :
    ∃! k : Nat, ∃ r, regions[k]? = some r ∧ f r = some a := by
  have hpairwise := List.pairwise_filterMap.mp (hperm.nodup_iff.mpr hdistinct)
  have hlt : ∀ {j k : Nat} {q r : Simregion}, j < k → regions[j]? = some q → f q = some a →
      regions[k]? = some r → f r = some a → False := by
    intro j k q r hjk hj hq hk hr
    obtain ⟨hjlt, rfl⟩ := List.getElem?_eq_some_iff.mp hj
    obtain ⟨hklt, rfl⟩ := List.getElem?_eq_some_iff.mp hk
    exact List.pairwise_iff_getElem.mp hpairwise j k hjlt hklt hjk a hq a hr rfl
  obtain ⟨r, hr, hra⟩ := List.mem_filterMap.mp (hperm.mem_iff.mpr ha)
  obtain ⟨k, hk⟩ := List.mem_iff_getElem?.mp hr
  refine ⟨k, ⟨r, hk, hra⟩, ?_⟩
  rintro j ⟨q, hj, hqa⟩
  rcases Nat.lt_trichotomy j k with h | h | h
  · exact (hlt h hj hqa hk hra).elim
  · exact h
  · exact (hlt h hk hra hj hqa).elim

/-- Events in different simregions have different numbers. -/
theorem pairwise_nr (hperm : (regions.filterMap fun r => present nr (slot r)).Perm as)
    (hdistinct : (as.map nr).Nodup) :
    regions.Pairwise fun r q => nr (slot r) ≠ absentNr → nr (slot r) ≠ nr (slot q) := by
  have hnumbers := (hperm.map nr).nodup_iff.mpr hdistinct
  refine (List.pairwise_filterMap.mp (List.pairwise_map.mp hnumbers)).imp ?_
  intro r q h hr heq
  exact h _ (present_of_ne hr) _ (present_of_ne (heq ▸ hr)) heq

/-- **No two simregions that share out the events of a chart are equal.** -/
theorem Events.Shared.apart {e : Events} (h : e.Shared regions) (hid : e.Identified) :
    regions.Pairwise fun r q => r.equal q = false := by
  have hmessages := pairwise_nr h.messages hid.messages
  have hconditions := pairwise_nr h.conditions hid.conditions
  have hupdates := pairwise_nr h.updates hid.updates
  refine (hmessages.and (hconditions.and hupdates)).imp_of_mem ?_
  intro r q hr _ ⟨hm, hc, hu⟩
  refine Bool.eq_false_iff.mpr fun hequal => ?_
  simp only [Simregion.equal, Bool.and_eq_true, beq_iff_eq] at hequal
  obtain ⟨⟨hmq, hcq⟩, huq⟩ := hequal
  obtain ⟨k, hk⟩ := (h.together r hr).event
  cases k with
  | message => exact hm (bne_iff_ne.mp hk) hmq
  | condition => exact hc (bne_iff_ne.mp hk) hcq
  | update => exact hu (bne_iff_ne.mp hk) huq

end Differing

/-- **A cut takes up members with simregions that differ**, all of them and in order. -/
theorem Cut.members_foldl_add {α : Type} {view : α → Simregion} {c : Cut α} {as : List α}
    (h : (c.members ++ as).Pairwise fun a b => (view a).equal (view b) = false) :
    (as.foldl (Cut.add view) c).members = c.members ++ as := by
  induction as generalizing c with
  | nil => exact (List.append_nil _).symm
  | cons a as ih =>
    have hnew : c.contains view a = false := List.any_eq_false.mpr fun b hb =>
      Bool.eq_false_iff.mp ((List.pairwise_append.mp h).2.2 b hb a List.mem_cons_self)
    have hadd : c.add view a = { c with members := c.members ++ [a] } := by
      rw [Cut.add, hnew]
      rfl
    rw [List.append_cons] at h ⊢
    rw [List.foldl_cons, hadd]
    exact ih h

/-! ## From numbers of lines to lines -/

section Lines

variable {y : Int} {a : Handle}

theorem Handle.eq_of_index {a b : Handle} (harena : a.arena = b.arena) (hindex : a.index = b.index) :
    a = b := by
  cases a
  cases b
  exact congrArg₂ Handle.mk harena hindex

/-- A condition is on a line when it is anchored there. -/
theorem Condition.isOn_iff {c : Condition} (harena : ∀ b ∈ c.anchors, b.arena = a.arena) :
    c.isOn y a.index = true ↔ c.location = y ∧ a ∈ c.anchors := by
  rw [Condition.isOn, Bool.and_eq_true, beq_iff_eq, List.any_eq_true]
  refine and_congr_right fun _ => ⟨?_, fun ha => ⟨a, ha, beq_self_eq_true _⟩⟩
  rintro ⟨b, hb, hindex⟩
  exact Handle.eq_of_index (harena b hb) (beq_iff_eq.mp hindex) ▸ hb

/-- An update is on a line when it is anchored there. -/
theorem Update.isOn_iff {u : Update} (harena : u.anchor.arena = a.arena) :
    u.isOn y a.index = true ↔ u.location = y ∧ u.anchor = a := by
  rw [Update.isOn, Bool.and_eq_true, beq_iff_eq, beq_iff_eq]
  exact and_congr_right fun _ => ⟨Handle.eq_of_index harena, congrArg Handle.index⟩

end Lines

namespace Events

variable {e : Events} {regions : List Simregion}

/-- All events are anchored in one arena. -/
structure Anchored (e : Events) (arena : Int) : Prop where
  messages : ∀ m ∈ e.messages, ∀ a ∈ [m.source, m.target], a.arena = arena
  conditions : ∀ c ∈ e.conditions, ∀ a ∈ c.anchors, a.arena = arena
  updates : ∀ u ∈ e.updates, u.anchor.arena = arena

/-- What is on the row and a line of a message is at its source or its target. -/
theorem exists_end_iff {m : Message} {on : Int → Bool} {row : Prop} {here : Handle → Prop}
    (hon : ∀ a ∈ [m.source, m.target], (on a.index = true ↔ row ∧ here a)) :
    (∃ a ∈ [m.source, m.target], on a.index = true) ↔ row ∧ (here m.source ∨ here m.target) := by
  have hends : (∃ a ∈ [m.source, m.target], row ∧ here a)
      ↔ row ∧ (here m.source ∨ here m.target) := by
    simp [and_or_left]
  rw [← hends]
  exact exists_congr fun a => and_congr_right (hon a)

theorem Anchored.condition_iff {arena : Int} (h : e.Anchored arena) {m : Message}
    (hm : m ∈ e.messages) {c : Condition} (hc : c ∈ e.conditions) :
    (∃ a ∈ [m.source, m.target], c.isOn m.location a.index = true)
      ↔ c.location = m.location ∧ (m.source ∈ c.anchors ∨ m.target ∈ c.anchors) :=
  exists_end_iff fun a ha => Condition.isOn_iff fun b hb =>
    (h.conditions c hc b hb).trans (h.messages m hm a ha).symm

theorem Anchored.update_iff {arena : Int} (h : e.Anchored arena) {m : Message}
    (hm : m ∈ e.messages) {u : Update} (hu : u ∈ e.updates) :
    (∃ a ∈ [m.source, m.target], u.isOn m.location a.index = true)
      ↔ u.location = m.location ∧ (u.anchor = m.source ∨ u.anchor = m.target) :=
  exists_end_iff fun a ha => Update.isOn_iff ((h.updates u hu).trans (h.messages m hm a ha).symm)

/-! ## The partition -/

/-- The simregions partition the events of a chart. Every event is in exactly one of them, and none is
    without an event. The condition and the update of a message are on its row and anchored at its
    source or its target; the update of a condition without a message is on its row and at one of its
    anchors. A condition is without a message only if every message that could have taken it has
    another. No two simregions are equal. -/
structure Partition (e : Events) (regions : List Simregion) : Prop where
  messages : ∀ m ∈ e.messages, ∃! k : Nat, ∃ r, regions[k]? = some r ∧ r.message? = some m
  conditions : ∀ c ∈ e.conditions, ∃! k : Nat, ∃ r, regions[k]? = some r ∧ r.condition? = some c
  updates : ∀ u ∈ e.updates, ∃! k : Nat, ∃ r, regions[k]? = some r ∧ r.update? = some u
  own : ∀ r ∈ regions, (∀ m ∈ r.message?, m ∈ e.messages) ∧ (∀ c ∈ r.condition?, c ∈ e.conditions)
    ∧ ∀ u ∈ r.update?, u ∈ e.updates
  nonempty : ∀ r ∈ regions, r.message? ≠ none ∨ r.condition? ≠ none ∨ r.update? ≠ none
  ofMessage : ∀ r ∈ regions, ∀ m ∈ r.message?,
    (∀ c ∈ r.condition?, c.location = m.location ∧ (m.source ∈ c.anchors ∨ m.target ∈ c.anchors))
      ∧ ∀ u ∈ r.update?, u.location = m.location ∧ (u.anchor = m.source ∨ u.anchor = m.target)
  ofCondition : ∀ r ∈ regions, r.message? = none → ∀ c ∈ r.condition?, ∀ u ∈ r.update?,
    u.location = c.location ∧ u.anchor ∈ c.anchors
  alone : ∀ r ∈ regions, r.message? = none → ∀ c ∈ r.condition?, ∀ m ∈ e.messages,
    m.location = c.location → m.source ∈ c.anchors ∨ m.target ∈ c.anchors →
      ∃ q ∈ regions, q.message? = some m ∧ ∃ d ∈ q.condition?, d ≠ c
  apart : regions.Pairwise fun r q => r.equal q = false

/-- Simregions hold events of the chart only. -/
theorem Shared.own (h : e.Shared regions) {r : Simregion} (hr : r ∈ regions) :
    (∀ m ∈ r.message?, m ∈ e.messages) ∧ (∀ c ∈ r.condition?, c ∈ e.conditions)
      ∧ ∀ u ∈ r.update?, u ∈ e.updates :=
  ⟨fun _ hm => h.messages.mem_iff.mp (List.mem_filterMap.mpr ⟨r, hr, hm⟩),
    fun _ hc => h.conditions.mem_iff.mp (List.mem_filterMap.mpr ⟨r, hr, hc⟩),
    fun _ hu => h.updates.mem_iff.mp (List.mem_filterMap.mpr ⟨r, hr, hu⟩)⟩

/-- **Simregions that share out the events of a chart with lines of its own partition them.** -/
theorem Shared.partition (h : e.Shared regions) (hid : e.Identified) {arena : Int}
    (hanchored : e.Anchored arena) : e.Partition regions where
  messages _ hm := existsUnique_of_perm h.messages (.of_map Message.nr hid.messages) hm
  conditions _ hc := existsUnique_of_perm h.conditions (.of_map Condition.nr hid.conditions) hc
  updates _ hu := existsUnique_of_perm h.updates (.of_map Update.nr hid.updates) hu
  own _ hr := h.own hr
  nonempty := by
    intro r hr
    obtain ⟨k, hk⟩ := (h.together r hr).event
    cases k with
    | message => exact Or.inl (present_ne_none (bne_iff_ne.mp hk))
    | condition => exact Or.inr (Or.inl (present_ne_none (bne_iff_ne.mp hk)))
    | update => exact Or.inr (Or.inr (present_ne_none (bne_iff_ne.mp hk)))
  ofMessage := by
    intro r hr m hm
    obtain ⟨hmessages, hconditions, hupdates⟩ := h.own hr
    have htogether := h.together r hr
    exact ⟨fun c hc => (hanchored.condition_iff (hmessages m hm) (hconditions c hc)).mp
        (htogether.condition m hm c hc),
      fun u hu => (hanchored.update_iff (hmessages m hm) (hupdates u hu)).mp
        (htogether.update m hm u hu)⟩
  ofCondition := by
    intro r hr hnone c hc u hu
    obtain ⟨-, hconditions, hupdates⟩ := h.own hr
    have hanchor := hanchored.updates u (hupdates u hu)
    obtain ⟨a, ha, hon⟩ := (h.together r hr).rest hnone c hc u hu
    have harena := hanchored.conditions c (hconditions c hc) a ha
    obtain ⟨hrow, rfl⟩ := (Update.isOn_iff (hanchor.trans harena.symm)).mp hon
    exact ⟨hrow, ha⟩
  alone := by
    intro r hr hnone c hc m hm hrow hshared
    exact h.alone r hr hnone c hc m hm
      ((hanchored.condition_iff hm ((h.own hr).2.1 c hc)).mpr ⟨hrow.symm, hshared⟩)
  apart := h.apart hid

end Events

/-! ## Reachable charts -/

theorem Numbers.nodup {α : Type} {nr : α → Int} {as : List α} (h : Numbers nr as) :
    (as.map nr).Nodup := by
  refine List.pairwise_map.mpr (List.pairwise_iff_getElem.mpr fun i j hi hj hij heq => ?_)
  rw [h i as[i] (List.getElem?_eq_getElem hi), h j as[j] (List.getElem?_eq_getElem hj)] at heq
  exact Nat.ne_of_lt hij (Int.ofNat.inj heq)

theorem Numbers.ne_absentNr {α : Type} {nr : α → Int} {as : List α} (h : Numbers nr as) :
    ∀ a ∈ as, nr a ≠ absentNr := by
  intro a ha
  obtain ⟨i, hi⟩ := List.mem_iff_getElem?.mp ha
  rw [h i a hi]
  exact nofun

theorem Template.Numbered.identified {t : Template} (h : t.Numbered) : t.events.Identified where
  messages := h.messages.nodup
  conditions := h.conditions.nodup
  updates := h.updates.nodup
  present := h.messages.ne_absentNr
  pool := ⟨h.conditions.ne_absentNr, h.updates.ne_absentNr⟩

namespace Store

variable {s : Store}

/-- The events of a template are anchored at its own lines. -/
theorem Sound.anchored (h : s.Sound) {t : TemplateId} (ht : t ∈ s.templates) :
    (s.template t).events.Anchored (s.template t).lines.id := by
  have hsound := h.templates t ht
  exact
    { messages := fun m hm => List.forall_mem_cons.mpr
        ⟨Arena.arena_of_owns (hsound.messages m hm).1,
          List.forall_mem_singleton.mpr (Arena.arena_of_owns (hsound.messages m hm).2)⟩
      conditions := fun c hc a ha => Arena.arena_of_owns (hsound.conditions c hc a ha)
      updates := fun u hu => Arena.arena_of_owns (hsound.updates u hu) }

/-- New simregions are those that were given. -/
theorem map_region_newRegions (s : Store) (regions : List Simregion) :
    (s.newRegions regions).2.map (s.newRegions regions).1.region = regions := by
  refine List.ext_getElem? fun i => ?_
  rw [newRegions, List.map_map, List.getElem?_map]
  show Option.map (fun i => (s.regions.pushAll regions).get ⟨s.regions.size + i⟩) _ = _
  by_cases hi : i < regions.length
  · rw [List.getElem?_range hi, Option.map_some, Table.get_pushAll_add,
      List.getElem?_eq_getElem hi, Option.getD_some]
  · rw [List.getElem?_eq_none (by simpa using hi), List.getElem?_eq_none (Nat.le_of_not_lt hi),
      Option.map_none]

/-- A new cut is as it was given, and no simregion changes. -/
theorem newCut_cases {start : Store} {cut : Cut RegionId} {c : CutId}
    (h : s.newCut cut = (start, c)) :
    c ∈ start.cuts ∧ start.cut c = cut ∧ start.region = s.region := by
  obtain ⟨rfl, rfl⟩ := Prod.mk.inj h
  exact ⟨Table.next_mem_push _ _, Table.get_push_next _ _, rfl⟩

/-- A cut after several simregions were added to it. -/
theorem cut_foldl_addToCut {c : CutId} (hc : c ∈ s.cuts) (ids : List RegionId) :
    (ids.foldl (fun s r => s.addToCut c r) s).cut c = ids.foldl (Cut.add s.region) (s.cut c) := by
  induction ids generalizing s with
  | nil => rfl
  | cons r ids ih =>
    have hadd : (s.addToCut c r).cut c = (s.cut c).add s.region r := Table.get_modify_self _ hc
    rw [List.foldl_cons, ih (Table.mem_modify.mpr hc), hadd]
    rfl

/-- **The simregions of a chart partition its events.** For every template that a program can make,
    with whatever events on whatever rows and lines, and every precedence: the simregions that are
    derived partition the events, and all of them together are as many members of a cut. -/
theorem simregions_partition {condition : Store → Operation → Prop} (hrun : Run condition {} s)
    {t : TemplateId} (ht : t ∈ s.templates) (precedence : Precedence) {made : Store}
    {ids : List RegionId}
    (h : s.deriveRegions (s.template t).events precedence = (made, ids)) :
    (s.template t).events.Partition (ids.map made.region)
      ∧ ∀ (nr : Int) (start : Store) (c : CutId), made.newCut { nr } = (start, c) →
        ((ids.foldl (fun s r => s.addToCut c r) start).cut c).size = ids.length := by
  have hid := (hrun.bodied t ht).1.identified
  have hpartition := (Events.shared_simregions hid precedence).partition hid
    ((hrun.sound sound_empty).anchored ht)
  have hmade := s.map_region_newRegions ((s.template t).events.simregions precedence)
  rw [← deriveRegions, h] at hmade
  rw [← hmade] at hpartition
  refine ⟨hpartition, fun nr start c hcut => ?_⟩
  obtain ⟨hmem, hempty, hregion⟩ := newCut_cases hcut
  rw [cut_foldl_addToCut hmem, hempty, hregion]
  exact congrArg List.length (Cut.members_foldl_add (List.pairwise_map.mp hpartition.apart))

/-- Two messages between the same lines and four conditions on one row: the first message takes the
    condition on its source line, the second one of the two on the target line, and the other is left.
    One update goes with a message, one with a condition, and one, on the next row, stays alone. -/
theorem simregions_partition_competing : ∃ s : Store, Run (fun _ _ => True) {} s
    ∧ ((s.template ⟨0⟩).events.grouped.map fun r => (r.message.nr, r.condition.nr, r.update.nr))
        = [(0, 1, 0), (1, 0, -1), (-1, 2, 2), (-1, 3, -1), (-1, -1, 1)]
    ∧ (s.template ⟨0⟩).events.Partition
        ((s.deriveRegions (s.template ⟨0⟩).events .standard).2.map
          (s.deriveRegions (s.template ⟨0⟩).events .standard).1.region) := by
  let ops : List Operation :=
    [.openDocument none none, .addTemplate ⟨0⟩ "T" [] {} {},
      .addInstanceLine ⟨0⟩ "A" {}, .addInstanceLine ⟨0⟩ "B" {}, .addInstanceLine ⟨0⟩ "C" {},
      .addMessage ⟨0⟩ ⟨1⟩ ⟨2⟩ 4 false .empty, .addMessage ⟨0⟩ ⟨1⟩ ⟨2⟩ 4 true .empty,
      .addCondition ⟨0⟩ [⟨2⟩] 4 false true .empty, .addCondition ⟨0⟩ [⟨1⟩, ⟨3⟩] 4 false true .empty,
      .addCondition ⟨0⟩ [⟨3⟩] 4 true false .empty, .addCondition ⟨0⟩ [⟨2⟩] 4 false false .empty,
      .addUpdate ⟨0⟩ ⟨2⟩ 4 false .empty, .addUpdate ⟨0⟩ ⟨3⟩ 5 false .empty,
      .addUpdate ⟨0⟩ ⟨3⟩ 4 true .empty]
  have hperforms : ({} : Store).Performs (fun _ _ => True) ops := by decide
  have hrun : Run (fun _ _ => True) {} (ops.foldl perform {}) := Run.refl.performs hperforms
  exact ⟨ops.foldl perform {}, hrun, by decide,
    (simregions_partition hrun (by decide) .standard rfl).1⟩

end Store

end TimedNet
