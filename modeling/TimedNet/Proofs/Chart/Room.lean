import TimedNet.Proofs.Chart.Order

/-!
# `TimedNet.Proofs.Chart.Room` — why an update stays alone

A simregion looks for an update on one row: on the lines of its message, and only without a message on
the lines of its condition. An update that is left was on those lines when each simregion looked, so
each of them has taken another. A condition that a message has taken may be anchored at further lines,
and there nobody looks: on those lines an update stays alone beside a simregion that has room.

* `Simregion.Searches`: where a simregion looks.
* `exists_update_of_message`, `exists_update_of_condition`: the two passes that look.
* `Events.Shared.alone_iff`: which updates stay alone, for all ways to order the simregions.
* `Store.lone_update_without_room`, `Store.lone_update_beside_room`: the lines of a reachable chart.
-/

namespace TimedNet

/-- The simregion looks for an update where this one stands: on the row of its message, at the source or
    the target; without a message, on the row of its condition, at an anchor. -/
def Simregion.Searches (r : Simregion) (u : Update) : Prop :=
  (∃ m, r.message? = some m ∧ ∃ a ∈ [m.source, m.target], u.isOn m.location a.index = true)
    ∨ r.message? = none
      ∧ ∃ c, r.condition? = some c ∧ ∃ a ∈ c.anchors, u.isOn c.location a.index = true

/-- What is together with an update was looking for it. -/
theorem Simregion.Together.searches {r : Simregion} (h : r.Together) {u : Update}
    (hu : r.update? = some u) (hother : r.message? ≠ none ∨ r.condition? ≠ none) : r.Searches u := by
  cases hm : r.message? with
  | some m => exact Or.inl ⟨m, hm, h.update m hm u hu⟩
  | none =>
    obtain ⟨c, hc⟩ := Option.ne_none_iff_exists'.mp (hother.resolve_left fun hsome => hsome hm)
    exact Or.inr ⟨hm, c, hc, h.rest hm c hc u hu⟩

/-! ## The passes that look for updates -/

section Passes

variable {pool : Pool} {r : Simregion} {u : Update}

/-- **A message leaves an update on its row and on one of its lines only if it takes another.** -/
theorem exists_update_of_message (hpool : pool.Present) {ms : List Message}
    (hms : ∀ m ∈ ms, m.nr ≠ absentNr) (hu : u ∈ (ofMessages pool ms).2.updates)
    (hr : r ∈ (ofMessages pool ms).1) {m : Message} (hm : r.message? = some m)
    (hon : ∃ a ∈ [m.source, m.target], u.isOn m.location a.index = true) :
    ∃ v, r.update? = some v := by
  induction ms generalizing pool with
  | nil => exact absurd hr List.not_mem_nil
  | cons n ms ih =>
    obtain ⟨hn, hms⟩ := List.forall_mem_cons.mp hms
    have hleft := (shares_takeMessage hpool n).present hpool
    rw [ofMessages_cons] at hu hr
    rcases List.mem_cons.mp hr with rfl | hr
    · obtain rfl : n = m := Option.some.inj ((message?_takeMessage pool hn).symm.trans hm)
      obtain ⟨-, htaken⟩ := taken_takeMessage hpool n
      -- What the other messages leave was there for this one.
      have hbefore : u ∈ pool.updates := htaken.mem_of_left
        ((shares_ofMessages hleft ms).updates.mem_iff.mpr (List.mem_append_right _ hu))
      obtain ⟨a, ha, hon⟩ := hon
      exact htaken.exists_taken hbefore ⟨a.index, List.mem_map_of_mem (f := Handle.index) ha, hon⟩
    · exact ih hleft hms hu hr

/-- **So does a condition that no message has taken.** -/
theorem exists_update_of_condition {updates : List Update} {cs : List Condition}
    (hpool : Pool.Present ⟨cs, updates⟩) (hu : u ∈ (ofConditions updates cs).2)
    (hr : r ∈ (ofConditions updates cs).1)
    (hon : ∃ a ∈ r.condition.anchors, u.isOn r.condition.location a.index = true) :
    ∃ v, r.update? = some v := by
  induction cs generalizing updates with
  | nil => exact absurd hr List.not_mem_nil
  | cons c cs ih =>
    obtain ⟨first, left, heq, -, hcondition, htaken⟩ := ofConditions_cons hpool.updates c cs
    have hleft : Pool.Present ⟨cs, left⟩ :=
      ⟨fun d hd => hpool.conditions d (List.mem_cons_of_mem c hd),
        fun v hv => hpool.updates v (htaken.mem_of_left hv)⟩
    rw [heq] at hu hr
    rcases List.mem_cons.mp hr with rfl | hr
    · have hbefore : u ∈ updates := htaken.mem_of_left
        ((shares_ofConditions hleft).updates.mem_iff.mpr (List.mem_append_right _ hu))
      rw [hcondition] at hon
      obtain ⟨a, ha, hon⟩ := hon
      exact htaken.exists_taken hbefore ⟨a.index, List.mem_map_of_mem (f := Handle.index) ha, hon⟩
    · exact ih hleft hu hr

end Passes

/-! ## All simregions -/

namespace Events

variable {e : Events} {regions : List Simregion} {r q : Simregion} {u : Update}

/-- An update that stands alone was left by both passes. -/
theorem mem_afterConditions_of_alone (h : e.Identified) (hr : r ∈ e.grouped) (hu : r.update? = some u)
    (hmessage : r.message? = none) (hcondition : r.condition? = none) : u ∈ e.afterConditions := by
  rw [grouped_eq] at hr
  rcases List.mem_append.mp hr with hr | hr
  · rcases List.mem_append.mp hr with hr | hr
    · exact absurd hmessage (mem_ofMessages h.pool h.present hr).1
    · have hmem := (mem_ofConditions h.afterMessages hr).2.1
      exact absurd hcondition (present_ne_none (h.afterMessages.conditions _ hmem))
  · obtain ⟨v, hv, rfl⟩ := List.mem_map.mp hr
    exact (present_eq_some_iff.mp hu).2 ▸ hv

/-- What the passes leave no simregion has that looks for updates, but each of those that looked where
    it stands has one. -/
theorem exists_other_of_left (h : e.Identified) (hu : u ∈ e.afterConditions) (hq : q ∈ e.grouped)
    (hsearches : q.Searches u) : ∃ v, q.update? = some v ∧ v ≠ u := by
  have hmessages := shares_ofMessages h.pool e.messages
  have hconditions := shares_ofConditions h.afterMessages
  have hpassed : u ∈ e.afterMessages.updates :=
    hconditions.updates.mem_iff.mpr (List.mem_append_right _ hu)
  have hdistinct : e.updates.Nodup := .of_map Update.nr h.updates
  have hfirst := List.disjoint_of_nodup_append (hmessages.updates.nodup_iff.mp hdistinct)
  have hsecond := List.disjoint_of_nodup_append (hconditions.updates.nodup_iff.mp
    (hmessages.updates.nodup_iff.mp hdistinct).of_append_right)
  rw [grouped_eq] at hq
  rcases List.mem_append.mp hq with hq | hq
  · rcases List.mem_append.mp hq with hq | hq
    · rcases hsearches with ⟨m, hm, hon⟩ | ⟨hnone, -⟩
      · obtain ⟨v, hv⟩ := exists_update_of_message h.pool h.present hpassed hq hm hon
        refine ⟨v, hv, ?_⟩
        rintro rfl
        exact hfirst (List.mem_filterMap.mpr ⟨q, hq, hv⟩) hpassed
      · exact absurd hnone (mem_ofMessages h.pool h.present hq).1
    · obtain ⟨hnone, -, -⟩ := mem_ofConditions h.afterMessages hq
      rcases hsearches with ⟨m, hm, -⟩ | ⟨-, c, hc, hon⟩
      · exact absurd (hnone.symm.trans hm).symm (Option.some_ne_none m)
      · obtain rfl := (present_eq_some_iff.mp hc).2
        obtain ⟨v, hv⟩ := exists_update_of_condition h.afterMessages hu hq hon
        refine ⟨v, hv, ?_⟩
        rintro rfl
        exact hsecond (List.mem_filterMap.mpr ⟨q, hq, hv⟩) hu
  · obtain ⟨hmessage, hcondition, -⟩ := mem_ofUpdates h.afterConditions hq
    rcases hsearches with ⟨m, hm, -⟩ | ⟨-, c, hc, -⟩
    · exact absurd (hmessage.symm.trans hm).symm (Option.some_ne_none m)
    · exact absurd (hcondition.symm.trans hc).symm (Option.some_ne_none c)

/-- **An update stays alone exactly when every simregion that looks where it stands has another**,
    whatever the precedence. -/
theorem alone_iff (h : e.Identified) (precedence : Precedence) (hr : r ∈ e.simregions precedence)
    (hu : r.update? = some u) : (r.message? = none ∧ r.condition? = none)
      ↔ ∀ q ∈ e.simregions precedence, q.Searches u → ∃ v, q.update? = some v ∧ v ≠ u := by
  -- Order and numbers do not matter for what is in the slots.
  have hfound : ∀ q ∈ e.simregions precedence, ∃ p ∈ e.grouped, p.unnumbered = q.unnumbered :=
    fun q hq => List.mem_map.mp ((e.simregions_perm precedence).mem_iff.mp (List.mem_map_of_mem hq))
  constructor
  · rintro ⟨hmessage, hcondition⟩ q hq hsearches
    obtain ⟨p, hp, hpr⟩ := hfound r hr
    obtain ⟨o, ho, hoq⟩ := hfound q hq
    have hleft := mem_afterConditions_of_alone h hp ((congrArg Simregion.update? hpr).trans hu)
      ((congrArg Simregion.message? hpr).trans hmessage)
      ((congrArg Simregion.condition? hpr).trans hcondition)
    have hsearches' : o.Searches u := by
      have hsame : o.unnumbered.Searches u ↔ q.unnumbered.Searches u := by rw [hoq]
      exact hsame.mpr hsearches
    obtain ⟨v, hv, hne⟩ := exists_other_of_left h hleft ho hsearches'
    exact ⟨v, (congrArg Simregion.update? hoq).symm.trans hv, hne⟩
  · intro hothers
    by_contra hbeside
    have hother : r.message? ≠ none ∨ r.condition? ≠ none := not_and_or.mp hbeside
    have htogether := (shared_simregions h precedence).together r hr
    obtain ⟨v, hv, hne⟩ := hothers r hr (htogether.searches hu hother)
    exact hne (Option.some.inj (hv.symm.trans hu))

end Events

namespace Store

variable {s : Store}

/-- **An update stays alone only where no simregion that looks there has room.** For every template
    that a program can make and every precedence: beside an update that is a simregion by itself, a
    simregion without an update has no message on the same row from or to the line of the update, and
    unless it has a message, no condition on the same row that is anchored at that line. -/
theorem lone_update_without_room {condition : Store → Operation → Prop} (hrun : Run condition {} s)
    {t : TemplateId} (ht : t ∈ s.templates) (precedence : Precedence) {made : Store}
    {ids : List RegionId} (h : s.deriveRegions (s.template t).events precedence = (made, ids)) :
    ∀ r ∈ ids.map made.region, r.message? = none → r.condition? = none → ∀ u ∈ r.update?,
      ∀ q ∈ ids.map made.region, q.update? = none →
        (∀ m ∈ q.message?, m.location = u.location → u.anchor ≠ m.source ∧ u.anchor ≠ m.target)
          ∧ (q.message? = none → ∀ c ∈ q.condition?, c.location = u.location → u.anchor ∉ c.anchors) := by
  have hid := (hrun.bodied t ht).1.identified
  have hanchored := (hrun.sound sound_empty).anchored ht
  have hmade := s.map_region_newRegions ((s.template t).events.simregions precedence)
  rw [← deriveRegions, h] at hmade
  rw [hmade]
  intro r hr hmessage hcondition u hu q hq hroom
  have hshared := Events.shared_simregions hid precedence
  have hmem := (hshared.own hr).2.2 u hu
  have hskipped : ¬ q.Searches u := by
    intro hsearches
    obtain ⟨v, hv, -⟩ := (Events.alone_iff hid precedence hr hu).mp ⟨hmessage, hcondition⟩ q hq hsearches
    exact Option.some_ne_none v (hv.symm.trans hroom)
  constructor
  · intro m hm hrow
    have hends := (hanchored.update_iff ((hshared.own hq).1 m hm) hmem).not.mp
      fun hon => hskipped (Or.inl ⟨m, hm, hon⟩)
    exact not_or.mp fun hend => hends ⟨hrow.symm, hend⟩
  · intro hnone c hc hrow ha
    have harena := (hanchored.updates u hmem).trans
      (hanchored.conditions c ((hshared.own hq).2.1 c hc) u.anchor ha).symm
    have hon := (Update.isOn_iff harena).mpr ⟨hrow.symm, rfl⟩
    exact hskipped (Or.inr ⟨hnone, c, hc, u.anchor, ha, hon⟩)

/-! ## A condition that is wider than its message -/

/-- A chart with lines `A`, `B` and `C`. On the first row a message from `A` to `B` takes a condition
    over `B` and `C`, and there is an update on `C`. On the second row there are such a message, a
    condition on `C`, and updates on `A` and `B`. -/
def wideChart : List Operation :=
  [.openDocument none none, .addTemplate ⟨0⟩ "T" [] {} {},
    .addInstanceLine ⟨0⟩ "A" {}, .addInstanceLine ⟨0⟩ "B" {}, .addInstanceLine ⟨0⟩ "C" {},
    .addMessage ⟨0⟩ ⟨1⟩ ⟨2⟩ 1 false .empty, .addMessage ⟨0⟩ ⟨1⟩ ⟨2⟩ 2 false .empty,
    .addCondition ⟨0⟩ [⟨2⟩, ⟨3⟩] 1 false false .empty, .addCondition ⟨0⟩ [⟨3⟩] 2 false false .empty,
    .addUpdate ⟨0⟩ ⟨3⟩ 1 false .empty, .addUpdate ⟨0⟩ ⟨1⟩ 2 false .empty,
    .addUpdate ⟨0⟩ ⟨2⟩ 2 false .empty]

/-- The store in which the chart stands. -/
def wide : Store := wideChart.foldl perform {}

theorem run_wide : Run (fun _ _ => True) {} wide :=
  have hperforms : ({} : Store).Performs (fun _ _ => True) wideChart := by decide
  Run.refl.performs hperforms

theorem template_mem_wide : ⟨0⟩ ∈ wide.templates := by
  decide +kernel

/-- The simregions of the chart, as they are derived. -/
def wideRegions : List Simregion :=
  (wide.deriveRegions (wide.template ⟨0⟩).events .standard).2.map
    (wide.deriveRegions (wide.template ⟨0⟩).events .standard).1.region

theorem wideRegions_eq : wideRegions =
    [{ nr := 0,
       message := { nr := 0, location := 1, source := ⟨3, 0⟩, target := ⟨3, 1⟩ },
       condition := { nr := 0, location := 1, anchors := [⟨3, 1⟩, ⟨3, 2⟩] } },
     { nr := 1, update := { nr := 0, location := 1, anchor := ⟨3, 2⟩ } },
     { nr := 2, condition := { nr := 1, location := 2, anchors := [⟨3, 2⟩] } },
     { nr := 3,
       message := { nr := 1, location := 2, source := ⟨3, 0⟩, target := ⟨3, 1⟩ },
       update := { nr := 1, location := 2, anchor := ⟨3, 0⟩ } },
     { nr := 4, update := { nr := 2, location := 2, anchor := ⟨3, 1⟩ } }] := by
  rw [wideRegions, deriveRegions, map_region_newRegions]
  cbv

/-- **An update stays alone beside a simregion that has room**, if it shares a line only with a
    condition that the message of the simregion has taken. -/
theorem lone_update_beside_room : Run (fun _ _ => True) {} wide ∧ ⟨0⟩ ∈ wide.templates
    ∧ ∃ r ∈ wideRegions, r.message? = none ∧ r.condition? = none ∧ ∃ u ∈ r.update?,
      ∃ q ∈ wideRegions, q.update? = none ∧ ∃ m ∈ q.message?, ∃ c ∈ q.condition?,
        m.location = u.location ∧ c.location = u.location ∧ u.anchor ∈ c.anchors := by
  refine ⟨run_wide, template_mem_wide, ?_⟩
  rw [wideRegions_eq]
  refine ⟨_, .tail _ (.head _), rfl, rfl, _, rfl, _, .head _, rfl, _, rfl, _, rfl, rfl, rfl, ?_⟩
  decide

/-- On the second row the message takes the update on `A`. The update on `B` stays alone, and the
    condition that has room is not anchored there. -/
theorem lone_update_without_room_second_row : ∃ r ∈ wideRegions, ∃ u ∈ r.update?, u.location = 2
    ∧ r.message? = none ∧ r.condition? = none ∧ ∃ q ∈ wideRegions, q.update? = none ∧ q.message? = none
      ∧ ∃ c ∈ q.condition?, c.location = 2 ∧ u.anchor ∉ c.anchors := by
  have hlone : { nr := 4, update := { nr := 2, location := 2, anchor := ⟨3, 1⟩ } } ∈ wideRegions := by
    rw [wideRegions_eq]
    exact .tail _ (.tail _ (.tail _ (.tail _ (.head _))))
  have hroom :
      { nr := 2, condition := { nr := 1, location := 2, anchors := [⟨3, 2⟩] } } ∈ wideRegions := by
    rw [wideRegions_eq]
    exact .tail _ (.tail _ (.head _))
  have haside := (lone_update_without_room run_wide template_mem_wide .standard rfl _ hlone rfl rfl _ rfl
    _ hroom rfl).2 rfl _ rfl rfl
  exact ⟨_, hlone, _, rfl, rfl, rfl, rfl, _, hroom, rfl, rfl, _, rfl, rfl, haside⟩

end Store

end TimedNet
