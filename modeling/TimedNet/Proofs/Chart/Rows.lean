import TimedNet.Proofs.Chart.Order
import TimedNet.Proofs.Sorting

/-!
# `TimedNet.Proofs.Chart.Rows` — the rows of a chart are independent

What belongs together stands on one row, so each pass over the events does on every row what it would do if
there were no other row. The sort then puts the rows one after the other and, being stable, keeps each of
them as it would be on its own.

* `Events.onRow`, `Events.rows`: a row alone, and the rows that there are.
* `takeOnLines_filter`, `filter_takeOnLines`: a look-up on one row, seen from that row and from another.
* `ofMessages_onRow`, `ofConditions_onRow`, `grouped_onRow`: the passes, row by row.
* `Events.simregions_onRow`, `Events.simregions_eq_flatMap`: the simregions of a chart, row by row.
* `Store.simregions_rows`: all this for every reachable chart.
-/

namespace TimedNet

/-! ## One row -/

/-- The events of the pool that stand on a row. -/
def Pool.onRow (pool : Pool) (y : Int) : Pool where
  conditions := pool.conditions.filter fun c => c.location == y
  updates := pool.updates.filter fun u => u.location == y

/-- The events on a row, in the order and under the numbers that they have in the chart. -/
def Events.onRow (e : Events) (y : Int) : Events where
  messages := e.messages.filter fun m => m.location == y
  conditions := e.conditions.filter fun c => c.location == y
  updates := e.updates.filter fun u => u.location == y

/-- The rows on which an event stands, in increasing order. -/
def Events.rows (e : Events) : List Int :=
  (e.messages.map Message.location ++ e.conditions.map Condition.location
    ++ e.updates.map Update.location).toFinset.sort

theorem Events.mem_rows {e : Events} {y : Int} : y ∈ e.rows ↔ (∃ m ∈ e.messages, m.location = y)
    ∨ (∃ c ∈ e.conditions, c.location = y) ∨ ∃ u ∈ e.updates, u.location = y := by
  simp [rows]

theorem Events.pairwise_rows (e : Events) : e.rows.Pairwise (· < ·) :=
  (Finset.sortedLT_sort _).pairwise

/-! ## Looking up events on a row -/

section Taking

variable {α : Type} (on : Int → α → Bool) (p : α → Bool) (pool : List α) (lines : List Int)

/-- A look-up that only `p` can answer finds the same among the members that satisfy `p`. -/
theorem takeOnLines_filter (hon : ∀ line a, on line a = true → p a = true) :
    takeOnLines on (pool.filter p) lines
      = ((takeOnLines on pool lines).1, (takeOnLines on pool lines).2.filter p) := by
  induction lines with
  | nil => rfl
  | cons line lines ih =>
    have hfind : (pool.filter p).find? (on line) = pool.find? (on line) := by
      rw [List.find?_filter]
      exact congrArg (pool.find? ·) (funext fun a => by simpa using hon line a)
    have herase : (fun a => on line a && p a) = on line :=
      funext fun a => by simpa using hon line a
    rw [takeOnLines, takeOnLines, hfind]
    cases pool.find? (on line) with
    | none => exact ih
    | some a =>
      dsimp only
      rw [List.eraseP_filter, herase]

/-- It leaves alone the members that do not answer it. -/
theorem filter_takeOnLines (hoff : ∀ line a, on line a = true → p a = false) :
    (takeOnLines on pool lines).2.filter p = pool.filter p := by
  induction lines with
  | nil => rfl
  | cons line lines ih =>
    rw [takeOnLines]
    cases hfind : pool.find? (on line) with
    | none => exact ih
    | some a =>
      obtain ⟨ha, before, after, rfl, hbefore⟩ := List.find?_eq_some_iff_append.mp hfind
      dsimp only
      rw [List.eraseP_append_right _ (by simpa using hbefore), List.eraseP_cons_of_pos ha,
        List.filter_append, List.filter_append, List.filter_cons_of_neg (by simp [hoff line a ha])]

end Taking

/-! ## The passes, row by row -/

section Passes

variable {pool : Pool} {y : Int}

theorem takeMessage_onRow {m : Message} (hm : m.location = y) :
    (pool.onRow y).takeMessage m = ((pool.takeMessage m).1, (pool.takeMessage m).2.onRow y) := by
  have hconditions := takeOnLines_filter (fun line c => c.isOn m.location line)
    (fun c => c.location == y) pool.conditions [m.source.index, m.target.index]
    fun line c hon => by simp_all [Condition.isOn]
  have hupdates := takeOnLines_filter (fun line u => u.isOn m.location line)
    (fun u => u.location == y) pool.updates [m.source.index, m.target.index]
    fun line u hon => by simp_all [Update.isOn]
  simp only [Pool.takeMessage, Pool.onRow, hconditions, hupdates]

theorem onRow_takeMessage {m : Message} (hm : m.location ≠ y) :
    (pool.takeMessage m).2.onRow y = pool.onRow y := by
  have hconditions := filter_takeOnLines (fun line c => c.isOn m.location line)
    (fun c => c.location == y) pool.conditions [m.source.index, m.target.index]
    fun line c hon => by simp_all [Condition.isOn]
  have hupdates := filter_takeOnLines (fun line u => u.isOn m.location line)
    (fun u => u.location == y) pool.updates [m.source.index, m.target.index]
    fun line u hon => by simp_all [Update.isOn]
  exact congrArg₂ Pool.mk hconditions hupdates

/-- The messages on a row get what they would get if there were no other row. -/
theorem ofMessages_onRow (pool : Pool) (ms : List Message) (y : Int) :
    ofMessages (pool.onRow y) (ms.filter fun m => m.location == y)
      = ((ofMessages pool ms).1.filter fun r => r.message.location == y,
        (ofMessages pool ms).2.onRow y) := by
  induction ms generalizing pool with
  | nil => rfl
  | cons m ms ih =>
    rw [ofMessages_cons]
    have hslot : (pool.takeMessage m).1.message = m := rfl
    by_cases hm : m.location = y
    · rw [List.filter_cons_of_pos (by simpa using hm), ofMessages_cons, takeMessage_onRow hm, ih,
        List.filter_cons_of_pos (by simpa [hslot] using hm)]
    · rw [List.filter_cons_of_neg (by simpa using hm), ← onRow_takeMessage hm, ih,
        List.filter_cons_of_neg (by simpa [hslot] using hm)]

/-- So do the conditions. -/
theorem ofConditions_onRow (updates : List Update) (cs : List Condition) (y : Int) :
    ofConditions (updates.filter fun u => u.location == y) (cs.filter fun c => c.location == y)
      = ((ofConditions updates cs).1.filter fun r => r.condition.location == y,
        (ofConditions updates cs).2.filter fun u => u.location == y) := by
  induction cs generalizing updates with
  | nil => rfl
  | cons c cs ih =>
    by_cases hc : c.location = y
    · have htaken := takeOnLines_filter (fun line u => u.isOn c.location line)
        (fun u => u.location == y) updates (c.anchors.map fun a => a.index)
        fun line u hon => by simp_all [Update.isOn]
      rw [List.filter_cons_of_pos (by simpa using hc)]
      simp only [ofConditions, htaken, ih]
      rw [List.filter_cons_of_pos (by simpa using hc)]
    · have hleft := filter_takeOnLines (fun line u => u.isOn c.location line)
        (fun u => u.location == y) updates (c.anchors.map fun a => a.index)
        fun line u hon => by simp_all [Update.isOn]
      rw [List.filter_cons_of_neg (by simpa using hc), ← hleft, ih]
      simp only [ofConditions]
      rw [List.filter_cons_of_neg (by simpa using hc)]

theorem ofUpdates_onRow (updates : List Update) (y : Int) :
    ofUpdates (updates.filter fun u => u.location == y)
      = (ofUpdates updates).filter fun r => r.update.location == y := by
  rw [ofUpdates, ofUpdates, List.filter_map]
  rfl

end Passes

/-! ## The row of a simregion -/

namespace Simregion

variable {r : Simregion} {x : Int}

/-- The rows of a simregion are those of its events. -/
theorem mem_rows_iff : x ∈ r.rows ↔ (∃ m ∈ r.message?, m.location = x)
    ∨ (∃ c ∈ r.condition?, c.location = x) ∨ ∃ u ∈ r.update?, u.location = x := by
  rw [rows, List.mem_append, List.mem_append, or_assoc]
  exact or_congr (mem_slot_iff Message.nr)
    (or_congr (mem_slot_iff Condition.nr) (mem_slot_iff Update.nr))

theorem exists_mem_rows {k : EventKind} (hk : r.has k = true) : ∃ x, x ∈ r.rows := by
  have hpresent := bne_iff_ne.mp hk
  cases k with
  | message => exact ⟨_, mem_rows_iff.mpr (Or.inl ⟨_, present_of_ne hpresent, rfl⟩)⟩
  | condition => exact ⟨_, mem_rows_iff.mpr (Or.inr (Or.inl ⟨_, present_of_ne hpresent, rfl⟩))⟩
  | update => exact ⟨_, mem_rows_iff.mpr (Or.inr (Or.inr ⟨_, present_of_ne hpresent, rfl⟩))⟩

/-- Events that belong together stand on one row. -/
theorem Together.exists_row (h : r.Together) : ∃ y, ∀ x ∈ r.rows, x = y := by
  have hcondition : ∀ {c : Condition} {y line : Int}, c.isOn y line = true → c.location = y :=
    fun hon => by simp_all [Condition.isOn]
  have hupdate : ∀ {u : Update} {y line : Int}, u.isOn y line = true → u.location = y :=
    fun hon => by simp_all [Update.isOn]
  cases hm : r.message? with
  | some m =>
    refine ⟨m.location, fun x hx => ?_⟩
    rcases mem_rows_iff.mp hx with ⟨n, hn, rfl⟩ | ⟨c, hc, rfl⟩ | ⟨u, hu, rfl⟩
    · rw [Option.some.inj (hm.symm.trans hn)]
    · obtain ⟨a, -, hon⟩ := h.condition m hm c hc
      exact hcondition hon
    · obtain ⟨a, -, hon⟩ := h.update m hm u hu
      exact hupdate hon
  | none =>
    cases hc : r.condition? with
    | some c =>
      refine ⟨c.location, fun x hx => ?_⟩
      rcases mem_rows_iff.mp hx with ⟨m, hm', rfl⟩ | ⟨d, hd, rfl⟩ | ⟨u, hu, rfl⟩
      · exact absurd (hm'.symm.trans hm) (Option.some_ne_none m)
      · rw [Option.some.inj (hc.symm.trans hd)]
      · obtain ⟨a, -, hon⟩ := h.rest hm c hc u hu
        exact hupdate hon
    | none =>
      refine ⟨r.update.location, fun x hx => ?_⟩
      rcases mem_rows_iff.mp hx with ⟨m, hm', rfl⟩ | ⟨d, hd, rfl⟩ | ⟨u, hu, rfl⟩
      · exact absurd (hm'.symm.trans hm) (Option.some_ne_none m)
      · exact absurd (hd.symm.trans hc) (Option.some_ne_none d)
      · rw [(present_eq_some_iff.mp hu).2]

/-- **A simregion is located on the row of its events**, unless that lies below row -1, where the count
    starts. -/
theorem Together.location_eq_max (h : r.Together) (hx : x ∈ r.rows) : r.location = max (-1) x := by
  obtain ⟨y, hy⟩ := h.exists_row
  obtain rfl : x = y := hy x hx
  have hmax : ∀ rows : List Int, (∀ z ∈ rows, z = x) → rows.foldl max (max (-1) x) = max (-1) x := by
    intro rows hrows
    induction rows with
    | nil => rfl
    | cons z rows ih =>
      obtain ⟨rfl, hrows⟩ := List.forall_mem_cons.mp hrows
      rw [List.foldl_cons, max_eq_left (le_max_right _ _), ih hrows]
  obtain ⟨z, rows, hcons⟩ := List.exists_cons_of_ne_nil (List.ne_nil_of_mem hx)
  rw [hcons] at hy
  obtain ⟨rfl, hrows⟩ := List.forall_mem_cons.mp hy
  rw [location, hcons, List.foldl_cons, hmax rows hrows]

theorem Together.location_eq (h : r.Together) (hx : x ∈ r.rows) (hrow : 0 ≤ x) : r.location = x := by
  rw [h.location_eq_max hx, max_eq_right (by omega)]

end Simregion

namespace Events

variable {e : Events} {regions : List Simregion}

/-- The rows of the simregions are rows of the chart. -/
theorem Shared.mem_rows (h : e.Shared regions) {r : Simregion} (hr : r ∈ regions) {x : Int}
    (hx : x ∈ r.rows) : x ∈ e.rows := by
  obtain ⟨hmessages, hconditions, hupdates⟩ := h.own hr
  rw [Events.mem_rows]
  rcases Simregion.mem_rows_iff.mp hx with ⟨m, hm, rfl⟩ | ⟨c, hc, rfl⟩ | ⟨u, hu, rfl⟩
  · exact Or.inl ⟨m, hmessages m hm, rfl⟩
  · exact Or.inr (Or.inl ⟨c, hconditions c hc, rfl⟩)
  · exact Or.inr (Or.inr ⟨u, hupdates u hu, rfl⟩)

theorem Shared.location_eq (h : e.Shared regions) (hrows : ∀ y ∈ e.rows, 0 ≤ y) {r : Simregion}
    (hr : r ∈ regions) {x : Int} (hx : x ∈ r.rows) : r.location = x :=
  (h.together r hr).location_eq hx (hrows x (h.mem_rows hr hx))

theorem Shared.location_mem (h : e.Shared regions) (hrows : ∀ y ∈ e.rows, 0 ≤ y) {r : Simregion}
    (hr : r ∈ regions) : r.location ∈ e.rows := by
  obtain ⟨k, hk⟩ := (h.together r hr).event
  obtain ⟨x, hx⟩ := Simregion.exists_mem_rows hk
  rw [h.location_eq hrows hr hx]
  exact h.mem_rows hr hx

/-- What the passes do on a row alone. -/
theorem grouped_onRow_eq (e : Events) (y : Int) : (e.onRow y).grouped
    = ((ofMessages ⟨e.conditions, e.updates⟩ e.messages).1.filter fun r => r.message.location == y)
      ++ ((ofConditions e.afterMessages.updates e.afterMessages.conditions).1.filter
        fun r => r.condition.location == y)
      ++ (ofUpdates e.afterConditions).filter fun r => r.update.location == y := by
  have hmessages := ofMessages_onRow ⟨e.conditions, e.updates⟩ e.messages y
  have hafter : (e.onRow y).afterMessages = e.afterMessages.onRow y := congrArg Prod.snd hmessages
  have hconditions := ofConditions_onRow e.afterMessages.updates e.afterMessages.conditions y
  rw [grouped_eq, afterConditions, hafter]
  exact congrArg₂ _ (congrArg₂ _ (congrArg Prod.fst hmessages) (congrArg Prod.fst hconditions))
    ((congrArg (fun pass => ofUpdates pass.2) hconditions).trans (ofUpdates_onRow _ y))

/-- On each pass a simregion stands on the row of the event that started it. -/
theorem mem_rows_of_mem_pass (hid : e.Identified) {r : Simregion} :
    (r ∈ (ofMessages ⟨e.conditions, e.updates⟩ e.messages).1 → r.message.location ∈ r.rows)
      ∧ (r ∈ (ofConditions e.afterMessages.updates e.afterMessages.conditions).1 →
        r.condition.location ∈ r.rows)
      ∧ (r ∈ ofUpdates e.afterConditions → r.update.location ∈ r.rows) := by
  refine ⟨fun hr => ?_, fun hr => ?_, fun hr => ?_⟩
  · obtain ⟨m, hm⟩ := Option.ne_none_iff_exists'.mp (mem_ofMessages hid.pool hid.present hr).1
    exact Simregion.mem_rows_iff.mpr (Or.inl ⟨m, hm, by rw [(present_eq_some_iff.mp hm).2]⟩)
  · have hc := hid.afterMessages.conditions _ (mem_ofConditions hid.afterMessages hr).2.1
    exact Simregion.mem_rows_iff.mpr (Or.inr (Or.inl ⟨_, present_of_ne hc, rfl⟩))
  · obtain ⟨u, hu, rfl⟩ := List.mem_map.mp hr
    exact Simregion.mem_rows_iff.mpr
      (Or.inr (Or.inr ⟨u, present_of_ne (hid.afterConditions u hu), rfl⟩))

/-- **The grouping of a row is the row of the grouping.** -/
theorem grouped_onRow (hid : e.Identified) (hrows : ∀ y ∈ e.rows, 0 ≤ y) (y : Int) :
    (e.onRow y).grouped = e.grouped.filter fun r => r.location == y := by
  have hlocation : ∀ {part : List Simregion} {f : Simregion → Int},
      (∀ r ∈ part, r ∈ e.grouped ∧ f r ∈ r.rows) →
        part.filter (fun r => f r == y) = part.filter fun r => r.location == y := by
    intro part f hpart
    refine List.filter_congr fun r hr => ?_
    rw [(shared_grouped hid).location_eq hrows (hpart r hr).1 (hpart r hr).2]
  rw [grouped_onRow_eq, grouped_eq, List.filter_append, List.filter_append]
  congr 1
  · congr 1
    · exact hlocation fun r hr => ⟨List.mem_append_left _ (List.mem_append_left _ hr),
        (mem_rows_of_mem_pass hid).1 hr⟩
    · exact hlocation fun r hr => ⟨List.mem_append_left _ (List.mem_append_right _ hr),
        (mem_rows_of_mem_pass hid).2.1 hr⟩
  · exact hlocation fun r hr => ⟨List.mem_append_right _ hr, (mem_rows_of_mem_pass hid).2.2 hr⟩

end Events

/-! ## The chart -/

namespace Events

variable {e : Events}

/-- A simregion is on the same row whatever its number is. -/
theorem filter_unnumbered (regions : List Simregion) (y : Int) :
    (regions.filter fun r => r.location == y).map Simregion.unnumbered
      = (regions.map Simregion.unnumbered).filter fun r => r.location == y :=
  (List.filter_map (f := Simregion.unnumbered) (p := fun r => r.location == y)).symm

/-- **The simregions on a row are those of the row alone**, in the same order. -/
theorem simregions_onRow (hid : e.Identified) (hrows : ∀ y ∈ e.rows, 0 ≤ y)
    (precedence : Precedence) (y : Int) :
    ((e.simregions precedence).filter fun r => r.location == y).map Simregion.unnumbered
      = ((e.onRow y).simregions precedence).map Simregion.unnumbered := by
  rw [filter_unnumbered, simregions, map_unnumbered_numbered, ← filter_unnumbered,
    filter_mergeSort Simregion.before_trans Simregion.before_total, ← grouped_onRow hid hrows,
    simregions, map_unnumbered_numbered]

/-- **The simregions of a chart are those of its rows**, one row after the other. -/
theorem simregions_eq_flatMap (hid : e.Identified) (hrows : ∀ y ∈ e.rows, 0 ≤ y)
    (precedence : Precedence) :
    (e.simregions precedence).map Simregion.unnumbered
      = e.rows.flatMap fun y => ((e.onRow y).simregions precedence).map Simregion.unnumbered := by
  have hmem : ∀ r ∈ e.simregions precedence, r.location ∈ e.rows := fun r hr =>
    (shared_simregions hid precedence).location_mem hrows hr
  have hparts := flatMap_filter e.pairwise_rows (e.pairwise_location precedence) hmem
  calc (e.simregions precedence).map Simregion.unnumbered
      = (e.rows.flatMap fun y => (e.simregions precedence).filter fun r => r.location == y).map
          Simregion.unnumbered := by rw [hparts]
    _ = e.rows.flatMap fun y => ((e.onRow y).simregions precedence).map Simregion.unnumbered := by
        rw [List.map_flatMap]
        exact List.flatMap_congr fun y _ => simregions_onRow hid hrows precedence y

end Events

namespace Store

variable {s : Store}

/-- **The rows of a chart are independent.** For every template that a program can make, if no event of its
    chart stands on a negative row, and for every precedence: the simregions are, numbers aside, those of
    the rows alone, one row after the other. So whatever is added, removed or changed on one row, the
    simregions on the other rows are the same, in the same order. -/
theorem simregions_rows {condition : Store → Operation → Prop} (hrun : Run condition {} s)
    {t : TemplateId} (ht : t ∈ s.templates) (hrows : ∀ y ∈ (s.template t).events.rows, 0 ≤ y)
    (p : Precedence) :
    ((s.template t).events.simregions p).map Simregion.unnumbered
        = ((s.template t).events.rows.flatMap fun y =>
          (((s.template t).events.onRow y).simregions p).map Simregion.unnumbered)
      ∧ ∀ (e : Events) (x : Int), e.Identified → (∀ y ∈ e.rows, 0 ≤ y) →
        (∀ y, y ≠ x → e.onRow y = (s.template t).events.onRow y) →
        ∀ y, y ≠ x → ((e.simregions p).filter fun r => r.location == y).map Simregion.unnumbered
          = (((s.template t).events.simregions p).filter fun r => r.location == y).map
            Simregion.unnumbered := by
  have hid := (hrun.bodied t ht).1.identified
  refine ⟨Events.simregions_eq_flatMap hid hrows p, fun e x he herows heq y hy => ?_⟩
  rw [Events.simregions_onRow he herows, heq y hy, Events.simregions_onRow hid hrows]

/-- Events of two rows, entered in turns. One more message on the lower row changes the simregions there,
    but not those on the upper row. -/
theorem simregions_rows_in_turns : ∃ s s' : Store, Run (fun _ _ => True) {} s
    ∧ Run (fun _ _ => True) {} s'
    ∧ (s.template ⟨0⟩).events.rows = [1, 4]
    ∧ ((s.template ⟨0⟩).events.simregions.map fun r =>
        (r.location, r.message.nr, r.condition.nr, r.update.nr))
      = [(1, 1, -1, 0), (4, 0, 0, -1)]
    ∧ (s.template ⟨0⟩).events.simregions.map Simregion.unnumbered
      = ((s.template ⟨0⟩).events.rows.flatMap fun y =>
          ((s.template ⟨0⟩).events.onRow y).simregions.map Simregion.unnumbered)
    ∧ ((s'.template ⟨0⟩).events.simregions.map fun r =>
        (r.location, r.message.nr, r.condition.nr, r.update.nr))
      = [(1, 1, -1, 0), (1, 2, -1, -1), (4, 0, 0, -1)]
    ∧ ((s'.template ⟨0⟩).events.simregions.filter fun r => r.location == 4).map Simregion.unnumbered
      = ((s.template ⟨0⟩).events.simregions.filter fun r => r.location == 4).map
          Simregion.unnumbered := by
  let ops : List Operation :=
    [.openDocument none none, .addTemplate ⟨0⟩ "T" [] {} {},
      .addInstanceLine ⟨0⟩ "A" {}, .addInstanceLine ⟨0⟩ "B" {},
      .addMessage ⟨0⟩ ⟨1⟩ ⟨2⟩ 4 false .empty, .addMessage ⟨0⟩ ⟨2⟩ ⟨1⟩ 1 false .empty,
      .addCondition ⟨0⟩ [⟨2⟩] 4 false true .empty, .addUpdate ⟨0⟩ ⟨1⟩ 1 false .empty]
  let more : Operation := .addMessage ⟨0⟩ ⟨1⟩ ⟨2⟩ 1 true .empty
  have hperforms : ({} : Store).Performs (fun _ _ => True) ops := by decide
  have hperforms' : ({} : Store).Performs (fun _ _ => True) (ops ++ [more]) := by decide
  have hrun : Run (fun _ _ => True) {} (ops.foldl perform {}) := Run.refl.performs hperforms
  have hrun' : Run (fun _ _ => True) {} ((ops ++ [more]).foldl perform {}) :=
    Run.refl.performs hperforms'
  have hrows : ((ops.foldl perform {}).template ⟨0⟩).events.rows = [1, 4] := by cbv
  have hrows' : (((ops ++ [more]).foldl perform {}).template ⟨0⟩).events.rows = [1, 4] := by cbv
  have ht : (⟨0⟩ : TemplateId) ∈ (ops.foldl perform {}).templates := by decide +kernel
  have ht' : (⟨0⟩ : TemplateId) ∈ ((ops ++ [more]).foldl perform {}).templates := by decide +kernel
  have hindependent := simregions_rows hrun ht (by rw [hrows]; decide) .standard
  refine ⟨_, _, hrun, hrun', hrows, by cbv, hindependent.1, by cbv,
    hindependent.2 _ 1 (hrun'.bodied _ ht').1.identified (by rw [hrows']; decide)
      (fun y hy => ?_) 4 (by decide)⟩
  have hmore : (((ops ++ [more]).foldl perform {}).template ⟨0⟩).events
      = { ((ops.foldl perform {}).template ⟨0⟩).events with
          messages := ((ops.foldl perform {}).template ⟨0⟩).events.messages
            ++ [{ nr := 2, location := 1, source := ⟨3, 0⟩, target := ⟨3, 1⟩, prechart := true }] } := by
    cbv
  rw [hmore, Events.onRow, Events.onRow, List.filter_append,
    List.filter_cons_of_neg (by simpa using hy.symm), List.filter_nil, List.append_nil]

end Store

end TimedNet
