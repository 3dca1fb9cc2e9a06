import TimedNet.Proofs.Chart.Rows

/-!
# `TimedNet.Proofs.Chart.Prechart` — the prechart is a prefix of every line

A simregion can hold events of lines that are far apart. Still, what belongs together shares a line and
stands on one row, so if on no line an event of the prechart stands as low as one of the main chart, then
the events of a simregion agree on where they are. Down a line the rows grow, hence the simregions of the
prechart come first, and one scan finds where they end.

* `Mark`, `Events.marks`, `Simregion.marks`: where an event is anchored, on which row and in which part.
* `Events.PrechartFirst`: on every line the prechart is above the rest.
* `Simregion.touches_iff`, `Simregion.AnchoredAt`: a simregion touches the lines its events are anchored at.
* `onLine_eq_filter`: the simregions on a line are those of the chart that touch it, in order.
* `Partition.exists_flag`: the events of a simregion are all in the prechart or all outside.
* `findIdx_not_eq_countP`: a scan over a prefix counts it.
* `Store.prechart_prefix`: all this for every reachable chart.
-/

namespace TimedNet

/-! ## Where events are anchored -/

/-- An event as a line shows it: the line, the row, and whether it belongs to the prechart. -/
structure Mark where
  line : Handle
  row : Int
  prechart : Bool
deriving DecidableEq, Repr

/-- The marks of an event that is anchored at several lines. -/
def marksAt (lines : List Handle) (row : Int) (prechart : Bool) : List Mark :=
  lines.map fun line => { line, row, prechart }

/-- The marks of a message are at its source and at its target. -/
def Message.marks (m : Message) : List Mark := marksAt [m.source, m.target] m.location m.prechart

/-- The marks of a condition are at its anchors. -/
def Condition.marks (c : Condition) : List Mark := marksAt c.anchors c.location c.prechart

/-- The mark of an update is at its anchor. -/
def Update.marks (u : Update) : List Mark := marksAt [u.anchor] u.location u.prechart

/-- The marks of all events of a chart. -/
def Events.marks (e : Events) : List Mark :=
  e.messages.flatMap Message.marks ++ e.conditions.flatMap Condition.marks
    ++ e.updates.flatMap Update.marks

/-- The marks of the events that a simregion has. -/
def Simregion.marks (r : Simregion) : List Mark :=
  r.message?.toList.flatMap Message.marks ++ r.condition?.toList.flatMap Condition.marks
    ++ r.update?.toList.flatMap Update.marks

/-- On every line the events of the prechart stand on smaller rows than the other events. -/
def Events.PrechartFirst (e : Events) : Prop :=
  ∀ a ∈ e.marks, ∀ b ∈ e.marks, a.line = b.line → a.prechart = true → b.prechart = false →
    a.row < b.row

instance (e : Events) : Decidable e.PrechartFirst :=
  inferInstanceAs (Decidable (∀ a ∈ e.marks, ∀ b ∈ e.marks, a.line = b.line → a.prechart = true →
    b.prechart = false → a.row < b.row))

/-- The simregion has an event that is anchored at the line. -/
def Simregion.AnchoredAt (r : Simregion) (line : Handle) : Prop := ∃ a ∈ r.marks, a.line = line

instance (r : Simregion) (line : Handle) : Decidable (r.AnchoredAt line) :=
  inferInstanceAs (Decidable (∃ a ∈ r.marks, a.line = line))

section Marks

variable {a : Mark} {lines : List Handle} {row : Int} {prechart : Bool}

theorem mem_marksAt : a ∈ marksAt lines row prechart
    ↔ a.line ∈ lines ∧ a.row = row ∧ a.prechart = prechart := by
  rw [marksAt, List.mem_map]
  constructor
  · rintro ⟨line, hline, rfl⟩
    exact ⟨hline, rfl, rfl⟩
  · rintro ⟨hline, rfl, rfl⟩
    exact ⟨a.line, hline, rfl⟩

theorem Events.mem_marks {e : Events} : a ∈ e.marks ↔ (∃ m ∈ e.messages, a ∈ m.marks)
    ∨ (∃ c ∈ e.conditions, a ∈ c.marks) ∨ ∃ u ∈ e.updates, a ∈ u.marks := by
  simp [marks]

theorem Simregion.mem_marks {r : Simregion} : a ∈ r.marks ↔ (∃ m ∈ r.message?, a ∈ m.marks)
    ∨ (∃ c ∈ r.condition?, a ∈ c.marks) ∨ ∃ u ∈ r.update?, a ∈ u.marks := by
  simp [marks]

/-- **Where a line shows two events on one row, they belong to the same part of the chart.** -/
theorem Events.PrechartFirst.flag_eq {e : Events} (h : e.PrechartFirst) {b : Mark} (ha : a ∈ e.marks)
    (hb : b ∈ e.marks) (hline : a.line = b.line) (hrow : a.row = b.row) : a.prechart = b.prechart := by
  cases hflag : a.prechart with
  | true =>
    cases hother : b.prechart with
    | true => rfl
    | false => exact absurd (h a ha b hb hline hflag hother) (by omega)
  | false =>
    cases hother : b.prechart with
    | true => exact absurd (h b hb a ha hline.symm hother hflag) (by omega)
    | false => rfl

end Marks

namespace Simregion

variable {r : Simregion} {a : Mark}

theorem mem_prechartFlags_iff {flag : Bool} : flag ∈ r.prechartFlags
    ↔ (∃ m ∈ r.message?, m.prechart = flag) ∨ (∃ c ∈ r.condition?, c.prechart = flag)
      ∨ ∃ u ∈ r.update?, u.prechart = flag := by
  rw [prechartFlags, List.mem_append, List.mem_append, or_assoc]
  exact or_congr (mem_slot_iff Message.nr)
    (or_congr (mem_slot_iff Condition.nr) (mem_slot_iff Update.nr))

theorem isInPrechart_iff :
    r.isInPrechart = true ↔ r.prechartFlags ≠ [] ∧ ∀ flag ∈ r.prechartFlags, flag = true := by
  simp [isInPrechart]

/-- A mark is on a row of the simregion, and what it says of the prechart is one of its flags. -/
theorem row_mem_of_mem_marks (ha : a ∈ r.marks) : a.row ∈ r.rows ∧ a.prechart ∈ r.prechartFlags := by
  rw [mem_rows_iff, mem_prechartFlags_iff]
  rcases mem_marks.mp ha with ⟨m, hm, ha⟩ | ⟨c, hc, ha⟩ | ⟨u, hu, ha⟩
  · obtain ⟨-, hrow, hflag⟩ := mem_marksAt.mp ha
    exact ⟨Or.inl ⟨m, hm, hrow.symm⟩, Or.inl ⟨m, hm, hflag.symm⟩⟩
  · obtain ⟨-, hrow, hflag⟩ := mem_marksAt.mp ha
    exact ⟨Or.inr (Or.inl ⟨c, hc, hrow.symm⟩), Or.inr (Or.inl ⟨c, hc, hflag.symm⟩)⟩
  · obtain ⟨-, hrow, hflag⟩ := mem_marksAt.mp ha
    exact ⟨Or.inr (Or.inr ⟨u, hu, hrow.symm⟩), Or.inr (Or.inr ⟨u, hu, hflag.symm⟩)⟩

/-- What holds of a slot that has an event. -/
theorem slot_and_iff {α : Type} (nr : α → Int) {event : α} {on : Bool} {here : α → Prop}
    (hon : on = true ↔ here event) :
    ((nr event != absentNr) && on) = true ↔ ∃ b ∈ present nr event, here b := by
  rw [Bool.and_eq_true, bne_iff_ne, hon]
  constructor
  · rintro ⟨hpresent, hhere⟩
    exact ⟨event, present_of_ne hpresent, hhere⟩
  · rintro ⟨b, hb, hhere⟩
    obtain ⟨hpresent, rfl⟩ := present_eq_some_iff.mp hb
    exact ⟨hpresent, hhere⟩

/-- A simregion touches the lines with the numbers of its marks. -/
theorem touches_iff_index {index : Int} :
    r.touches index = true ↔ ∃ a ∈ r.marks, a.line.index = index := by
  let here (marks : List Mark) : Prop := ∃ a ∈ marks, a.line.index = index
  have hmessage : (r.message.source.index == index || r.message.target.index == index) = true
      ↔ (here ∘ Message.marks) r.message := by simp [here, Message.marks, marksAt]
  have hcondition : (r.condition.anchors.any fun anchor => anchor.index == index) = true
      ↔ (here ∘ Condition.marks) r.condition := by simp [here, Condition.marks, marksAt]
  have hupdate : (r.update.anchor.index == index) = true
      ↔ (here ∘ Update.marks) r.update := by simp [here, Update.marks, marksAt]
  rw [touches, Bool.or_eq_true, Bool.or_eq_true, or_assoc]
  rw [has, has, has, eventNr, eventNr, eventNr, slot_and_iff Message.nr hmessage,
    slot_and_iff Condition.nr hcondition, slot_and_iff Update.nr hupdate]
  simp only [mem_marks]
  constructor
  · rintro (⟨m, hm, a, ha, hindex⟩ | ⟨c, hc, a, ha, hindex⟩ | ⟨u, hu, a, ha, hindex⟩)
    · exact ⟨a, Or.inl ⟨m, hm, ha⟩, hindex⟩
    · exact ⟨a, Or.inr (Or.inl ⟨c, hc, ha⟩), hindex⟩
    · exact ⟨a, Or.inr (Or.inr ⟨u, hu, ha⟩), hindex⟩
  · rintro ⟨a, ⟨m, hm, ha⟩ | ⟨c, hc, ha⟩ | ⟨u, hu, ha⟩, hindex⟩
    · exact Or.inl ⟨m, hm, a, ha, hindex⟩
    · exact Or.inr (Or.inl ⟨c, hc, a, ha, hindex⟩)
    · exact Or.inr (Or.inr ⟨u, hu, a, ha, hindex⟩)

/-- **Among lines of one arena, a simregion touches those at which its events are anchored.** -/
theorem touches_iff {line : Handle} (harena : ∀ a ∈ r.marks, a.line.arena = line.arena) :
    r.touches line.index = true ↔ r.AnchoredAt line := by
  rw [touches_iff_index]
  refine exists_congr fun a => and_congr_right fun ha => ?_
  exact ⟨Handle.eq_of_index (harena a ha), congrArg Handle.index⟩

end Simregion

/-! ## The simregions of a chart on a line -/

namespace Events

variable {e : Events} {regions : List Simregion} {r : Simregion} {a : Mark}

theorem mem_marks_of_message {m : Message} (hm : m ∈ e.messages) {line : Handle}
    (hline : line ∈ [m.source, m.target]) : ⟨line, m.location, m.prechart⟩ ∈ e.marks :=
  Events.mem_marks.mpr (Or.inl ⟨m, hm, mem_marksAt.mpr ⟨hline, rfl, rfl⟩⟩)

theorem mem_marks_of_condition {c : Condition} (hc : c ∈ e.conditions) {line : Handle}
    (hline : line ∈ c.anchors) : ⟨line, c.location, c.prechart⟩ ∈ e.marks :=
  Events.mem_marks.mpr (Or.inr (Or.inl ⟨c, hc, mem_marksAt.mpr ⟨hline, rfl, rfl⟩⟩))

theorem mem_marks_of_update {u : Update} (hu : u ∈ e.updates) :
    ⟨u.anchor, u.location, u.prechart⟩ ∈ e.marks :=
  Events.mem_marks.mpr
    (Or.inr (Or.inr ⟨u, hu, mem_marksAt.mpr ⟨List.mem_singleton_self _, rfl, rfl⟩⟩))

/-- A simregion has marks of the chart only. -/
theorem Shared.mem_marks (h : e.Shared regions) (hr : r ∈ regions) (ha : a ∈ r.marks) :
    a ∈ e.marks := by
  obtain ⟨hmessages, hconditions, hupdates⟩ := h.own hr
  rw [Events.mem_marks]
  rcases Simregion.mem_marks.mp ha with ⟨m, hm, ha⟩ | ⟨c, hc, ha⟩ | ⟨u, hu, ha⟩
  · exact Or.inl ⟨m, hmessages m hm, ha⟩
  · exact Or.inr (Or.inl ⟨c, hconditions c hc, ha⟩)
  · exact Or.inr (Or.inr ⟨u, hupdates u hu, ha⟩)

theorem Anchored.arena_of_mem_marks {arena : Int} (h : e.Anchored arena) (ha : a ∈ e.marks) :
    a.line.arena = arena := by
  rcases Events.mem_marks.mp ha with ⟨m, hm, ha⟩ | ⟨c, hc, ha⟩ | ⟨u, hu, ha⟩
  · exact h.messages m hm a.line (mem_marksAt.mp ha).1
  · exact h.conditions c hc a.line (mem_marksAt.mp ha).1
  · rw [List.mem_singleton.mp (mem_marksAt.mp ha).1]
    exact h.updates u hu

/-- **The simregions on a line are those that touch it**, in the order of the chart: down the chart the
    rows grow already, and a stable sort by rows leaves them alone. -/
theorem onLine_eq_filter {α : Type} {view : α → Simregion} {members : List α}
    (hrows : (members.map fun a => (view a).location).Pairwise (· ≤ ·)) (index : Int) :
    onLine view members index = members.filter fun a => (view a).touches index := by
  refine List.mergeSort_of_pairwise (((List.pairwise_map.mp hrows).filter _).imp ?_)
  exact fun hle => decide_eq_true hle

/-- **The events of a simregion agree on the part of the chart they belong to.** The condition and the
    update share a line with the message, or the update shares one with the condition. -/
theorem Partition.exists_flag (h : e.Partition regions) (hfirst : e.PrechartFirst)
    (hr : r ∈ regions) : ∃ flag, ∀ other ∈ r.prechartFlags, other = flag := by
  obtain ⟨hmessages, hconditions, hupdates⟩ := h.own r hr
  cases hm : r.message? with
  | some m =>
    obtain ⟨hcondition, hupdate⟩ := h.ofMessage r hr m hm
    refine ⟨m.prechart, fun other hother => ?_⟩
    rcases Simregion.mem_prechartFlags_iff.mp hother with
      ⟨n, hn, rfl⟩ | ⟨c, hc, rfl⟩ | ⟨u, hu, rfl⟩
    · rw [Option.some.inj (hm.symm.trans hn)]
    · obtain ⟨hrow, hline⟩ := hcondition c hc
      obtain ⟨line, hend, hanchor⟩ : ∃ line ∈ [m.source, m.target], line ∈ c.anchors := by
        simpa using hline
      exact hfirst.flag_eq (mem_marks_of_condition (hconditions c hc) hanchor)
        (mem_marks_of_message (hmessages m hm) hend) rfl hrow
    · obtain ⟨hrow, hline⟩ := hupdate u hu
      have hend : u.anchor ∈ [m.source, m.target] := by simpa using hline
      exact hfirst.flag_eq (mem_marks_of_update (hupdates u hu))
        (mem_marks_of_message (hmessages m hm) hend) rfl hrow
  | none =>
    cases hc : r.condition? with
    | some c =>
      refine ⟨c.prechart, fun other hother => ?_⟩
      rcases Simregion.mem_prechartFlags_iff.mp hother with
        ⟨n, hn, rfl⟩ | ⟨d, hd, rfl⟩ | ⟨u, hu, rfl⟩
      · exact absurd (hm.symm.trans hn) (Option.some_ne_none n).symm
      · rw [Option.some.inj (hc.symm.trans hd)]
      · obtain ⟨hrow, hline⟩ := h.ofCondition r hr hm c hc u hu
        exact hfirst.flag_eq (mem_marks_of_update (hupdates u hu))
          (mem_marks_of_condition (hconditions c hc) hline) rfl hrow
    | none =>
      refine ⟨r.update.prechart, fun other hother => ?_⟩
      rcases Simregion.mem_prechartFlags_iff.mp hother with
        ⟨n, hn, rfl⟩ | ⟨d, hd, rfl⟩ | ⟨u, hu, rfl⟩
      · exact absurd (hm.symm.trans hn) (Option.some_ne_none n).symm
      · exact absurd (hc.symm.trans hd) (Option.some_ne_none d).symm
      · rw [(present_eq_some_iff.mp hu).2]

/-- What a mark says of the prechart, its simregion says. -/
theorem Partition.isInPrechart_iff (h : e.Partition regions) (hfirst : e.PrechartFirst)
    (hr : r ∈ regions) (ha : a ∈ r.marks) : r.isInPrechart = true ↔ a.prechart = true := by
  obtain ⟨flag, hflag⟩ := h.exists_flag hfirst hr
  have hmem := (Simregion.row_mem_of_mem_marks ha).2
  rw [Simregion.isInPrechart_iff, hflag _ hmem]
  refine ⟨fun ⟨_, hall⟩ => (hflag _ hmem).symm.trans (hall _ hmem), ?_⟩
  rintro rfl
  exact ⟨List.ne_nil_of_mem hmem, hflag⟩

end Events

/-! ## Scanning a prefix -/

/-- **The scan for the first member without a property counts those that have it**, where they are a
    prefix. -/
theorem findIdx_not_eq_countP {α : Type} {p : α → Bool} {l : List α}
    (h : l.Pairwise fun a b => p b = true → p a = true) :
    (l.findIdx fun a => !p a) = l.countP p := by
  induction l with
  | nil => rfl
  | cons a l ih =>
    obtain ⟨ha, hl⟩ := List.pairwise_cons.mp h
    rw [List.findIdx_cons]
    cases hp : p a with
    | true => rw [List.countP_cons_of_pos hp, ← ih hl]; rfl
    | false =>
      have hnone : ∀ b ∈ l, ¬p b = true := fun b hb hpb => by simp [ha b hb hpb] at hp
      rw [List.countP_cons_of_neg (by simp [hp]), List.countP_eq_zero.mpr hnone]
      rfl

/-! ## Reachable charts -/

/-- What a walk down a line sees of the simregions of a chart: those that have an event anchored there, in
    the order of the chart, the prechart first, and the boundary after as many as are in the prechart. -/
structure PrechartPrefix {α : Type} (view : α → Simregion) (line : Handle) (all seen : List α) :
    Prop where
  anchored : seen = all.filter fun a => decide ((view a).AnchoredAt line)
  first : seen.Pairwise fun a b => (view b).isInPrechart = true → (view a).isInPrechart = true
  boundary : prechartBoundary (seen.map view) = seen.countP fun a => (view a).isInPrechart

namespace Events

variable {e : Events} {precedence : Precedence} {α : Type} {view : α → Simregion} {members : List α}

/-- **The prechart is a prefix of every line** of a chart with lines of its own, if it is above the rest on
    every line. -/
theorem prechartPrefix_onLine (hid : e.Identified) {arena : Int} (hanchored : e.Anchored arena)
    (hrows : ∀ y ∈ e.rows, 0 ≤ y) (hfirst : e.PrechartFirst)
    (hview : members.map view = e.simregions precedence) {line : Handle} (hline : line.arena = arena) :
    PrechartPrefix view line members (onLine view members line.index) := by
  have hshared := Events.shared_simregions hid precedence
  have hpartition := hshared.partition hid hanchored
  have hmem : ∀ a ∈ members, view a ∈ e.simregions precedence := fun a ha =>
    hview ▸ List.mem_map_of_mem ha
  have hlocations : (members.map fun a => (view a).location).Pairwise (· ≤ ·) := by
    have := e.pairwise_location precedence
    rwa [← hview, List.map_map] at this
  have hanchoredAt : ∀ a ∈ members, (view a).touches line.index = true ↔ (view a).AnchoredAt line :=
    fun a ha => Simregion.touches_iff fun m hm =>
      (hanchored.arena_of_mem_marks (hshared.mem_marks (hmem a ha) hm)).trans hline.symm
  have hseen := onLine_eq_filter hlocations line.index
  have hordered : (onLine view members line.index).Pairwise fun a b =>
      (view b).isInPrechart = true → (view a).isInPrechart = true := by
    rw [hseen]
    refine ((List.pairwise_map.mp hlocations).filter _).imp_of_mem ?_
    intro a b ha hb hle hin
    obtain ⟨ha, htouch⟩ := List.mem_filter.mp ha
    obtain ⟨hb, htouch'⟩ := List.mem_filter.mp hb
    obtain ⟨m, hm, hline⟩ := (hanchoredAt a ha).mp htouch
    obtain ⟨n, hn, hsame⟩ := (hanchoredAt b hb).mp htouch'
    -- The line shows an event of each, and the upper one cannot be outside if the lower one is inside.
    rw [hpartition.isInPrechart_iff hfirst (hmem b hb) hn] at hin
    rw [hpartition.isInPrechart_iff hfirst (hmem a ha) hm]
    by_contra hout
    have hlt := hfirst n (hshared.mem_marks (hmem b hb) hn) m (hshared.mem_marks (hmem a ha) hm)
      (hsame.trans hline.symm) hin (Bool.eq_false_iff.mpr hout)
    rw [hshared.location_eq hrows (hmem a ha) (Simregion.row_mem_of_mem_marks hm).1,
      hshared.location_eq hrows (hmem b hb) (Simregion.row_mem_of_mem_marks hn).1] at hle
    omega
  refine ⟨hseen.trans (List.filter_congr fun a ha => ?_), hordered, ?_⟩
  · rw [Bool.eq_iff_iff, decide_eq_true_iff]
    exact hanchoredAt a ha
  · have hscan := findIdx_not_eq_countP hordered
    rw [prechartBoundary, List.findIdx_map]
    exact hscan

end Events

namespace Store

variable {s : Store}

/-- **The prechart is a prefix of every instance line.** For every template that a program can make, if no
    event of its chart stands on a negative row and on every line each event of the prechart stands above
    each other event, and for every precedence: the simregions on a line are those of the chart that have
    an event anchored there, in the same order; those in the prechart come before those that are not; and
    the scan for the boundary finds as many as there are in the prechart. -/
theorem prechart_prefix {condition : Store → Operation → Prop} (hrun : Run condition {} s)
    {t : TemplateId} (ht : t ∈ s.templates) (hrows : ∀ y ∈ (s.template t).events.rows, 0 ≤ y)
    (hfirst : (s.template t).events.PrechartFirst) (precedence : Precedence) {made : Store}
    {ids : List RegionId} (h : s.deriveRegions (s.template t).events precedence = (made, ids))
    (i : Nat) {line : InstanceLine} (hline : (s.template t).lines.items[i]? = some line) :
    PrechartPrefix made.region ((s.template t).lines.handleAt i) ids
      (onLine made.region ids line.nr) := by
  obtain ⟨hnumbered, -⟩ := hrun.bodied t ht
  have hview := s.map_region_newRegions ((s.template t).events.simregions precedence)
  rw [← deriveRegions, h] at hview
  have hnr : (line.nr : Int) = ((s.template t).lines.handleAt i).index := hnumbered.lines i line hline
  rw [hnr]
  exact Events.prechartPrefix_onLine hnumbered.identified ((hrun.sound sound_empty).anchored ht) hrows
    hfirst hview rfl

/-- A chart whose prechart ends on row 1 of its first line and on row 5 of the others: the condition and the
    update that belong together there do not touch the first line, where the main chart starts on row 3. -/
theorem prechart_prefix_uneven : ∃ s : Store, Run (fun _ _ => True) {} s
    ∧ ((s.template ⟨0⟩).events.simregions.map fun r =>
        (r.location, r.message.nr, r.condition.nr, r.update.nr, r.isInPrechart))
      = [(1, 0, -1, -1, true), (3, -1, -1, 0, false), (5, -1, 0, 1, true), (7, 1, -1, -1, false)]
    ∧ (s.template ⟨0⟩).lines.items.map InstanceLine.nr = [0, 1, 2]
    ∧ ∃ derived : Store × List RegionId, s.deriveRegions (s.template ⟨0⟩).events .standard = derived
      ∧ (onLine derived.1.region derived.2 0).map (fun r => r.index) = [0, 1]
      ∧ (onLine derived.1.region derived.2 1).map (fun r => r.index) = [0, 2, 3]
      ∧ ∀ (i : Nat) (line : InstanceLine), (s.template ⟨0⟩).lines.items[i]? = some line →
        PrechartPrefix derived.1.region ((s.template ⟨0⟩).lines.handleAt i) derived.2
          (onLine derived.1.region derived.2 line.nr) := by
  let ops : List Operation :=
    [.openDocument none none, .addTemplate ⟨0⟩ "T" [] {} {},
      .addInstanceLine ⟨0⟩ "A" {}, .addInstanceLine ⟨0⟩ "B" {}, .addInstanceLine ⟨0⟩ "C" {},
      .addMessage ⟨0⟩ ⟨1⟩ ⟨2⟩ 1 true .empty, .addMessage ⟨0⟩ ⟨2⟩ ⟨3⟩ 7 false .empty,
      .addCondition ⟨0⟩ [⟨2⟩, ⟨3⟩] 5 true false .empty, .addUpdate ⟨0⟩ ⟨1⟩ 3 false .empty,
      .addUpdate ⟨0⟩ ⟨3⟩ 5 true .empty]
  have hperforms : ({} : Store).Performs (fun _ _ => True) ops := by decide
  have hrun : Run (fun _ _ => True) {} (ops.foldl perform {}) := Run.refl.performs hperforms
  have ht : (⟨0⟩ : TemplateId) ∈ (ops.foldl perform {}).templates := by decide +kernel
  have hrows : ((ops.foldl perform {}).template ⟨0⟩).events.rows = [1, 3, 5, 7] := by cbv
  have hmarks : ((ops.foldl perform {}).template ⟨0⟩).events.marks
      = [⟨⟨3, 0⟩, 1, true⟩, ⟨⟨3, 1⟩, 1, true⟩, ⟨⟨3, 1⟩, 7, false⟩, ⟨⟨3, 2⟩, 7, false⟩, ⟨⟨3, 1⟩, 5, true⟩,
        ⟨⟨3, 2⟩, 5, true⟩, ⟨⟨3, 0⟩, 3, false⟩, ⟨⟨3, 2⟩, 5, true⟩] := by cbv
  have hfirst : ((ops.foldl perform {}).template ⟨0⟩).events.PrechartFirst := by
    unfold Events.PrechartFirst
    rw [hmarks]
    decide
  have hprefix := prechart_prefix hrun ht (by rw [hrows]; decide) hfirst .standard (Prod.mk.eta).symm
  exact ⟨ops.foldl perform {}, hrun, by cbv, by cbv, _, rfl, by cbv, by cbv,
    fun i line hline => hprefix i hline⟩

end Store

end TimedNet
