import Mathlib.Data.List.Perm.Basic
import Mathlib.Data.List.Nodup
import TimedNet.Chart.Cut
import TimedNet.Chart.Derivation

/-!
# `TimedNet.Proofs.Chart.Grouping` — simregions share out the events of a chart

The three passes of the derivation hand a pool of events from one to the next. Each of them shares out
what it takes, and says why it left what it left: no event is lost, none is used twice, and a condition
stays without a message only when the messages that could have taken it have taken another.

* `Taken`, `taken_takeOnLines`: what one look-up takes from a pool.
* `Pool.Shares`: what a pass takes from a pool; `shares_takeMessage`, `shares_grouped`.
* `Simregion.Together`: events of one simregion belong together.
* `Events.Shared`: all this for a list of simregions; `shared_grouped`, `shared_simregions`.
* `Events.simregions_perm`: order and numbers aside, every precedence gives the same simregions.
-/

namespace TimedNet

/-! ## Slots -/

section Slots

variable {α : Type} {nr : α → Int}

/-- The event in a slot, unless it is the one that stands for none. -/
def present (nr : α → Int) (a : α) : Option α := if nr a = absentNr then none else some a

theorem present_of_ne {a : α} (h : nr a ≠ absentNr) : present nr a = some a := if_neg h

theorem present_ne_none {a : α} (h : nr a ≠ absentNr) : present nr a ≠ none := by
  rw [present_of_ne h]
  exact nofun

theorem present_eq_some_iff {a b : α} : present nr a = some b ↔ nr a ≠ absentNr ∧ a = b := by
  unfold present
  split <;> simp_all

/-- What is read off the event in a slot, if there is one. -/
theorem mem_slot_iff (nr : α → Int) {β : Type} {f : α → β} {a : α} {b : β} :
    b ∈ (if nr a != absentNr then [f a] else []) ↔ ∃ c ∈ present nr a, f c = b := by
  by_cases ha : nr a = absentNr
  · simp [present, ha]
  · rw [if_pos (bne_iff_ne.mpr ha), present_of_ne ha, List.mem_singleton]
    exact ⟨fun hb => ⟨a, rfl, hb.symm⟩, fun ⟨c, hc, hb⟩ => by rw [← hb, Option.some.inj hc]⟩

/-- A slot that was filled when there was an event to fill it with. -/
theorem present_getD {absent : α} (habsent : nr absent = absentNr) {o : Option α}
    (ho : ∀ a ∈ o, nr a ≠ absentNr) : present nr (o.getD absent) = o := by
  cases o with
  | none => exact if_pos habsent
  | some a => exact present_of_ne (ho a rfl)

end Slots

namespace Simregion

/-- The message of a simregion, if it has one. -/
def message? (r : Simregion) : Option Message := present Message.nr r.message

/-- The condition of a simregion, if it has one. -/
def condition? (r : Simregion) : Option Condition := present Condition.nr r.condition

/-- The update of a simregion, if it has one. -/
def update? (r : Simregion) : Option Update := present Update.nr r.update

/-- The simregion without its number. -/
def unnumbered (r : Simregion) : Simregion := { r with nr := 0 }

/-- The events of a simregion belong together. There is one of them; the condition and the update of a
    message are on its row and on one of its lines, and the update of a condition without a message is
    on the row and one of the lines of the condition. -/
structure Together (r : Simregion) : Prop where
  event : ∃ k, r.has k = true
  condition : ∀ m, r.message? = some m → ∀ c, r.condition? = some c →
    ∃ a ∈ [m.source, m.target], c.isOn m.location a.index = true
  update : ∀ m, r.message? = some m → ∀ u, r.update? = some u →
    ∃ a ∈ [m.source, m.target], u.isOn m.location a.index = true
  rest : r.message? = none → ∀ c, r.condition? = some c → ∀ u, r.update? = some u →
    ∃ a ∈ c.anchors, u.isOn c.location a.index = true

theorem together_unnumbered {r : Simregion} : r.unnumbered.Together ↔ r.Together :=
  ⟨fun h => ⟨h.event, h.condition, h.update, h.rest⟩,
    fun h => ⟨h.event, h.condition, h.update, h.rest⟩⟩

end Simregion

/-! ## Taking from a pool -/

section Taking

variable {α : Type} {on : Int → α → Bool} {lines : List Int} {pool left : List α} {taken : Option α}

/-- What was taken from a pool for some lines, and what is left: a member on one of the lines, or
    nothing because no member is on any of them. -/
structure Taken (on : Int → α → Bool) (lines : List Int) (pool : List α) (taken : Option α)
    (left : List α) : Prop where
  perm : pool.Perm (taken.toList ++ left)
  on_line : ∀ a ∈ taken, ∃ line ∈ lines, on line a = true
  none_on_line : taken = none → ∀ line ∈ lines, ∀ a ∈ pool, on line a = false

theorem taken_takeOnLines (on : Int → α → Bool) (pool : List α) (lines : List Int) :
    Taken on lines pool (takeOnLines on pool lines).1 (takeOnLines on pool lines).2 := by
  induction lines with
  | nil => exact ⟨.refl _, by simp [takeOnLines], by simp⟩
  | cons line lines ih =>
    rw [takeOnLines]
    cases hfind : pool.find? (on line) with
    | some a =>
      obtain ⟨ha, before, after, rfl, hbefore⟩ := List.find?_eq_some_iff_append.mp hfind
      have hrest : (before ++ a :: after).eraseP (on line) = before ++ after := by
        rw [List.eraseP_append_right _ (by simpa using hbefore), List.eraseP_cons_of_pos ha]
      refine ⟨?_, fun b hb => ?_, fun hnone => absurd hnone (Option.some_ne_none a)⟩
      · rw [hrest]
        exact List.perm_middle
      · obtain rfl := Option.some.inj hb
        exact ⟨line, List.mem_cons_self, ha⟩
    | none =>
      have hoff : ∀ a ∈ pool, on line a = false := by simpa using List.find?_eq_none.mp hfind
      refine ⟨ih.perm, fun a ha => ?_, fun hnone => ?_⟩
      · obtain ⟨l, hl, hon⟩ := ih.on_line a ha
        exact ⟨l, List.mem_cons_of_mem _ hl, hon⟩
      · exact List.forall_mem_cons.mpr ⟨hoff, ih.none_on_line hnone⟩

theorem Taken.mem_of_taken (h : Taken on lines pool taken left) {a : α} (ha : a ∈ taken) : a ∈ pool :=
  h.perm.mem_iff.mpr (List.mem_append_left _ (by simpa using ha))

theorem Taken.mem_of_left (h : Taken on lines pool taken left) {a : α} (ha : a ∈ left) : a ∈ pool :=
  h.perm.mem_iff.mpr (List.mem_append_right _ ha)

/-- Something is taken if something of the pool is on one of the lines. -/
theorem Taken.exists_taken (h : Taken on lines pool taken left) {a : α} (ha : a ∈ pool)
    (hon : ∃ line ∈ lines, on line a = true) : ∃ b, taken = some b := by
  obtain ⟨line, hline, hon⟩ := hon
  apply Option.ne_none_iff_exists'.mp
  intro hnone
  exact Bool.false_ne_true ((h.none_on_line hnone line hline a ha).symm.trans hon)

/-- What was taken fills a slot, when no event of the pool is one that stands for none. -/
theorem taken_slot (nr : α → Int) {absent : α} (habsent : nr absent = absentNr)
    (hpool : ∀ a ∈ pool, nr a ≠ absentNr) (on : Int → α → Bool) (lines : List Int) :
    Taken on lines pool (present nr ((takeOnLines on pool lines).1.getD absent))
      (takeOnLines on pool lines).2 := by
  have htaken := taken_takeOnLines on pool lines
  rw [present_getD habsent fun a ha => hpool a (htaken.mem_of_taken ha)]
  exact htaken

end Taking

/-! ## Sharing out a pool -/

namespace Pool

/-- No event of the pool is one that stands for none. -/
structure Present (pool : Pool) : Prop where
  conditions : ∀ c ∈ pool.conditions, c.nr ≠ absentNr
  updates : ∀ u ∈ pool.updates, u.nr ≠ absentNr

/-- The simregions have what was in one pool and is no longer in the other. -/
structure Shares (pool : Pool) (regions : List Simregion) (left : Pool) : Prop where
  conditions : pool.conditions.Perm (regions.filterMap Simregion.condition? ++ left.conditions)
  updates : pool.updates.Perm (regions.filterMap Simregion.update? ++ left.updates)

variable {pool mid left : Pool} {regions rest : List Simregion}

theorem Shares.refl (pool : Pool) : pool.Shares [] pool := ⟨.refl _, .refl _⟩

theorem Shares.trans (h : pool.Shares regions mid) (h' : mid.Shares rest left) :
    pool.Shares (regions ++ rest) left where
  conditions := by
    rw [List.filterMap_append, List.append_assoc]
    exact h.conditions.trans (h'.conditions.append_left _)
  updates := by
    rw [List.filterMap_append, List.append_assoc]
    exact h.updates.trans (h'.updates.append_left _)

theorem Shares.present (h : pool.Shares regions left) (hpool : pool.Present) : left.Present where
  conditions c hc :=
    hpool.conditions c (h.conditions.mem_iff.mpr (List.mem_append_right _ hc))
  updates u hu := hpool.updates u (h.updates.mem_iff.mpr (List.mem_append_right _ hu))

/-- One simregion shares out what it was filled with. -/
theorem shares_singleton {r : Simregion}
    (hconditions : pool.conditions.Perm (r.condition?.toList ++ left.conditions))
    (hupdates : pool.updates.Perm (r.update?.toList ++ left.updates)) : pool.Shares [r] left where
  conditions := by
    rw [List.filterMap_eq_flatMap_toList, List.flatMap_singleton]
    exact hconditions
  updates := by
    rw [List.filterMap_eq_flatMap_toList, List.flatMap_singleton]
    exact hupdates

end Pool

/-! ## The pass over the messages -/

section Messages

variable {pool : Pool} {m : Message} {ms : List Message}

theorem ofMessages_cons (pool : Pool) (m : Message) (ms : List Message) :
    ofMessages pool (m :: ms) = ((pool.takeMessage m).1 :: (ofMessages (pool.takeMessage m).2 ms).1,
      (ofMessages (pool.takeMessage m).2 ms).2) := rfl

/-- The simregion of a message takes a condition and an update on the row and the lines of the
    message. -/
theorem taken_takeMessage (hpool : pool.Present) (m : Message) :
    Taken (fun line c => c.isOn m.location line) [m.source.index, m.target.index] pool.conditions
        (pool.takeMessage m).1.condition? (pool.takeMessage m).2.conditions
      ∧ Taken (fun line u => u.isOn m.location line) [m.source.index, m.target.index] pool.updates
        (pool.takeMessage m).1.update? (pool.takeMessage m).2.updates :=
  ⟨taken_slot Condition.nr rfl hpool.conditions _ _, taken_slot Update.nr rfl hpool.updates _ _⟩

theorem message?_takeMessage (pool : Pool) (hm : m.nr ≠ absentNr) :
    (pool.takeMessage m).1.message? = some m := present_of_ne hm

theorem shares_takeMessage (hpool : pool.Present) (m : Message) :
    pool.Shares [(pool.takeMessage m).1] (pool.takeMessage m).2 :=
  have ⟨hconditions, hupdates⟩ := taken_takeMessage hpool m
  Pool.shares_singleton hconditions.perm hupdates.perm

theorem together_takeMessage (hpool : pool.Present) (hm : m.nr ≠ absentNr) :
    (pool.takeMessage m).1.Together := by
  have hmessage := message?_takeMessage pool hm
  obtain ⟨hconditions, hupdates⟩ := taken_takeMessage hpool m
  refine
    { event := ⟨.message, bne_iff_ne.mpr hm⟩
      condition := fun n hn c hc => ?_
      update := fun n hn u hu => ?_
      rest := fun hnone => absurd (hmessage.symm.trans hnone) nofun }
  · obtain rfl := Option.some.inj (hmessage.symm.trans hn)
    simpa using hconditions.on_line c hc
  · obtain rfl := Option.some.inj (hmessage.symm.trans hn)
    simpa using hupdates.on_line u hu

theorem shares_ofMessages (hpool : pool.Present) (ms : List Message) :
    pool.Shares (ofMessages pool ms).1 (ofMessages pool ms).2 := by
  induction ms generalizing pool with
  | nil => exact .refl pool
  | cons m ms ih =>
    have hfirst := shares_takeMessage hpool m
    exact hfirst.trans (ih (hfirst.present hpool))

/-- The simregions of messages have those messages, in order. -/
theorem filterMap_message?_ofMessages (pool : Pool) (hms : ∀ m ∈ ms, m.nr ≠ absentNr) :
    (ofMessages pool ms).1.filterMap Simregion.message? = ms := by
  induction ms generalizing pool with
  | nil => rfl
  | cons m ms ih =>
    obtain ⟨hm, hms⟩ := List.forall_mem_cons.mp hms
    rw [ofMessages_cons, List.filterMap_cons_some (message?_takeMessage pool hm), ih _ hms]

/-- Each of them has a message and what belongs to it. -/
theorem mem_ofMessages (hpool : pool.Present) (hms : ∀ m ∈ ms, m.nr ≠ absentNr) {r : Simregion}
    (hr : r ∈ (ofMessages pool ms).1) : r.message? ≠ none ∧ r.Together := by
  induction ms generalizing pool with
  | nil => exact absurd hr List.not_mem_nil
  | cons m ms ih =>
    obtain ⟨hm, hms⟩ := List.forall_mem_cons.mp hms
    rw [ofMessages_cons] at hr
    rcases List.mem_cons.mp hr with rfl | hr
    · rw [message?_takeMessage pool hm]
      exact ⟨nofun, together_takeMessage hpool hm⟩
    · exact ih ((shares_takeMessage hpool m).present hpool) hms hr

/-- **A message leaves a condition on its row and on one of its lines only if it takes another.** -/
theorem exists_of_mem_left (hpool : pool.Present) (hms : ∀ m ∈ ms, m.nr ≠ absentNr) {c : Condition}
    (hc : c ∈ (ofMessages pool ms).2.conditions) (hm : m ∈ ms)
    (hon : ∃ a ∈ [m.source, m.target], c.isOn m.location a.index = true) :
    ∃ r ∈ (ofMessages pool ms).1, r.message? = some m ∧ ∃ d, r.condition? = some d := by
  induction ms generalizing pool with
  | nil => exact absurd hm List.not_mem_nil
  | cons n ms ih =>
    obtain ⟨hn, hms⟩ := List.forall_mem_cons.mp hms
    have hfirst := shares_takeMessage hpool n
    have hleft := hfirst.present hpool
    rcases List.mem_cons.mp hm with rfl | hm
    · refine ⟨(pool.takeMessage m).1, List.mem_cons_self, message?_takeMessage pool hn, ?_⟩
      -- The condition that is left was in the pool and could have been taken.
      have hbefore : c ∈ (pool.takeMessage m).2.conditions :=
        (shares_ofMessages hleft ms).conditions.mem_iff.mpr (List.mem_append_right _ hc)
      have htaken := (taken_takeMessage hpool m).1
      obtain ⟨a, ha, hon⟩ := hon
      exact htaken.exists_taken (htaken.mem_of_left hbefore)
        ⟨a.index, List.mem_map_of_mem (f := Handle.index) ha, hon⟩
    · obtain ⟨r, hr, hrest⟩ := ih hleft hms hc hm
      exact ⟨r, List.mem_cons_of_mem _ hr, hrest⟩

end Messages

/-! ## The passes over what is left -/

section Rest

variable {updates : List Update} {cs : List Condition}

/-- The first of the conditions takes an update on its row and one of its lines. -/
theorem ofConditions_cons (hupdates : ∀ u ∈ updates, u.nr ≠ absentNr) (c : Condition)
    (cs : List Condition) : ∃ (r : Simregion) (left : List Update),
    ofConditions updates (c :: cs) = (r :: (ofConditions left cs).1, (ofConditions left cs).2)
      ∧ r.message? = none ∧ r.condition = c
      ∧ Taken (fun line u => u.isOn c.location line) (c.anchors.map fun anchor => anchor.index)
          updates r.update? left :=
  ⟨_, _, rfl, rfl, rfl, taken_slot Update.nr rfl hupdates _ _⟩

theorem shares_ofConditions (hpool : Pool.Present ⟨cs, updates⟩) :
    Pool.Shares ⟨cs, updates⟩ (ofConditions updates cs).1 ⟨[], (ofConditions updates cs).2⟩ := by
  induction cs generalizing updates with
  | nil => exact .refl _
  | cons c cs ih =>
    obtain ⟨r, left, heq, -, hcondition, htaken⟩ := ofConditions_cons hpool.updates c cs
    have hslot : r.condition? = some c := by
      rw [Simregion.condition?, hcondition]
      exact present_of_ne (hpool.conditions c List.mem_cons_self)
    have hfirst : Pool.Shares ⟨c :: cs, updates⟩ [r] ⟨cs, left⟩ :=
      Pool.shares_singleton (by rw [hslot]; exact .refl _) htaken.perm
    rw [heq]
    exact hfirst.trans (ih (hfirst.present hpool))

/-- The simregions of conditions have no message, a condition that was left, and what belongs to it. -/
theorem mem_ofConditions (hpool : Pool.Present ⟨cs, updates⟩) {r : Simregion}
    (hr : r ∈ (ofConditions updates cs).1) :
    r.message? = none ∧ r.condition ∈ cs ∧ r.Together := by
  induction cs generalizing updates with
  | nil => exact absurd hr List.not_mem_nil
  | cons c cs ih =>
    obtain ⟨first, left, heq, hmessage, hcondition, htaken⟩ := ofConditions_cons hpool.updates c cs
    have hc := hpool.conditions c List.mem_cons_self
    rw [heq] at hr
    rcases List.mem_cons.mp hr with rfl | hr
    · refine ⟨hmessage, hcondition ▸ List.mem_cons_self, ?_⟩
      refine
        { event := ⟨.condition, bne_iff_ne.mpr (by rw [Simregion.eventNr, hcondition]; exact hc)⟩
          condition := fun m hm => absurd (hmessage.symm.trans hm) nofun
          update := fun m hm => absurd (hmessage.symm.trans hm) nofun
          rest := fun _ d hd u hu => ?_ }
      obtain rfl : c = d := hcondition.symm.trans (present_eq_some_iff.mp hd).2
      simpa using htaken.on_line u hu
    · have hleft : Pool.Present ⟨cs, left⟩ :=
        ⟨fun d hd => hpool.conditions d (List.mem_cons_of_mem c hd),
          fun u hu => hpool.updates u (htaken.mem_of_left hu)⟩
      obtain ⟨hnone, hmem, htogether⟩ := ih hleft hr
      exact ⟨hnone, List.mem_cons_of_mem c hmem, htogether⟩

theorem shares_ofUpdates (hupdates : ∀ u ∈ updates, u.nr ≠ absentNr) :
    Pool.Shares ⟨[], updates⟩ (ofUpdates updates) ⟨[], []⟩ := by
  induction updates with
  | nil => exact .refl _
  | cons u updates ih =>
    obtain ⟨hu, hupdates⟩ := List.forall_mem_cons.mp hupdates
    have hslot : Simregion.update? { update := u } = some u := present_of_ne hu
    have hfirst : Pool.Shares ⟨[], u :: updates⟩ [{ update := u }] ⟨[], updates⟩ :=
      Pool.shares_singleton (.refl _) (by rw [hslot]; exact .refl _)
    exact hfirst.trans (ih hupdates)

/-- The simregions of updates have nothing else. -/
theorem mem_ofUpdates (hupdates : ∀ u ∈ updates, u.nr ≠ absentNr) {r : Simregion}
    (hr : r ∈ ofUpdates updates) : r.message? = none ∧ r.condition? = none ∧ r.Together := by
  obtain ⟨u, hu, rfl⟩ := List.mem_map.mp hr
  have hmessage : Simregion.message? { update := u } = none := rfl
  have hcondition : Simregion.condition? { update := u } = none := rfl
  exact ⟨hmessage, hcondition,
    { event := ⟨.update, bne_iff_ne.mpr (hupdates u hu)⟩
      condition := fun m hm => absurd (hmessage.symm.trans hm) nofun
      update := fun m hm => absurd (hmessage.symm.trans hm) nofun
      rest := fun _ c hc => absurd (hcondition.symm.trans hc) nofun }⟩

end Rest

/-! ## All simregions of a chart -/

namespace Events

/-- Every event has a number of its own, and none is one that stands for none. -/
structure Identified (e : Events) : Prop where
  messages : (e.messages.map Message.nr).Nodup
  conditions : (e.conditions.map Condition.nr).Nodup
  updates : (e.updates.map Update.nr).Nodup
  present : ∀ m ∈ e.messages, m.nr ≠ absentNr
  pool : Pool.Present ⟨e.conditions, e.updates⟩

/-- The simregions share out the events of a chart: each event is in one of them, what is together
    belongs together, and a condition is without a message only where every message that could have
    taken it has taken another. -/
structure Shared (e : Events) (regions : List Simregion) : Prop where
  messages : (regions.filterMap Simregion.message?).Perm e.messages
  conditions : (regions.filterMap Simregion.condition?).Perm e.conditions
  updates : (regions.filterMap Simregion.update?).Perm e.updates
  together : ∀ r ∈ regions, r.Together
  alone : ∀ r ∈ regions, r.message? = none → ∀ c, r.condition? = some c → ∀ m ∈ e.messages,
    (∃ a ∈ [m.source, m.target], c.isOn m.location a.index = true) →
      ∃ q ∈ regions, q.message? = some m ∧ ∃ d, q.condition? = some d ∧ d ≠ c

variable {e : Events} {regions : List Simregion}

/-- What the messages leave. -/
def afterMessages (e : Events) : Pool := (ofMessages ⟨e.conditions, e.updates⟩ e.messages).2

/-- What the conditions leave. -/
def afterConditions (e : Events) : List Update :=
  (ofConditions e.afterMessages.updates e.afterMessages.conditions).2

theorem grouped_eq (e : Events) : e.grouped = (ofMessages ⟨e.conditions, e.updates⟩ e.messages).1
    ++ (ofConditions e.afterMessages.updates e.afterMessages.conditions).1
    ++ ofUpdates e.afterConditions := rfl

theorem Identified.afterMessages (h : e.Identified) : e.afterMessages.Present :=
  (shares_ofMessages h.pool e.messages).present h.pool

theorem Identified.afterConditions (h : e.Identified) : ∀ u ∈ e.afterConditions, u.nr ≠ absentNr :=
  ((shares_ofConditions h.afterMessages).present h.afterMessages).updates

theorem shares_grouped (h : e.Identified) :
    Pool.Shares ⟨e.conditions, e.updates⟩ e.grouped ⟨[], []⟩ :=
  ((shares_ofMessages h.pool e.messages).trans (shares_ofConditions h.afterMessages)).trans
    (shares_ofUpdates h.afterConditions)

/-- Every simregion comes from one of the three passes. -/
theorem mem_grouped (h : e.Identified) {r : Simregion} (hr : r ∈ e.grouped) : r.Together
    ∧ (r.message? ≠ none ∨ r.message? = none ∧ r.condition ∈ e.afterMessages.conditions
      ∨ r.message? = none ∧ r.condition? = none) := by
  rw [grouped_eq] at hr
  rcases List.mem_append.mp hr with hr | hr
  · rcases List.mem_append.mp hr with hr | hr
    · obtain ⟨hmessage, htogether⟩ := mem_ofMessages h.pool h.present hr
      exact ⟨htogether, Or.inl hmessage⟩
    · obtain ⟨hmessage, hcondition, htogether⟩ := mem_ofConditions h.afterMessages hr
      exact ⟨htogether, Or.inr (Or.inl ⟨hmessage, hcondition⟩)⟩
  · obtain ⟨hmessage, hcondition, htogether⟩ := mem_ofUpdates h.afterConditions hr
    exact ⟨htogether, Or.inr (Or.inr ⟨hmessage, hcondition⟩)⟩

theorem filterMap_message?_grouped (h : e.Identified) :
    e.grouped.filterMap Simregion.message? = e.messages := by
  have hconditions : (ofConditions e.afterMessages.updates e.afterMessages.conditions).1.filterMap
      Simregion.message? = [] :=
    List.filterMap_eq_nil_iff.mpr fun r hr => (mem_ofConditions h.afterMessages hr).1
  have hupdates : (ofUpdates e.afterConditions).filterMap Simregion.message? = [] :=
    List.filterMap_eq_nil_iff.mpr fun r hr => (mem_ofUpdates h.afterConditions hr).1
  rw [grouped_eq, List.filterMap_append, List.filterMap_append,
    filterMap_message?_ofMessages _ h.present, hconditions, hupdates, List.append_nil, List.append_nil]

/-- **The simregions that the derivation makes share out the events of the chart.** -/
theorem shared_grouped (h : e.Identified) : e.Shared e.grouped where
  messages := by rw [filterMap_message?_grouped h]
  conditions := by simpa using (shares_grouped h).conditions.symm
  updates := by simpa using (shares_grouped h).updates.symm
  together r hr := (mem_grouped h hr).1
  alone := by
    intro r hr hnone c hc m hm hon
    -- The condition was left by the messages.
    have hleft : c ∈ e.afterMessages.conditions := by
      rcases (mem_grouped h hr).2 with hmessage | ⟨_, hmem⟩ | ⟨_, hcondition⟩
      · exact absurd hnone hmessage
      · exact (present_eq_some_iff.mp hc).2 ▸ hmem
      · exact absurd (hcondition.symm.trans hc) nofun
    obtain ⟨q, hq, hqm, d, hqd⟩ := exists_of_mem_left h.pool h.present hleft hm hon
    refine ⟨q, List.mem_append_left _ (List.mem_append_left _ hq), hqm, d, hqd, ?_⟩
    -- What a message took is not left.
    have hdistinct := ((shares_ofMessages h.pool e.messages).conditions.nodup_iff.mp
      (List.Nodup.of_map Condition.nr h.conditions))
    rintro rfl
    exact List.disjoint_of_nodup_append hdistinct (List.mem_filterMap.mpr ⟨q, hq, hqd⟩) hleft

/-- Simregions that differ in order and numbers only share out the same events. -/
theorem Shared.renumbered {others : List Simregion} (h : e.Shared regions)
    (hperm : (others.map Simregion.unnumbered).Perm (regions.map Simregion.unnumbered)) :
    e.Shared others := by
  have hslot : ∀ {α : Type} (f : Simregion → Option α), (∀ r, f r.unnumbered = f r) →
      (others.filterMap f).Perm (regions.filterMap f) := by
    intro α f hf
    have hskip : f ∘ Simregion.unnumbered = f := funext hf
    simpa only [List.filterMap_map, hskip] using hperm.filterMap f
  have hfound : ∀ r ∈ others, ∃ q ∈ regions, q.unnumbered = r.unnumbered := fun r hr =>
    List.mem_map.mp (hperm.mem_iff.mp (List.mem_map_of_mem hr))
  exact
    { messages := (hslot _ fun _ => rfl).trans h.messages
      conditions := (hslot _ fun _ => rfl).trans h.conditions
      updates := (hslot _ fun _ => rfl).trans h.updates
      together := by
        intro r hr
        obtain ⟨q, hq, heq⟩ := hfound r hr
        exact Simregion.together_unnumbered.mp
          (heq ▸ Simregion.together_unnumbered.mpr (h.together q hq))
      alone := by
        intro r hr hnone c hc m hm hon
        obtain ⟨q, hq, heq⟩ := hfound r hr
        obtain ⟨p, hp, hpm, d, hd, hne⟩ :=
          h.alone q hq ((congrArg Simregion.message? heq).trans hnone) c
            ((congrArg Simregion.condition? heq).trans hc) m hm hon
        obtain ⟨r', hr', heq'⟩ := List.mem_map.mp (hperm.mem_iff.mpr (List.mem_map_of_mem hp))
        exact ⟨r', hr', (congrArg Simregion.message? heq').trans hpm, d,
          (congrArg Simregion.condition? heq').trans hd, hne⟩ }

theorem map_unnumbered_numbered (regions : List Simregion) :
    (numbered regions).map Simregion.unnumbered = regions.map Simregion.unnumbered := by
  refine List.ext_getElem? fun i => ?_
  rw [numbered, List.getElem?_map, List.getElem?_map, List.getElem?_mapIdx]
  cases regions[i]? <;> rfl

/-- Under every precedence there are the same simregions. -/
theorem simregions_perm (e : Events) (precedence : Precedence) :
    ((e.simregions precedence).map Simregion.unnumbered).Perm
      (e.grouped.map Simregion.unnumbered) := by
  rw [simregions, map_unnumbered_numbered]
  exact (List.mergeSort_perm _ _).map _

theorem shared_simregions (h : e.Identified) (precedence : Precedence) :
    e.Shared (e.simregions precedence) :=
  (shared_grouped h).renumbered (simregions_perm e precedence)

end Events

end TimedNet
