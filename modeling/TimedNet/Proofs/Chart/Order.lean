import Mathlib
import TimedNet.Proofs.Chart.Partition

/-!
# `TimedNet.Proofs.Chart.Order` — the order of simregions is total

Simregions are ordered by row, by the kind of event that leads, and by the number of that event. Two of
them cannot agree in all three, because they would have the leading event in common. So the order leaves
the sort nothing to decide, and what a precedence chooses is the order within a row only.

* `Simregion.key`, `before_iff`: the order, as one of keys.
* `Simregion.Leads`: the event that gives a simregion its place in its row.
* `Events.nodup_keys`: no two simregions have the same key.
* `Events.InOrder`, `inOrder_simregions`: what holds of the simregions of a chart in order.
* `map_location_simregions`: the rows are the same under every precedence.
* `Store.simregions_inOrder`: all this for every reachable chart.
-/

namespace TimedNet

namespace Simregion

variable {precedence : Precedence} {r q : Simregion}

/-- What simregions are ordered by: the row, then the place in the precedence of the first kind of event
    that the simregion has, then the number of the event of that kind. -/
def key (precedence : Precedence) (r : Simregion) : Int ×ₗ Nat ×ₗ Int :=
  toLex (r.location, toLex (r.rank precedence, r.leadingNr precedence))

theorem before_iff : r.before precedence q = true ↔ r.key precedence ≤ q.key precedence := by
  unfold before key
  rw [Prod.Lex.toLex_le_toLex, Prod.Lex.toLex_le_toLex]
  split
  · next hrow => simp [hrow]
  · next hrow =>
    rw [not_ne_iff] at hrow
    split
    · next hrank => simp [hrow, hrank]
    · next hrank => simp [hrow, not_ne_iff.mp hrank]

theorem before_trans (r q p : Simregion) (h : r.before precedence q = true)
    (h' : q.before precedence p = true) : r.before precedence p = true :=
  before_iff.mpr (le_trans (before_iff.mp h) (before_iff.mp h'))

theorem before_total (r q : Simregion) :
    (r.before precedence q || q.before precedence r) = true := by
  rw [Bool.or_eq_true, before_iff, before_iff]
  exact le_total _ _

/-- The event of kind `k` gives the simregion its place in its row: the simregion has it, and no event of
    a kind that comes earlier in the precedence. -/
structure Leads (precedence : Precedence) (r : Simregion) (k : EventKind) : Prop where
  place : precedence[r.rank precedence]? = some k
  has : r.has k = true
  first : ∀ i < r.rank precedence, ∀ l, precedence[i]? = some l → r.has l = false
  nr : r.leadingNr precedence = r.eventNr k

theorem exists_leads {k : EventKind} (hk : k ∈ precedence) (hr : r.has k = true) :
    ∃ l, r.Leads precedence l := by
  obtain ⟨l, hl⟩ := Option.isSome_iff_exists.mp (List.find?_isSome.mpr ⟨k, hk, hr⟩)
  obtain ⟨hhas, i, hi, rfl, hfirst⟩ := List.find?_eq_some_iff_getElem.mp hl
  have hnone : ∀ (j : Nat) (hj : j < i), r.has precedence[j] = false :=
    fun j hj => by simpa using hfirst j hj
  -- Both scans stop at the same place.
  have hrank : r.rank precedence = i := (List.findIdx_eq hi).mpr ⟨hhas, hnone⟩
  refine ⟨precedence[i], ?_, hhas, fun j hj m hm => ?_, ?_⟩
  · rw [hrank, List.getElem?_eq_getElem hi]
  · obtain ⟨_, rfl⟩ := List.getElem?_eq_some_iff.mp hm
    exact hnone j (hrank ▸ hj)
  · rw [leadingNr, hl]

/-- Simregions in one place of one row have the same kind of event there, under the same number. -/
theorem Leads.eventNr_eq {k l : EventKind} (hr : r.Leads precedence k) (hq : q.Leads precedence l)
    (hkey : r.key precedence = q.key precedence) : r.eventNr k = q.eventNr k := by
  simp only [key, EmbeddingLike.apply_eq_iff_eq, Prod.mk.injEq] at hkey
  obtain ⟨-, hrank, hnr⟩ := hkey
  obtain rfl : k = l := Option.some.inj (hr.place.symm.trans (hrank ▸ hq.place))
  rw [← hr.nr, hnr, hq.nr]

end Simregion

namespace Events

variable {e : Events} {precedence : Precedence} {regions : List Simregion}

/-- An event of one simregion has another number than those of its kind in other simregions. -/
theorem Shared.pairwise_eventNr (h : e.Shared regions) (hid : e.Identified) :
    regions.Pairwise fun r q => ∀ k, r.has k = true → r.eventNr k ≠ q.eventNr k := by
  refine ((pairwise_nr h.messages hid.messages).and
    ((pairwise_nr h.conditions hid.conditions).and (pairwise_nr h.updates hid.updates))).imp ?_
  intro r q ⟨hmessage, hcondition, hupdate⟩ k hk
  cases k with
  | message => exact hmessage (bne_iff_ne.mp hk)
  | condition => exact hcondition (bne_iff_ne.mp hk)
  | update => exact hupdate (bne_iff_ne.mp hk)

/-- **No two simregions have the same key**, if the precedence has all kinds of event. -/
theorem Shared.nodup_keys (h : e.Shared regions) (hid : e.Identified)
    (hall : ∀ k, k ∈ precedence) : (regions.map (Simregion.key precedence)).Nodup := by
  refine List.pairwise_map.mpr ((h.pairwise_eventNr hid).imp_of_mem ?_)
  intro r q hr hq hdiffer hkey
  obtain ⟨i, hi⟩ := (h.together r hr).event
  obtain ⟨j, hj⟩ := (h.together q hq).event
  obtain ⟨k, hk⟩ := Simregion.exists_leads (hall i) hi
  obtain ⟨l, hl⟩ := Simregion.exists_leads (hall j) hj
  exact hdiffer k hk.has (hk.eventNr_eq hl hkey)

/-- The simregions are in the order of their keys, which are all different; each has an event that leads
    and is numbered by its position; and there is no other way to sort them. -/
structure InOrder (e : Events) (precedence : Precedence) (regions : List Simregion) : Prop where
  increasing : regions.Pairwise fun r q => r.key precedence < q.key precedence
  leading : ∀ r ∈ regions, ∃ k, r.Leads precedence k
  numbers : ∀ (i : Nat) (r : Simregion), regions[i]? = some r → r.nr = i
  settled : ∀ others : List Simregion, others.Perm e.grouped →
    others.Pairwise (fun r q => r.before precedence q = true) → numbered others = regions

/-- The simregions in order, before they are numbered. -/
theorem pairwise_sorted (e : Events) (precedence : Precedence) :
    (e.grouped.mergeSort (Simregion.before precedence)).Pairwise
      fun r q => r.before precedence q = true :=
  List.pairwise_mergeSort Simregion.before_trans Simregion.before_total _

/-- What does not look at the numbers of simregions finds the numbered ones as it finds the others. -/
theorem map_numbered {α : Type} {f : Simregion → α} (hf : ∀ r : Simregion, f r.unnumbered = f r)
    (regions : List Simregion) : (numbered regions).map f = regions.map f := by
  have hskip : f ∘ Simregion.unnumbered = f := funext hf
  rw [← hskip, ← List.map_map, map_unnumbered_numbered, List.map_map]

theorem map_key_simregions (e : Events) (precedence : Precedence) :
    (e.simregions precedence).map (Simregion.key precedence)
      = (e.grouped.mergeSort (Simregion.before precedence)).map (Simregion.key precedence) :=
  map_numbered (fun _ => rfl) _

/-- **The simregions of a chart are in order**, under every precedence with all kinds of event. -/
theorem inOrder_simregions (hid : e.Identified) (hall : ∀ k, k ∈ precedence) :
    e.InOrder precedence (e.simregions precedence) where
  increasing := by
    have hnodup : ((e.simregions precedence).map (Simregion.key precedence)).Nodup :=
      (shared_simregions hid precedence).nodup_keys hid hall
    have hle : ((e.simregions precedence).map (Simregion.key precedence)).Pairwise (· ≤ ·) := by
      rw [map_key_simregions]
      exact List.pairwise_map.mpr ((e.pairwise_sorted precedence).imp Simregion.before_iff.mp)
    exact List.pairwise_map.mp ((hle.and hnodup).imp fun ⟨hle, hne⟩ => lt_of_le_of_ne hle hne)
  leading r hr := by
    obtain ⟨k, hk⟩ := ((shared_simregions hid precedence).together r hr).event
    exact Simregion.exists_leads (hall k) hk
  numbers i r hr := by
    rw [simregions, numbered, List.getElem?_mapIdx] at hr
    obtain ⟨q, -, rfl⟩ := Option.map_eq_some_iff.mp hr
    rfl
  settled others hperm hsorted := by
    have hinjective := List.inj_on_of_nodup_map ((shared_grouped hid).nodup_keys hid hall)
    -- Simregions that come before each other have the same key, and so are the same.
    have heq : others = e.grouped.mergeSort (Simregion.before precedence) := by
      refine List.Perm.eq_of_pairwise (fun r q hr hq hrq hqr => ?_) hsorted
        (e.pairwise_sorted precedence) (hperm.trans (List.mergeSort_perm _ _).symm)
      exact hinjective (hperm.mem_iff.mp hr) (List.mem_mergeSort.mp hq)
        (le_antisymm (Simregion.before_iff.mp hrq) (Simregion.before_iff.mp hqr))
    rw [heq, simregions]

/-- The rows of the simregions are in order, whatever the precedence. -/
theorem pairwise_location (e : Events) (precedence : Precedence) :
    ((e.simregions precedence).map Simregion.location).Pairwise (· ≤ ·) := by
  rw [simregions, map_numbered fun _ => rfl]
  refine List.pairwise_map.mpr ((e.pairwise_sorted precedence).imp fun {r q} h => ?_)
  rcases Prod.Lex.toLex_le_toLex.mp (Simregion.before_iff.mp h) with hlt | ⟨heq, -⟩
  · exact le_of_lt hlt
  · exact le_of_eq heq

/-- **Every precedence gives the same simregions**, order and numbers aside. -/
theorem simregions_perm_simregions (e : Events) (p q : Precedence) :
    ((e.simregions p).map Simregion.unnumbered).Perm
      ((e.simregions q).map Simregion.unnumbered) :=
  (e.simregions_perm p).trans (e.simregions_perm q).symm

/-- **Every precedence gives the same rows**, in the same order. -/
theorem map_location_simregions (e : Events) (p q : Precedence) :
    (e.simregions p).map Simregion.location = (e.simregions q).map Simregion.location := by
  have hperm := (e.simregions_perm_simregions p q).map Simregion.location
  simp only [List.map_map] at hperm
  exact List.Perm.eq_of_pairwise (fun _ _ _ _ => le_antisymm) (e.pairwise_location p)
    (e.pairwise_location q) hperm

end Events

namespace Store

variable {s : Store}

/-- **The order of simregions is total, and a precedence orders within the rows only.** For every template
    that a program can make and every precedence that has each kind of event once: the simregions of the
    chart are strictly in order, so that there is one way to sort them, and are numbered by their
    positions; any other such precedence gives the same simregions and the same sequence of rows. -/
theorem simregions_inOrder {condition : Store → Operation → Prop} (hrun : Run condition {} s)
    {t : TemplateId} (ht : t ∈ s.templates) {p : Precedence} (hp : p.Perm EventKind.all) :
    (s.template t).events.InOrder p ((s.template t).events.simregions p)
      ∧ ∀ q : Precedence, q.Perm EventKind.all →
        (((s.template t).events.simregions p).map Simregion.unnumbered).Perm
            (((s.template t).events.simregions q).map Simregion.unnumbered)
          ∧ ((s.template t).events.simregions p).map Simregion.location
            = ((s.template t).events.simregions q).map Simregion.location := by
  have hid := (hrun.bodied t ht).1.identified
  have hall : ∀ k, k ∈ p := fun k => hp.mem_iff.mpr (by cases k <;> decide)
  exact ⟨Events.inOrder_simregions hid hall, fun q _ =>
    ⟨Events.simregions_perm_simregions _ p q, Events.map_location_simregions _ p q⟩⟩

/-- A message with an update, a condition and an update alone on one row, and a condition on an earlier one:
    conditions lead in the one order, updates in the other, and the rows are the same. -/
theorem simregions_inOrder_updates_first : ∃ s : Store, Run (fun _ _ => True) {} s
    ∧ (((s.template ⟨0⟩).events.simregions .standard).map fun r =>
        (r.message.nr, r.condition.nr, r.update.nr))
      = [(-1, 1, -1), (-1, 0, -1), (0, -1, 1), (-1, -1, 0)]
    ∧ (((s.template ⟨0⟩).events.simregions [.update, .condition, .message]).map fun r =>
        (r.message.nr, r.condition.nr, r.update.nr))
      = [(-1, 1, -1), (-1, -1, 0), (0, -1, 1), (-1, 0, -1)]
    ∧ (s.template ⟨0⟩).events.InOrder .standard ((s.template ⟨0⟩).events.simregions .standard)
    ∧ ((s.template ⟨0⟩).events.simregions .standard).map Simregion.location
      = ((s.template ⟨0⟩).events.simregions [.update, .condition, .message]).map
          Simregion.location := by
  let ops : List Operation :=
    [.openDocument none none, .addTemplate ⟨0⟩ "T" [] {} {},
      .addInstanceLine ⟨0⟩ "A" {}, .addInstanceLine ⟨0⟩ "B" {}, .addInstanceLine ⟨0⟩ "C" {},
      .addMessage ⟨0⟩ ⟨1⟩ ⟨2⟩ 4 false .empty, .addCondition ⟨0⟩ [⟨3⟩] 4 false true .empty,
      .addCondition ⟨0⟩ [⟨2⟩] (-3) false true .empty, .addUpdate ⟨0⟩ ⟨2⟩ 4 false .empty,
      .addUpdate ⟨0⟩ ⟨1⟩ 4 false .empty]
  have hperforms : ({} : Store).Performs (fun _ _ => True) ops := by decide
  have hrun : Run (fun _ _ => True) {} (ops.foldl perform {}) := Run.refl.performs hperforms
  have horder := simregions_inOrder hrun (t := ⟨0⟩) (by decide) (p := .standard) (by decide)
  exact ⟨ops.foldl perform {}, hrun, by cbv, by cbv, horder.1,
    (horder.2 [.update, .condition, .message] (by decide)).2⟩

end Store

end TimedNet
