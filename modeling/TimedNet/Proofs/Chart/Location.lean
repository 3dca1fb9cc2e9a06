import TimedNet.Proofs.Chart.Prechart

/-!
# `TimedNet.Proofs.Chart.Location` — simregions on rows of any number

The location of a simregion is the greatest of -1 and the rows of its events. The events stand on one row, so
the location is that row as long as it is not below -1. All rows below -1 are located on -1, as is a simregion
without events, and the order of the simregions does not tell these rows apart.

* `LocatedBy`: rows, locations and order of a list of simregions, as far as rows are told apart.
* `Shared.locatedBy`: simregions in order are located by their rows, and by -1 below that row.
* `LocatedBy.true_rows`: if no row is below -1, they are located by their rows.
* `Store.simregions_located`: all this for every reachable chart.
-/

namespace TimedNet

variable {shown : Int → Int} {regions others : List Simregion}

/-- Each of the simregions has events, all on one row; it is located where the row is shown; and the rows, as
    they are shown, are in order. -/
structure LocatedBy (shown : Int → Int) (regions : List Simregion) : Prop where
  row : ∀ r ∈ regions, ∃ y ∈ r.rows, ∀ x ∈ r.rows, x = y
  location : ∀ r ∈ regions, ∀ x ∈ r.rows, r.location = shown x
  increasing : ((regions.flatMap Simregion.rows).map shown).Pairwise (· ≤ ·)

namespace LocatedBy

/-- Part of the simregions, in the same order. -/
theorem sublist (h : LocatedBy shown regions) (hsub : others.Sublist regions) :
    LocatedBy shown others where
  row r hr := h.row r (hsub.subset hr)
  location r hr := h.location r (hsub.subset hr)
  increasing := h.increasing.sublist ((hsub.flatMap _).map shown)

/-- **Rows that are shown as they are.** -/
theorem true_rows (h : LocatedBy shown regions)
    (hshown : ∀ r ∈ regions, ∀ x ∈ r.rows, shown x = x) : LocatedBy id regions where
  row := h.row
  location r hr x hx := (h.location r hr x hx).trans (hshown r hr x hx)
  increasing := by
    have hsame : (regions.flatMap Simregion.rows).map shown
        = (regions.flatMap Simregion.rows).map id := by
      apply List.map_congr_left
      intro x hx
      obtain ⟨r, hr, hx⟩ := List.mem_flatMap.mp hx
      exact hshown r hr x hx
    rw [← hsame]
    exact h.increasing

end LocatedBy

/-- A simregion without events is located on -1. -/
theorem Simregion.location_of_empty {r : Simregion} (h : r.rows = []) : r.location = -1 := by
  rw [location, h, List.foldl_nil]

/-- **Simregions in the order of their locations are in the order of their rows**, where every row below -1
    counts as -1. -/
theorem Events.Shared.locatedBy {e : Events} (h : e.Shared regions)
    (hsorted : (regions.map Simregion.location).Pairwise (· ≤ ·)) :
    LocatedBy (max (-1)) regions := by
  have hlocation : ∀ r ∈ regions, ∀ x ∈ r.rows, r.location = max (-1) x :=
    fun r hr x hx => (h.together r hr).location_eq_max hx
  refine ⟨fun r hr => ?_, hlocation, ?_⟩
  · obtain ⟨k, hk⟩ := (h.together r hr).event
    obtain ⟨x, hx⟩ := Simregion.exists_mem_rows hk
    obtain ⟨y, hy⟩ := (h.together r hr).exists_row
    obtain rfl := hy x hx
    exact ⟨x, hx, hy⟩
  · refine List.pairwise_map.mpr (List.pairwise_flatMap.mpr ⟨fun r hr => ?_, ?_⟩)
    · apply List.pairwise_of_forall_mem_list
      intro x hx y hy
      rw [← hlocation r hr x hx, ← hlocation r hr y hy]
    · refine (List.pairwise_map.mp hsorted).imp_of_mem fun {r q} hr hq hle x hx y hy => ?_
      rw [← hlocation r hr x hx, ← hlocation q hq y hy]
      exact hle

namespace Store

variable {s : Store}

/-- **Simregions are located and ordered by their rows, down to row -1.** For every template that a program
    can make, whatever the rows of its events, and for every precedence: each simregion of the chart has
    events, all on one row, and is located on the greater of that row and -1; these locations do not
    decrease down the chart, nor along any line. If no event stands below row -1, then the locations are
    the rows. A simregion without events is located on -1. -/
theorem simregions_located {condition : Store → Operation → Prop} (hrun : Run condition {} s)
    {t : TemplateId} (ht : t ∈ s.templates) (precedence : Precedence) {made : Store}
    {ids : List RegionId} (h : s.deriveRegions (s.template t).events precedence = (made, ids)) :
    (∀ regions, regions = ids.map made.region
        ∨ (∃ line : Int, regions = (onLine made.region ids line).map made.region) →
      LocatedBy (max (-1)) regions
        ∧ ((∀ y ∈ (s.template t).events.rows, -1 ≤ y) → LocatedBy id regions))
      ∧ ∀ r : Simregion, r.rows = [] → r.location = -1 := by
  have hid := (hrun.bodied t ht).1.identified
  have hshared := Events.shared_simregions hid precedence
  have hsorted := (s.template t).events.pairwise_location precedence
  have hview := s.map_region_newRegions ((s.template t).events.simregions precedence)
  rw [← deriveRegions, h] at hview
  have hlocated := hshared.locatedBy hsorted
  refine ⟨fun regions hregions => ?_, fun r => Simregion.location_of_empty⟩
  have hsub : regions.Sublist ((s.template t).events.simregions precedence) := by
    rcases hregions with rfl | ⟨line, rfl⟩
    · exact hview ▸ List.Sublist.refl _
    · -- Down the chart the locations grow already, so the line shows a part of it.
      have hlocations : (ids.map fun a => (made.region a).location).Pairwise (· ≤ ·) := by
        rw [← hview, List.map_map] at hsorted
        exact hsorted
      rw [Events.onLine_eq_filter hlocations, ← hview]
      exact List.filter_sublist.map _
  refine ⟨hlocated.sublist hsub, fun hrows => (hlocated.sublist hsub).true_rows ?_⟩
  exact fun r hr x hx => max_eq_right (hrows x (hshared.mem_rows (hsub.subset hr) hx))

/-- A message on row 2, an update with a condition on row -1 and a condition on row 0, seen on the chart and on
    the second line. -/
theorem simregions_located_from_row_above : ∃ s : Store, Run (fun _ _ => True) {} s
    ∧ ((s.template ⟨0⟩).events.simregions.map fun r => (r.rows, r.location))
      = [([-1, -1], -1), ([0], 0), ([2], 2)]
    ∧ LocatedBy id ((s.template ⟨0⟩).events.simregions)
    ∧ ∃ derived : Store × List RegionId, s.deriveRegions (s.template ⟨0⟩).events .standard = derived
      ∧ (onLine derived.1.region derived.2 1).map (fun r => r.index) = [1, 2]
      ∧ LocatedBy id ((onLine derived.1.region derived.2 1).map derived.1.region) := by
  let ops : List Operation :=
    [.openDocument none none, .addTemplate ⟨0⟩ "T" [] {} {},
      .addInstanceLine ⟨0⟩ "A" {}, .addInstanceLine ⟨0⟩ "B" {},
      .addMessage ⟨0⟩ ⟨1⟩ ⟨2⟩ 2 false .empty, .addCondition ⟨0⟩ [⟨2⟩] 0 false true .empty,
      .addUpdate ⟨0⟩ ⟨1⟩ (-1) false .empty, .addCondition ⟨0⟩ [⟨1⟩] (-1) false true .empty]
  have hperforms : ({} : Store).Performs (fun _ _ => True) ops := by decide
  have hrun : Run (fun _ _ => True) {} (ops.foldl perform {}) := Run.refl.performs hperforms
  have ht : (⟨0⟩ : TemplateId) ∈ (ops.foldl perform {}).templates := by decide +kernel
  have hrows : ((ops.foldl perform {}).template ⟨0⟩).events.rows = [-1, 0, 2] := by cbv
  have hlocated := (simregions_located hrun ht .standard (Prod.mk.eta).symm).1
  have hall := (hlocated _ (Or.inl rfl)).2 (by rw [hrows]; decide)
  rw [deriveRegions, map_region_newRegions] at hall
  exact ⟨ops.foldl perform {}, hrun, by cbv, hall, _, rfl, by cbv,
    (hlocated _ (Or.inr ⟨1, rfl⟩)).2 (by rw [hrows]; decide)⟩

/-- Two messages below row -1: both are located on -1, and the one on row -3, which was entered first, comes
    before the one on row -5. -/
theorem rows_below_not_told_apart : ∃ s : Store, Run (fun _ _ => True) {} s
    ∧ ((s.template ⟨0⟩).events.simregions.map fun r => (r.rows, r.location))
      = [([-3], -1), ([-5], -1)]
    ∧ ¬ LocatedBy id ((s.template ⟨0⟩).events.simregions)
    ∧ ¬ ((s.template ⟨0⟩).events.simregions.flatMap Simregion.rows).Pairwise (· ≤ ·) := by
  let ops : List Operation :=
    [.openDocument none none, .addTemplate ⟨0⟩ "T" [] {} {},
      .addInstanceLine ⟨0⟩ "A" {}, .addInstanceLine ⟨0⟩ "B" {},
      .addMessage ⟨0⟩ ⟨1⟩ ⟨2⟩ (-3) false .empty, .addMessage ⟨0⟩ ⟨1⟩ ⟨2⟩ (-5) false .empty]
  have hperforms : ({} : Store).Performs (fun _ _ => True) ops := by decide
  have hrun : Run (fun _ _ => True) {} (ops.foldl perform {}) := Run.refl.performs hperforms
  have hrows : ((ops.foldl perform {}).template ⟨0⟩).events.simregions.flatMap Simregion.rows
      = [-3, -5] := by cbv
  refine ⟨ops.foldl perform {}, hrun, by cbv, fun hlocated => ?_, by rw [hrows]; decide⟩
  have hincreasing := hlocated.increasing
  rw [List.map_id, hrows] at hincreasing
  exact absurd hincreasing (by decide)

end Store

end TimedNet
