import Mathlib.Data.List.Nodup
import TimedNet.Proofs.Copy.Owners

/-!
# `TimedNet.Proofs.Copy.Owned` — what a document owns is there, and only once

In a sound store whatever a document owns exists, and it owns nothing twice. So the lists of what is copied
have no repetitions, and every copy has a place of its own.

* `Sound.inst_mem_of_owned`, `block_mem_of_owned`, `frame_mem_of_owned`, `Sound.hasAll_mentioned`.
* `Sound.nodup_ownedBlocks`, `nodup_ownedInsts`, `nodup_ownedFrames`.
-/

namespace TimedNet.Store

variable {s : Store} {d : DocumentId} (h : s.Sound) (hd : d ∈ s.documents)
include h hd

/-! ## What is owned is there -/

/-- Every instance of a document exists. -/
theorem Sound.inst_mem_of_owned {i : InstanceId} (hi : i ∈ s.ownedInsts d) : i ∈ s.insts := by
  have hdocument := h.documents d hd
  rcases mem_ownedInsts_iff.mp hi with ⟨t, ht, hit⟩ | hlisted
  · have htemplate := h.templates t (hdocument.templates t ht).1
    rcases hit with rfl | ⟨l, hl, rfl⟩
    · exact htemplate.inst
    · obtain ⟨j, hj⟩ := List.mem_iff_getElem?.mp hl
      exact (htemplate.lines j l hj).1
  · rcases List.mem_append.mp hlisted with hinst | hprocess
    · exact (hdocument.instances i hinst).1
    · exact (hdocument.processes i hprocess).1

theorem Sound.block_mem_of_owned {b : BlockId} (hb : b ∈ s.ownedBlocks d) : b ∈ s.blocks := by
  have hdocument := h.documents d hd
  rcases List.mem_cons.mp hb with rfl | hb
  · exact hdocument.globals
  · obtain ⟨t, ht, rfl⟩ := List.mem_map.mp hb
    exact (h.templates t (hdocument.templates t ht).1).block

theorem Sound.frame_mem_of_owned {f : FrameId} (hf : f ∈ s.ownedFrames d) : f ∈ s.frames := by
  rcases mem_ownedFrames_iff.mp hf with rfl | ⟨t, ht, rfl | rfl⟩
  · exact (h.blocks _ (h.documents d hd).globals).frame
  · exact (h.blocks _ (h.templates t ((h.documents d hd).templates t ht).1).block).frame
  · exact (h.templates t ((h.documents d hd).templates t ht).1).templateSet

/-- Every symbol that a document mentions exists. -/
theorem Sound.hasAll_mentioned : s.HasAll (s.mentioned d) := by
  have hdocument := h.documents d hd
  intro r hr
  rcases (h.mem_mentioned_iff hd).mp hr with ⟨f, hf, hr⟩ | ⟨b, hb, hr⟩ | ⟨i, hi, hr⟩ | ⟨t, ht, hr⟩ | hr
  · exact (h.frames f (h.frame_mem_of_owned hd hf)).symbols r hr
  · exact (h.blocks b (h.block_mem_of_owned hd hb)).symbols r hr
  · exact (h.insts i (h.inst_mem_of_owned hd hi)).symbols r hr
  · exact (h.templates t (hdocument.templates t ht).1).symbols r hr
  · exact hdocument.symbols r hr

/-! ## What is owned is owned once -/

theorem Sound.nodup_ownedBlocks : (s.ownedBlocks d).Nodup := by
  have hdocument := h.documents d hd
  rw [ownedBlocks, List.nodup_cons]
  constructor
  · intro hmem
    obtain ⟨t, ht, heq⟩ := List.mem_map.mp hmem
    exact h.apart.globals_blocks d hd t (hdocument.templates t ht).1 heq.symm
  · refine List.Nodup.map_on ?_ hdocument.distinct
    intro t ht u hu heq
    exact h.apart.blocks t (hdocument.templates t ht).1 u (hdocument.templates u hu).1 heq

omit hd in
/-- The symbol of an instance of a template stands for the template or for one of its lines. -/
theorem Sound.stands_templateInsts {t : TemplateId} (ht : t ∈ s.templates) {i : InstanceId}
    (hi : i ∈ s.templateInsts t) : s.Stands (s.inst i).symbol (.template t)
      ∨ ∃ j, s.Stands (s.inst i).symbol (.line t j) := by
  rcases List.mem_cons.mp hi with rfl | hi
  · exact Or.inl (h.templates t ht).own
  · obtain ⟨l, hl, rfl⟩ := List.mem_map.mp hi
    obtain ⟨j, hj⟩ := List.mem_iff_getElem?.mp hl
    exact Or.inr ⟨j, ((h.templates t ht).lines j l hj).2⟩

omit hd in
/-- No two templates share an instance. -/
theorem Sound.templateInsts_apart {t u : TemplateId} (ht : t ∈ s.templates) (hu : u ∈ s.templates)
    {i : InstanceId} (hit : i ∈ s.templateInsts t) (hiu : i ∈ s.templateInsts u) : t = u := by
  rcases h.stands_templateInsts ht hit with hst | ⟨j, hst⟩ <;>
    rcases h.stands_templateInsts hu hiu with hsu | ⟨k, hsu⟩ <;> cases hst.unique hsu <;> rfl

omit hd in
theorem Sound.nodup_templateInsts {t : TemplateId} (ht : t ∈ s.templates) : (s.templateInsts t).Nodup := by
  have htemplate := h.templates t ht
  rw [templateInsts, List.nodup_cons]
  constructor
  · intro hmem
    obtain ⟨l, hl, heq⟩ := List.mem_map.mp hmem
    obtain ⟨j, hj⟩ := List.mem_iff_getElem?.mp hl
    have hline := (htemplate.lines j l hj).2
    rw [heq] at hline
    exact absurd (hline.unique htemplate.own) (by simp)
  · rw [List.Nodup, List.pairwise_map, List.pairwise_iff_getElem]
    intro j k hj hk hlt heq
    have hline := (htemplate.lines j _ (List.getElem?_eq_getElem hj)).2
    rw [heq] at hline
    cases hline.unique (htemplate.lines k _ (List.getElem?_eq_getElem hk)).2
    exact Nat.lt_irrefl _ hlt

theorem Sound.nodup_ownedInsts : (s.ownedInsts d).Nodup := by
  have hdocument := h.documents d hd
  have hsplit : s.ownedInsts d = (s.document d).allTemplates.flatMap s.templateInsts
      ++ (s.document d).listed := by
    rw [ownedInsts, Document.listed]
    simp
  rw [hsplit, List.nodup_append]
  refine ⟨List.nodup_flatMap.mpr ⟨fun t ht => h.nodup_templateInsts (hdocument.templates t ht).1, ?_⟩,
    hdocument.listsOnce, ?_⟩
  · refine hdocument.distinct.imp_of_mem fun ht hu hne i hit hiu => hne ?_
    exact h.templateInsts_apart (hdocument.templates _ ht).1 (hdocument.templates _ hu).1 hit hiu
  · rintro i hi _ hlisted rfl
    obtain ⟨t, ht, hit⟩ := List.mem_flatMap.mp hi
    have hstands := h.stands_templateInsts (hdocument.templates t ht).1 hit
    rcases List.mem_append.mp hlisted with hinst | hprocess
    · rcases hstands with hst | ⟨j, hst⟩ <;> cases hst.unique (hdocument.instances i hinst).2
    · rcases hstands with hst | ⟨j, hst⟩ <;> cases hst.unique (hdocument.processes i hprocess).2

theorem Sound.nodup_ownedFrames : (s.ownedFrames d).Nodup := by
  have hdistinct := (h.documents d hd).distinct
  rw [ownedFrames, List.nodup_cons]
  constructor
  · intro hmem
    obtain ⟨t, ht, hmem⟩ := List.mem_flatMap.mp hmem
    simp only [List.mem_cons, List.not_mem_nil, or_false] at hmem
    rcases hmem with heq | heq
    · exact h.localFrame_ne_globalFrame hd ht heq
    · exact h.templateSet_ne_globalFrame hd ht heq
  · refine List.nodup_flatMap.mpr ⟨fun t ht => ?_, hdistinct.imp_of_mem fun {t u} ht hu hne f hft hfu => ?_⟩
    · simpa using h.templateSet_ne_localFrame hd ht ht
    · have ht' := ((h.documents d hd).templates t ht).1
      have hu' := ((h.documents d hd).templates u hu).1
      simp only [List.mem_cons, List.not_mem_nil, or_false] at hft hfu
      rcases hft with rfl | rfl <;> rcases hfu with heq | heq
      · exact hne (h.localFrame_injective hd ht hu heq)
      · exact h.templateSet_ne_localFrame hd hu ht heq
      · exact h.templateSet_ne_localFrame hd ht hu heq.symm
      · exact hne (h.apart.sets t ht' u hu' heq)

end TimedNet.Store
