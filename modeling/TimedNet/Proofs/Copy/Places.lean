import TimedNet.Proofs.Copy.Relocated
import TimedNet.Proofs.Run.Sound

/-!
# `TimedNet.Proofs.Copy.Places` — what stands where in a copied document

A copy adds entities at the ends of the tables. This module reads the store afterwards: at the place to
which an entity went stands its copy, and what was there before is as it was.

* `relocated_symbol`, `relocated_block`, …: the copy of each kind of entity.
* `relocated_globalFrame`, `relocated_localFrame`, `relocated_templateSet`: the frames, for which it matters
  that no two entities share one.
* `Sound.instSource_own`, `Sound.instSource_of_stands`: what the copies of instances are made from.
-/

namespace TimedNet.Store

variable {s : Store} {d : DocumentId}

/-! ## Copies made by one function -/

theorem relocated_symbol {r : SymbolId} (h : r ∈ s.mentioned d) :
    (s.relocated d).1.symbol ((s.relocations d).symbols r)
      = s.copiedSymbol (s.claims (s.relocations d) d) r :=
  Relocation.get_pushAll_map_apply (ρ := (s.relocations d).symbols) rfl h

theorem relocated_block {b : BlockId} (h : b ∈ s.ownedBlocks d) :
    (s.relocated d).1.block ((s.relocations d).blocks b)
      = (s.relocations d).block b (s.block b) :=
  Relocation.get_pushAll_map_apply (ρ := (s.relocations d).blocks) rfl h

theorem symbol_instSource (s : Store) (d : DocumentId) (i : InstanceId) :
    (s.instSource d i).symbol = (s.inst i).symbol := by
  unfold instSource
  split <;> rfl

theorem relocated_inst {i : InstanceId} (h : i ∈ s.ownedInsts d) :
    (s.relocated d).1.inst ((s.relocations d).insts i)
      = (s.relocations d).inst (s.instSource d i) :=
  Relocation.get_pushAll_map_apply (ρ := (s.relocations d).insts) rfl h

theorem symbol_inst_relocated {i : InstanceId} (hi : i ∈ s.ownedInsts d) :
    ((s.relocated d).1.inst ((s.relocations d).insts i)).symbol
      = (s.relocations d).symbols (s.inst i).symbol := by
  rw [relocated_inst hi, ← symbol_instSource s d i]
  rfl

theorem relocated_template {t : TemplateId} (h : t ∈ (s.document d).allTemplates) :
    (s.relocated d).1.template ((s.relocations d).templates t)
      = (s.relocations d).template ((s.document d).allTemplates.idxOf t) t (s.template t) := by
  show (s.templates.pushAll _).get _ = _
  rw [Relocation.get_pushAll_apply (ρ := (s.relocations d).templates) rfl h, List.getElem?_mapIdx]
  show (((s.document d).allTemplates[(s.document d).allTemplates.idxOf t]?).map _).getD default = _
  rw [List.getElem?_eq_getElem (List.idxOf_lt_length_iff.mpr h), List.getElem_idxOf]
  rfl

theorem relocated_document (s : Store) (d : DocumentId) :
    (s.relocated d).1.document (s.relocated d).2
      = (s.relocations d).documentCopy (s.document d) :=
  Table.get_push_next _ _

theorem relocated_log (s : Store) (d : DocumentId) :
    (s.relocated d).1.log (s.relocations d).log
      = { s.log (s.document d).log with lineTable := (s.relocations d).lineTable } :=
  Table.get_push_next _ _

theorem relocated_lineTable (s : Store) (d : DocumentId) :
    (s.relocated d).1.lineTable (s.relocations d).lineTable
      = s.lineTable (s.document d).lineTable :=
  Table.get_push_next _ _

/-! ## Frames -/

theorem globalFrame_mem_ownedFrames (s : Store) (d : DocumentId) :
    s.globalFrame d ∈ s.ownedFrames d := List.mem_cons_self

theorem localFrame_mem_ownedFrames {t : TemplateId} (ht : t ∈ (s.document d).allTemplates) :
    s.localFrame t ∈ s.ownedFrames d :=
  List.mem_cons_of_mem _ (List.mem_flatMap.mpr ⟨t, ht, List.mem_cons_self⟩)

theorem templateSet_mem_ownedFrames {t : TemplateId} (ht : t ∈ (s.document d).allTemplates) :
    (s.template t).templateSet ∈ s.ownedFrames d :=
  List.mem_cons_of_mem _ (List.mem_flatMap.mpr ⟨t, ht, List.mem_cons_of_mem _ List.mem_cons_self⟩)

theorem mem_ownedFrames_iff {f : FrameId} : f ∈ s.ownedFrames d ↔ f = s.globalFrame d
    ∨ ∃ t ∈ (s.document d).allTemplates, f = s.localFrame t ∨ f = (s.template t).templateSet := by
  simp [ownedFrames]

theorem relocated_frame {f : FrameId} (hf : f ∈ s.ownedFrames d) :
    (s.relocated d).1.frame ((s.relocations d).frames f) = s.copiedFrame (s.relocations d) d f :=
  Relocation.get_pushAll_map_apply (ρ := (s.relocations d).frames) rfl hf

theorem relocated_globalFrame (s : Store) (d : DocumentId) :
    (s.relocated d).1.frame ((s.relocations d).frames (s.globalFrame d))
      = s.copiedGlobalFrame (s.relocations d) d := by
  rw [relocated_frame (globalFrame_mem_ownedFrames s d), copiedFrame, if_pos rfl]

variable (h : s.Sound) (hd : d ∈ s.documents)
include h hd

theorem Sound.localFrame_ne_globalFrame {t : TemplateId} (ht : t ∈ (s.document d).allTemplates) :
    s.globalFrame d ≠ s.localFrame t := by
  intro heq
  have htemplate := ((h.documents d hd).templates t ht).1
  have hblock := h.apart.frames _ (h.documents d hd).globals _ (h.templates t htemplate).block heq
  exact h.apart.globals_blocks d hd t htemplate hblock

theorem Sound.localFrame_injective {t u : TemplateId} (ht : t ∈ (s.document d).allTemplates)
    (hu : u ∈ (s.document d).allTemplates) (heq : s.localFrame t = s.localFrame u) : t = u := by
  have ht' := ((h.documents d hd).templates t ht).1
  have hu' := ((h.documents d hd).templates u hu).1
  exact h.apart.blocks t ht' u hu'
    (h.apart.frames _ (h.templates t ht').block _ (h.templates u hu').block heq)

theorem Sound.templateSet_ne_globalFrame {t : TemplateId} (ht : t ∈ (s.document d).allTemplates) :
    s.globalFrame d ≠ (s.template t).templateSet := by
  intro heq
  have htemplate := ((h.documents d hd).templates t ht).1
  exact h.apart.sets_frames t htemplate _ (h.documents d hd).globals heq.symm

theorem Sound.templateSet_ne_localFrame {t u : TemplateId} (ht : t ∈ (s.document d).allTemplates)
    (hu : u ∈ (s.document d).allTemplates) : s.localFrame u ≠ (s.template t).templateSet := by
  intro heq
  have ht' := ((h.documents d hd).templates t ht).1
  have hu' := ((h.documents d hd).templates u hu).1
  exact h.apart.sets_frames t ht' _ (h.templates u hu').block heq.symm

theorem copiedFrame_localFrame (ρ : Relocations) {t : TemplateId}
    (ht : t ∈ (s.document d).allTemplates) :
    s.copiedFrame ρ d (s.localFrame t) = s.copiedLocalFrame ρ d t := by
  rw [copiedFrame, if_neg (h.localFrame_ne_globalFrame hd ht).symm]
  cases hfind : (s.document d).allTemplates.find? fun u => s.localFrame u == s.localFrame t with
  | none => exact absurd (List.find?_eq_none.mp hfind t ht) (by simp)
  | some u =>
    have heq : s.localFrame u = s.localFrame t := by simpa using List.find?_some hfind
    rw [h.localFrame_injective hd (List.mem_of_find?_eq_some hfind) ht heq]

theorem copiedFrame_templateSet (ρ : Relocations) {t : TemplateId}
    (ht : t ∈ (s.document d).allTemplates) :
    s.copiedFrame ρ d (s.template t).templateSet
      = ρ.looseFrame (s.frame (s.template t).templateSet) := by
  rw [copiedFrame, if_neg (h.templateSet_ne_globalFrame hd ht).symm]
  cases hfind : (s.document d).allTemplates.find? fun u =>
      s.localFrame u == (s.template t).templateSet with
  | none => rfl
  | some u =>
    have heq : s.localFrame u = (s.template t).templateSet := by simpa using List.find?_some hfind
    exact absurd heq (h.templateSet_ne_localFrame hd ht (List.mem_of_find?_eq_some hfind))

theorem relocated_localFrame {t : TemplateId} (ht : t ∈ (s.document d).allTemplates) :
    (s.relocated d).1.frame ((s.relocations d).frames (s.localFrame t))
      = s.copiedLocalFrame (s.relocations d) d t := by
  rw [relocated_frame (localFrame_mem_ownedFrames ht), copiedFrame_localFrame h hd _ ht]

theorem relocated_templateSet {t : TemplateId} (ht : t ∈ (s.document d).allTemplates) :
    (s.relocated d).1.frame ((s.relocations d).frames (s.template t).templateSet)
      = (s.relocations d).looseFrame (s.frame (s.template t).templateSet) := by
  rw [relocated_frame (templateSet_mem_ownedFrames ht), copiedFrame_templateSet h hd _ ht]

/-! ## Instances -/

omit hd in
theorem Sound.find?_inst {ts : List TemplateId} (hts : ∀ t ∈ ts, t ∈ s.templates) {t : TemplateId}
    (ht : t ∈ ts) : (ts.find? fun u => (s.template u).inst == (s.template t).inst) = some t := by
  cases hfind : ts.find? fun u => (s.template u).inst == (s.template t).inst with
  | none => exact absurd (List.find?_eq_none.mp hfind t ht) (by simp)
  | some u =>
    have heq : (s.template u).inst = (s.template t).inst := by simpa using List.find?_some hfind
    have hu := (h.own u (hts u (List.mem_of_find?_eq_some hfind))).template
    rw [heq, (h.own t (hts t ht)).template] at hu
    rw [hu]

/-- The own instance of a template is made anew. -/
theorem Sound.instSource_own {t : TemplateId} (ht : t ∈ (s.document d).allTemplates) :
    s.instSource d (s.template t).inst = (s.inst (s.template t).inst).opened t := by
  rw [instSource, h.find?_inst (fun u hu => ((h.documents d hd).templates u hu).1) ht]

omit h hd in
/-- An instance is copied as it is, unless it is the own one of a template of the document. -/
theorem instSource_cases (s : Store) (d : DocumentId) (i : InstanceId) :
    s.instSource d i = s.inst i
      ∨ ∃ t ∈ (s.document d).allTemplates, (s.template t).inst = i
        ∧ s.instSource d i = (s.inst i).opened t := by
  cases hfind : (s.document d).allTemplates.find? fun u => (s.template u).inst == i with
  | none => exact Or.inl (by rw [instSource, hfind])
  | some t =>
    refine Or.inr ⟨t, List.mem_of_find?_eq_some hfind, ?_, by rw [instSource, hfind]⟩
    simpa using List.find?_some hfind

/-- Made anew or not, it is an instance of the same template. -/
theorem Sound.template_instSource (i : InstanceId) :
    (s.instSource d i).template = (s.inst i).template := by
  rcases s.instSource_cases d i with heq | ⟨t, ht, rfl, heq⟩ <;> rw [heq]
  exact (h.own t ((h.documents d hd).templates t ht).1).template.symm

/-- An instance whose symbol stands for no template is copied as it is. -/
theorem Sound.instSource_of_stands {i : InstanceId} {o : Subject}
    (hi : s.Stands (s.inst i).symbol o) (ho : ∀ t, o ≠ .template t) :
    s.instSource d i = s.inst i := by
  rcases s.instSource_cases d i with heq | ⟨t, ht, rfl, -⟩
  · exact heq
  · have hown := (h.templates t ((h.documents d hd).templates t ht).1).own
    exact absurd (hi.unique hown) (ho t)

end TimedNet.Store
