import TimedNet.Proofs.Copy.Owned

/-!
# `TimedNet.Proofs.Copy.Sound` — a store with a copied document

A sound store is sound after a document was copied: each copy fits together as what it is a copy of
does, and the copies share no part with each other or with what was there.

* `Sound.block_relocated`, `Sound.inst_relocated`, …: the copies of each kind.
* `Sound.copies_frames`, …, `Sound.copies_globals`: copies have the copies of parts.
* `Sound.apart_relocated`: nothing is shared.
* `Sound.relocated`: the store afterwards.
-/

namespace TimedNet

/-- A handle at the same place of an arena of the same size. -/
theorem Arena.owns_handle {α β : Type} {a : Arena α} {b : Arena β} (hsize : b.size = a.size)
    {h : Handle} (howns : a.owns h = true) : b.owns (Relocations.handle b.id h) = true := by
  simp only [Arena.owns, Bool.and_eq_true, decide_eq_true_eq] at howns ⊢
  rw [hsize]
  exact ⟨⟨rfl, howns.1.2⟩, howns.2⟩

theorem Frame.mem_addNew {f : Frame} {rs : List SymbolId} {r : SymbolId} :
    r ∈ (f.addNew rs).symbols ↔ r ∈ f.symbols ∨ r ∈ rs :=
  Ordered.mem_union

namespace Store

variable {s : Store} {d : DocumentId}

section Parts

variable (h : s.Sound) (hd : d ∈ s.documents)
include h hd

/-! ## Copies of each kind -/

omit h hd in
/-- The copy of the global frame is the first of the copied frames. -/
theorem relocations_globalFrame (s : Store) (d : DocumentId) :
    (s.relocations d).frames (s.globalFrame d) = ⟨s.frames.size⟩ := by
  have hglobal : s.globalFrame d ∈ s.ownedFrames d :=
    frame_mem_ownedFrames (globals_mem_ownedBlocks s d)
  rw [Relocation.apply_of_mem (ρ := (s.relocations d).frames) hglobal]
  show (⟨s.frames.size + (s.ownedFrames d).idxOf (s.globalFrame d)⟩ : FrameId) = _
  rw [ownedFrames, List.idxOf_cons_self, Nat.add_zero]

omit h hd in
/-- The symbols of a copied frame are those of the copy, and a copied frame lies in the copied global frame,
    which is the first, or in none. -/
theorem frame_relocated {i : Nat} {f : Frame}
    (hf : ((s.ownedFrames d).map (s.copiedFrame (s.relocations d) d))[i]? = some f) :
    f.Sound (s.relocated d).1 ⟨s.frames.size + i⟩ := by
  rw [List.getElem?_map] at hf
  obtain ⟨r, hr, rfl⟩ := Option.map_eq_some_iff.mp hf
  have hmem : r ∈ s.ownedFrames d := List.mem_of_getElem? hr
  have hsymbols : ∀ q ∈ (s.relocations d).symbolList (s.frame r).symbols,
      q ∈ (s.relocated d).1.symbols :=
    hasAll_relocated fun q hq => mem_mentioned_of_frame hmem hq
  unfold copiedFrame
  split
  · next heq =>
    subst heq
    refine ⟨fun q hq => ?_, fun p hp => absurd hp (by simp [copiedGlobalFrame, Frame.addNew])⟩
    rcases Frame.mem_addNew.mp hq with hnone | hq
    · exact absurd hnone List.not_mem_nil
    · exact hsymbols q hq
  · next hne =>
    split
    · next t hfind =>
      have ht := List.mem_of_find?_eq_some hfind
      obtain rfl : s.localFrame t = r := by simpa using List.find?_some hfind
      constructor
      · intro q hq
        rcases Frame.mem_addNew.mp hq with hq | hq
        · refine hasAll_relocated (fun p hp => ?_) q hq
          exact mem_mentioned.mpr (Or.inr (Or.inl ⟨t, ht, mem_templateSymbols.mpr
            (Or.inl (by simp [Instance.symbols, Instance.opened, Binding.ofParameters, hp]))⟩))
        · exact hsymbols q hq
      · intro p hp
        obtain rfl : (s.relocations d).frames (s.globalFrame d) = p := Option.some.inj hp
        rw [relocations_globalFrame]
        have hpos : i ≠ 0 := by
          rintro rfl
          exact hne (Option.some.inj hr).symm
        constructor
        · show s.frames.size < (s.frames.pushAll _).size
          rw [Table.size_pushAll, List.length_map, ownedFrames, List.length_cons]
          omega
        · show s.frames.size < s.frames.size + i
          omega
    · exact ⟨hsymbols, fun p hp => absurd hp (by simp [Relocations.looseFrame, Frame.ofList])⟩

omit h hd in
theorem mem_frames_relocated {f : FrameId} (hf : f ∈ s.ownedFrames d) :
    (s.relocations d).frames f ∈ (s.relocated d).1.frames :=
  Relocation.mem_pushAll_apply (ρ := (s.relocations d).frames) rfl (List.length_map _) hf

omit h hd in
theorem mem_blocks_relocated {b : BlockId} (hb : b ∈ s.ownedBlocks d) :
    (s.relocations d).blocks b ∈ (s.relocated d).1.blocks :=
  Relocation.mem_pushAll_apply (ρ := (s.relocations d).blocks) rfl (List.length_map _) hb

omit h hd in
theorem mem_insts_relocated {i : InstanceId} (hi : i ∈ s.ownedInsts d) :
    (s.relocations d).insts i ∈ (s.relocated d).1.insts :=
  Relocation.mem_pushAll_apply (ρ := (s.relocations d).insts) rfl (List.length_map _) hi

omit h hd in
theorem mem_templates_relocated {t : TemplateId} (ht : t ∈ (s.document d).allTemplates) :
    (s.relocations d).templates t ∈ (s.relocated d).1.templates :=
  Relocation.mem_pushAll_apply (ρ := (s.relocations d).templates) rfl List.length_mapIdx ht

theorem Sound.block_relocated {b : BlockId} (hb : b ∈ s.ownedBlocks d)
    (howned : ∀ o ∈ s.ownedByBlock b, o ∈ s.owned d) :
    ((s.relocations d).block b (s.block b)).Sound (s.relocated d).1
      ((s.relocations d).blocks b) where
  frame := mem_frames_relocated (frame_mem_ownedFrames hb)
  symbols := by
    rw [Relocations.symbols_block]
    exact hasAll_relocated fun r hr => mem_mentioned_of_block hb hr
  vars := by
    intro i v hv
    have hv' : ((s.block b).vars.mapIdx fun i v =>
      (s.relocations d).var (.ofBlock ((s.relocations d).blocks b) i) v)[i]? = some v := hv
    rw [List.getElem?_mapIdx] at hv'
    obtain ⟨w, hw, rfl⟩ := Option.map_eq_some_iff.mp hv'
    have ho : Subject.var (.ofBlock b i) ∈ s.owned d :=
      howned _ (mem_ownedByBlock_iff.mpr (Or.inl ⟨i, w, hw, rfl⟩))
    exact h.stands_relocated hd ho (ownSymbol_var hw)
  functions := by
    intro i f hf
    have hf' : ((s.block b).functions.mapIdx fun i f =>
      (s.relocations d).function ⟨(s.relocations d).blocks b, i⟩ f)[i]? = some f := hf
    rw [List.getElem?_mapIdx] at hf'
    obtain ⟨g, hg, rfl⟩ := Option.map_eq_some_iff.mp hf'
    have ho : Subject.fn ⟨b, i⟩ ∈ s.owned d :=
      howned _ (mem_ownedByBlock_iff.mpr (Or.inr ⟨i, g, hg, Or.inl rfl⟩))
    exact h.stands_relocated hd ho (ownSymbol_fn hg)
  locals := by
    intro i f hf j v hv
    have hf' : ((s.block b).functions.mapIdx fun i f =>
      (s.relocations d).function ⟨(s.relocations d).blocks b, i⟩ f)[i]? = some f := hf
    rw [List.getElem?_mapIdx] at hf'
    obtain ⟨g, hg, rfl⟩ := Option.map_eq_some_iff.mp hf'
    have hv' : (g.locals.mapIdx fun j v =>
      (s.relocations d).var (.ofFunction ⟨(s.relocations d).blocks b, i⟩ j) v)[j]? = some v := hv
    rw [List.getElem?_mapIdx] at hv'
    obtain ⟨w, hw, rfl⟩ := Option.map_eq_some_iff.mp hv'
    have ho : Subject.var (.ofFunction ⟨b, i⟩ j) ∈ s.owned d :=
      howned _ (mem_ownedByBlock_iff.mpr (Or.inr ⟨i, g, hg, Or.inr ⟨j, w, hw, rfl⟩⟩))
    exact h.stands_relocated hd ho (ownSymbol_local hg hw)

omit h hd in
theorem template_mem_relocated {t : TemplateId} (ht : t ∈ s.templates) :
    (s.relocations d).templates t ∈ (s.relocated d).1.templates := by
  by_cases hmem : t ∈ (s.document d).allTemplates
  · exact mem_templates_relocated hmem
  · rw [Relocation.apply_of_not_mem hmem]
    exact ((grows_relocated s d).templates t ht).1

theorem Sound.inst_relocated {i : InstanceId} (hi : i ∈ s.ownedInsts d) :
    ((s.relocations d).inst (s.instSource d i)).Sound (s.relocated d).1 where
  symbols := by
    rw [Relocations.symbols_inst]
    exact hasAll_relocated fun r hr =>
      h.mem_mentioned_of_inst hd hi ((h.mem_symbols_instSource hd hi).mp hr)
  template := by
    refine template_mem_relocated ?_
    rw [h.template_instSource hd i]
    exact (h.insts i (h.inst_mem_of_owned hd hi)).template

/-- The copy of the instance of an owned entity has a symbol that stands for the copy. -/
theorem Sound.stands_inst_relocated {i : InstanceId} (hi : i ∈ s.ownedInsts d) {o : Subject}
    (ho : o ∈ s.owned d) (hown : s.ownSymbol? o = some (s.inst i).symbol) :
    (s.relocated d).1.Stands
      ((s.relocated d).1.inst ((s.relocations d).insts i)).symbol
      ((s.relocations d).subject o) := by
  rw [symbol_inst_relocated hi]
  exact h.stands_relocated hd ho hown

theorem Sound.template_relocated {t : TemplateId} (ht : t ∈ (s.document d).allTemplates) :
    ((s.relocations d).template ((s.document d).allTemplates.idxOf t) t (s.template t)).Sound
      (s.relocated d).1 ((s.relocations d).templates t) := by
  have hold := h.templates t ((h.documents d hd).templates t ht).1
  have howned : ∀ o ∈ s.ownedByTemplate t, o ∈ s.owned d := fun o ho =>
    mem_owned_iff.mpr (Or.inr (Or.inl ⟨t, ht, ho⟩))
  -- The arenas of the copy have as many entries as those of the template.
  let u := (s.relocations d).template ((s.document d).allTemplates.idxOf t) t (s.template t)
  have hlocations : u.locations.size = (s.template t).locations.size := List.length_mapIdx
  have hbranchpoints : u.branchpoints.size = (s.template t).branchpoints.size := List.length_map _
  have hlines : u.lines.size = (s.template t).lines.size := List.length_map _
  refine
    { inst := mem_insts_relocated (inst_mem_ownedInsts ht)
      block := mem_blocks_relocated (block_mem_ownedBlocks ht)
      log := Table.next_mem_push _ _
      templateSet := mem_frames_relocated (templateSet_mem_ownedFrames ht)
      symbols := ?_, own := ?_, locations := ?_, branchpoints := ?_, lines := ?_, edges := ?_
      messages := ?_, conditions := ?_, updates := ?_, arenas := ⟨rfl, rfl, ?_⟩, owners := ?_
      loose := congrArg Frame.parent (relocated_templateSet h hd ht) }
  · rw [Relocations.symbols_template]
    exact hasAll_relocated fun r hr => mem_mentioned_of_template ht hr
  · exact h.stands_inst_relocated hd (inst_mem_ownedInsts ht)
      (howned _ (mem_ownedByTemplate_iff.mpr (Or.inl rfl))) rfl
  · intro i l hl
    have hl' : ((s.template t).locations.items.mapIdx
      ((s.relocations d).location ((s.relocations d).templates t)))[i]? = some l := hl
    rw [List.getElem?_mapIdx] at hl'
    obtain ⟨k, hk, rfl⟩ := Option.map_eq_some_iff.mp hl'
    have ho : Subject.location t i ∈ s.owned d :=
      howned _ (mem_ownedByTemplate_iff.mpr (Or.inr (Or.inr (Or.inl ⟨i, k, hk, rfl⟩))))
    exact h.stands_relocated hd ho (ownSymbol_location hk)
  · intro i b hb
    have hb' : ((s.template t).branchpoints.items.map (s.relocations d).branchpoint)[i]? = some b :=
      hb
    rw [List.getElem?_map] at hb'
    obtain ⟨k, hk, rfl⟩ := Option.map_eq_some_iff.mp hb'
    have ho : Subject.branchpoint t i ∈ s.owned d :=
      howned _ (mem_ownedByTemplate_iff.mpr (Or.inr (Or.inr (Or.inr (Or.inl ⟨i, k, hk, rfl⟩)))))
    exact h.stands_relocated hd ho (ownSymbol_branchpoint hk)
  · intro i l hl
    have hl' : ((s.template t).lines.items.map
      ((s.relocations d).line ((s.relocations d).templates t)))[i]? = some l := hl
    rw [List.getElem?_map] at hl'
    obtain ⟨k, hk, rfl⟩ := Option.map_eq_some_iff.mp hl'
    have hmem := lineInst_mem_ownedInsts ht (List.mem_of_getElem? hk)
    refine ⟨mem_insts_relocated hmem, ?_⟩
    have ho : Subject.line t i ∈ s.owned d :=
      howned _ (mem_ownedByTemplate_iff.mpr (Or.inr (Or.inr (Or.inr (Or.inr ⟨i, k, hk, rfl⟩)))))
    exact h.stands_inst_relocated hd hmem ho (ownSymbol_line hk)
  · intro e he
    obtain ⟨i, f, hf, rfl⟩ := mem_mapIdx_iff.mp he
    have hends := hold.edges f (List.mem_of_getElem? hf)
    -- Handles keep their positions, and the arenas their sizes.
    have hkeep : ∀ x : Endpoint, (s.template t).hasEndpoint x = true →
        u.hasEndpoint (Relocations.endpoint u.locations.id u.branchpoints.id x) = true := by
      intro x hx
      cases x with
      | location handle => exact Arena.owns_handle hlocations hx
      | branchpoint handle => exact Arena.owns_handle hbranchpoints hx
    exact ⟨hkeep f.source hends.1, hkeep f.target hends.2⟩
  · intro m hm
    obtain ⟨i, k, hk, rfl⟩ := mem_mapIdx_iff.mp hm
    have hends := hold.messages k (List.mem_of_getElem? hk)
    exact ⟨Arena.owns_handle hlines hends.1,
      Arena.owns_handle hlines hends.2⟩
  · intro c hc a ha
    obtain ⟨i, k, hk, rfl⟩ := mem_mapIdx_iff.mp hc
    obtain ⟨b, hb, rfl⟩ := List.mem_map.mp ha
    exact Arena.owns_handle hlines (hold.conditions k (List.mem_of_getElem? hk) b hb)
  · intro u hu
    obtain ⟨i, k, hk, rfl⟩ := mem_mapIdx_iff.mp hu
    exact Arena.owns_handle hlines (hold.updates k (List.mem_of_getElem? hk))
  · -- The copies take three arenas for each template.
    have hlt := List.idxOf_lt_length_iff.mpr ht
    show s.nextArena + 3 * (s.document d).allTemplates.idxOf t + 2
      < s.nextArena + 3 * (s.document d).allTemplates.length
    omega
  · intro l hl
    obtain ⟨k, _, rfl⟩ := List.mem_map.mp hl
    rfl

omit h hd in
theorem allTemplates_documentCopy (ρ : Relocations) (x : Document) :
    (ρ.documentCopy x).allTemplates = x.allTemplates.map ρ.templates :=
  List.map_append.symm

omit h hd in
theorem listed_documentCopy (ρ : Relocations) (x : Document) :
    (ρ.documentCopy x).listed = x.listed.map ρ.insts := by
  rw [Document.listed, Document.listed, List.map_append, List.map_append]
  rfl

omit h hd in
theorem nested_relocated {b : BlockId} (hb : b ∈ s.ownedBlocks d) {p : Option FrameId}
    (hparent : ((s.relocated d).1.frame ((s.relocations d).frames (s.block b).frame)).parent = p) :
    (s.relocated d).1.Nested ((s.relocations d).blocks b) p := by
  have hframe : ((s.relocated d).1.block ((s.relocations d).blocks b)).frame
      = (s.relocations d).frames (s.block b).frame := congrArg Block.frame (relocated_block hb)
  refine ⟨mem_blocks_relocated hb, ?_, ?_⟩
  · rw [hframe]
    exact mem_frames_relocated (frame_mem_ownedFrames hb)
  · rw [hframe]
    exact hparent

omit h hd in
/-- The copied global frame lies in no other frame. -/
theorem nested_globals_relocated (s : Store) (d : DocumentId) :
    (s.relocated d).1.Nested ((s.relocations d).blocks (s.document d).globals) none :=
  nested_relocated (globals_mem_ownedBlocks s d)
    (congrArg Frame.parent (relocated_globalFrame s d))

/-- The copied local frames lie in the copied global frame. -/
theorem Sound.nested_local_relocated {t : TemplateId} (ht : t ∈ (s.document d).allTemplates) :
    (s.relocated d).1.Nested ((s.relocations d).blocks (s.template t).block)
      (some ((s.relocations d).frames (s.globalFrame d))) :=
  nested_relocated (block_mem_ownedBlocks ht)
    (congrArg Frame.parent (relocated_localFrame h hd ht))

omit h hd in
theorem templateSymbol_relocated {t : TemplateId} (ht : t ∈ (s.document d).allTemplates) :
    (s.relocated d).1.templateSymbol ((s.relocations d).templates t)
      = (s.relocations d).symbols (s.templateSymbol t) := by
  rw [templateSymbol, relocated_template ht]
  exact symbol_inst_relocated (inst_mem_ownedInsts ht)

omit h hd in
/-- A copied symbol has the name of the symbol. -/
theorem name_relocated {r : SymbolId} (hr : r ∈ s.mentioned d) :
    (s.relocated d).1.name ((s.relocations d).symbols r) = s.name r := by
  rw [name, relocated_symbol hr]
  rfl

omit h hd in
/-- A copied template has the name of the template. -/
theorem templateName_relocated {t : TemplateId} (ht : t ∈ (s.document d).allTemplates) :
    (s.relocated d).1.templateName ((s.relocations d).templates t) = s.templateName t := by
  rw [templateName, templateSymbol_relocated ht]
  exact name_relocated (symbol_inst_mem_mentioned (inst_mem_ownedInsts ht))

omit h hd in
theorem dynamicNames_relocated : ((s.relocations d).documentCopy (s.document d)).dynamicTemplates.map
    (s.relocated d).1.templateName = (s.document d).dynamicTemplates.map s.templateName := by
  show (List.map _ _).map _ = _
  rw [List.map_map]
  exact List.map_congr_left fun t ht => templateName_relocated (List.mem_append_right _ ht)

theorem Sound.document_relocated :
    ((s.relocations d).documentCopy (s.document d)).Sound (s.relocated d).1 := by
  have hold := h.documents d hd
  refine
    { lineTable := Table.next_mem_push _ _
      log := Table.next_mem_push _ _
      globals := mem_blocks_relocated (globals_mem_ownedBlocks s d)
      templates := ?_, distinct := ?_, instances := ?_, processes := ?_, symbols := ?_
      root := nested_globals_relocated s d, scopes := ?_, listsOnce := ?_, names := ?_
      entered := ?_ }
  · rw [allTemplates_documentCopy]
    intro u hu
    obtain ⟨t, ht, rfl⟩ := List.mem_map.mp hu
    refine ⟨mem_templates_relocated ht, ?_⟩
    rw [relocated_template ht]
    rfl
  · rw [allTemplates_documentCopy]
    refine List.Nodup.map_on ?_ hold.distinct
    exact fun t ht u hu heq =>
      Relocation.apply_injective_of_mem (ρ := (s.relocations d).templates) ht hu heq
  · intro j hj
    have hj' : j ∈ ((s.document d).instances ++ (s.document d).lscInstances).map
        (s.relocations d).insts := by
      rw [List.map_append]
      exact hj
    obtain ⟨i, hi, rfl⟩ := List.mem_map.mp hj'
    have hmem : i ∈ s.ownedInsts d := listed_mem_ownedInsts (List.mem_append_left _ hi)
    exact ⟨mem_insts_relocated hmem, h.stands_inst_relocated hd hmem (o := .inst i)
      (mem_owned_iff.mpr (Or.inr (Or.inr (Or.inl ⟨i, hi, rfl⟩)))) rfl⟩
  · intro j hj
    obtain ⟨i, hi, rfl⟩ := List.mem_map.mp hj
    have hmem : i ∈ s.ownedInsts d := listed_mem_ownedInsts (List.mem_append_right _ hi)
    exact ⟨mem_insts_relocated hmem, h.stands_inst_relocated hd hmem (o := .process i)
      (mem_owned_iff.mpr (Or.inr (Or.inr (Or.inr ⟨i, hi, rfl⟩)))) rfl⟩
  · rw [Relocations.symbols_documentCopy]
    exact hasAll_relocated fun r hr => mem_mentioned_of_document hr
  · rw [allTemplates_documentCopy]
    intro u hu
    obtain ⟨t, ht, rfl⟩ := List.mem_map.mp hu
    have hglobals : ((s.relocated d).1.block
        ((s.relocations d).documentCopy (s.document d)).globals).frame
        = (s.relocations d).frames (s.globalFrame d) :=
      congrArg Block.frame (relocated_block (globals_mem_ownedBlocks s d))
    rw [relocated_template ht, hglobals]
    exact h.nested_local_relocated hd ht
  · rw [listed_documentCopy]
    exact hold.listsOnce.map_on fun i hi j hj heq =>
      Relocation.apply_injective_of_mem (listed_mem_ownedInsts hi) (listed_mem_ownedInsts hj) heq
  · rw [dynamicNames_relocated]
    exact hold.names
  · show (s.document d).dynamicByName.map _ = List.map _ (List.map _ _)
    rw [hold.entered, List.map_map, List.map_map]
    refine List.map_congr_left fun t ht => ?_
    exact congrArg (·, (s.relocations d).templates t)
      (templateName_relocated (List.mem_append_right _ ht)).symm

/-! ## The store afterwards -/

omit h hd in
theorem globalFrame_relocated (s : Store) (d : DocumentId) :
    (s.relocated d).1.globalFrame (s.relocated d).2
      = (s.relocations d).frames (s.globalFrame d) := by
  rw [globalFrame, relocated_document]
  exact congrArg Block.frame (relocated_block (globals_mem_ownedBlocks s d))

omit h hd in
theorem localFrame_relocated {t : TemplateId} (ht : t ∈ (s.document d).allTemplates) :
    (s.relocated d).1.localFrame ((s.relocations d).templates t)
      = (s.relocations d).frames (s.localFrame t) := by
  rw [localFrame, relocated_template ht]
  exact congrArg Block.frame (relocated_block (block_mem_ownedBlocks ht))

/-- A block afterwards is one of before, as it was, or the copy of an owned one. -/
theorem Sound.block_cases {b : BlockId} (hb : b ∈ (s.relocated d).1.blocks) :
    (b ∈ s.blocks ∧ (s.relocated d).1.block b = s.block b)
      ∨ ∃ c ∈ s.ownedBlocks d, b = (s.relocations d).blocks c
        ∧ (s.relocated d).1.block b = (s.relocations d).block c (s.block c) := by
  rcases Relocation.mem_or_eq_apply (ρ := (s.relocations d).blocks) rfl (List.length_map _)
    (h.nodup_ownedBlocks hd) hb with hold | ⟨c, hc, rfl⟩
  · exact Or.inl ⟨hold, Table.get_pushAll_of_mem _ hold⟩
  · exact Or.inr ⟨c, hc, rfl, relocated_block hc⟩

theorem Sound.template_cases {t : TemplateId} (ht : t ∈ (s.relocated d).1.templates) :
    (t ∈ s.templates ∧ (s.relocated d).1.template t = s.template t)
      ∨ ∃ u ∈ (s.document d).allTemplates, t = (s.relocations d).templates u
        ∧ (s.relocated d).1.template t = (s.relocations d).template
          ((s.document d).allTemplates.idxOf u) u (s.template u) := by
  rcases Relocation.mem_or_eq_apply (ρ := (s.relocations d).templates) rfl List.length_mapIdx
    (h.documents d hd).distinct ht with hold | ⟨u, hu, rfl⟩
  · exact Or.inl ⟨hold, Table.get_pushAll_of_mem _ hold⟩
  · exact Or.inr ⟨u, hu, rfl, relocated_template hu⟩

omit h hd in
theorem document_cases {e : DocumentId} (he : e ∈ (s.relocated d).1.documents) :
    (e ∈ s.documents ∧ (s.relocated d).1.document e = s.document e)
      ∨ e = (s.relocated d).2
        ∧ (s.relocated d).1.document e = (s.relocations d).documentCopy (s.document d) := by
  rcases Table.mem_push.mp he with hold | rfl
  · exact Or.inl ⟨hold, Table.get_push_of_mem _ hold⟩
  · exact Or.inr ⟨rfl, relocated_document s d⟩

/-! ## Nothing is shared -/

/-- Blocks have their own frames, and the copies of blocks the copies of these. -/
theorem Sound.copies_frames : Relocation.CopiesParts (s.relocations d).frames s.frames
    (s.relocations d).blocks s.blocks (s.relocated d).1.blocks (fun b => (s.block b).frame)
    (fun b => ((s.relocated d).1.block b).frame) := by
  intro b hb
  rcases h.block_cases hd hb with ⟨hold, heq⟩ | ⟨c, hc, rfl, heq⟩
  · exact Or.inl ⟨hold, (h.blocks b hold).frame, congrArg Block.frame heq⟩
  · exact Or.inr ⟨c, h.block_mem_of_owned hd hc, rfl, frame_mem_ownedFrames hc,
      congrArg Block.frame heq⟩

theorem Sound.copies_sets : Relocation.CopiesParts (s.relocations d).frames s.frames
    (s.relocations d).templates s.templates (s.relocated d).1.templates
    (fun t => (s.template t).templateSet)
    (fun t => ((s.relocated d).1.template t).templateSet) := by
  intro t ht
  rcases h.template_cases hd ht with ⟨hold, heq⟩ | ⟨u, hu, rfl, heq⟩
  · exact Or.inl ⟨hold, (h.templates t hold).templateSet, congrArg Template.templateSet heq⟩
  · exact Or.inr ⟨u, ((h.documents d hd).templates u hu).1, rfl, templateSet_mem_ownedFrames hu,
      congrArg Template.templateSet heq⟩

theorem Sound.copies_blocks : Relocation.CopiesParts (s.relocations d).blocks s.blocks
    (s.relocations d).templates s.templates (s.relocated d).1.templates
    (fun t => (s.template t).block) (fun t => ((s.relocated d).1.template t).block) := by
  intro t ht
  rcases h.template_cases hd ht with ⟨hold, heq⟩ | ⟨u, hu, rfl, heq⟩
  · exact Or.inl ⟨hold, (h.templates t hold).block, congrArg Template.block heq⟩
  · exact Or.inr ⟨u, ((h.documents d hd).templates u hu).1, rfl, block_mem_ownedBlocks hu,
      congrArg Template.block heq⟩

theorem Sound.copies_globals : Relocation.CopiesParts (s.relocations d).blocks s.blocks
    (fun _ => (s.relocated d).2) s.documents (s.relocated d).1.documents
    (fun e => (s.document e).globals) (fun e => ((s.relocated d).1.document e).globals) := by
  intro e he
  rcases document_cases he with ⟨hold, heq⟩ | ⟨rfl, heq⟩
  · exact Or.inl ⟨hold, (h.documents e hold).globals, congrArg Document.globals heq⟩
  · exact Or.inr ⟨d, hd, rfl, globals_mem_ownedBlocks s d, congrArg Document.globals heq⟩

/-- **No part of a copy is shared.** -/
theorem Sound.apart_relocated : (s.relocated d).1.Apart where
  frames := (h.copies_frames hd).unique rfl h.apart.frames
  sets := (h.copies_sets hd).unique rfl h.apart.sets
  sets_frames := (h.copies_sets hd).disjoint (h.copies_frames hd) rfl h.apart.sets_frames
  blocks := (h.copies_blocks hd).unique rfl h.apart.blocks
  globals := (h.copies_globals hd).unique rfl h.apart.globals
  globals_blocks := (h.copies_globals hd).disjoint (h.copies_blocks hd) rfl h.apart.globals_blocks
  templates := by
    -- What the copy lists are copies, which were not there before.
    refine Table.unshared_push Document.allTemplates h.apart.templates fun e he t hte htcopy => ?_
    obtain ⟨u, hu, rfl⟩ := List.mem_map.mp (allTemplates_documentCopy _ _ ▸ htcopy)
    exact absurd rfl (Relocation.ne_apply_of_mem rfl ((h.documents e he).templates _ hte).1 hu)
  listed := by
    refine Table.unshared_push Document.listed h.apart.listed fun e he i hie hicopy => ?_
    obtain ⟨j, hj, rfl⟩ := List.mem_map.mp (listed_documentCopy _ _ ▸ hicopy)
    have hold : (s.relocations d).insts j ∈ s.insts :=
      h.inst_mem_of_owned he (listed_mem_ownedInsts hie)
    exact absurd rfl (Relocation.ne_apply_of_mem rfl hold (listed_mem_ownedInsts hj))
  arenas := by
    intro t ht u hu hlt
    rcases h.template_cases hd ht with ⟨ht', htx⟩ | ⟨t', ht', rfl, htx⟩ <;>
      rcases h.template_cases hd hu with ⟨hu', hux⟩ | ⟨u', hu', rfl, hux⟩ <;> rw [htx, hux]
    · exact h.apart.arenas t ht' u hu' hlt
    · have hid := (h.templates t ht').arenas.2.2
      show (s.template t).lines.id < s.nextArena + 3 * (s.document d).allTemplates.idxOf u'
      omega
    · have hle := Relocation.base_le_apply (ρ := (s.relocations d).templates) ht'
      have hu' : u.index < (s.relocations d).templates.base := hu'
      omega
    · rw [Relocation.apply_of_mem (ρ := (s.relocations d).templates) ht',
        Relocation.apply_of_mem (ρ := (s.relocations d).templates) hu'] at hlt
      have hlt : (s.document d).allTemplates.idxOf t' < (s.document d).allTemplates.idxOf u' :=
        Nat.lt_of_add_lt_add_left hlt
      show s.nextArena + 3 * (s.document d).allTemplates.idxOf t' + 2
        < s.nextArena + 3 * (s.document d).allTemplates.idxOf u'
      omega

omit h hd in
/-- What the blocks of a document declare belongs to the document. -/
theorem mem_owned_of_mem_block {b : BlockId} (hb : b ∈ s.ownedBlocks d) {o : Subject}
    (ho : o ∈ s.ownedByBlock b) : o ∈ s.owned d := by
  rcases List.mem_cons.mp hb with rfl | hb
  · exact mem_owned_iff.mpr (Or.inl ho)
  · obtain ⟨t, ht, rfl⟩ := List.mem_map.mp hb
    exact mem_owned_iff.mpr
      (Or.inr (Or.inl ⟨t, ht, mem_ownedByTemplate_iff.mpr (Or.inr (Or.inl ho))⟩))

/-- **A sound store is sound after a document was copied.** -/
theorem Sound.relocated : (s.relocated d).1.Sound := by
  refine h.renew (grows_relocated s d) ?_ ?_ ?_ ?_ ?_ ?_ (h.apart_relocated hd) ?_
  · exact Table.renews_pushAll fun i f hf => frame_relocated hf
  · intro b hb
    rcases h.block_cases hd hb with ⟨hold, heq⟩ | ⟨c, hc, rfl, heq⟩
    · exact Or.inl ⟨hold, heq⟩
    · refine Or.inr ?_
      show ((s.relocated d).1.block _).Sound _ _
      rw [heq]
      exact h.block_relocated hd hc fun o => mem_owned_of_mem_block hc
  · refine Table.renews_pushAll fun i x hx => ?_
    obtain ⟨j, hj, rfl⟩ := List.mem_map.mp (List.mem_of_getElem? hx)
    exact h.inst_relocated hd hj
  · intro t ht
    rcases h.template_cases hd ht with ⟨hold, heq⟩ | ⟨u, hu, rfl, heq⟩
    · exact Or.inl ⟨hold, heq⟩
    · refine Or.inr ?_
      show ((s.relocated d).1.template _).Sound _ _
      rw [heq]
      exact h.template_relocated hd hu
  · exact Table.renews_push (h.document_relocated hd)
  · exact Table.renews_push ⟨Table.next_mem_push _ _⟩
  · -- The own instance of a copied template was made anew.
    intro t ht
    rcases h.template_cases hd ht with ⟨hold, heq⟩ | ⟨u, hu, rfl, heq⟩
    · rw [heq, show (s.relocated d).1.inst _ = _ from
        Table.get_pushAll_of_mem _ (h.templates t hold).inst]
      exact h.own t hold
    · rw [heq]
      show ((s.relocated d).1.inst ((s.relocations d).insts _)).IsOwn _
      rw [relocated_inst (inst_mem_ownedInsts hu), h.instSource_own hd hu]
      exact ⟨rfl, rfl, rfl⟩

end Parts

end Store

end TimedNet
