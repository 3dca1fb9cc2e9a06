import TimedNet.Proofs.Separation.Reach

/-!
# `TimedNet.Proofs.Copy.SelfContained` — a copy owns and mentions copies

What a copied document owns are the copies of what the document owns, in the same order. What it mentions
are copies of symbols that the document mentions. The copy of a self-contained document is therefore
self-contained.

* `allTemplates_relocated`, `ownedBlocks_relocated`, `ownedFrames_relocated`,
  `ownedInsts_relocated`.
* `var_relocated`, …, `line_relocated`: what stands at a position.
* `owned_relocated`, `ownSymbol_relocated`: owned entities and their own symbols.
* `exists_of_mentioned_relocated`.
* `SelfContained.relocated`.
-/

namespace TimedNet.Store

variable {s : Store} {d : DocumentId}

/-! ## What a copy owns -/

theorem allTemplates_relocated (s : Store) (d : DocumentId) :
    ((s.relocated d).1.document (s.relocated d).2).allTemplates
      = (s.document d).allTemplates.map (s.relocations d).templates := by
  rw [relocated_document, allTemplates_documentCopy]

theorem ownedBlocks_relocated (s : Store) (d : DocumentId) :
    (s.relocated d).1.ownedBlocks (s.relocated d).2
      = (s.ownedBlocks d).map (s.relocations d).blocks := by
  have htemplates : ((s.document d).allTemplates.map (s.relocations d).templates).map
      (fun t => ((s.relocated d).1.template t).block)
      = ((s.document d).allTemplates.map fun t => (s.template t).block).map
          (s.relocations d).blocks := by
    rw [List.map_map, List.map_map]
    refine List.map_congr_left fun t ht => ?_
    show ((s.relocated d).1.template ((s.relocations d).templates t)).block = _
    rw [relocated_template ht]
    rfl
  rw [ownedBlocks, allTemplates_relocated, htemplates, relocated_document]
  rfl

theorem ownedFrames_relocated (s : Store) (d : DocumentId) :
    (s.relocated d).1.ownedFrames (s.relocated d).2
      = (s.ownedFrames d).map (s.relocations d).frames := by
  rw [ownedFrames, globalFrame_relocated, allTemplates_relocated, List.flatMap_map, ownedFrames,
    List.map_cons, List.map_flatMap]
  refine congrArg _ (List.flatMap_congr fun t ht => ?_)
  rw [localFrame_relocated ht, relocated_template ht]
  rfl

theorem templateInsts_relocated {t : TemplateId} (ht : t ∈ (s.document d).allTemplates) :
    (s.relocated d).1.templateInsts ((s.relocations d).templates t)
      = (s.templateInsts t).map (s.relocations d).insts := by
  rw [templateInsts, relocated_template ht, templateInsts, List.map_cons, List.map_map]
  show _ :: ((s.template t).lines.items.map _).map _ = _
  rw [List.map_map]
  rfl

theorem ownedInsts_relocated (s : Store) (d : DocumentId) :
    (s.relocated d).1.ownedInsts (s.relocated d).2
      = (s.ownedInsts d).map (s.relocations d).insts := by
  have htemplates : ((s.document d).allTemplates.map (s.relocations d).templates).flatMap
      (s.relocated d).1.templateInsts
      = ((s.document d).allTemplates.flatMap s.templateInsts).map (s.relocations d).insts := by
    rw [List.flatMap_map, List.map_flatMap]
    exact List.flatMap_congr fun t ht => templateInsts_relocated ht
  rw [ownedInsts, allTemplates_relocated, htemplates, relocated_document, ownedInsts]
  simp only [List.map_append]
  rfl

/-! ## What stands at a position -/

section Positions

variable {b : BlockId} (hb : b ∈ s.ownedBlocks d) {t : TemplateId}
  (ht : t ∈ (s.document d).allTemplates) {i : Nat}

include hb in
theorem var_relocated {v : Variable} (hv : (s.block b).vars[i]? = some v) :
    ((s.relocated d).1.block ((s.relocations d).blocks b)).vars[i]?
      = some ((s.relocations d).var (.ofBlock ((s.relocations d).blocks b) i) v) := by
  rw [relocated_block hb]
  exact getElem?_mapIdx_of _ hv

include hb in
theorem function_relocated {f : Function} (hf : (s.block b).functions[i]? = some f) :
    ((s.relocated d).1.block ((s.relocations d).blocks b)).functions[i]?
      = some ((s.relocations d).function ⟨(s.relocations d).blocks b, i⟩ f) := by
  rw [relocated_block hb]
  exact getElem?_mapIdx_of _ hf

include ht in
theorem location_relocated {l : Location} (hl : (s.template t).locations.items[i]? = some l) :
    ((s.relocated d).1.template ((s.relocations d).templates t)).locations.items[i]?
      = some ((s.relocations d).location ((s.relocations d).templates t) i l) := by
  rw [relocated_template ht]
  exact getElem?_mapIdx_of _ hl

include ht in
theorem branchpoint_relocated {p : Branchpoint}
    (hp : (s.template t).branchpoints.items[i]? = some p) :
    ((s.relocated d).1.template ((s.relocations d).templates t)).branchpoints.items[i]?
      = some ((s.relocations d).branchpoint p) := by
  rw [relocated_template ht]
  exact getElem?_map_of _ hp

include ht in
theorem line_relocated {l : InstanceLine} (hl : (s.template t).lines.items[i]? = some l) :
    ((s.relocated d).1.template ((s.relocations d).templates t)).lines.items[i]?
      = some ((s.relocations d).line ((s.relocations d).templates t) l) := by
  rw [relocated_template ht]
  exact getElem?_map_of _ hl

end Positions

theorem local_relocated {ρ : Relocations} {q : FunctionRef} {f : Function} {j : Nat} {v : Variable}
    (hv : f.locals[j]? = some v) :
    (ρ.function q f).locals[j]? = some (ρ.var (.ofFunction q j) v) :=
  getElem?_mapIdx_of _ hv

/-! ## Owned entities -/

theorem ownedByBlock_relocated {b : BlockId} (hb : b ∈ s.ownedBlocks d) {o : Subject}
    (ho : o ∈ s.ownedByBlock b) : (s.relocations d).subject o
      ∈ (s.relocated d).1.ownedByBlock ((s.relocations d).blocks b) := by
  rw [mem_ownedByBlock_iff]
  rcases mem_ownedByBlock_iff.mp ho with ⟨i, v, hv, rfl⟩ | ⟨i, f, hf, rfl | ⟨j, v, hv, rfl⟩⟩
  · exact Or.inl ⟨i, _, var_relocated hb hv, rfl⟩
  · exact Or.inr ⟨i, _, function_relocated hb hf, Or.inl rfl⟩
  · exact Or.inr ⟨i, _, function_relocated hb hf, Or.inr ⟨j, _, local_relocated hv, rfl⟩⟩

theorem ownedByTemplate_relocated {t : TemplateId} (ht : t ∈ (s.document d).allTemplates)
    {o : Subject} (ho : o ∈ s.ownedByTemplate t) : (s.relocations d).subject o
      ∈ (s.relocated d).1.ownedByTemplate ((s.relocations d).templates t) := by
  rw [mem_ownedByTemplate_iff]
  rcases mem_ownedByTemplate_iff.mp ho with rfl | ho | ⟨i, l, hl, rfl⟩ | ⟨i, b, hb, rfl⟩
    | ⟨i, l, hl, rfl⟩
  · exact Or.inl rfl
  · rw [relocated_template ht]
    exact Or.inr (Or.inl (ownedByBlock_relocated (block_mem_ownedBlocks ht) ho))
  · exact Or.inr (Or.inr (Or.inl ⟨i, _, location_relocated ht hl, rfl⟩))
  · exact Or.inr (Or.inr (Or.inr (Or.inl ⟨i, _, branchpoint_relocated ht hb, rfl⟩)))
  · exact Or.inr (Or.inr (Or.inr (Or.inr ⟨i, _, line_relocated ht hl, rfl⟩)))

/-- **A copy owns the copies of what the document owns.** -/
theorem owned_relocated {o : Subject} (ho : o ∈ s.owned d) :
    (s.relocations d).subject o ∈ (s.relocated d).1.owned (s.relocated d).2 := by
  rw [mem_owned_iff, allTemplates_relocated, relocated_document]
  rcases mem_owned_iff.mp ho with ho | ⟨t, ht, ho⟩ | ⟨i, hi, rfl⟩ | ⟨i, hi, rfl⟩
  · exact Or.inl (ownedByBlock_relocated (globals_mem_ownedBlocks s d) ho)
  · exact Or.inr (Or.inl ⟨_, List.mem_map_of_mem ht, ownedByTemplate_relocated ht ho⟩)
  · refine Or.inr (Or.inr (Or.inl ⟨_, ?_, rfl⟩))
    show (s.relocations d).insts i ∈ (s.document d).instances.map _
      ++ (s.document d).lscInstances.map _
    rw [← List.map_append]
    exact List.mem_map_of_mem hi
  · exact Or.inr (Or.inr (Or.inr ⟨_, List.mem_map_of_mem hi, rfl⟩))

/-! ## Own symbols -/

theorem ownSymbol_relocated_of_mem_block {b : BlockId} (hb : b ∈ s.ownedBlocks d) {o : Subject}
    (ho : o ∈ s.ownedByBlock b) {r : SymbolId} (hr : s.ownSymbol? o = some r) :
    (s.relocated d).1.ownSymbol? ((s.relocations d).subject o)
      = some ((s.relocations d).symbols r) := by
  rcases mem_ownedByBlock_iff.mp ho with ⟨i, v, hv, rfl⟩ | ⟨i, f, hf, rfl | ⟨j, v, hv, rfl⟩⟩
  · obtain rfl := Option.some.inj ((ownSymbol_var hv).symm.trans hr)
    exact ownSymbol_var (var_relocated hb hv)
  · obtain rfl := Option.some.inj ((ownSymbol_fn hf).symm.trans hr)
    exact ownSymbol_fn (function_relocated hb hf)
  · obtain rfl := Option.some.inj ((ownSymbol_local hf hv).symm.trans hr)
    exact ownSymbol_local (function_relocated hb hf) (local_relocated hv)

theorem ownSymbol_relocated_of_mem_template {t : TemplateId}
    (ht : t ∈ (s.document d).allTemplates) {o : Subject} (ho : o ∈ s.ownedByTemplate t)
    {r : SymbolId} (hr : s.ownSymbol? o = some r) :
    (s.relocated d).1.ownSymbol? ((s.relocations d).subject o)
      = some ((s.relocations d).symbols r) := by
  rcases mem_ownedByTemplate_iff.mp ho with rfl | ho | ⟨i, l, hl, rfl⟩ | ⟨i, b, hb, rfl⟩
    | ⟨i, l, hl, rfl⟩
  · obtain rfl : s.templateSymbol t = r := Option.some.inj hr
    show some ((s.relocated d).1.inst (Store.template _ _).inst).symbol = _
    rw [relocated_template ht]
    exact congrArg some (symbol_inst_relocated (inst_mem_ownedInsts ht))
  · exact ownSymbol_relocated_of_mem_block (block_mem_ownedBlocks ht) ho hr
  · obtain rfl := Option.some.inj ((ownSymbol_location hl).symm.trans hr)
    exact ownSymbol_location (location_relocated ht hl)
  · obtain rfl := Option.some.inj ((ownSymbol_branchpoint hb).symm.trans hr)
    exact ownSymbol_branchpoint (branchpoint_relocated ht hb)
  · obtain rfl := Option.some.inj ((ownSymbol_line hl).symm.trans hr)
    refine (ownSymbol_line (line_relocated ht hl)).trans (congrArg some ?_)
    exact symbol_inst_relocated (lineInst_mem_ownedInsts ht (List.mem_of_getElem? hl))

/-- **The copy of an owned entity has the copy of its symbol.** -/
theorem ownSymbol_relocated {o : Subject} (ho : o ∈ s.owned d) {r : SymbolId}
    (hr : s.ownSymbol? o = some r) :
    (s.relocated d).1.ownSymbol? ((s.relocations d).subject o)
      = some ((s.relocations d).symbols r) := by
  rcases mem_owned_iff.mp ho with ho | ⟨t, ht, ho⟩ | ⟨i, hi, rfl⟩ | ⟨i, hi, rfl⟩
  · exact ownSymbol_relocated_of_mem_block (globals_mem_ownedBlocks s d) ho hr
  · exact ownSymbol_relocated_of_mem_template ht ho hr
  · obtain rfl : (s.inst i).symbol = r := Option.some.inj hr
    have hmem : i ∈ s.ownedInsts d := listed_mem_ownedInsts (List.mem_append_left _ hi)
    exact congrArg some (symbol_inst_relocated hmem)
  · obtain rfl : (s.inst i).symbol = r := Option.some.inj hr
    have hmem : i ∈ s.ownedInsts d := listed_mem_ownedInsts (List.mem_append_right _ hi)
    exact congrArg some (symbol_inst_relocated hmem)

/-! ## What a copy mentions -/

/-- **What a copy mentions are copies of what the document mentions.** -/
theorem Sound.exists_of_mentioned_relocated (h : s.Sound) (hd : d ∈ s.documents) {q : SymbolId}
    (hq : q ∈ (s.relocated d).1.mentioned (s.relocated d).2) :
    ∃ r ∈ s.mentioned d, q = (s.relocations d).symbols r := by
  have hof : ∀ {rs : List SymbolId}, (∀ r ∈ rs, r ∈ s.mentioned d) →
      q ∈ rs.map (s.relocations d).symbols →
      ∃ r ∈ s.mentioned d, q = (s.relocations d).symbols r := by
    intro rs hrs hmem
    obtain ⟨r, hr, rfl⟩ := List.mem_map.mp hmem
    exact ⟨r, hrs r hr, rfl⟩
  have hframe : ∀ {f : FrameId}, f ∈ s.ownedFrames d → ∀ r ∈ (s.frame f).symbols,
      r ∈ s.mentioned d := fun hf r hr => mem_mentioned_of_frame hf hr
  have hnew : (s.relocated d).2 ∈ (s.relocated d).1.documents := Table.next_mem_push _ _
  rw [(h.relocated hd).mem_mentioned_iff hnew, ownedFrames_relocated, ownedBlocks_relocated,
    ownedInsts_relocated, allTemplates_relocated] at hq
  -- Wherever the copy mentions the symbol, the document mentions what it was copied from.
  rcases hq with ⟨f, hf, hq⟩ | ⟨b, hb, hq⟩ | ⟨i, hi, hq⟩ | ⟨t, ht, hq⟩ | hq
  · obtain ⟨g, hg, rfl⟩ := List.mem_map.mp hf
    rcases mem_ownedFrames_iff.mp hg with rfl | ⟨t, ht, rfl | rfl⟩
    · rw [relocated_globalFrame] at hq
      rcases Frame.mem_addNew.mp hq with hnone | hq
      · exact absurd hnone List.not_mem_nil
      · exact hof (hframe hg) hq
    · rw [relocated_localFrame h hd ht] at hq
      rcases Frame.mem_addNew.mp hq with hq | hq
      · refine hof (fun r hr => h.mem_mentioned_of_inst hd (inst_mem_ownedInsts ht) ?_) hq
        unfold Instance.symbols
        simp [hr]
      · exact hof (hframe hg) hq
    · rw [relocated_templateSet h hd ht] at hq
      exact hof (hframe hg) hq
  · obtain ⟨c, hc, rfl⟩ := List.mem_map.mp hb
    rw [relocated_block hc, Relocations.symbols_block] at hq
    exact hof (fun r hr => mem_mentioned_of_block hc hr) hq
  · obtain ⟨j, hj, rfl⟩ := List.mem_map.mp hi
    rw [relocated_inst hj, Relocations.symbols_inst] at hq
    exact hof (fun r hr =>
      h.mem_mentioned_of_inst hd hj ((h.mem_symbols_instSource hd hj).mp hr)) hq
  · obtain ⟨u, hu, rfl⟩ := List.mem_map.mp ht
    rw [relocated_template hu, Relocations.symbols_template] at hq
    exact hof (fun r hr => mem_mentioned_of_template hu hr) hq
  · rw [relocated_document, Relocations.symbols_documentCopy] at hq
    exact hof (fun r hr => mem_mentioned_of_document hr) hq

/-- The symbol of nothing is copied as it is. -/
theorem Sound.copiedSymbol_of_isBare (h : s.Sound) (hd : d ∈ s.documents) (ρ : Relocations)
    {r : SymbolId} (hbare : (s.symbol r).subject.isBare = true) :
    s.copiedSymbol (s.claims ρ d) r = s.symbol r := by
  refine copiedSymbol_of_not_owned ρ fun o ho hown => ?_
  obtain ⟨q, hq⟩ := h.ownSymbol_of_owned hd ho
  obtain rfl : q = r := Option.some.inj (hq.own.symm.trans hown)
  rw [hq.stands.subject, hq.stands.real] at hbare
  exact absurd hbare Bool.false_ne_true

/-- **The copy of a symbol of a self-contained document stands for nothing, as the symbol does, or for
    the copy of what the symbol stands for.** -/
theorem SelfContained.copiedSymbol (hself : s.SelfContained d) (h : s.Sound) (hd : d ∈ s.documents)
    {r : SymbolId} (hr : r ∈ s.mentioned d) :
    s.copiedSymbol (s.claims (s.relocations d) d) r
      = { s.symbol r with subject := (s.relocations d).subject (s.symbol r).subject } := by
  rcases hself.symbols r hr with hbare | ⟨howned, hown⟩
  · rw [h.copiedSymbol_of_isBare hd _ hbare]
    have hsubject : (s.relocations d).subject (s.symbol r).subject = (s.symbol r).subject := by
      cases hs : (s.symbol r).subject with
      | nothing | parameter | typedef => rfl
      | _ =>
        rw [hs] at hbare
        exact absurd hbare Bool.false_ne_true
    rw [hsubject]
  · obtain ⟨q, hq⟩ := h.ownSymbol_of_owned hd howned
    obtain rfl : q = r := Option.some.inj (hq.own.symm.trans hown)
    exact h.copiedSymbol_of_owned hd _ howned hq

/-- **The copy of a self-contained document is self-contained.** -/
theorem SelfContained.relocated (hself : s.SelfContained d) (h : s.Sound)
    (hd : d ∈ s.documents) : (s.relocated d).1.SelfContained (s.relocated d).2 where
  symbols := by
    intro q hq
    obtain ⟨r, hr, rfl⟩ := h.exists_of_mentioned_relocated hd hq
    rw [relocated_symbol hr, hself.copiedSymbol h hd hr]
    rcases hself.symbols r hr with hbare | ⟨howned, hown⟩
    · exact Or.inl (by rw [Relocations.isBare_subject, hbare])
    · exact Or.inr ⟨owned_relocated howned, ownSymbol_relocated howned hown⟩
  templates := by
    intro j hj
    rw [ownedInsts_relocated] at hj
    obtain ⟨i, hi, rfl⟩ := List.mem_map.mp hj
    have htemplate := hself.templates i hi
    rw [← h.template_instSource hd i] at htemplate
    rw [relocated_inst hi, allTemplates_relocated]
    exact List.mem_map_of_mem htemplate

end TimedNet.Store
