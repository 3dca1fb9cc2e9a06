import TimedNet.Proofs.Copy.Contents

/-!
# `TimedNet.Proofs.Copy.Owners` — what copied symbols stand for

A copied symbol stands for the copy of the entity whose own symbol it copies. For this the document has
to own one entity at most with a given symbol, which is so in every sound store, since the symbol stands
for that entity.

* `ownSymbol_var`, …, `ownSymbol_line`: the own symbol of what stands at a position.
* `Sound.ownSymbol_of_owned`: what a document owns has a symbol that stands for it.
* `copiedSymbol_of_owned`, `copiedSymbol_of_not_owned`: what the copy of a symbol stands for.
* `grows_relocated`, `stands_relocated`.
-/

namespace TimedNet

theorem Relocations.isBare_subject (ρ : Relocations) (o : Subject) :
    (ρ.subject o).isBare = o.isBare := by
  cases o <;> rfl

theorem getD_of_getElem? {α : Type} {l : List α} {i : Nat} {a b : α} (h : l[i]? = some a) :
    l.getD i b = a := by
  rw [List.getD_eq_getElem?_getD, h]
  rfl

theorem getElem?_mapIdx_of {α β : Type} {l : List α} {i : Nat} {a : α} (f : Nat → α → β)
    (h : l[i]? = some a) : (l.mapIdx f)[i]? = some (f i a) := by
  rw [List.getElem?_mapIdx, h]
  rfl

theorem getElem?_map_of {α β : Type} {l : List α} {i : Nat} {a : α} (f : α → β)
    (h : l[i]? = some a) : (l.map f)[i]? = some (f a) := by
  rw [List.getElem?_map, h]
  rfl

theorem mem_mapIdx_iff {α β : Type} {f : Nat → α → β} {l : List α} {b : β} :
    b ∈ l.mapIdx f ↔ ∃ i a, l[i]? = some a ∧ f i a = b := by
  rw [List.mem_iff_getElem?]
  constructor
  · rintro ⟨i, hi⟩
    rw [List.getElem?_mapIdx] at hi
    obtain ⟨a, ha, rfl⟩ := Option.map_eq_some_iff.mp hi
    exact ⟨i, a, ha, rfl⟩
  · rintro ⟨i, a, ha, rfl⟩
    exact ⟨i, by rw [List.getElem?_mapIdx, ha]; rfl⟩

namespace Store

variable {s : Store} {d : DocumentId}

/-! ## Owned entities -/

/-- The entities of a block, one by one. -/
theorem mem_ownedByBlock_iff {b : BlockId} {o : Subject} : o ∈ s.ownedByBlock b ↔
    (∃ i v, (s.block b).vars[i]? = some v ∧ o = .var (.ofBlock b i))
      ∨ ∃ i f, (s.block b).functions[i]? = some f ∧ (o = .fn ⟨b, i⟩
        ∨ ∃ j v, f.locals[j]? = some v ∧ o = .var (.ofFunction ⟨b, i⟩ j)) := by
  rw [ownedByBlock, List.mem_append, mem_mapIdx_iff, List.mem_flatten]
  refine or_congr ?_ ?_
  · simp only [eq_comm]
  · constructor
    · rintro ⟨l, hl, ho⟩
      obtain ⟨i, f, hf, rfl⟩ := mem_mapIdx_iff.mp hl
      refine ⟨i, f, hf, ?_⟩
      rcases List.mem_append.mp ho with ho | ho
      · obtain ⟨j, v, hv, rfl⟩ := mem_mapIdx_iff.mp ho
        exact Or.inr ⟨j, v, hv, rfl⟩
      · exact Or.inl (List.mem_singleton.mp ho)
    · rintro ⟨i, f, hf, ho⟩
      refine ⟨_, mem_mapIdx_iff.mpr ⟨i, f, hf, rfl⟩, List.mem_append.mpr ?_⟩
      rcases ho with rfl | ⟨j, v, hv, rfl⟩
      · exact Or.inr (List.mem_singleton_self _)
      · exact Or.inl (mem_mapIdx_iff.mpr ⟨j, v, hv, rfl⟩)

/-- The entities of a template, one by one. -/
theorem mem_ownedByTemplate_iff {t : TemplateId} {o : Subject} : o ∈ s.ownedByTemplate t ↔
    o = .template t ∨ o ∈ s.ownedByBlock (s.template t).block
      ∨ (∃ i l, (s.template t).locations.items[i]? = some l ∧ o = .location t i)
      ∨ (∃ i b, (s.template t).branchpoints.items[i]? = some b ∧ o = .branchpoint t i)
      ∨ ∃ i l, (s.template t).lines.items[i]? = some l ∧ o = .line t i := by
  unfold ownedByTemplate
  simp only [List.cons_append, List.mem_cons, List.mem_append, mem_mapIdx_iff, or_assoc, eq_comm]

/-- The entities of a document, one by one. -/
theorem mem_owned_iff {o : Subject} : o ∈ s.owned d ↔
    o ∈ s.ownedByBlock (s.document d).globals
      ∨ (∃ t ∈ (s.document d).allTemplates, o ∈ s.ownedByTemplate t)
      ∨ (∃ i ∈ (s.document d).instances ++ (s.document d).lscInstances, o = .inst i)
      ∨ ∃ i ∈ (s.document d).processes, o = .process i := by
  unfold owned
  simp only [List.mem_append, List.mem_flatMap, List.mem_map, or_assoc, eq_comm]
  constructor
  · rintro (h | h | ⟨i, hi, rfl⟩ | ⟨i, hi, rfl⟩ | h)
    · exact Or.inl h
    · exact Or.inr (Or.inl h)
    · exact Or.inr (Or.inr (Or.inl ⟨i, Or.inl hi, rfl⟩))
    · exact Or.inr (Or.inr (Or.inl ⟨i, Or.inr hi, rfl⟩))
    · exact Or.inr (Or.inr (Or.inr h))
  · rintro (h | h | ⟨i, hi | hi, rfl⟩ | h)
    · exact Or.inl h
    · exact Or.inr (Or.inl h)
    · exact Or.inr (Or.inr (Or.inl ⟨i, hi, rfl⟩))
    · exact Or.inr (Or.inr (Or.inr (Or.inl ⟨i, hi, rfl⟩)))
    · exact Or.inr (Or.inr (Or.inr (Or.inr h)))

/-! ## Own symbols -/

theorem ownSymbol_var {b : BlockId} {i : Nat} {v : Variable} (hv : (s.block b).vars[i]? = some v) :
    s.ownSymbol? (.var (.ofBlock b i)) = some v.symbol := by
  rw [ownSymbol?, variableAt, getD_of_getElem? hv]

theorem ownSymbol_fn {b : BlockId} {i : Nat} {f : Function}
    (hf : (s.block b).functions[i]? = some f) : s.ownSymbol? (.fn ⟨b, i⟩) = some f.symbol := by
  rw [ownSymbol?, functionAt, getD_of_getElem? hf]

theorem ownSymbol_local {b : BlockId} {i j : Nat} {f : Function} {v : Variable}
    (hf : (s.block b).functions[i]? = some f) (hv : f.locals[j]? = some v) :
    s.ownSymbol? (.var (.ofFunction ⟨b, i⟩ j)) = some v.symbol := by
  rw [ownSymbol?, variableAt, functionAt, getD_of_getElem? hf, getD_of_getElem? hv]

theorem ownSymbol_location {t : TemplateId} {i : Nat} {l : Location}
    (hl : (s.template t).locations.items[i]? = some l) :
    s.ownSymbol? (.location t i) = some l.symbol := by
  rw [ownSymbol?, locationAt, getD_of_getElem? hl]

theorem ownSymbol_branchpoint {t : TemplateId} {i : Nat} {b : Branchpoint}
    (hb : (s.template t).branchpoints.items[i]? = some b) :
    s.ownSymbol? (.branchpoint t i) = some b.symbol := by
  rw [ownSymbol?, branchpointAt, getD_of_getElem? hb]

theorem ownSymbol_line {t : TemplateId} {i : Nat} {l : InstanceLine}
    (hl : (s.template t).lines.items[i]? = some l) :
    s.ownSymbol? (.line t i) = some (s.inst l.inst).symbol := by
  rw [ownSymbol?, lineAt, getD_of_getElem? hl]

/-- A symbol of a document that is the own symbol of an entity. -/
structure OwnSymbol (s : Store) (d : DocumentId) (r : SymbolId) (o : Subject) : Prop where
  own : s.ownSymbol? o = some r
  stands : s.Stands r o
  mentioned : r ∈ s.mentioned d

theorem Sound.ownSymbol_of_mem_block (h : s.Sound) {b : BlockId} (hb : b ∈ s.blocks)
    (howned : b ∈ s.ownedBlocks d) {o : Subject} (ho : o ∈ s.ownedByBlock b) :
    ∃ r, s.OwnSymbol d r o := by
  have hsound := h.blocks b hb
  rcases mem_ownedByBlock_iff.mp ho with ⟨i, v, hv, rfl⟩ | ⟨i, f, hf, hof⟩
  · refine ⟨v.symbol, ownSymbol_var hv, hsound.vars i v hv, mem_mentioned_of_block howned ?_⟩
    unfold Block.symbols
    simp only [List.mem_append, List.mem_flatMap]
    exact Or.inl (Or.inl (Or.inl (Or.inl ⟨v, List.mem_of_getElem? hv, List.mem_cons_self⟩)))
  · have hmem : ∀ r ∈ f.symbols, r ∈ s.mentioned d := by
      intro r hr
      refine mem_mentioned_of_block howned ?_
      unfold Block.symbols
      simp only [List.mem_append, List.mem_flatMap]
      exact Or.inl (Or.inl (Or.inl (Or.inr ⟨f, List.mem_of_getElem? hf, hr⟩)))
    rcases hof with rfl | ⟨j, v, hv, rfl⟩
    · exact ⟨f.symbol, ownSymbol_fn hf, hsound.functions i f hf, hmem _ (by simp [Function.symbols])⟩
    · refine ⟨v.symbol, ownSymbol_local hf hv, hsound.locals i f hf j v hv, hmem _ ?_⟩
      unfold Function.symbols
      simp only [List.cons_append, List.mem_cons, List.mem_append, List.mem_flatMap]
      exact Or.inr (Or.inl (Or.inr ⟨v, List.mem_of_getElem? hv, List.mem_cons_self⟩))

/-- **Whatever a document owns has a symbol of its own, which stands for it.** -/
theorem Sound.ownSymbol_of_owned (h : s.Sound) (hd : d ∈ s.documents) {o : Subject}
    (ho : o ∈ s.owned d) : ∃ r, s.OwnSymbol d r o := by
  have hdocument := h.documents d hd
  have hinst : ∀ i ∈ s.ownedInsts d, (s.inst i).symbol ∈ s.mentioned d := fun i hi =>
    symbol_inst_mem_mentioned hi
  rcases mem_owned_iff.mp ho with ho | ⟨t, ht, ho⟩ | ⟨i, hi, rfl⟩ | ⟨i, hi, rfl⟩
  · exact h.ownSymbol_of_mem_block hdocument.globals (globals_mem_ownedBlocks s d) ho
  · have htemplate := h.templates t (hdocument.templates t ht).1
    have hmem : ∀ r ∈ (s.template t).symbols, r ∈ s.mentioned d := fun r hr =>
      mem_mentioned_of_template ht hr
    rcases mem_ownedByTemplate_iff.mp ho with rfl | ho | ⟨i, l, hl, rfl⟩ | ⟨i, b, hb, rfl⟩
      | ⟨i, l, hl, rfl⟩
    · exact ⟨s.templateSymbol t, rfl, htemplate.own, hinst _ (inst_mem_ownedInsts ht)⟩
    · exact h.ownSymbol_of_mem_block htemplate.block (block_mem_ownedBlocks ht) ho
    · refine ⟨l.symbol, ownSymbol_location hl, htemplate.locations i l hl, hmem _ ?_⟩
      unfold Template.symbols
      simp only [List.mem_append, List.mem_flatMap]
      have hl' : l.symbol ∈ l.symbols := by simp [Location.symbols]
      simp [List.mem_of_getElem? hl, hl', Exists.intro l]
    · refine ⟨b.symbol, ownSymbol_branchpoint hb, htemplate.branchpoints i b hb, hmem _ ?_⟩
      unfold Template.symbols
      have hb' := List.mem_map_of_mem (f := fun b : Branchpoint => b.symbol)
        (List.mem_of_getElem? hb)
      simp only [List.mem_append]
      simp [hb']
    · exact ⟨(s.inst l.inst).symbol, ownSymbol_line hl, (htemplate.lines i l hl).2,
        hinst _ (lineInst_mem_ownedInsts ht (List.mem_of_getElem? hl))⟩
  · refine ⟨(s.inst i).symbol, rfl, (hdocument.instances i hi).2, hinst i ?_⟩
    exact listed_mem_ownedInsts (List.mem_append_left _ hi)
  · refine ⟨(s.inst i).symbol, rfl, (hdocument.processes i hi).2, hinst i ?_⟩
    exact listed_mem_ownedInsts (List.mem_append_right _ hi)

/-! ## Copied symbols -/

theorem mem_claims_iff {ρ : Relocations} {r : SymbolId} {o : Subject} :
    (r, o) ∈ s.claims ρ d ↔ ∃ q ∈ s.owned d, s.ownSymbol? q = some r ∧ ρ.subject q = o := by
  rw [claims, List.mem_filterMap]
  constructor
  · rintro ⟨q, hq, hpair⟩
    obtain ⟨x, hx, heq⟩ := Option.map_eq_some_iff.mp hpair
    obtain ⟨rfl, rfl⟩ := Prod.mk.inj heq
    exact ⟨q, hq, hx, rfl⟩
  · rintro ⟨q, hq, hown, rfl⟩
    exact ⟨q, hq, by rw [claim?, hown]; rfl⟩

/-- A symbol is claimed for one entity only. -/
theorem Sound.claim_unique (h : s.Sound) (hd : d ∈ s.documents) {ρ : Relocations} {r : SymbolId}
    {o o' : Subject} (ho : (r, o) ∈ s.claims ρ d) (ho' : (r, o') ∈ s.claims ρ d) : o = o' := by
  obtain ⟨q, hq, hqr, rfl⟩ := mem_claims_iff.mp ho
  obtain ⟨q', hq', hqr', rfl⟩ := mem_claims_iff.mp ho'
  obtain ⟨x, hx⟩ := h.ownSymbol_of_owned hd hq
  obtain ⟨x', hx'⟩ := h.ownSymbol_of_owned hd hq'
  obtain rfl : x = r := Option.some.inj (hx.own.symm.trans hqr)
  obtain rfl : x' = x := Option.some.inj (hx'.own.symm.trans hqr')
  rw [hx.stands.unique hx'.stands]

/-- The own symbol of an owned entity is copied for the copy of that entity. -/
theorem Sound.copiedSymbol_of_owned (h : s.Sound) (hd : d ∈ s.documents) (ρ : Relocations)
    {o : Subject} (ho : o ∈ s.owned d) {r : SymbolId} (hown : s.OwnSymbol d r o) :
    s.copiedSymbol (s.claims ρ d) r = { s.symbol r with subject := ρ.subject o } := by
  have hfound : Ordered.get? (s.claims ρ d) r = some (ρ.subject o) := by
    cases hget : Ordered.get? (s.claims ρ d) r with
    | none =>
      have hkey := Ordered.get?_eq_none_iff.mp hget
      exact absurd (List.mem_map_of_mem (mem_claims_iff.mpr ⟨o, ho, hown.own, rfl⟩)) hkey
    | some x =>
      have hx := Ordered.mem_of_get?_eq_some hget
      rw [h.claim_unique hd hx (mem_claims_iff.mpr ⟨o, ho, hown.own, rfl⟩)]
  rw [copiedSymbol, hfound]
  rfl

/-- A symbol that no owned entity has for its own is copied as it is. -/
theorem copiedSymbol_of_not_owned (ρ : Relocations) {r : SymbolId}
    (hr : ∀ o ∈ s.owned d, s.ownSymbol? o ≠ some r) :
    s.copiedSymbol (s.claims ρ d) r = s.symbol r := by
  have hnone : Ordered.get? (s.claims ρ d) r = none := by
    rw [Ordered.get?_eq_none_iff]
    intro hkey
    obtain ⟨⟨x, q⟩, hmem, rfl⟩ := List.mem_map.mp hkey
    obtain ⟨o, ho, hown, _⟩ := mem_claims_iff.mp hmem
    exact hr o ho hown
  rw [copiedSymbol, hnone]
  rfl

/-! ## The copy as a later store -/

/-- **A copy loses nothing.** -/
theorem grows_relocated (s : Store) (d : DocumentId) : s.Grows (s.relocated d).1 where
  symbols := Table.keeps_pushAll Symbol.Keeps.refl _ _
  frames := Table.keeps_pushAll Frame.Keeps.refl _ _
  blocks := Table.keeps_pushAll Block.Keeps.refl _ _
  insts := Table.keeps_pushAll Instance.Keeps.refl _ _
  templates := Table.keeps_pushAll Template.Keeps.refl _ _
  documents := Table.keeps_push Document.Keeps.refl _ _
  logs := Table.keeps_push Log.Keeps.refl _ _
  lineTables := Table.keeps_push (fun _ => trivial) _ _
  nextArena := Nat.le_add_right _ _

theorem mem_symbols_relocated {r : SymbolId} (hr : r ∈ s.mentioned d) :
    (s.relocations d).symbols r ∈ (s.relocated d).1.symbols :=
  Relocation.mem_pushAll_apply (ρ := (s.relocations d).symbols) rfl (List.length_map _) hr

/-- What copies of mentioned symbols make up exists in the store afterwards. -/
theorem hasAll_relocated {rs : List SymbolId} (hrs : ∀ r ∈ rs, r ∈ s.mentioned d) :
    (s.relocated d).1.HasAll (rs.map (s.relocations d).symbols) := by
  intro q hq
  obtain ⟨r, hr, rfl⟩ := List.mem_map.mp hq
  exact mem_symbols_relocated (hrs r hr)

/-- **The copy of the symbol of an owned entity stands for the copy of the entity.** -/
theorem Sound.stands_relocated (h : s.Sound) (hd : d ∈ s.documents) {o : Subject}
    (ho : o ∈ s.owned d) {r : SymbolId} (hown : s.ownSymbol? o = some r) :
    (s.relocated d).1.Stands ((s.relocations d).symbols r) ((s.relocations d).subject o) := by
  obtain ⟨q, hq⟩ := h.ownSymbol_of_owned hd ho
  obtain rfl : q = r := Option.some.inj (hq.own.symm.trans hown)
  refine ⟨mem_symbols_relocated hq.mentioned, ?_, ?_⟩
  · rw [relocated_symbol hq.mentioned, h.copiedSymbol_of_owned hd _ ho hq]
  · rw [Relocations.isBare_subject, hq.stands.real]

end Store

end TimedNet
