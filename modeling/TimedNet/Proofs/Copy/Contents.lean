import TimedNet.Proofs.Copy.Places

/-!
# `TimedNet.Proofs.Copy.Contents` — the symbols stored in a copied part

The symbols stored in the copy of a part are the copies of those stored in the part, in the same order.

* `Relocations.symbols_var`, `symbols_function`, `symbols_block`, `symbols_inst`, `symbols_template`,
  `symbols_documentCopy`.
* `Store.mem_mentioned_of_frame`, …: everything that a document has in it is mentioned by it.
-/

namespace TimedNet

/-- A function of places and members, followed by one that does not see the places. -/
theorem flatMap_mapIdx {α β γ : Type} {f : Nat → α → β} {g : β → List γ} {h : α → List γ}
    (hfg : ∀ i a, g (f i a) = h a) (l : List α) : (l.mapIdx f).flatMap g = l.flatMap h := by
  induction l generalizing f with
  | nil => rfl
  | cons a l ih =>
    rw [List.mapIdx_cons, List.flatMap_cons, List.flatMap_cons, hfg]
    rw [ih (f := fun i => f (i + 1)) fun i b => hfg (i + 1) b]

theorem flatMap_map_eq {α β γ δ : Type} {f : α → β} {g : β → List δ} {h : α → List γ} {k : γ → δ}
    (hfg : ∀ a, g (f a) = (h a).map k) (l : List α) : (l.map f).flatMap g = (l.flatMap h).map k := by
  rw [List.flatMap_map, List.map_flatMap]
  exact congrArg (l.flatMap ·) (funext hfg)

theorem flatMap_mapIdx_eq {α β γ δ : Type} {f : Nat → α → β} {g : β → List δ} {h : α → List γ}
    {k : γ → δ} (hfg : ∀ i a, g (f i a) = (h a).map k) (l : List α) :
    (l.mapIdx f).flatMap g = (l.flatMap h).map k := by
  rw [List.map_flatMap]
  exact flatMap_mapIdx hfg l

namespace Relocations

variable (ρ : Relocations)

@[simp] theorem occurrences_expression (e : Expression) (slot : Slot) :
    (ρ.expression e slot).term.occurrences = e.term.occurrences.map ρ.symbols := by
  rw [expression, Expression.term_renamed, Term.occurrences_map]

@[simp] theorem occurrences_term (t : Term SymbolId) :
    (ρ.term t).occurrences = t.occurrences.map ρ.symbols :=
  Term.occurrences_map _ _

theorem occurrences_terms (ts : List (Term SymbolId)) :
    (ts.map ρ.term).flatMap Term.occurrences = (ts.flatMap Term.occurrences).map ρ.symbols :=
  flatMap_map_eq ρ.occurrences_term ts

theorem symbols_looseFrame (f : Frame) : (ρ.looseFrame f).symbols = f.symbols.map ρ.symbols := rfl

theorem symbols_var (owner : VariableRef) (v : Variable) :
    (ρ.var owner v).symbols = v.symbols.map ρ.symbols := by
  rw [Variable.symbols, Variable.symbols, List.map_cons, var, occurrences_expression]

theorem symbols_function (owner : FunctionRef) (f : Function) :
    (ρ.function owner f).symbols = f.symbols.map ρ.symbols := by
  have hlocals : (f.locals.mapIdx fun i v => ρ.var (.ofFunction owner i) v).flatMap Variable.symbols
      = (f.locals.flatMap Variable.symbols).map ρ.symbols :=
    flatMap_mapIdx_eq (fun i v => ρ.symbols_var (.ofFunction owner i) v) f.locals
  have hbody : (f.body.map ρ.term).toList.flatMap Term.occurrences
      = (f.body.toList.flatMap Term.occurrences).map ρ.symbols := by
    cases f.body with
    | none => rfl
    | some body =>
      show (ρ.term body).occurrences ++ [] = (body.occurrences ++ []).map ρ.symbols
      rw [List.append_nil, List.append_nil, occurrences_term]
  simp only [Function.symbols, function, symbolList, hlocals, hbody, List.map_cons, List.map_append]

theorem symbols_progress (p : Progress) : (ρ.progress p).symbols = p.symbols.map ρ.symbols := by
  rw [Progress.symbols, Progress.symbols, List.map_append, progress, occurrences_term,
    occurrences_term]

theorem symbols_io (d : IODecl) : (ρ.io d).symbols = d.symbols.map ρ.symbols := by
  simp only [IODecl.symbols, io, ← List.map_append, occurrences_terms]

theorem symbols_ganttMap (m : GanttMap) : (ρ.ganttMap m).symbols = m.symbols.map ρ.symbols := by
  simp only [GanttMap.symbols, ganttMap, List.map_append, occurrences_term, symbols_looseFrame]

theorem symbols_gantt (g : Gantt) : (ρ.gantt g).symbols = g.symbols.map ρ.symbols := by
  rw [Gantt.symbols, Gantt.symbols, List.map_append, gantt, symbols_looseFrame,
    flatMap_map_eq ρ.symbols_ganttMap]

theorem symbols_block (b : BlockId) (x : Block) :
    (ρ.block b x).symbols = x.symbols.map ρ.symbols := by
  have hvars : (x.vars.mapIdx fun i v => ρ.var (.ofBlock (ρ.blocks b) i) v).flatMap Variable.symbols
      = (x.vars.flatMap Variable.symbols).map ρ.symbols :=
    flatMap_mapIdx_eq (fun i v => ρ.symbols_var (.ofBlock (ρ.blocks b) i) v) x.vars
  have hfunctions :
      (x.functions.mapIdx fun i f => ρ.function ⟨ρ.blocks b, i⟩ f).flatMap Function.symbols
        = (x.functions.flatMap Function.symbols).map ρ.symbols :=
    flatMap_mapIdx_eq (fun i f => ρ.symbols_function ⟨ρ.blocks b, i⟩ f) x.functions
  simp only [Block.symbols, block, hvars, hfunctions, flatMap_map_eq ρ.symbols_progress,
    flatMap_map_eq ρ.symbols_io, flatMap_map_eq ρ.symbols_gantt, List.map_append]

theorem symbols_inst (i : Instance) : (ρ.inst i).symbols = i.symbols.map ρ.symbols := by
  have hmapping :
      (i.binding.mapping.map fun pair => (ρ.symbols pair.1, ρ.term pair.2)).flatMap
          (fun pair => pair.1 :: pair.2.occurrences)
        = (i.binding.mapping.flatMap fun pair => pair.1 :: pair.2.occurrences).map ρ.symbols :=
    flatMap_map_eq (fun pair => by rw [List.map_cons, occurrences_term]) i.binding.mapping
  simp only [Instance.symbols, inst, binding, symbolList, hmapping, List.map_cons, List.map_append]

theorem symbols_location (t : TemplateId) (index : Nat) (l : Location) :
    (ρ.location t index l).symbols = l.symbols.map ρ.symbols := by
  simp only [Location.symbols, location, occurrences_expression, List.map_cons, List.map_append]

theorem symbols_edge (locations branchpoints : Nat) (t : TemplateId) (index : Nat) (e : Edge) :
    (ρ.edge locations branchpoints t index e).symbols = e.symbols.map ρ.symbols := by
  simp only [Edge.symbols, edge, symbols_looseFrame, occurrences_expression, List.map_append]

theorem symbols_template (i : Nat) (t : TemplateId) (x : Template) :
    (ρ.template i t x).symbols = x.symbols.map ρ.symbols := by
  have hinitial : (x.initial.map ρ.symbols).toList = x.initial.toList.map ρ.symbols := by
    cases x.initial <;> rfl
  have hbranchpoints : (x.branchpoints.items.map ρ.branchpoint).map (fun b => b.symbol)
      = (x.branchpoints.items.map fun b => b.symbol).map ρ.symbols := by
    rw [List.map_map, List.map_map]
    rfl
  have hmessages (lines : Nat) :
      (x.messages.mapIdx (ρ.message lines (ρ.templates t))).flatMap
          (fun m => m.label.term.occurrences)
        = (x.messages.flatMap fun m => m.label.term.occurrences).map ρ.symbols :=
    flatMap_mapIdx_eq (fun _ m => ρ.occurrences_expression m.label _) x.messages
  have hconditions (lines : Nat) :
      (x.conditions.mapIdx (ρ.condition lines (ρ.templates t))).flatMap
          (fun c => c.label.term.occurrences)
        = (x.conditions.flatMap fun c => c.label.term.occurrences).map ρ.symbols :=
    flatMap_mapIdx_eq (fun _ c => ρ.occurrences_expression c.label _) x.conditions
  have hupdates (lines : Nat) :
      (x.updates.mapIdx (ρ.update lines (ρ.templates t))).flatMap
          (fun u => u.label.term.occurrences)
        = (x.updates.flatMap fun u => u.label.term.occurrences).map ρ.symbols :=
    flatMap_mapIdx_eq (fun _ u => ρ.occurrences_expression u.label _) x.updates
  simp only [Template.symbols, template, hinitial, hbranchpoints, hmessages, hconditions, hupdates,
    List.map_append, flatMap_mapIdx_eq (ρ.symbols_location (ρ.templates t)),
    flatMap_mapIdx_eq (ρ.symbols_edge _ _ (ρ.templates t)), occurrences_terms]

theorem symbols_chanPriority (p : ChanPriority) :
    (ρ.chanPriority p).symbols = p.symbols.map ρ.symbols := by
  rw [ChanPriority.symbols, ChanPriority.symbols, List.map_append, chanPriority, occurrences_term,
    flatMap_map_eq (h := fun link => link.2.occurrences) fun link => ρ.occurrences_term link.2]

theorem symbols_documentCopy (d : Document) :
    (ρ.documentCopy d).symbols = d.symbols.map ρ.symbols := by
  simp only [Document.symbols, documentCopy, occurrences_expression, List.map_append,
    flatMap_map_eq ρ.symbols_chanPriority]

end Relocations

namespace Store

variable {s : Store} {d : DocumentId} {r : SymbolId}

/-! ## What a document owns -/

theorem globals_mem_ownedBlocks (s : Store) (d : DocumentId) :
    (s.document d).globals ∈ s.ownedBlocks d := List.mem_cons_self

theorem block_mem_ownedBlocks {t : TemplateId} (ht : t ∈ (s.document d).allTemplates) :
    (s.template t).block ∈ s.ownedBlocks d :=
  List.mem_cons_of_mem _ (List.mem_map_of_mem (f := fun t => (s.template t).block) ht)

theorem mem_ownedBlocks_iff {b : BlockId} : b ∈ s.ownedBlocks d ↔ b = (s.document d).globals
    ∨ ∃ t ∈ (s.document d).allTemplates, b = (s.template t).block := by
  simp only [ownedBlocks, List.mem_cons, List.mem_map, eq_comm]

theorem frame_mem_ownedFrames {b : BlockId} (hb : b ∈ s.ownedBlocks d) :
    (s.block b).frame ∈ s.ownedFrames d := by
  rcases mem_ownedBlocks_iff.mp hb with rfl | ⟨t, ht, rfl⟩
  · exact globalFrame_mem_ownedFrames s d
  · exact localFrame_mem_ownedFrames ht

theorem mem_ownedInsts_iff {i : InstanceId} : i ∈ s.ownedInsts d ↔
    (∃ t ∈ (s.document d).allTemplates, i = (s.template t).inst
      ∨ ∃ l ∈ (s.template t).lines.items, i = l.inst) ∨ i ∈ (s.document d).listed := by
  rw [ownedInsts, Document.listed]
  simp only [List.mem_append, List.mem_flatMap, templateInsts, List.mem_cons, List.mem_map,
    or_assoc, eq_comm]

theorem inst_mem_ownedInsts {t : TemplateId} (ht : t ∈ (s.document d).allTemplates) :
    (s.template t).inst ∈ s.ownedInsts d :=
  mem_ownedInsts_iff.mpr (Or.inl ⟨t, ht, Or.inl rfl⟩)

theorem lineInst_mem_ownedInsts {t : TemplateId} (ht : t ∈ (s.document d).allTemplates)
    {l : InstanceLine} (hl : l ∈ (s.template t).lines.items) : l.inst ∈ s.ownedInsts d :=
  mem_ownedInsts_iff.mpr (Or.inl ⟨t, ht, Or.inr ⟨l, hl, rfl⟩⟩)

theorem listed_mem_ownedInsts {i : InstanceId} (hi : i ∈ (s.document d).listed) :
    i ∈ s.ownedInsts d :=
  mem_ownedInsts_iff.mpr (Or.inr hi)

/-! ## What a document mentions -/

theorem mem_mentioned : r ∈ s.mentioned d ↔ r ∈ s.blockSymbols (s.document d).globals
    ∨ (∃ t ∈ (s.document d).allTemplates, r ∈ s.templateSymbols t)
    ∨ (∃ i ∈ (s.document d).listed, r ∈ (s.inst i).symbols) ∨ r ∈ (s.document d).symbols := by
  rw [mentioned, storedSymbols, List.mem_eraseDups, Document.listed]
  simp only [List.mem_append, List.mem_flatMap, or_assoc]

theorem mem_templateSymbols {t : TemplateId} : r ∈ s.templateSymbols t ↔
    r ∈ ((s.inst (s.template t).inst).opened t).symbols ∨ r ∈ s.blockSymbols (s.template t).block
      ∨ r ∈ (s.frame (s.template t).templateSet).symbols
      ∨ (∃ l ∈ (s.template t).lines.items, r ∈ (s.inst l.inst).symbols)
      ∨ r ∈ (s.template t).symbols := by
  have hline : ∀ l, r ∈ s.lineSymbols l ↔ r ∈ (s.inst l.inst).symbols := by
    intro l
    rw [lineSymbols, List.mem_cons]
    refine or_iff_right_of_imp ?_
    rintro rfl
    simp [Instance.symbols]
  simp only [templateSymbols, bodySymbols, Template.symbols, List.mem_append, List.mem_flatMap, hline]
  grind

theorem mem_mentioned_of_template {t : TemplateId} (ht : t ∈ (s.document d).allTemplates)
    (hr : r ∈ (s.template t).symbols) : r ∈ s.mentioned d :=
  mem_mentioned.mpr (Or.inr (Or.inl ⟨t, ht,
    mem_templateSymbols.mpr (Or.inr (Or.inr (Or.inr (Or.inr hr))))⟩))

theorem mem_mentioned_of_document (hr : r ∈ (s.document d).symbols) : r ∈ s.mentioned d :=
  mem_mentioned.mpr (Or.inr (Or.inr (Or.inr hr)))

theorem mem_mentioned_of_blockSymbols {b : BlockId} (hb : b ∈ s.ownedBlocks d)
    (hr : r ∈ s.blockSymbols b) : r ∈ s.mentioned d := by
  rcases mem_ownedBlocks_iff.mp hb with rfl | ⟨t, ht, rfl⟩
  · exact mem_mentioned.mpr (Or.inl hr)
  · exact mem_mentioned.mpr (Or.inr (Or.inl ⟨t, ht, mem_templateSymbols.mpr (Or.inr (Or.inl hr))⟩))

theorem mem_mentioned_of_block {b : BlockId} (hb : b ∈ s.ownedBlocks d)
    (hr : r ∈ (s.block b).symbols) : r ∈ s.mentioned d :=
  mem_mentioned_of_blockSymbols hb (List.mem_append_right _ hr)

theorem mem_mentioned_of_frame {f : FrameId} (hf : f ∈ s.ownedFrames d)
    (hr : r ∈ (s.frame f).symbols) : r ∈ s.mentioned d := by
  rcases mem_ownedFrames_iff.mp hf with rfl | ⟨t, ht, rfl | rfl⟩
  · exact mem_mentioned_of_blockSymbols (globals_mem_ownedBlocks s d) (List.mem_append_left _ hr)
  · exact mem_mentioned_of_blockSymbols (block_mem_ownedBlocks ht) (List.mem_append_left _ hr)
  · exact mem_mentioned.mpr (Or.inr (Or.inl ⟨t, ht,
      mem_templateSymbols.mpr (Or.inr (Or.inr (Or.inl hr)))⟩))

/-- The symbol of an owned instance is mentioned. -/
theorem symbol_inst_mem_mentioned {i : InstanceId} (hi : i ∈ s.ownedInsts d) :
    (s.inst i).symbol ∈ s.mentioned d := by
  rcases mem_ownedInsts_iff.mp hi with ⟨t, ht, rfl | ⟨l, hl, rfl⟩⟩ | hi
  · exact mem_mentioned.mpr (Or.inr (Or.inl ⟨t, ht,
      mem_templateSymbols.mpr (Or.inl (by simp [Instance.symbols, Instance.opened]))⟩))
  · exact mem_mentioned.mpr (Or.inr (Or.inl ⟨t, ht, mem_templateSymbols.mpr
      (Or.inr (Or.inr (Or.inr (Or.inl ⟨l, hl, by simp [Instance.symbols]⟩))))⟩))
  · exact mem_mentioned.mpr (Or.inr (Or.inr (Or.inl ⟨i, hi, by simp [Instance.symbols]⟩)))

section Sound

variable (h : s.Sound) (hd : d ∈ s.documents)
include h hd

/-- Nothing is bound in the own instance of a template, so it has no more symbols than it has when it is
    made anew. -/
theorem Sound.mem_symbols_opened {t : TemplateId} (ht : t ∈ (s.document d).allTemplates) :
    r ∈ ((s.inst (s.template t).inst).opened t).symbols ↔ r ∈ (s.inst (s.template t).inst).symbols := by
  have hmapping := (h.own t ((h.documents d hd).templates t ht).1).mapping
  simp [Instance.symbols, Instance.opened, Binding.ofParameters, hmapping]

/-- A symbol is mentioned exactly when it is stored in an owned frame, block or instance, in a template or
    in the document. -/
theorem Sound.mem_mentioned_iff : r ∈ s.mentioned d ↔
    (∃ f ∈ s.ownedFrames d, r ∈ (s.frame f).symbols) ∨ (∃ b ∈ s.ownedBlocks d, r ∈ (s.block b).symbols)
      ∨ (∃ i ∈ s.ownedInsts d, r ∈ (s.inst i).symbols)
      ∨ (∃ t ∈ (s.document d).allTemplates, r ∈ (s.template t).symbols)
      ∨ r ∈ (s.document d).symbols := by
  have hblock : ∀ {b}, b ∈ s.ownedBlocks d → r ∈ s.blockSymbols b →
      (∃ f ∈ s.ownedFrames d, r ∈ (s.frame f).symbols)
        ∨ ∃ b ∈ s.ownedBlocks d, r ∈ (s.block b).symbols := fun hb hr =>
    (List.mem_append.mp hr).imp (fun hr => ⟨_, frame_mem_ownedFrames hb, hr⟩) fun hr => ⟨_, hb, hr⟩
  constructor
  · intro hr
    rcases mem_mentioned.mp hr with hr | ⟨t, ht, hr⟩ | ⟨i, hi, hr⟩ | hr
    · exact (hblock (globals_mem_ownedBlocks s d) hr).imp_right Or.inl
    · rcases mem_templateSymbols.mp hr with hr | hr | hr | ⟨l, hl, hr⟩ | hr
      · exact Or.inr (Or.inr (Or.inl ⟨_, inst_mem_ownedInsts ht, (h.mem_symbols_opened hd ht).mp hr⟩))
      · exact (hblock (block_mem_ownedBlocks ht) hr).imp_right Or.inl
      · exact Or.inl ⟨_, templateSet_mem_ownedFrames ht, hr⟩
      · exact Or.inr (Or.inr (Or.inl ⟨_, lineInst_mem_ownedInsts ht hl, hr⟩))
      · exact Or.inr (Or.inr (Or.inr (Or.inl ⟨t, ht, hr⟩)))
    · exact Or.inr (Or.inr (Or.inl ⟨i, listed_mem_ownedInsts hi, hr⟩))
    · exact Or.inr (Or.inr (Or.inr (Or.inr hr)))
  · rintro (⟨f, hf, hr⟩ | ⟨b, hb, hr⟩ | ⟨i, hi, hr⟩ | ⟨t, ht, hr⟩ | hr)
    · exact mem_mentioned_of_frame hf hr
    · exact mem_mentioned_of_block hb hr
    · rcases mem_ownedInsts_iff.mp hi with ⟨t, ht, rfl | ⟨l, hl, rfl⟩⟩ | hi
      · exact mem_mentioned.mpr (Or.inr (Or.inl ⟨t, ht,
          mem_templateSymbols.mpr (Or.inl ((h.mem_symbols_opened hd ht).mpr hr))⟩))
      · exact mem_mentioned.mpr (Or.inr (Or.inl ⟨t, ht, mem_templateSymbols.mpr
          (Or.inr (Or.inr (Or.inr (Or.inl ⟨l, hl, hr⟩))))⟩))
      · exact mem_mentioned.mpr (Or.inr (Or.inr (Or.inl ⟨i, hi, hr⟩)))
    · exact mem_mentioned_of_template ht hr
    · exact mem_mentioned_of_document hr

theorem Sound.mem_mentioned_of_inst {i : InstanceId} (hi : i ∈ s.ownedInsts d)
    (hr : r ∈ (s.inst i).symbols) : r ∈ s.mentioned d :=
  (h.mem_mentioned_iff hd).mpr (Or.inr (Or.inr (Or.inl ⟨i, hi, hr⟩)))

/-- The copy of an owned instance is made from the symbols of the instance. -/
theorem Sound.mem_symbols_instSource {i : InstanceId} (hi : i ∈ s.ownedInsts d) :
    r ∈ (s.instSource d i).symbols ↔ r ∈ (s.inst i).symbols := by
  rcases s.instSource_cases d i with heq | ⟨t, ht, rfl, heq⟩ <;> rw [heq]
  exact h.mem_symbols_opened hd ht

end Sound

end Store

end TimedNet
