import TimedNet.Proofs.Copy.Isomorphism
import TimedNet.Proofs.Scope.Templates

/-!
# `TimedNet.Proofs.Scope.Copy` — a copied document registers what the document does

The symbols in a frame of the copy are the copies of those in the frame of the document, with the same
names and roles, and what the copy lists are the copies of what the document lists. The scopes of the
document, and all others, are left alone.

* `Sound.role?_relocated`: a copied symbol keeps its role.
* `listed_block_relocated`, …: what the parts of a copy list.
* `Enrolls.copyScope`: from a scope to its copy.
* `Enrolled.relocated`: all scopes.
-/

namespace TimedNet

theorem Relocations.role?_subject (ρ : Relocations) (o : Subject) : (ρ.subject o).role? = o.role? := by
  cases o <;> rfl

namespace Store

variable {s : Store} {d : DocumentId}

/-! ## Copied symbols -/

/-- Copied symbols have the names of the symbols. -/
theorem names_relocated {rs : List SymbolId} (hrs : ∀ r ∈ rs, r ∈ s.mentioned d) :
    (rs.map (s.relocations d).symbols).map (s.relocated d).1.name = rs.map s.name := by
  rw [List.map_map]
  exact List.map_congr_left fun r hr => name_relocated (hrs r hr)

/-- A copied symbol stands for the copy of what the symbol stands for, or for the same, and has its
    role either way. -/
theorem Sound.role?_relocated (h : s.Sound) (hd : d ∈ s.documents) {r : SymbolId}
    (hr : r ∈ s.mentioned d) :
    (s.relocated d).1.role? ((s.relocations d).symbols r) = s.role? r := by
  rw [role?, relocated_symbol hr]
  by_cases howned : ∃ o ∈ s.owned d, s.ownSymbol? o = some r
  · obtain ⟨o, ho, hown⟩ := howned
    obtain ⟨q, hq⟩ := h.ownSymbol_of_owned hd ho
    obtain rfl : q = r := Option.some.inj (hq.own.symm.trans hown)
    rw [h.copiedSymbol_of_owned hd _ ho hq, role?, hq.stands.subject]
    exact Relocations.role?_subject _ o
  · rw [copiedSymbol_of_not_owned _ fun o ho hown => howned ⟨o, ho, hown⟩]
    rfl

theorem Sound.isBare_relocated (h : s.Sound) (hd : d ∈ s.documents) {r : SymbolId}
    (hr : r ∈ s.mentioned d) :
    ((s.relocated d).1.symbol ((s.relocations d).symbols r)).subject.isBare
      = (s.symbol r).subject.isBare := by
  rw [Bool.eq_iff_iff, ← Subject.role?_eq_none_iff, ← Subject.role?_eq_none_iff]
  exact iff_of_eq (congrArg (· = none) (h.role?_relocated hd hr))

/-! ## What a copy lists -/

theorem listed_block_relocated {b : BlockId} (hb : b ∈ s.ownedBlocks d) (ρ : Role) :
    ((s.relocated d).1.block ((s.relocations d).blocks b)).listed ρ
      = ((s.block b).listed ρ).map (s.relocations d).symbols := by
  rw [relocated_block hb]
  cases ρ with
  | var => exact map_mapIdx_eq fun _ _ _ => rfl
  | fn => exact map_mapIdx_eq fun _ _ _ => rfl
  | _ => rfl

theorem listedByDocument_relocated (s : Store) (d : DocumentId) (ρ : Role) :
    (s.relocated d).1.listedByDocument ((s.relocations d).documentCopy (s.document d)) ρ
      = (s.listedByDocument (s.document d) ρ).map (s.relocations d).symbols := by
  cases ρ with
  | template =>
    rw [listedByDocument, allTemplates_documentCopy]
    exact map_map_eq fun t ht => templateSymbol_relocated ht
  | inst =>
    rw [listedByDocument, show ((s.relocations d).documentCopy (s.document d)).instances
      ++ ((s.relocations d).documentCopy (s.document d)).lscInstances
        = ((s.document d).instances ++ (s.document d).lscInstances).map (s.relocations d).insts from
      List.map_append.symm]
    exact map_map_eq fun i hi =>
      symbol_inst_relocated (listed_mem_ownedInsts (List.mem_append_left _ hi))
  | _ => rfl

theorem listedByTemplate_relocated {t : TemplateId} (ht : t ∈ (s.document d).allTemplates)
    (n : Nat) (ρ : Role) :
    (s.relocated d).1.listedByTemplate ((s.relocations d).template n t (s.template t)) ρ
      = (s.listedByTemplate (s.template t) ρ).map (s.relocations d).symbols := by
  cases ρ with
  | location => exact map_mapIdx_eq fun _ _ _ => rfl
  | branchpoint => exact map_map_eq fun _ _ => rfl
  | line => exact map_map_eq fun l hl => symbol_inst_relocated (lineInst_mem_ownedInsts ht hl)
  | _ => rfl

/-! ## Scopes -/

/-- A scope whose frame and lists have the copies of the symbols of another registers what the other
    does. -/
theorem Enrolls.copyScope (h : s.Sound) (hd : d ∈ s.documents) {σ τ : Scope}
    (hreg : s.Enrolls none σ) (hblock : s.scopeBlock σ ∈ s.ownedBlocks d)
    (hproper : (s.relocated d).1.ProperScope τ → s.ProperScope σ)
    (hsymbols : (s.relocated d).1.frameSymbols ((s.relocated d).1.scopeBlock τ)
      = (s.frameSymbols (s.scopeBlock σ)).map (s.relocations d).symbols)
    (hlisted : ∀ ρ, (s.relocated d).1.listed τ ρ = (s.listed σ ρ).map (s.relocations d).symbols) :
    (s.relocated d).1.Enrolls none τ := by
  have hmem : ∀ r ∈ s.frameSymbols (s.scopeBlock σ), r ∈ s.mentioned d := fun r hr =>
    mem_mentioned_of_frame (frame_mem_ownedFrames hblock) hr
  refine ⟨fun hcopied => ?_, fun ρ => ?_⟩
  · rw [hsymbols, names_relocated hmem]
    exact hreg.names (hproper hcopied)
  · have hroles : ∀ r ∈ s.frameSymbols (s.scopeBlock σ),
        (((s.relocated d).1.role? ((s.relocations d).symbols r)) == some ρ)
          = (s.role? r == some ρ) := fun r hr => by rw [h.role?_relocated hd (hmem r hr)]
    rw [Pending.awaited_none, List.append_nil, Store.members, hsymbols, List.filter_map, hlisted]
    rw [show (s.frameSymbols (s.scopeBlock σ)).filter ((fun r =>
      (s.relocated d).1.role? r == some ρ) ∘ (s.relocations d).symbols)
        = s.members (s.scopeBlock σ) ρ from List.filter_congr hroles]
    exact (hreg.agree ρ).map _

/-- The global scope of the copy. -/
theorem Enrolls.copyGlobals (h : s.Sound) (htidy : s.Tidy) (hd : d ∈ s.documents)
    (hreg : s.Enrolls none (.document d)) :
    (s.relocated d).1.Enrolls none (.document (s.relocated d).2) := by
  have hblock := globals_mem_ownedBlocks s d
  have hscope : (s.relocated d).1.scopeBlock (.document (s.relocated d).2)
      = (s.relocations d).blocks (s.document d).globals :=
    congrArg Document.globals (relocated_document s d)
  refine hreg.copyScope h hd hblock (fun _ => trivial) ?_ fun ρ => ?_
  · rw [hscope, frameSymbols, relocated_block hblock]
    exact htidy.symbols_copiedGlobalFrame hd
  · rw [listed, hscope, listed_block_relocated hblock, listedByOwner, relocated_document,
      listedByDocument_relocated, ← List.map_append]
    rfl

section Parameters

variable (h : s.Sound) (hd : d ∈ s.documents) {t : TemplateId} (ht : t ∈ (s.document d).allTemplates)
include h hd ht

/-- The parameters of a template are mentioned in the document. -/
theorem Sound.parameters_mem_mentioned :
    ∀ r ∈ (s.inst (s.template t).inst).binding.parameters, r ∈ s.mentioned d := fun r hr =>
  h.mem_mentioned_of_inst hd (inst_mem_ownedInsts ht) (by simp [Instance.symbols, hr])

theorem Sound.parameters_relocated : ((s.relocated d).1.inst ((s.relocated d).1.template
    ((s.relocations d).templates t)).inst).binding.parameters
      = (s.inst (s.template t).inst).binding.parameters.map (s.relocations d).symbols := by
  rw [h.own_relocated hd ht]
  rfl

/-- Copied parameters are bare only if the parameters are. -/
theorem Sound.bareParameters_of_copy
    (hbare : (s.relocated d).1.BareParameters ((s.relocations d).templates t)) :
    s.BareParameters t := by
  rw [BareParameters, h.parameters_relocated hd ht] at hbare
  intro r hr
  rw [← h.isBare_relocated hd (h.parameters_mem_mentioned hd ht r hr)]
  exact hbare _ (List.mem_map_of_mem hr)

/-- Copied parameters are proper only if the parameters are. -/
theorem Sound.properParameters_of_copy
    (hproper : (s.relocated d).1.ProperParameters ((s.relocations d).templates t)) :
    s.ProperParameters t := by
  have hnames := hproper.1
  rw [h.parameters_relocated hd ht, names_relocated (h.parameters_mem_mentioned hd ht)] at hnames
  exact ⟨hnames, h.bareParameters_of_copy hd ht hproper.2⟩

end Parameters

/-- The scope of a template of the copy. -/
theorem Enrolls.copyLocals (h : s.Sound) (htidy : s.Tidy) (hd : d ∈ s.documents) {t : TemplateId}
    (ht : t ∈ (s.document d).allTemplates) (hreg : s.Enrolls none (.template t)) :
    (s.relocated d).1.Enrolls none (.template ((s.relocations d).templates t)) := by
  have hblock := block_mem_ownedBlocks ht
  have hscope : (s.relocated d).1.scopeBlock (.template ((s.relocations d).templates t))
      = (s.relocations d).blocks (s.template t).block :=
    congrArg Template.block (relocated_template ht)
  refine hreg.copyScope h hd hblock (h.properParameters_of_copy hd ht) ?_ fun ρ => ?_
  · rw [hscope, frameSymbols, relocated_block hblock]
    exact htidy.symbols_copiedLocalFrame h hd ht
  · rw [listed, hscope, listed_block_relocated hblock, listedByOwner, relocated_template ht,
      listedByTemplate_relocated ht, ← List.map_append]
    rfl

/-- **A copied document registers what the document does.** -/
theorem Enrolled.relocated (hreg : s.Enrolled none) (h : s.Sound) (htidy : s.Tidy)
    (hd : d ∈ s.documents) : (s.relocated d).1.Enrolled none := by
  have hstep : s.Step (.copy d) (s.relocated d).1 := .copy d hd
  refine hreg.keep (fun σ hσ => ⟨hstep.sameNames h hσ (by simp [Write.targets])
    (by simp [Write.targets]), fun ρ => .of_eq ?_⟩) fun σ hσ => ?_
  · rw [hstep.listed_eq h hσ (by simp [Write.targets]) (by simp [Write.targets])]
  · cases σ with
    | document e =>
      rcases document_cases hσ with ⟨hold, -⟩ | ⟨rfl, -⟩
      · exact Or.inl hold
      · exact Or.inr fun _ => (hreg (.document d) hd trivial).copyGlobals h htidy hd
    | template t =>
      rcases h.template_cases hd hσ with ⟨hold, -⟩ | ⟨u, hu, rfl, -⟩
      · exact Or.inl hold
      · refine Or.inr fun hbare => ?_
        have hbare' := h.bareParameters_of_copy hd hu hbare
        exact (hreg (.template u) ((h.documents d hd).templates u hu).1 hbare').copyLocals h htidy
          hd hu

end Store

end TimedNet
