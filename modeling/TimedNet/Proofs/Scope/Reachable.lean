import TimedNet.Proofs.Scope.Copy

/-!
# `TimedNet.Proofs.Scope.Reachable` — every reachable store registers its entities

The frames of documents and templates and the lists of their entities fit together, whatever a program
does, as long as it adds to these frames only by declaring.

* `Operation.KeepsScopes`: the programs in question.
* `Enrolled.perform`, `Run.enrolled`, `Run.registered`: what an operation and a run preserve.
* `BlockRegistry`, `GlobalRegistry`, `LocalRegistry`: what a scope then looks like.
* `scopes_registered`: the scopes of every document.
-/

namespace TimedNet

namespace Store

/-- All scopes of a store. -/
def scopes (s : Store) : List Scope :=
  (List.range s.documents.size).map (fun i => .document ⟨i⟩)
    ++ (List.range s.templates.size).map fun i => .template ⟨i⟩

theorem mem_scopes {s : Store} {σ : Scope} (hσ : s.Has σ.entity) : σ ∈ s.scopes := by
  cases σ with
  | document d =>
    exact List.mem_append_left _ (List.mem_map.mpr ⟨d.index, List.mem_range.mpr hσ, rfl⟩)
  | template t =>
    exact List.mem_append_right _ (List.mem_map.mpr ⟨t.index, List.mem_range.mpr hσ, rfl⟩)

end Store

/-- Nothing is added to frames or parameters by hand, and local variables of functions are declared in
    frames of no scope. A template that is made on its own, so that no document lists it, gets a symbol of
    no scope. -/
def Operation.KeepsScopes (s : Store) : Operation → Prop
  | .extendFrame .. | .extendParameters .. => False
  | .declareLocal _ frame .. | .addLocal _ _ frame .. =>
    ∀ σ ∈ s.scopes, (s.block (s.scopeBlock σ)).frame ≠ frame
  | .newTemplate symbol .. => ∀ σ ∈ s.scopes, symbol ∉ s.frameSymbols (s.scopeBlock σ)
  | _ => True

instance (s : Store) : ∀ op : Operation, Decidable (op.KeepsScopes s)
  | .extendFrame .. | .extendParameters .. => .isFalse id
  | .declareLocal _ frame .. | .addLocal _ _ frame .. =>
    inferInstanceAs (Decidable (∀ σ ∈ s.scopes, (s.block (s.scopeBlock σ)).frame ≠ frame))
  | .newTemplate symbol .. =>
    inferInstanceAs (Decidable (∀ σ ∈ s.scopes, symbol ∉ s.frameSymbols (s.scopeBlock σ)))
  | .newSymbol .. | .newFrame .. | .declareSymbol .. | .newBlock .. | .copyInst .. | .newLineTable ..
  | .addLine .. | .openLog .. | .copyLog .. | .addError .. | .addWarning .. | .report ..
  | .clearErrors .. | .clearWarnings .. | .openDocument .. | .copyDocument .. | .addTemplate ..
  | .addDynamicTemplate .. | .addInstance .. | .addLscInstance .. | .addProcess ..
  | .removeProcess .. | .beginChanPriority .. | .addChanPriority .. | .setProcPriority ..
  | .recordFeature .. | .setOptions .. | .addQuery .. | .addLibrary .. | .addString ..
  | .internString .. | .assignDocument .. | .declareVariable .. | .declareFunction ..
  | .declareType .. | .addVariable .. | .addFunction .. | .addTypedef .. | .addProgress ..
  | .addGantt .. | .newIODecl .. | .setIODecl .. | .setBody .. | .addEffects .. | .setInitialiser ..
  | .copyVariables .. | .copyFunctions .. | .assignTemplate .. | .addDynamicEval ..
  | .addLocation .. | .assignLocation .. | .addBranchpoint .. | .setInitial .. | .addEdge ..
  | .assignEdge .. | .extendEdge .. | .restrict .. | .addInstanceLine .. | .bindLine ..
  | .addMessage .. | .addCondition .. | .addUpdate .. | .newRegions .. | .setRegion .. | .newCut ..
  | .addToCut .. | .eraseFromCut .. | .newQuery .. | .setQuery .. | .newArena ..
  | .pushToArena .. => .isTrue trivial

theorem Operation.KeepsScopes.addsOnce {s : Store} {op : Operation} (h : op.KeepsScopes s) :
    op.AddsOnce s := by
  cases op with
  | extendFrame | extendParameters => exact absurd h id
  | _ => trivial

namespace Store

variable {s : Store}

/-! ## Operations -/

/-- A template made on its own is in no scope if its symbol is in none. -/
theorem Enrolled.newTemplateAlone (hreg : s.Enrolled none) (h : s.Sound) {symbol : SymbolId}
    {parameters : List SymbolId} {globals : Option FrameId} {log : LogId} {style : Style}
    (hop : (Operation.newTemplate symbol parameters globals log style).Admissible s)
    (hsymbol : ∀ σ ∈ s.scopes, symbol ∉ s.frameSymbols (s.scopeBlock σ)) :
    (s.newTemplate symbol parameters globals log style).1.Enrolled none := by
  have hall := hasAll_cons.mp hop.symbols
  have hstep : s.Step (.newTemplate symbol parameters)
      (s.newTemplate symbol parameters globals log style).1 := by
    refine .newTemplate symbol parameters globals log style hall.1 hop.wellFormed hall.2
      (fun p hp => ?_) (hop.others (.log log) List.mem_cons_self)
    exact hop.others (.frame p) (List.mem_cons_of_mem _ (List.mem_map_of_mem (by simpa using hp)))
  exact Enrolled.newTemplate h hall.1 hop.wellFormed hstep hreg (fun _ => rfl)
    fun σ hσ => Or.inl ⟨hsymbol σ (mem_scopes hσ), fun _ => rfl⟩

/-- **Every operation of a program that keeps scopes registers what it makes**, and lists nothing when
    it fails. -/
theorem Enrolled.perform (hreg : s.Enrolled none) (h : s.Sound) (htidy : s.Tidy) {op : Operation}
    (hop : op.Admissible s) (hkeeps : op.KeepsScopes s) : (s.perform op).Enrolled none := by
  have hquiet : (∀ w ∈ op.writes s, w.Quiet) → (s.perform op).Enrolled none := fun hw =>
    (h.path_perform hop).enrolled h hw hreg
  have hreceivers := hop.receivers
  cases op with
  | extendFrame | extendParameters => exact absurd hkeeps id
  | declareSymbol => exact hreg.declareSymbol h hop.wellFormed
  | newTemplate symbol parameters globals log style => exact hreg.newTemplateAlone h hop hkeeps
  | copyDocument document =>
    have hdocument : document ∈ s.documents := hop.others (.document document) List.mem_cons_self
    rw [Store.perform, h.copyDocument_eq hdocument]
    exact hreg.relocated h htidy hdocument
  | addTemplate document name parameters span style =>
    exact hreg.addTemplate h (hreceivers (.document document) List.mem_cons_self) name hop.symbols span
      style
  | addDynamicTemplate document name parameters span =>
    exact hreg.addDynamicTemplate h (hreceivers (.document document) List.mem_cons_self) name
      hop.symbols span
  | addInstance document =>
    exact hreg.addInstance h (hreceivers (.document document) List.mem_cons_self) _ _ _ _ _
  | addLscInstance document =>
    exact hreg.addLscInstance h (hreceivers (.document document) List.mem_cons_self) _ _ _ _ _
  | addProcess document =>
    exact hreg.addProcess h (hreceivers (.document document) List.mem_cons_self) _ _
  | removeProcess document | recordFeature document | setOptions document | addQuery document
  | addLibrary document | addString document | assignDocument document =>
    exact hreg.setting h (hreceivers (.document document) List.mem_cons_self) fun _ => ⟨rfl, rfl, rfl⟩
  | beginChanPriority document | setProcPriority document =>
    exact hreg.markedSetting h (hreceivers (.document document) List.mem_cons_self)
      fun _ => ⟨rfl, rfl, rfl⟩
  | addChanPriority document =>
    exact hreg.addChanPriority h (hreceivers (.document document) List.mem_cons_self) _ _
  | internString document =>
    exact hreg.internString h (hreceivers (.document document) List.mem_cons_self) _
  | declareVariable block =>
    exact hreg.declareVariable h (hreceivers (.block block) List.mem_cons_self) _ _ _ _
  | declareFunction block =>
    exact hreg.declareFunction h (hreceivers (.block block) List.mem_cons_self) _ _ _
  | declareType => exact hreg.declareSymbol h rfl
  | declareLocal function =>
    exact hreg.declareLocal h (fun σ hσ => hkeeps σ (mem_scopes hσ)) function _ _ _ _
  | addVariable document block =>
    exact hreg.addVariable h (hreceivers (.block block) (by simp [Operation.receivers])) _ _ _
      hop.symbols _
  | addLocal document function =>
    exact hreg.addLocal h (fun σ hσ => hkeeps σ (mem_scopes hσ)) document function _ _ hop.symbols _
  | addFunction document block =>
    exact hreg.addFunction h (hreceivers (.block block) (by simp [Operation.receivers])) document _ _ _
  | addTypedef document block => exact hreg.addTypedef h document block _ _ _
  | addProgress | addGantt | newIODecl | setIODecl =>
    exact hreg.editBlock h.scopesApart (fun _ => rfl) fun ρ => by cases ρ <;> rfl
  | setBody | addEffects => exact hreg.modifyFunction h.scopesApart fun _ => rfl
  | setInitialiser owner init => exact hreg.setInitialiser h owner init
  | copyVariables document source target =>
    exact Enrolled.copyVariables (hop.others (.template source) List.mem_cons_self)
      (hreceivers (.template target) (by simp [Operation.receivers])) hreg h document
  | copyFunctions document source target =>
    exact Enrolled.copyFunctions (hop.others (.template source) List.mem_cons_self)
      (hreceivers (.template target) (by simp [Operation.receivers])) hreg h document
  | assignTemplate template | addDynamicEval template | assignEdge template | extendEdge template =>
    exact hreg.edited h (hreceivers (.template template) List.mem_cons_self)
      fun _ => ⟨rfl, rfl, rfl, rfl, rfl⟩
  | assignLocation template =>
    refine hreg.edited h (hreceivers (.template template) List.mem_cons_self)
      fun u => ⟨rfl, rfl, ?_, rfl, rfl⟩
    exact map_modify_eq fun _ _ => rfl
  | addLocation template =>
    exact hreg.addLocation h (hreceivers (.template template) List.mem_cons_self) _ _ _ _
  | addBranchpoint template =>
    exact hreg.addBranchpoint h (hreceivers (.template template) List.mem_cons_self) _ _
  | setInitial template =>
    exact hreg.setInitial h (hreceivers (.template template) List.mem_cons_self) _
  | addEdge template =>
    exact hreg.addEdge h (hreceivers (.template template) List.mem_cons_self) _ _ _ _
  | addInstanceLine template =>
    exact hreg.addInstanceLine h (hreceivers (.template template) List.mem_cons_self) _ _
  | addMessage template =>
    exact hreg.addMessage h (hreceivers (.template template) List.mem_cons_self) _ _ _ _ _
  | addCondition template =>
    exact hreg.addCondition h (hreceivers (.template template) List.mem_cons_self) _ _ _ _ _
  | addUpdate template =>
    exact hreg.addUpdate h (hreceivers (.template template) List.mem_cons_self) _ _ _ _
  | bindLine =>
    refine hquiet fun w hw => ?_
    obtain ⟨b, -, rfl⟩ := List.mem_map.mp hw
    trivial
  | _ => exact hquiet (by simp [Operation.writes, Write.Quiet])

/-- **Every store that such a program reaches enrolls its entities.** -/
theorem Run.enrolled (hrun : Run Operation.KeepsScopes {} s) : s.Enrolled none := by
  induction hrun with
  | refl =>
    intro σ hσ
    cases σ <;> exact absurd hσ (Nat.not_lt_zero _)
  | step run op hadmissible hkeeps ih =>
    have htidy := (run.imp fun _ _ => Operation.KeepsScopes.addsOnce).tidy
    exact ih.perform (run.sound sound_empty) htidy hadmissible hkeeps

theorem Run.registered (hrun : Run Operation.KeepsScopes {} s) : s.Registered none :=
  hrun.enrolled.registered

/-! ## What scopes look like -/

/-- The frame of a block: every symbol and every name is there once, and its variables and functions are
    those that the block lists, in their order, under symbols that stand for them. -/
structure BlockRegistry (s : Store) (b : BlockId) : Prop where
  names : ((s.frameSymbols b).map s.name).Nodup
  symbols : (s.frameSymbols b).Nodup
  vars : s.members b .var = (s.block b).vars.map fun v => v.symbol
  functions : s.members b .fn = (s.block b).functions.map fun f => f.symbol
  varSubjects : ∀ i v, (s.block b).vars[i]? = some v →
    (s.symbol v.symbol).subject = .var (.ofBlock b i)
  functionSubjects : ∀ i f, (s.block b).functions[i]? = some f →
    (s.symbol f.symbol).subject = .fn ⟨b, i⟩

/-- The global scope of a document: its templates, static and dynamic together, and its instances, those
    of charts among them, each under a symbol that stands for it, and no entities of other kinds but
    variables and functions. -/
structure GlobalRegistry (s : Store) (d : DocumentId) : Prop
    extends s.BlockRegistry (s.document d).globals where
  templates : (s.members (s.document d).globals .template).Perm
    ((s.document d).allTemplates.map s.templateSymbol)
  insts : (s.members (s.document d).globals .inst).Perm
    (((s.document d).instances ++ (s.document d).lscInstances).map fun i => (s.inst i).symbol)
  templateSubjects : ∀ t ∈ (s.document d).allTemplates,
    (s.symbol (s.templateSymbol t)).subject = .template t
  instSubjects : ∀ i ∈ (s.document d).instances ++ (s.document d).lscInstances,
    (s.symbol (s.inst i).symbol).subject = .inst i
  others : ∀ ρ ∈ [Role.location, .branchpoint, .line, .process],
    s.members (s.document d).globals ρ = []

/-- The scope of a template: first its parameters; then, among the rest, its locations, branchpoints and
    lines in their order, each under a symbol that stands for it, and no entities of other kinds but
    variables and functions. -/
structure LocalRegistry (s : Store) (t : TemplateId) : Prop
    extends s.BlockRegistry (s.template t).block where
  startsWith : (s.frame (s.localFrame t)).StartsWith
    (s.inst (s.template t).inst).binding.parameters
  locations : s.members (s.template t).block .location
    = (s.template t).locations.items.map fun l => l.symbol
  branchpoints : s.members (s.template t).block .branchpoint
    = (s.template t).branchpoints.items.map fun b => b.symbol
  lines : s.members (s.template t).block .line
    = (s.template t).lines.items.map fun l => (s.inst l.inst).symbol
  locationSubjects : ∀ i l, (s.template t).locations.items[i]? = some l →
    (s.symbol l.symbol).subject = .location t i
  branchpointSubjects : ∀ i b, (s.template t).branchpoints.items[i]? = some b →
    (s.symbol b.symbol).subject = .branchpoint t i
  lineSubjects : ∀ i l, (s.template t).lines.items[i]? = some l →
    (s.symbol (s.inst l.inst).symbol).subject = .line t i
  others : ∀ ρ ∈ [Role.template, .inst, .process], s.members (s.template t).block ρ = []

theorem Registers.blockRegistry {σ : Scope} (hreg : s.Registers none σ) (h : s.Sound)
    (hσ : s.Has σ.entity) : s.BlockRegistry (s.scopeBlock σ) := by
  have hsound := h.blocks _ (h.scopesApart.mem σ hσ)
  have hvars : s.listed σ .var = (s.block (s.scopeBlock σ)).vars.map fun v => v.symbol := by
    cases σ <;> exact List.append_nil _
  have hfunctions : s.listed σ .fn = (s.block (s.scopeBlock σ)).functions.map fun f => f.symbol := by
    cases σ <;> exact List.append_nil _
  exact
    { names := hreg.names
      symbols := hreg.names.of_map s.name
      vars := (hreg.agree .var).trans hvars
      functions := (hreg.agree .fn).trans hfunctions
      varSubjects := fun i v hv => (hsound.vars i v hv).subject
      functionSubjects := fun i f hf => (hsound.functions i f hf).subject }

theorem Registers.globalRegistry {d : DocumentId} (hreg : s.Registers none (.document d))
    (h : s.Sound) (hd : d ∈ s.documents) : s.GlobalRegistry d :=
  { hreg.blockRegistry h hd with
    templates := hreg.agree .template
    insts := hreg.agree .inst
    templateSubjects := fun t ht =>
      (h.templates t ((h.documents d hd).templates t ht).1).own.subject
    instSubjects := fun i hi => ((h.documents d hd).instances i hi).2.subject
    others := by
      simp only [List.forall_mem_cons, List.not_mem_nil, false_implies, implies_true, and_true]
      exact ⟨hreg.agree .location, hreg.agree .branchpoint, hreg.agree .line, hreg.agree .process⟩ }

theorem Registers.localRegistry {t : TemplateId} (hreg : s.Registers none (.template t))
    (h : s.Sound) (htidy : s.Tidy) (ht : t ∈ s.templates) : s.LocalRegistry t :=
  have hsound := h.templates t ht
  { hreg.blockRegistry h ht with
    startsWith := htidy.locals t ht
    locations := hreg.agree .location
    branchpoints := hreg.agree .branchpoint
    lines := hreg.agree .line
    locationSubjects := fun i l hl => (hsound.locations i l hl).subject
    branchpointSubjects := fun i b hb => (hsound.branchpoints i b hb).subject
    lineSubjects := fun i l hl => (hsound.lines i l hl).2.subject
    others := by
      simp only [List.forall_mem_cons, List.not_mem_nil, false_implies, implies_true, and_true]
      exact ⟨List.Perm.eq_nil (hreg.agree .template), List.Perm.eq_nil (hreg.agree .inst),
        hreg.agree .process⟩ }

/-- **The scopes of every document.** Whatever a program does in whatever order, with operations that
    succeed and operations that fail, with declarations copied from template to template and documents
    copied whole: as long as it keeps scopes, the global scope of every document has what the document
    lists, and so has the scope of every template whose parameters have different names and stand for
    no entity. -/
theorem scopes_registered (hrun : Run Operation.KeepsScopes {} s) : ∀ d ∈ s.documents,
    s.GlobalRegistry d
      ∧ ∀ t ∈ (s.document d).allTemplates, s.ProperParameters t → s.LocalRegistry t := by
  intro d hd
  have h := hrun.sound sound_empty
  have htidy := (hrun.imp fun _ _ => Operation.KeepsScopes.addsOnce).tidy
  refine ⟨(hrun.registered (.document d) hd trivial).globalRegistry h hd, fun t htd hproper => ?_⟩
  have ht : t ∈ s.templates := ((h.documents d hd).templates t htd).1
  exact (hrun.registered (.template t) ht hproper).localRegistry h htidy ht

/-- Two templates with a parameter, variables and functions, of which some are copied and one is there
    already, instances, names that are taken, and a copy of it all: in the copied document everything
    is registered. -/
theorem scopes_registered_copied_document : ∃ s : Store, Run Operation.KeepsScopes {} s
    ∧ (s.frameSymbols (s.document ⟨1⟩).globals).map s.name = ["x", "f", "T", "U", "I", "J"]
    ∧ (s.frameSymbols (s.template ⟨3⟩).block).map s.name = ["q", "c", "g"]
    ∧ s.GlobalRegistry ⟨1⟩ ∧ s.LocalRegistry ⟨2⟩ ∧ s.LocalRegistry ⟨3⟩ := by
  let ops : List Operation :=
    [.openDocument none none, .newSymbol { name := "p", type := "int", subject := .parameter },
      .newSymbol { name := "q", type := "int", subject := .parameter },
      .addVariable ⟨0⟩ ⟨0⟩ "int" "x" .empty {},
      .addFunction ⟨0⟩ ⟨0⟩ "int" "f" {}, .addFunction ⟨0⟩ ⟨0⟩ "int" "x" {},
      .addTemplate ⟨0⟩ "T" [⟨0⟩] {} {}, .addTemplate ⟨0⟩ "f" [] {} {},
      .addVariable ⟨0⟩ ⟨1⟩ "clock" "c" .empty {}, .addLocation ⟨0⟩ "A" .empty .empty {},
      .addLocation ⟨0⟩ "c" .empty .empty {}, .addFunction ⟨0⟩ ⟨1⟩ "void" "g" {},
      .addInstanceLine ⟨0⟩ "L" {}, .addDynamicTemplate ⟨0⟩ "U" [⟨1⟩] {},
      .addVariable ⟨0⟩ ⟨2⟩ "int" "c" .empty {}, .copyVariables ⟨0⟩ ⟨0⟩ ⟨1⟩,
      .copyFunctions ⟨0⟩ ⟨0⟩ ⟨1⟩, .addInstance ⟨0⟩ "I" ⟨0⟩ [] [] {},
      .addInstance ⟨0⟩ "T" ⟨0⟩ [] [] {}, .addLscInstance ⟨0⟩ "J" ⟨0⟩ [] [] {}, .copyDocument ⟨0⟩]
  have hperforms : ({} : Store).Performs Operation.KeepsScopes ops := by decide +kernel
  have hrun : Run Operation.KeepsScopes {} (ops.foldl perform {}) := Run.refl.performs hperforms
  have hdocument := scopes_registered hrun ⟨1⟩ (by decide +kernel)
  exact ⟨ops.foldl perform {}, hrun, by decide +kernel, by decide +kernel, hdocument.1,
    hdocument.2 ⟨2⟩ (by decide +kernel) (by decide +kernel),
    hdocument.2 ⟨3⟩ (by decide +kernel) (by decide +kernel)⟩

end Store

end TimedNet
