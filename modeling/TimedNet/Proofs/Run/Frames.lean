import TimedNet.Proofs.Separation.Footprint

/-!
# `TimedNet.Proofs.Run.Frames` — frames that hold no symbol twice

A symbol that is declared is new, so only a program that adds symbols by hand can bring one into a frame
that has it already, or into the parameters of a template that has its local frame. When no program does,
a global frame holds every symbol once, a local frame holds the parameters of its template and then every
other symbol once, and all parameters of a template are open.

* `Frame.StartsWith`.
* `Operation.LeavesParameters`, `Operation.AddsOnce`: what is asked of the operations.
* `Step.startsWith`, `Step.binding_template`: what a step does to a frame and to an own instance.
* `Store.Tidy`, `Step.tidy`, `Run.tidy`.
-/

namespace TimedNet

/-- A frame holds the given symbols first, and after them others, each once. -/
def Frame.StartsWith (f : Frame) (first : List SymbolId) : Prop :=
  ∃ rest, f.symbols = first ++ rest ∧ rest.Nodup ∧ ∀ r ∈ rest, r ∉ first

theorem Frame.StartsWith.refl (f : Frame) : f.StartsWith f.symbols :=
  ⟨[], (List.append_nil _).symm, List.nodup_nil, fun _ hr => absurd hr List.not_mem_nil⟩

theorem Frame.StartsWith.trans {f g : Frame} {first : List SymbolId} (h : f.StartsWith first)
    (h' : g.StartsWith f.symbols) : g.StartsWith first := by
  obtain ⟨rest, hsymbols, hnodup, hnew⟩ := h
  obtain ⟨more, hmore, hnodup', hnew'⟩ := h'
  rw [hsymbols] at hmore hnew'
  refine ⟨rest ++ more, by rw [hmore, List.append_assoc], ?_, ?_⟩
  · refine List.nodup_append.mpr ⟨hnodup, hnodup', ?_⟩
    rintro r hr q hq rfl
    exact hnew' r hq (List.mem_append_right _ hr)
  · intro r hr hfirst
    rcases List.mem_append.mp hr with hr | hr
    · exact hnew r hr hfirst
    · exact hnew' r hr (List.mem_append_left _ hfirst)

theorem Frame.startsWith_addNew (f : Frame) (rs : List SymbolId) :
    (f.addNew rs).StartsWith f.symbols :=
  Ordered.exists_union_eq _ _

/-- No symbols are added by hand to the parameters of a template. -/
def Operation.LeavesParameters (s : Store) : Operation → Prop
  | .extendParameters inst _ => (s.template (s.inst inst).template).inst ≠ inst
  | _ => True

/-- Symbols are added to a frame by hand only when the frame does not have them, and each once; and none
    are added to the parameters of a template. -/
def Operation.AddsOnce (s : Store) : Operation → Prop
  | .extendFrame frame symbols => symbols.Nodup ∧ ∀ r ∈ symbols, r ∉ (s.frame frame).symbols
  | op => op.LeavesParameters s

/-- The same of a step. -/
def Write.LeavesParameters (s : Store) : Write → Prop
  | .parameters r _ => ∀ t ∈ s.templates, (s.template t).inst ≠ r
  | _ => True

def Write.AddsOnce (s : Store) : Write → Prop
  | .extend r rs => rs.Nodup ∧ ∀ q ∈ rs, q ∉ (s.frame r).symbols
  | w => w.LeavesParameters s

theorem Write.AddsOnce.leavesParameters {s : Store} {w : Write} (h : w.AddsOnce s) :
    w.LeavesParameters s := by
  cases w with
  | extend => trivial
  | _ => exact h

instance (s : Store) : ∀ op : Operation, Decidable (op.LeavesParameters s)
  | .extendParameters inst _ =>
    inferInstanceAs (Decidable ((s.template (s.inst inst).template).inst ≠ inst))
  | .newSymbol .. | .newFrame .. | .extendFrame .. | .declareSymbol .. | .newBlock ..
  | .newTemplate .. | .copyInst .. | .newLineTable .. | .addLine .. | .openLog .. | .copyLog ..
  | .addError .. | .addWarning .. | .report .. | .clearErrors .. | .clearWarnings ..
  | .openDocument .. | .copyDocument .. | .addTemplate .. | .addDynamicTemplate ..
  | .addInstance .. | .addLscInstance .. | .addProcess .. | .removeProcess ..
  | .beginChanPriority .. | .addChanPriority .. | .setProcPriority .. | .recordFeature ..
  | .setOptions .. | .addQuery .. | .addLibrary .. | .addString .. | .internString ..
  | .assignDocument .. | .declareVariable .. | .declareLocal .. | .declareFunction ..
  | .declareType .. | .addVariable .. | .addLocal .. | .addFunction .. | .addTypedef ..
  | .addProgress .. | .addGantt .. | .newIODecl .. | .setIODecl .. | .setBody .. | .addEffects ..
  | .setInitialiser .. | .copyVariables .. | .copyFunctions .. | .assignTemplate ..
  | .addDynamicEval .. | .addLocation .. | .assignLocation .. | .addBranchpoint ..
  | .setInitial .. | .addEdge .. | .assignEdge .. | .extendEdge .. | .restrict ..
  | .addInstanceLine .. | .bindLine .. | .addMessage .. | .addCondition .. | .addUpdate ..
  | .newRegions .. | .setRegion .. | .newCut .. | .addToCut .. | .eraseFromCut .. | .newQuery ..
  | .setQuery .. | .newArena .. | .pushToArena .. => .isTrue trivial

instance (s : Store) : ∀ op : Operation, Decidable (op.AddsOnce s)
  | .extendFrame frame symbols =>
    inferInstanceAs (Decidable (symbols.Nodup ∧ ∀ r ∈ symbols, r ∉ (s.frame frame).symbols))
  | .extendParameters inst _ =>
    inferInstanceAs (Decidable ((s.template (s.inst inst).template).inst ≠ inst))
  | .newSymbol .. | .newFrame .. | .declareSymbol .. | .newBlock .. | .newTemplate ..
  | .copyInst .. | .newLineTable .. | .addLine .. | .openLog .. | .copyLog .. | .addError ..
  | .addWarning .. | .report .. | .clearErrors .. | .clearWarnings .. | .openDocument ..
  | .copyDocument .. | .addTemplate .. | .addDynamicTemplate .. | .addInstance ..
  | .addLscInstance .. | .addProcess .. | .removeProcess .. | .beginChanPriority ..
  | .addChanPriority .. | .setProcPriority .. | .recordFeature .. | .setOptions .. | .addQuery ..
  | .addLibrary .. | .addString .. | .internString .. | .assignDocument .. | .declareVariable ..
  | .declareLocal .. | .declareFunction .. | .declareType .. | .addVariable .. | .addLocal ..
  | .addFunction .. | .addTypedef .. | .addProgress .. | .addGantt .. | .newIODecl ..
  | .setIODecl .. | .setBody .. | .addEffects .. | .setInitialiser .. | .copyVariables ..
  | .copyFunctions .. | .assignTemplate .. | .addDynamicEval .. | .addLocation ..
  | .assignLocation .. | .addBranchpoint .. | .setInitial .. | .addEdge .. | .assignEdge ..
  | .extendEdge .. | .restrict .. | .addInstanceLine .. | .bindLine .. | .addMessage ..
  | .addCondition .. | .addUpdate .. | .newRegions .. | .setRegion .. | .newCut .. | .addToCut ..
  | .eraseFromCut .. | .newQuery .. | .setQuery .. | .newArena .. | .pushToArena .. => .isTrue trivial

namespace Store

variable {s s' : Store}

/-- Global frames hold every symbol once, local frames the parameters and then every other symbol
    once. All parameters of a template are open. -/
structure Tidy (s : Store) : Prop where
  globals : ∀ d ∈ s.documents, (s.frame (s.globalFrame d)).StartsWith []
  locals : ∀ t ∈ s.templates,
    (s.frame (s.localFrame t)).StartsWith (s.inst (s.template t).inst).binding.parameters
  opens : ∀ t ∈ s.templates, (s.inst (s.template t).inst).binding.unbound
    = (s.inst (s.template t).inst).binding.parameters.length

/-! ## Steps -/

/-- A step adds to a frame what the frame does not have. -/
theorem Step.startsWith {w : Write} (hstep : s.Step w s') (h : s.Sound)
    (hw : w.AddsOnce s) {f : FrameId} (hf : f ∈ s.frames) :
    (s'.frame f).StartsWith (s.frame f).symbols := by
  have hsame : .frame f ∉ w.targets → (s'.frame f).StartsWith (s.frame f).symbols := by
    intro hnot
    rw [show s'.frame f = s.frame f from hstep.same (e := .frame f) hf hnot]
    exact .refl _
  cases hstep with
  | extend r rs _ =>
    by_cases hr : r = f
    · subst hr
      have hadded : (s.modifyFrame r fun f => f.addAll rs).frame r = (s.frame r).addAll rs :=
        Table.get_modify_self _ hf
      rw [hadded]
      exact ⟨rs, rfl, hw⟩
    · exact hsame (by simpa [Write.targets] using Ne.symm hr)
  | declare r x _ =>
    by_cases hr : r = f
    · subst hr
      have hadded : (s.declared r x).frame r = (s.frame r).add s.symbols.next :=
        Table.get_modify_self _ hf
      rw [hadded]
      -- The frame holds symbols that are there, and the declared one was not.
      refine ⟨[s.symbols.next], rfl, List.nodup_singleton _, fun q hq hmem => ?_⟩
      rw [List.mem_singleton.mp hq] at hmem
      exact Table.next_not_mem _ ((h.frames r hf).symbols _ hmem)
    · exact hsame (by simpa [Write.targets] using Ne.symm hr)
  | _ => exact hsame (by simp [Write.targets])

/-- **What a step does to the own instance of a template**: it restricts more, or adds parameters by
    hand. -/
theorem Step.binding_template {w : Write} (hstep : s.Step w s') (h : s.Sound) {t : TemplateId}
    (ht : t ∈ s.templates) : ∃ restricted more, (s'.inst (s.template t).inst).binding
        = { (s.inst (s.template t).inst).binding with
            restricted, parameters := (s.inst (s.template t).inst).binding.parameters ++ more }
      ∧ (w.LeavesParameters s → more = []) := by
  have hinst := (h.templates t ht).inst
  have hsame : .inst (s.template t).inst ∉ w.targets →
      ∃ restricted more, (s'.inst (s.template t).inst).binding
          = { (s.inst (s.template t).inst).binding with
              restricted, parameters := (s.inst (s.template t).inst).binding.parameters ++ more }
        ∧ (w.LeavesParameters s → more = []) := by
    intro hnot
    have heq : s'.inst (s.template t).inst = s.inst (s.template t).inst :=
      hstep.same (e := .inst _) hinst hnot
    exact ⟨_, [], by rw [heq, List.append_nil], fun _ => rfl⟩
  cases hstep with
  | restrict r rs _ =>
    by_cases hr : r = (s.template t).inst
    · subst hr
      refine ⟨rs, [], ?_, fun _ => rfl⟩
      rw [List.append_nil]
      exact congrArg Instance.binding (Table.get_modify_self _ hinst)
    · exact hsame (by simpa [Write.targets] using Ne.symm hr)
  | parameters r rs _ =>
    by_cases hr : r = (s.template t).inst
    · subst hr
      exact ⟨_, rs, congrArg Instance.binding (Table.get_modify_self _ hinst),
        fun hleaves => absurd rfl (hleaves t ht)⟩
    · exact hsame (by simpa [Write.targets] using Ne.symm hr)
  | bind r template b _ _ hr =>
    -- The instance of a template is never bound again.
    exact hsame (by simpa [Write.targets] using hr t ht)
  | _ => exact hsame (by simp [Write.targets])

/-- The parameters of a template stay where they are. -/
theorem Step.parameters_part {w : Write} (hstep : s.Step w s') (h : s.Sound) {t : TemplateId}
    (ht : t ∈ s.templates) : (s.inst (s.template t).inst).binding.parameters
      <+: (s'.inst (s.template t).inst).binding.parameters := by
  obtain ⟨restricted, more, heq, -⟩ := hstep.binding_template h ht
  rw [heq]
  exact List.prefix_append _ _

/-- A store stays tidy when its frames get new symbols at their ends and what comes in is tidy. -/
theorem Tidy.renew (htidy : s.Tidy) (h : s.Sound) (hg : s.Grows s')
    (hframes : ∀ f ∈ s.frames, (s'.frame f).StartsWith (s.frame f).symbols)
    (hbindings : ∀ t ∈ s.templates, ∃ restricted, (s'.inst (s.template t).inst).binding
      = { (s.inst (s.template t).inst).binding with restricted })
    (hdocuments : ∀ d ∈ s'.documents,
      d ∈ s.documents ∨ (s'.frame (s'.globalFrame d)).StartsWith [])
    (htemplates : ∀ t ∈ s'.templates, t ∈ s.templates
      ∨ (s'.frame (s'.localFrame t)).StartsWith (s'.inst (s'.template t).inst).binding.parameters
        ∧ (s'.inst (s'.template t).inst).binding.unbound
          = (s'.inst (s'.template t).inst).binding.parameters.length) :
    s'.Tidy where
  globals := by
    intro d hd
    rcases hdocuments d hd with hold | hnew
    · have hglobals := (h.documents d hold).globals
      have hframe : s'.globalFrame d = s.globalFrame d := by
        have hsame : (s'.document d).globals = (s.document d).globals := (hg.documents d hold).2.globals
        rw [globalFrame, globalFrame, hsame]
        exact (hg.blocks _ hglobals).2.frame
      rw [hframe]
      exact (htidy.globals d hold).trans (hframes _ (h.blocks _ hglobals).frame)
    · exact hnew
  locals := by
    intro t ht
    rcases htemplates t ht with hold | hnew
    · have hblock := (h.templates t hold).block
      have hkeeps := (hg.templates t hold).2
      have hframe : s'.localFrame t = s.localFrame t := by
        have hsame : (s'.template t).block = (s.template t).block := hkeeps.block
        rw [localFrame, localFrame, hsame]
        exact (hg.blocks _ hblock).2.frame
      have hinst : (s'.template t).inst = (s.template t).inst := hkeeps.inst
      obtain ⟨restricted, hbinding⟩ := hbindings t hold
      rw [hframe, hinst, hbinding]
      exact (htidy.locals t hold).trans (hframes _ (h.blocks _ hblock).frame)
    · exact hnew.1
  opens := by
    intro t ht
    rcases htemplates t ht with hold | hnew
    · have hinst : (s'.template t).inst = (s.template t).inst := (hg.templates t hold).2.inst
      obtain ⟨restricted, hbinding⟩ := hbindings t hold
      rw [hinst, hbinding]
      exact htidy.opens t hold
    · exact hnew.2

/-- All parameters of a new template are open. -/
theorem binding_newTemplate (s : Store) (symbol : SymbolId) (parameters : List SymbolId)
    (globals : Option FrameId) (log : LogId) (style : Style) :
    ((s.newTemplate symbol parameters globals log style).1.inst
      ((s.newTemplate symbol parameters globals log style).1.template
        s.templates.next).inst).binding = .ofParameters parameters := by
  have htemplate : (s.newTemplate symbol parameters globals log style).1.template s.templates.next
      = s.freshTemplate parameters globals log style := Table.get_push_next _ _
  rw [htemplate]
  exact congrArg Instance.binding (Table.get_push_next s.insts _)

/-- The local frame of a new template holds its parameters and nothing else. -/
theorem startsWith_newTemplate (s : Store) (symbol : SymbolId) (parameters : List SymbolId)
    (globals : Option FrameId) (log : LogId) (style : Style) :
    ((s.newTemplate symbol parameters globals log style).1.frame
      ((s.newTemplate symbol parameters globals log style).1.localFrame s.templates.next)).StartsWith
        ((s.newTemplate symbol parameters globals log style).1.inst
          ((s.newTemplate symbol parameters globals log style).1.template
            s.templates.next).inst).binding.parameters := by
  have htemplate : (s.newTemplate symbol parameters globals log style).1.template s.templates.next
      = s.freshTemplate parameters globals log style := Table.get_push_next _ _
  have hblock : ((s.newTemplate symbol parameters globals log style).1.block s.blocks.next).frame
      = s.frames.next := congrArg Block.frame (Table.get_push_next s.blocks _)
  have hframe : (s.newTemplate symbol parameters globals log style).1.frame s.frames.next
      = { parent := globals, symbols := parameters } :=
    (Table.get_push_of_mem _ (Table.next_mem_push _ _)).trans (Table.get_push_next s.frames _)
  rw [binding_newTemplate, localFrame, htemplate, freshTemplate]
  dsimp only
  rw [hblock, hframe]
  exact .refl _

/-- The global frame of a new document is empty. -/
theorem globalFrame_newDocument (s : Store) (lineTable : LineTableId) (log : LogId) :
    (s.newDocument lineTable log).1.frame
      ((s.newDocument lineTable log).1.globalFrame s.documents.next) = {} := by
  have hdocument : ((s.newDocument lineTable log).1.document s.documents.next).globals
      = s.blocks.next := congrArg Document.globals (Table.get_push_next s.documents _)
  have hblock : ((s.newDocument lineTable log).1.block s.blocks.next).frame = s.frames.next :=
    congrArg Block.frame (Table.get_push_next s.blocks _)
  rw [globalFrame, hdocument, hblock]
  exact Table.get_push_next s.frames _

/-- The own instance of a copied template is made anew. -/
theorem Sound.own_relocated (h : s.Sound) {d : DocumentId} (hd : d ∈ s.documents) {t : TemplateId}
    (ht : t ∈ (s.document d).allTemplates) :
    (s.relocated d).1.inst ((s.relocated d).1.template ((s.relocations d).templates t)).inst
      = (s.relocations d).inst ((s.inst (s.template t).inst).opened t) := by
  rw [relocated_template ht, ← h.instSource_own hd ht]
  exact relocated_inst (inst_mem_ownedInsts ht)

/-- The frames of a copy are tidy, whether or not those of the document were. -/
theorem Sound.startsWith_relocated (h : s.Sound) {d : DocumentId} (hd : d ∈ s.documents)
    {t : TemplateId} (ht : t ∈ (s.document d).allTemplates) :
    ((s.relocated d).1.frame ((s.relocated d).1.localFrame
      ((s.relocations d).templates t))).StartsWith
        ((s.relocated d).1.inst ((s.relocated d).1.template
          ((s.relocations d).templates t)).inst).binding.parameters := by
  rw [localFrame_relocated ht, relocated_localFrame h hd ht, h.own_relocated hd ht]
  exact Frame.startsWith_addNew _ _

/-- **A step that adds no symbol to a frame that has it, and none to the parameters of a template, leaves
    a store tidy.** -/
theorem Step.tidy {w : Write} (hstep : s.Step w s') (h : s.Sound) (hw : w.AddsOnce s)
    (htidy : s.Tidy) : s'.Tidy := by
  have hrenew := htidy.renew h hstep.grows (fun f hf => hstep.startsWith h hw hf) fun t ht => by
    obtain ⟨restricted, more, heq, hmore⟩ := hstep.binding_template h ht
    exact ⟨restricted, by rw [heq, hmore hw.leavesParameters, List.append_nil]⟩
  cases hstep with
  | newTemplate symbol parameters globals log style _ _ _ _ _ =>
    refine hrenew (fun d hd => Or.inl hd) fun t ht => ?_
    rcases Table.mem_push.mp ht with hold | rfl
    · exact Or.inl hold
    · refine Or.inr ⟨startsWith_newTemplate s symbol parameters globals log style, ?_⟩
      rw [binding_newTemplate]
      rfl
  | editTemplate r _ f _ =>
    exact hrenew (fun d hd => Or.inl hd) fun t ht => Or.inl (Table.mem_modify.mp ht)
  | document lineTable log _ _ =>
    refine hrenew (fun d hd => ?_) fun t ht => Or.inl ht
    rcases Table.mem_push.mp hd with hold | rfl
    · exact Or.inl hold
    · rw [globalFrame_newDocument]
      exact Or.inr (.refl _)
  | editDocument r f _ =>
    exact hrenew (fun d hd => Or.inl (Table.mem_modify.mp hd)) fun t ht => Or.inl ht
  | aside s' ha =>
    exact hrenew (fun d hd => Or.inl (ha.documents ▸ hd)) fun t ht => Or.inl (ha.templates ▸ ht)
  | copy document hdocument =>
    refine hrenew (fun d hd => ?_) fun t ht => ?_
    · rcases document_cases hd with ⟨hold, _⟩ | ⟨rfl, _⟩
      · exact Or.inl hold
      · rw [globalFrame_relocated, relocated_globalFrame]
        exact Or.inr (Frame.startsWith_addNew _ _)
    · rcases h.template_cases hdocument ht with ⟨hold, _⟩ | ⟨u, hu, rfl, _⟩
      · exact Or.inl hold
      · refine Or.inr ⟨h.startsWith_relocated hdocument hu, ?_⟩
        rw [h.own_relocated hdocument hu]
        exact (List.length_map _).symm
  | _ => exact hrenew (fun d hd => Or.inl hd) fun t ht => Or.inl ht

theorem Path.tidy {P : Write → Prop} (hpath : Path P s s') (h : s.Sound)
    (hP : ∀ w, P w → ∀ t : Store, w.AddsOnce t) (htidy : s.Tidy) : s'.Tidy :=
  hpath.keeps h (fun hw hstep hsound => hstep.tidy hsound (hP _ hw _)) htidy

/-! ## Runs -/

/-- Parameters are added by hand in one operation only, and so are the symbols of a frame. -/
theorem leavesParameters_of_mem_writes {op : Operation}
    (hinst : ∀ inst symbols, op ≠ .extendParameters inst symbols) {w : Write} (hw : w ∈ op.writes s)
    (t : Store) : w.LeavesParameters t := by
  cases w with
  | parameters r rs =>
    cases op with
    | extendParameters => exact absurd rfl (hinst _ _)
    | _ => simp [Operation.writes] at hw
  | _ => trivial

theorem addsOnce_of_mem_writes {op : Operation} (hframe : ∀ frame symbols, op ≠ .extendFrame frame symbols)
    (hinst : ∀ inst symbols, op ≠ .extendParameters inst symbols) {w : Write} (hw : w ∈ op.writes s)
    (t : Store) : w.AddsOnce t := by
  cases w with
  | extend r rs =>
    cases op with
    | extendFrame => exact absurd rfl (hframe _ _)
    | _ => simp [Operation.writes] at hw
  | _ => exact leavesParameters_of_mem_writes hinst hw t

/-- The template of an own instance has this one for its own. -/
theorem Sound.ne_own (h : s.Sound) {i : InstanceId} (hi : (s.template (s.inst i).template).inst ≠ i) :
    ∀ t ∈ s.templates, (s.template t).inst ≠ i := by
  rintro t ht rfl
  rw [(h.own t ht).template] at hi
  exact hi rfl

theorem Run.tidy (hrun : Run Operation.AddsOnce {} s) : s.Tidy := by
  induction hrun with
  | refl =>
    exact ⟨fun _ hd => absurd hd (Nat.not_lt_zero _), fun _ ht => absurd ht (Nat.not_lt_zero _),
      fun _ ht => absurd ht (Nat.not_lt_zero _)⟩
  | step run op hadmissible honce ih =>
    have h := run.sound sound_empty
    cases op with
    | extendFrame frame symbols => exact (Step.extend frame symbols hadmissible.symbols).tidy h honce ih
    | extendParameters inst symbols =>
      exact (Step.parameters inst symbols hadmissible.symbols).tidy h (h.ne_own honce) ih
    | _ => exact (h.path_perform hadmissible).tidy h (fun _ => addsOnce_of_mem_writes (by simp) (by simp)) ih

end Store

end TimedNet
