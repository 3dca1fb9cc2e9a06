import TimedNet.Proofs.Separation.Footprint

/-!
# `TimedNet.Proofs.Separation.Operations` — operations on one document

An operation on a document is called on the document or on what belongs to it; what it is given besides
may come from anywhere. Its targets belong to the document, and other documents stay as they are.

* `Operation.On`: operations on a document and on what belongs to it.
* `Sound.within_of_on`: what such an operation can write.
* `Sound.same_of_run`: the parts of another document are the same after any number of such operations.
-/

namespace TimedNet

/-- An entity belongs to a document: a symbol or a frame when no other document has it, anything else
    when it is a part of the document. -/
def Store.Belongs (s : Store) (c : DocumentId) : Entity → Prop
  | .symbol r => ∀ d ∈ s.documents, s.Part d (.symbol r) → d = c
  | .frame f => ∀ d ∈ s.documents, s.Part d (.frame f) → d = c
  | e => s.Part c e

/-- An operation is called on a document or on what belongs to it. -/
def Operation.On (s : Store) (c : DocumentId) (op : Operation) : Prop :=
  ∀ e ∈ op.receivers, s.Belongs c e

/-- The targets of a step belong to a document or were not there. -/
def Write.Within (s : Store) (c : DocumentId) (w : Write) : Prop :=
  ∀ e ∈ w.targets, s.Belongs c e ∨ ¬ s.Has e

namespace Store

variable {s s' : Store} {c d : DocumentId} {e : Entity}

/-! ## What an operation on a document can write -/

theorem within_fresh (s : Store) (c : DocumentId) : Write.Within s c .fresh :=
  fun _ he => absurd he List.not_mem_nil

theorem within_inst (s : Store) (c : DocumentId) (b : Binding SymbolId) :
    Write.Within s c (.inst b) :=
  fun _ he => absurd he List.not_mem_nil

theorem within_of_belongs {w : Write} (hw : w.targets = [e]) (he : s.Belongs c e) :
    w.Within s c := by
  intro f hf
  rw [hw] at hf
  exact Or.inl (List.mem_singleton.mp hf ▸ he)

/-- The next symbol and the next template are not there yet. -/
theorem within_newTemplate (s : Store) (c : DocumentId) (parameters : List SymbolId) :
    Write.Within s c (.newTemplate s.symbols.next parameters) := by
  intro e he
  rw [List.mem_singleton.mp he]
  exact Or.inr (Table.next_not_mem s.symbols)

theorem within_nextTemplate (s : Store) (c : DocumentId) :
    Write.Within s c (.template s.templates.next .definition) := by
  intro e he
  rw [List.mem_singleton.mp he]
  exact Or.inr (Table.next_not_mem s.templates)

/-- A symbol declared in a frame of the document. -/
theorem Sound.within_declare (h : s.Sound) (hc : c ∈ s.documents) {f : FrameId}
    (hf : f ∈ s.ownedFrames c) : Write.Within s c (.declare f) :=
  within_of_belongs (e := .frame f) rfl fun _ hd hmem => h.frame_unique hd hc hmem hf

/-- **All that an operation on a document can write belongs to the document.** -/
theorem Sound.within_of_on (h : s.Sound) (hc : c ∈ s.documents) {op : Operation}
    (hop : op.Admissible s) (hon : op.On s c) : ∀ w ∈ op.writes s, w.Within s c := by
  have hdocument := h.documents c hc
  have hlog : Write.Within s c (.log (s.document c).log) :=
    within_of_belongs (e := .log _) rfl rfl
  have hself : Write.Within s c (.document c) := within_of_belongs (e := .document c) rfl rfl
  have hglobal : Write.Within s c (.declare (s.globalFrame c)) :=
    h.within_declare hc (globalFrame_mem_ownedFrames s c)
  have hblock : ∀ {b : BlockId}, b ∈ s.ownedBlocks c →
      Write.Within s c (.declare (s.block b).frame) ∧ Write.Within s c (.block b) := fun hb =>
    ⟨h.within_declare hc (frame_mem_ownedFrames hb), within_of_belongs (e := .block _) rfl hb⟩
  have htemplate : ∀ {t : TemplateId}, t ∈ (s.document c).allTemplates →
      Write.Within s c (.log (s.template t).log) ∧ Write.Within s c (.declare (s.localFrame t))
        ∧ ∀ a, Write.Within s c (.template t a) := fun ht =>
    ⟨within_of_belongs (e := .log _) rfl (hdocument.templates _ ht).2,
      h.within_declare hc (localFrame_mem_ownedFrames ht),
      fun _ => within_of_belongs (e := .template _) rfl ht⟩
  -- In each case the receivers of the operation are parts of the document, so what it writes is.
  cases op with
  | newSymbol | newFrame | newBlock | newLineTable | openLog | copyLog | openDocument | newRegions
  | setRegion | newCut | addToCut | eraseFromCut | newQuery | setQuery | newArena | pushToArena =>
    exact List.forall_mem_singleton.mpr (within_fresh s c)
  | extendFrame frame symbols =>
    exact List.forall_mem_singleton.mpr
      (within_of_belongs (e := .frame frame) rfl (hon (.frame frame) List.mem_cons_self))
  | declareSymbol frame symbol =>
    exact List.forall_mem_singleton.mpr
      (within_of_belongs (e := .frame frame) rfl (hon (.frame frame) List.mem_cons_self))
  | newTemplate symbol parameters globals log style =>
    exact List.forall_mem_singleton.mpr
      (within_of_belongs (e := .symbol symbol) rfl (hon (.symbol symbol) List.mem_cons_self))
  | copyInst inst symbol => exact List.forall_mem_singleton.mpr (within_inst s c _)
  | extendParameters inst symbols =>
    exact List.forall_mem_singleton.mpr
      (within_of_belongs (e := .inst inst) rfl (hon (.inst inst) List.mem_cons_self))
  | addLine lines entry =>
    exact List.forall_mem_singleton.mpr
      (within_of_belongs (e := .lineTable lines) rfl (hon (.lineTable lines) List.mem_cons_self))
  | addError log | addWarning log | report log | clearErrors log | clearWarnings log =>
    exact List.forall_mem_singleton.mpr
      (within_of_belongs (e := .log log) rfl (hon (.log log) List.mem_cons_self))
  | copyDocument document =>
    exact List.forall_mem_singleton.mpr fun _ he => absurd he List.not_mem_nil
  | addTemplate document name parameters span style =>
    obtain rfl : document = c := hon (.document document) List.mem_cons_self
    simp only [Operation.writes, List.forall_mem_cons]
    exact ⟨hlog, hglobal, within_newTemplate s _ parameters, hself, by simp⟩
  | addDynamicTemplate document name parameters span =>
    obtain rfl : document = c := hon (.document document) List.mem_cons_self
    simp only [Operation.writes, List.forall_mem_append, List.forall_mem_cons]
    refine ⟨⟨hlog, hglobal, within_newTemplate s _ parameters, within_nextTemplate s _, hself,
      by simp⟩, ?_⟩
    -- A template that is defined at last is one that the document has declared.
    intro w hw
    obtain ⟨t, ht, rfl⟩ := List.mem_map.mp hw
    have hfind : s.findDynamicTemplate? document name = some t := by simpa using ht
    have ht := ((h.findDynamicTemplate?_iff hc).mp hfind).1
    exact (htemplate (List.mem_append_right _ ht)).2.2 .definition
  | addInstance document | addLscInstance document =>
    obtain rfl : document = c := hon (.document document) List.mem_cons_self
    simp only [Operation.writes, List.forall_mem_append, List.forall_mem_cons]
    refine ⟨⟨hlog, hglobal, hself, by simp⟩, ?_⟩
    intro w hw
    obtain ⟨b, _, rfl⟩ := List.mem_map.mp hw
    exact within_inst s _ b
  | addProcess document inst span =>
    obtain rfl : document = c := hon (.document document) List.mem_cons_self
    simp only [Operation.writes, List.forall_mem_cons]
    exact ⟨hlog, within_fresh s _, within_inst s _ _, hself, by simp⟩
  | removeProcess document | beginChanPriority document | setProcPriority document
  | recordFeature document | setOptions document | addQuery document | addLibrary document
  | addString document | internString document | assignDocument document =>
    obtain rfl : document = c := hon (.document document) List.mem_cons_self
    exact List.forall_mem_singleton.mpr hself
  | addChanPriority document separator chan =>
    obtain rfl : document = c := hon (.document document) List.mem_cons_self
    simp only [Operation.writes, List.forall_mem_cons]
    exact ⟨hlog, hself, by simp⟩
  | declareVariable block | declareFunction block =>
    have hb := hblock (hon (.block block) List.mem_cons_self)
    simp only [Operation.writes, List.forall_mem_cons]
    exact ⟨hb.1, hb.2, by simp⟩
  | declareType block =>
    exact List.forall_mem_singleton.mpr (hblock (hon (.block block) List.mem_cons_self)).1
  | declareLocal function frame =>
    have hframe : s.Belongs c (.frame frame) := hon (.frame frame) (by simp [Operation.receivers])
    have hb := hblock (hon (.block function.block) List.mem_cons_self)
    simp only [Operation.writes, List.forall_mem_cons]
    exact ⟨within_of_belongs rfl hframe, hb.2, by simp⟩
  | addVariable document block | addFunction document block =>
    obtain rfl : document = c := hon (.document document) List.mem_cons_self
    have hb := hblock (hon (.block block) (by simp [Operation.receivers]))
    simp only [Operation.writes, List.forall_mem_cons]
    exact ⟨hlog, hb.1, hb.2, by simp⟩
  | addTypedef document block =>
    obtain rfl : document = c := hon (.document document) List.mem_cons_self
    have hb := hblock (hon (.block block) (by simp [Operation.receivers]))
    simp only [Operation.writes, List.forall_mem_cons]
    exact ⟨hlog, hb.1, by simp⟩
  | addLocal document function frame =>
    obtain rfl : document = c := hon (.document document) List.mem_cons_self
    have hframe : s.Belongs document (.frame frame) :=
      hon (.frame frame) (by simp [Operation.receivers])
    have hb := hblock (hon (.block function.block) (by simp [Operation.receivers]))
    simp only [Operation.writes, List.forall_mem_cons]
    exact ⟨hlog, within_of_belongs rfl hframe, hb.2, by simp⟩
  | addProgress block | addGantt block | newIODecl block | setIODecl block =>
    exact List.forall_mem_singleton.mpr (hblock (hon (.block block) List.mem_cons_self)).2
  | setBody function | addEffects function =>
    exact List.forall_mem_singleton.mpr (hblock (hon (.block function.block) List.mem_cons_self)).2
  | setInitialiser owner init =>
    exact List.forall_mem_singleton.mpr (hblock (hon (.block owner.block) List.mem_cons_self)).2
  | copyVariables document source target | copyFunctions document source target =>
    obtain rfl : document = c := hon (.document document) List.mem_cons_self
    have ht : target ∈ (s.document document).allTemplates :=
      hon (.template target) (by simp [Operation.receivers])
    simp only [Operation.writes, List.forall_mem_cons]
    exact ⟨hlog, (htemplate ht).2.1, within_fresh s _, (hblock (block_mem_ownedBlocks ht)).2, by simp⟩
  | assignTemplate template | addDynamicEval template | assignLocation template
  | assignEdge template | extendEdge template =>
    exact List.forall_mem_singleton.mpr
      ((htemplate (hon (.template template) List.mem_cons_self)).2.2 _)
  | addLocation template | addBranchpoint template =>
    have ht := htemplate (hon (.template template) List.mem_cons_self)
    simp only [Operation.writes, List.forall_mem_cons]
    exact ⟨ht.1, ht.2.1, ht.2.2 _, by simp⟩
  | setInitial template | addEdge template | addMessage template | addCondition template
  | addUpdate template =>
    have ht := htemplate (hon (.template template) List.mem_cons_self)
    simp only [Operation.writes, List.forall_mem_cons]
    exact ⟨ht.1, ht.2.2 _, by simp⟩
  | restrict template symbol =>
    have ht : template ∈ (s.document c).allTemplates := hon (.template template) List.mem_cons_self
    exact List.forall_mem_singleton.mpr
      (within_of_belongs (e := .inst _) rfl (inst_mem_ownedInsts ht))
  | addInstanceLine template =>
    have ht := htemplate (hon (.template template) List.mem_cons_self)
    simp only [Operation.writes, List.forall_mem_cons]
    exact ⟨ht.1, ht.2.1, within_inst s c _, ht.2.2 _, by simp⟩
  | bindLine template index base parameters arguments =>
    have ht : template ∈ (s.document c).allTemplates := hon (.template template) List.mem_cons_self
    -- The line is there, or the operation would not be well formed.
    have hget : s.lineAt template index ∈ (s.template template).lines.items :=
      List.mem_of_getElem? (getElem?_lineAt hop.wellFormed)
    intro w hw
    obtain ⟨b, _, rfl⟩ := List.mem_map.mp hw
    exact within_of_belongs (e := .inst _) rfl (lineInst_mem_ownedInsts ht hget)

/-! ## Other documents -/

/-- What belongs to a document is no part of one that shares nothing with it. -/
theorem Sound.not_part_of_belongs (h : s.Sound) (hc : c ∈ s.documents) (hd : d ∈ s.documents)
    (hsep : s.Separate c d) (he : s.Belongs c e) : ¬ s.Part d e := by
  intro hpart
  cases e with
  | symbol r => exact hsep.distinct (he d hd hpart).symm
  | frame f => exact hsep.distinct (he d hd hpart).symm
  | _ => exact absurd hpart (h.disjoint hc hd hsep (fun r => by simp) he)

/-- **An operation on a document leaves the parts of another one alone.** -/
theorem Sound.same_of_on (h : s.Sound) (hc : c ∈ s.documents) (hd : d ∈ s.documents)
    (hsep : s.Separate c d) {op : Operation} (hop : op.Admissible s) (hon : op.On s c)
    (he : s.Part d e) : s.Same (s.perform op) e := by
  have hwithin := h.within_of_on hc hop hon
  refine (h.path_perform hop).same (h.has_of_part hd he) fun w hw htarget => ?_
  rcases hwithin w hw e htarget with hbelongs | hnot
  · exact h.not_part_of_belongs hc hd hsep hbelongs he
  · exact hnot (h.has_of_part hd he)

/-- Documents go on logging and locating problems in different places. -/
theorem Separate.mono (hsep : s.Separate c d) (h : s.Sound) (hg : s.Grows s')
    (hc : c ∈ s.documents) (hd : d ∈ s.documents) : s'.Separate c d := by
  have hlog : ∀ {x : DocumentId}, x ∈ s.documents → (s'.document x).log = (s.document x).log :=
    fun hx => (hg.documents _ hx).2.log
  have hlineTable : ∀ {x : DocumentId}, x ∈ s.documents → ∀ l,
      s'.Part x (.lineTable l) ↔ s.Part x (.lineTable l) := by
    intro x hx l
    have hlines : (s'.document x).lineTable = (s.document x).lineTable :=
      (hg.documents x hx).2.lineTable
    have hlogged : (s'.log (s.document x).log).lineTable = (s.log (s.document x).log).lineTable :=
      (hg.logs _ (h.documents x hx).log).2.lineTable
    rw [Part, Part, hlines, hlog hx, hlogged]
  refine ⟨hsep.distinct, ?_, fun l hlc hld => ?_⟩
  · rw [hlog hc, hlog hd]
    exact hsep.logs
  · exact hsep.lineTables l ((hlineTable hc l).mp hlc) ((hlineTable hd l).mp hld)

/-- **The parts of a document are the same after any number of operations on another one.** -/
theorem Sound.same_of_run (h : s.Sound) (hc : c ∈ s.documents) (hd : d ∈ s.documents)
    (hsep : s.Separate c d) (hrun : Run (fun s op => op.On s c) s s') (he : s.Part d e) :
    s'.Sound ∧ s.Grows s' ∧ s.Same s' e := by
  suffices hall : s'.Sound ∧ s.Grows s' ∧ ∀ e, s.Part d e → s.Same s' e from
    ⟨hall.1, hall.2.1, hall.2.2 e he⟩
  clear he
  induction hrun with
  | refl => exact ⟨h, .refl s, fun e _ => .refl s e⟩
  | step _ op hop hon ih =>
    obtain ⟨hsound, hg, hsame⟩ := ih
    have hpath := hsound.path_perform hop
    refine ⟨hpath.sound hsound, hg.trans hpath.grows, fun e he => (hsame e he).trans ?_⟩
    -- The document has the parts that it had, so the next operation leaves them alone too.
    exact hsound.same_of_on (hg.documents c hc).1 (hg.documents d hd).1 (hsep.mono h hg hc hd) hop hon
      ((part_iff_of_same hsame).mpr he)

end Store

end TimedNet
