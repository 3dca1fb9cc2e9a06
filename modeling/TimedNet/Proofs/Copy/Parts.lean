import TimedNet.Proofs.Copy.Walking

/-!
# `TimedNet.Proofs.Copy.Parts` — the copy of one part

For each part of a document: the walk makes of it what the relocations say, meets the symbols that are stored
in it, in their order, and claims the symbols of what it declares.

* `walks_term`, `walks_expression`, `walks_looseFrame`: terms, expressions and loose frames.
* `walks_var`, `walks_function`, `walks_progress`, `walks_io`, `walks_gantt`: declarations.
* `walks_contents`: the contents of a block.
* `walks_inst`: an instance; `walks_location` and so on: what is in a template.
-/

namespace TimedNet

open Store

variable {s : Store} {ρ : Relocations} {c : Copying} {known : List SymbolId}

/-! ## Terms -/

theorem Relocations.mapAll_eq (ts : List (Term SymbolId)) :
    Term.mapAll ρ.symbols ts = ts.map ρ.term := by
  induction ts with
  | nil => rfl
  | cons t ts ih =>
    rw [Term.mapAll, ih]
    rfl

theorem occurrencesAll_eq (ts : List (Term SymbolId)) :
    Term.occurrencesAll ts = ts.flatMap Term.occurrences := by
  induction ts with
  | nil => rfl
  | cons t ts ih => rw [Term.occurrencesAll, ih, List.flatMap_cons]

mutual

theorem walks_term : ∀ (known : List SymbolId) (t : Term SymbolId),
    Walks s ρ c known (CopyM.term t) (ρ.term t) t.occurrences [] c
  | _, .empty => .pure _
  | _, .constant .. => .pure _
  | _, .identifier r _ => .congr (.bind (walks_symbol r) (.pure _)) rfl rfl rfl rfl
  | _, .compound operator operands span => by
    refine .congr (.bind (walks_terms _ operands) (.pure _)) ?_ ?_ rfl rfl
    · rw [Relocations.term, Term.map, Relocations.mapAll_eq]
    · rw [List.append_nil, Term.occurrences, occurrencesAll_eq]

theorem walks_terms : ∀ (known : List SymbolId) (ts : List (Term SymbolId)),
    Walks s ρ c known (CopyM.terms ts) (ts.map ρ.term) (ts.flatMap Term.occurrences) [] c
  | _, [] => .pure _
  | _, t :: ts => by
    refine .congr (.bind (walks_term _ t) (.bind (walks_terms _ ts) (.pure _))) rfl ?_ rfl rfl
    rw [List.append_nil, List.flatMap_cons]

end

theorem walks_expression (e : Expression) (slot : Slot) :
    Walks s ρ c known (CopyM.expression e slot) (ρ.expression e slot) e.term.occurrences [] c := by
  obtain ⟨id, term⟩ := e
  cases term with
  | empty => exact .pure _
  | constant => exact .pure _
  | identifier r span => exact .congr (.bind (walks_term _ _) (.pure _)) rfl rfl rfl rfl
  | compound operator operands span =>
    exact .congr (.bind (walks_term _ _) (.pure _)) rfl (List.append_nil _) rfl rfl

theorem walks_looseFrame (f : Frame) :
    Walks s ρ c known (CopyM.looseFrame f) (ρ.looseFrame f) f.symbols [] c :=
  .congr (.bind (walks_symbolList _) (.pure _)) rfl (List.append_nil _) rfl rfl

/-! ## Declarations -/

theorem walks_var (owner : VariableRef) (v : Variable) :
    Walks s ρ c known (CopyM.var owner v) (ρ.var owner v) v.symbols [(v.symbol, .var owner)] c := by
  have hsymbol : v.symbol ∈ known ++ [v.symbol] ++ v.init.term.occurrences := by simp
  refine .congr (.bind (walks_symbol _) (.bind (walks_expression _ _)
    (.bind (walks_rebind hsymbol _) (.pure _)))) rfl ?_ rfl rfl
  simp [Variable.symbols]

/-- The claims of a function: its local variables, and then itself. -/
def Function.claims (owner : FunctionRef) (f : Function) : List (SymbolId × Subject) :=
  f.locals.mapIdx (fun i v => (v.symbol, Subject.var (.ofFunction owner i))) ++ [(f.symbol, .fn owner)]

theorem walks_function (owner : FunctionRef) (f : Function) :
    Walks s ρ c known (CopyM.function owner f) (ρ.function owner f) f.symbols (f.claims owner) c := by
  have hlocals {known} : Walks s ρ c known
      (f.locals.zipIdx.mapM fun place => CopyM.var (.ofFunction owner place.2) place.1)
      (f.locals.mapIdx fun i v => ρ.var (.ofFunction owner i) v) (f.locals.flatMap Variable.symbols)
      (f.locals.mapIdx fun i v => (v.symbol, Subject.var (.ofFunction owner i))) c := by
    exact .congr (.zipIdx fun _ i v _ => walks_var (.ofFunction owner i) v) rfl rfl
      (flatten_mapIdx_singleton _ _) rfl
  refine .congr (.bind (walks_symbol _) (.bind (walks_symbolList _) (.bind (walks_symbolList _)
    (.bind hlocals (.bind (.option (fun t => walks_term _ t) _)
      (.bind (walks_rebind ?_ _) (.pure _))))))) rfl ?_ ?_ rfl
  · simp
  · simp [Function.symbols]
  · simp [Function.claims]

theorem walks_progress (p : Progress) :
    Walks s ρ c known (CopyM.progress p) (ρ.progress p) p.symbols [] c := by
  refine .congr (.bind (walks_term _ _) (.bind (walks_term _ _) (.pure _))) rfl ?_ rfl rfl
  simp [Progress.symbols]

theorem walks_io (io : IODecl) : Walks s ρ c known (CopyM.io io) (ρ.io io) io.symbols [] c := by
  refine .congr (.bind (walks_terms _ _) (.bind (walks_terms _ _) (.bind (walks_terms _ _)
    (.bind (walks_terms _ _) (.pure _))))) rfl ?_ rfl rfl
  simp [IODecl.symbols]

theorem walks_ganttMap (m : GanttMap) :
    Walks s ρ c known (CopyM.ganttMap m) (ρ.ganttMap m) m.symbols [] c := by
  refine .congr (.bind (walks_looseFrame _) (.bind (walks_term _ _)
    (.bind (walks_term _ _) (.pure _)))) rfl ?_ rfl rfl
  simp [GanttMap.symbols]

theorem walks_gantt (g : Gantt) :
    Walks s ρ c known (CopyM.gantt g) (ρ.gantt g) g.symbols [] c := by
  refine .congr (.bind (walks_looseFrame _) (.bind (.mapM fun _ m _ => walks_ganttMap m) (.pure _)))
    rfl ?_ ?_ rfl
  · simp [Gantt.symbols]
  · simp

/-! ## Blocks -/

/-- The claims of a block: its variables and its functions. -/
def Block.claims (target : BlockId) (b : Block) : List (SymbolId × Subject) :=
  b.vars.mapIdx (fun i v => (v.symbol, Subject.var (.ofBlock target i)))
    ++ (b.functions.mapIdx fun i f => f.claims ⟨target, i⟩).flatten

/-- **The contents of a block**, put into a new one. -/
theorem walks_contents {source target : BlockId} (hρ : ρ.blocks source = target)
    (hblock : c.store.block source = s.block source)
    (hframe : c.store.frame (s.block source).frame = s.frame (s.block source).frame) :
    Walks s ρ c known (CopyM.contents source target) () (s.blockSymbols source)
      ((s.block source).claims target)
      { c with store :=
        (c.store.modifyFrame (c.store.block target).frame fun f =>
            f.addNew (ρ.symbolList (s.frame (s.block source).frame).symbols)).modifyBlock target fun b =>
          { ρ.block source (s.block source) with frame := b.frame } } := by
  subst hρ
  have hvars {known} {c : Copying} : Walks s ρ c known
      ((s.block source).vars.zipIdx.mapM fun place =>
        CopyM.var (.ofBlock (ρ.blocks source) place.2) place.1)
      ((s.block source).vars.mapIdx fun i v => ρ.var (.ofBlock (ρ.blocks source) i) v)
      ((s.block source).vars.flatMap Variable.symbols)
      ((s.block source).vars.mapIdx fun i v =>
        (v.symbol, Subject.var (.ofBlock (ρ.blocks source) i))) c := by
    exact .congr (.zipIdx fun _ i v _ => walks_var (.ofBlock _ i) v) rfl rfl
      (flatten_mapIdx_singleton _ _) rfl
  unfold CopyM.contents
  refine .look fun u hu => .look fun v hv => ?_
  rw [hu.block_eq, hblock, hv.frame_eq, hframe]
  refine .congr (.bind (walks_symbolList _) (.bind (.change (fun _ _ => rfl) rfl) (.bind hvars
    (.bind (.zipIdx fun _ i f _ => walks_function ⟨ρ.blocks source, i⟩ f)
      (.bind (.mapM fun _ p _ => walks_progress p) (.bind (.mapM fun _ d _ => walks_io d)
        (.bind (.mapM fun _ g _ => walks_gantt g) (.change (fun _ _ => rfl) rfl)))))))) rfl ?_ ?_ rfl
  · simp [blockSymbols, Block.symbols]
  · simp [Block.claims]

/-! ## Instances -/

theorem walks_templateRef (t : TemplateId) :
    Walks s ρ c known (CopyM.templateRef t) ((Ordered.get? c.templates t).getD t) [] [] c :=
  ⟨fun _ h => absurd h List.not_mem_nil, fun _ _ _ _ => rfl⟩

/-- An instance as it is copied while the given templates have been. -/
def Relocations.instFor (ρ : Relocations) (templates : List (TemplateId × TemplateId)) (i : Instance) :
    Instance :=
  { ρ.inst i with template := (Ordered.get? templates i.template).getD i.template }

theorem walks_inst (i : Instance) :
    Walks s ρ c known (CopyM.inst i) (ρ.instFor c.templates i) i.symbols [] c := by
  have hmapping {known} : Walks s ρ c known
      (i.binding.mapping.mapM fun pair => return (← CopyM.symbol pair.1, ← CopyM.term pair.2))
      (i.binding.mapping.map fun pair => (ρ.symbols pair.1, ρ.term pair.2))
      (i.binding.mapping.flatMap fun pair => pair.1 :: pair.2.occurrences)
      (i.binding.mapping.flatMap fun _ => []) c := by
    refine .mapM fun _ p _ => ?_
    refine .congr (.bind (walks_symbol _) (.bind (walks_term _ _) (.pure _))) rfl ?_ rfl rfl
    simp
  refine .congr (.bind hmapping (.bind (walks_symbol _) (.bind (walks_templateRef _)
    (.bind (walks_symbolList _) (.bind (walks_symbolList _) (.pure _)))))) rfl ?_ ?_ rfl
  · simp [Instance.symbols]
  · simp

/-- The walk with more instances. -/
def Copying.withInsts (c : Copying) (insts : List Instance) : Copying :=
  { c with store := { c.store with insts := c.store.insts.pushAll insts } }

/-- An instance under a symbol, put into the store as what the symbol then stands for. -/
theorem walks_instWith {i : InstanceId} (subject : InstanceId → Subject)
    (hinst : c.store.inst i = s.inst i) (hnext : c.store.insts.next = ρ.insts i) :
    Walks s ρ c known (CopyM.instWith subject i) (ρ.insts i) (s.inst i).symbols
      [((s.inst i).symbol, subject (ρ.insts i))]
      (c.withInsts [ρ.instFor c.templates (s.inst i)]) := by
  unfold CopyM.instWith
  refine .look fun u hu => ?_
  rw [hu.inst_eq, hinst, ← hnext]
  refine .congr (.bind (walks_inst _) (.bind (.make fun _ _ => rfl)
    (.bind (walks_rebind (r := (s.inst i).symbol) ?_ _) (.pure _)))) rfl ?_ rfl rfl
  · simp [Instance.symbols]
  · simp

/-! ## Templates -/

theorem walks_location (t : TemplateId) (index : Nat) (l : Location) :
    Walks s ρ c known (CopyM.location t index l) (ρ.location t index l) l.symbols
      [(l.symbol, .location t index)] c := by
  refine .congr (.bind (walks_symbol _) (.bind (walks_expression _ _) (.bind (walks_expression _ _)
    (.bind (walks_expression _ _) (.bind (walks_expression _ _)
      (.bind (walks_rebind (r := l.symbol) ?_ _) (.pure _))))))) rfl ?_ rfl rfl
  · simp
  · simp [Location.symbols]

theorem walks_branchpoint (t : TemplateId) (index : Nat) (b : Branchpoint) :
    Walks s ρ c known (CopyM.branchpoint t index b) (ρ.branchpoint b) [b.symbol]
      [(b.symbol, .branchpoint t index)] c := by
  refine .congr (.bind (walks_symbol _) (.bind (walks_rebind (r := b.symbol) ?_ _) (.pure _)))
    rfl rfl rfl rfl
  simp

/-- A handle that leads somewhere in an arena leads to the same position of an arena with as many
    entries. -/
theorem rebased_of_owns {α β : Type} {a : Arena α} {b : Arena β} (hsize : b.size = a.size) {h : Handle}
    (howns : a.owns h = true) : CopyM.rebased b h = Relocations.handle b.id h := by
  simp only [Arena.owns, Bool.and_eq_true, decide_eq_true_eq] at howns
  have hrange : 0 ≤ h.index ∧ h.index < b.size := ⟨howns.1.2, hsize ▸ howns.2⟩
  rw [CopyM.rebased, Arena.rebase, Arena.handle, if_pos hrange]
  rfl

theorem walks_edge {x : Template} {locations : Arena Location} {branchpoints : Arena Branchpoint}
    (hlocations : locations.size = x.locations.size)
    (hbranchpoints : branchpoints.size = x.branchpoints.size) (t : TemplateId) (index : Nat) {e : Edge}
    (hsource : x.hasEndpoint e.source = true) (htarget : x.hasEndpoint e.target = true) :
    Walks s ρ c known (CopyM.edge t locations branchpoints index e)
      (ρ.edge locations.id branchpoints.id t index e) e.symbols [] c := by
  have hendpoint : ∀ p, x.hasEndpoint p = true → CopyM.endpoint locations branchpoints p
      = Relocations.endpoint locations.id branchpoints.id p := by
    intro p hp
    cases p with
    | location h => exact congrArg Endpoint.location (rebased_of_owns hlocations hp)
    | branchpoint h => exact congrArg Endpoint.branchpoint (rebased_of_owns hbranchpoints hp)
  unfold CopyM.edge
  rw [hendpoint _ hsource, hendpoint _ htarget]
  refine .congr (.bind (walks_looseFrame _) (.bind (walks_expression _ _) (.bind (walks_expression _ _)
    (.bind (walks_expression _ _) (.bind (walks_expression _ _) (.pure _)))))) rfl ?_ rfl rfl
  simp [Edge.symbols]

section Lines

variable {x : Template} {lines : Arena InstanceLine} (hlines : lines.size = x.lines.size)
include hlines

theorem walks_message (t : TemplateId) (index : Nat) {m : Message}
    (hsource : x.lines.owns m.source = true) (htarget : x.lines.owns m.target = true) :
    Walks s ρ c known (CopyM.message t lines index m) (ρ.message lines.id t index m)
      m.label.term.occurrences [] c := by
  unfold CopyM.message
  rw [rebased_of_owns hlines hsource, rebased_of_owns hlines htarget]
  exact .congr (.bind (walks_expression _ _) (.pure _)) rfl (List.append_nil _) rfl rfl

theorem walks_condition (t : TemplateId) (index : Nat) {x' : Condition}
    (hanchors : ∀ h ∈ x'.anchors, x.lines.owns h = true) :
    Walks s ρ c known (CopyM.condition t lines index x') (ρ.condition lines.id t index x')
      x'.label.term.occurrences [] c := by
  unfold CopyM.condition
  rw [List.map_congr_left fun h hh => rebased_of_owns hlines (hanchors h hh)]
  exact .congr (.bind (walks_expression _ _) (.pure _)) rfl (List.append_nil _) rfl rfl

theorem walks_update (t : TemplateId) (index : Nat) {u : Update}
    (hanchor : x.lines.owns u.anchor = true) :
    Walks s ρ c known (CopyM.update t lines index u) (ρ.update lines.id t index u)
      u.label.term.occurrences [] c := by
  unfold CopyM.update
  rw [rebased_of_owns hlines hanchor]
  exact .congr (.bind (walks_expression _ _) (.pure _)) rfl (List.append_nil _) rfl rfl

end Lines

theorem walks_chanPriority (p : ChanPriority) :
    Walks s ρ c known (CopyM.chanPriority p) (ρ.chanPriority p) p.symbols [] c := by
  have htail {known} : Walks s ρ c known
      (p.tail.mapM fun link => return (link.1, ← CopyM.term link.2))
      (p.tail.map fun link => (link.1, ρ.term link.2)) (p.tail.flatMap fun link => link.2.occurrences)
      (p.tail.flatMap fun _ => []) c := by
    refine .mapM fun _ link _ => ?_
    exact .congr (.bind (walks_term _ _) (.pure _)) rfl (List.append_nil _) rfl rfl
  refine .congr (.bind (walks_term _ _) (.bind htail (.pure _))) rfl ?_ ?_ rfl
  · simp [ChanPriority.symbols]
  · simp

end TimedNet
