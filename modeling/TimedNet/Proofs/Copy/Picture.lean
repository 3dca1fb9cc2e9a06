import TimedNet.Store.Automata
import TimedNet.Store.Charts

/-!
# `TimedNet.Proofs.Copy.Picture` — what a document holds, as a tree

A picture of a document shows everything that it holds, in order, with symbols as the only identities. A
block, a frame or an instance is drawn where it is referred to; a template is shown by its symbol, and a
handle by its position and the symbol of what it leads to. Two documents with one picture hold the same,
and differ only in the entities that hold it.

* `VariablePicture`, …, `DocumentPicture`: pictures over any type of symbols, each with a `map`.
* `Variable.picture`, …, `Store.picture`: the picture of each part of a store.
-/

namespace TimedNet

/-! ## Declarations -/

/-- A variable. -/
structure VariablePicture (σ : Type) where
  symbol : σ
  init : Term σ

/-- A function. -/
structure FunctionPicture (σ : Type) where
  symbol : σ
  changes : List σ
  depends : List σ
  locals : List (VariablePicture σ)
  body : Option (Term σ)

/-- A progress measure. -/
structure ProgressPicture (σ : Type) where
  guard : Term σ
  measure : Term σ

/-- A row of a gantt chart. -/
structure GanttMapPicture (σ : Type) where
  parameters : List σ
  predicate : Term σ
  mapping : Term σ

/-- An entry of a gantt chart. -/
structure GanttPicture (σ : Type) where
  name : String
  parameters : List σ
  mapping : List (GanttMapPicture σ)

/-- A declaration of signals. -/
structure IOPicture (σ : Type) where
  instanceName : String
  params : List (Term σ)
  inputs : List (Term σ)
  outputs : List (Term σ)
  csp : List (Term σ)

/-- A block with the contents of its frame. -/
structure BlockPicture (σ : Type) where
  frame : List σ
  vars : List (VariablePicture σ)
  functions : List (FunctionPicture σ)
  progress : List (ProgressPicture σ)
  gantt : List (GanttPicture σ)
  io : List (IOPicture σ)

/-! ## Templates -/

/-- An instance; its template is shown by its symbol. -/
structure InstancePicture (σ : Type) where
  symbol : σ
  template : σ
  binding : Binding σ

/-- A location. -/
structure LocationPicture (σ : Type) where
  symbol : σ
  name : Term σ
  invariant : Term σ
  exponentialRate : Term σ
  costRate : Term σ
  nr : Nat

/-- A branchpoint. -/
structure BranchpointPicture (σ : Type) where
  symbol : σ
  nr : Nat

/-- The position that a handle has, and the symbol of what it leads to, if it leads anywhere. -/
structure PlacePicture (σ : Type) where
  index : Int
  symbol : Option σ

/-- An endpoint. -/
inductive EndpointPicture (σ : Type) where
  | location (place : PlacePicture σ)
  | branchpoint (place : PlacePicture σ)

/-- An edge. -/
structure EdgePicture (σ : Type) where
  nr : Nat
  control : Bool
  actname : String
  source : EndpointPicture σ
  target : EndpointPicture σ
  select : List σ
  guard : Term σ
  assign : Term σ
  sync : Term σ
  prob : Term σ
  selectValues : List Int

/-- A line of a chart; the chart is shown by its symbol. -/
structure LinePicture (σ : Type) where
  nr : Nat
  inst : InstancePicture σ
  owner : σ

/-- A message, a condition or an update, with the lines at which it is anchored. -/
structure EventPicture (σ : Type) where
  nr : Int
  location : Int
  anchors : List (PlacePicture σ)
  label : Term σ
  prechart : Bool
  hot : Bool := false

/-- A template. -/
structure TemplatePicture (σ : Type) where
  inst : InstancePicture σ
  block : BlockPicture σ
  initial : Option σ
  templateSet : List σ
  locations : List (LocationPicture σ)
  branchpoints : List (BranchpointPicture σ)
  edges : List (EdgePicture σ)
  dynamicEvals : List (Term σ)
  lines : List (LinePicture σ)
  messages : List (EventPicture σ)
  conditions : List (EventPicture σ)
  updates : List (EventPicture σ)
  style : Style
  hasPrechart : Bool
  dynamic : Bool
  dynindex : Int
  isDefined : Bool

/-! ## Documents -/

/-- A priority declaration. -/
structure ChanPriorityPicture (σ : Type) where
  head : Term σ
  tail : List (String × Term σ)

/-- A document with its line table and what it has logged. -/
structure DocumentPicture (σ : Type) where
  globals : BlockPicture σ
  templates : List (TemplatePicture σ)
  dynamicTemplates : List (TemplatePicture σ)
  dynamicByName : List (String × σ)
  instances : List (InstancePicture σ)
  lscInstances : List (InstancePicture σ)
  processes : List (InstancePicture σ)
  chanPriorities : List (ChanPriorityPicture σ)
  procPriority : List (String × Int)
  queries : List Query
  options : List ModelOption
  methods : Methods
  beforeUpdate : Term σ
  afterUpdate : Term σ
  features : Features
  syncUsed : Int
  strings : List String
  libraries : List Nat
  modified : Bool
  obsTA : String
  lines : LineTable
  errors : List Diagnostic
  warnings : List Diagnostic

/-! ## Renaming -/

section Map

variable {σ τ : Type} (f : σ → τ)

/-- A variable with its symbols renamed. -/
def VariablePicture.map (p : VariablePicture σ) : VariablePicture τ := ⟨f p.symbol, p.init.map f⟩

/-- A function with its symbols renamed. -/
def FunctionPicture.map (p : FunctionPicture σ) : FunctionPicture τ :=
  { symbol := f p.symbol
    changes := p.changes.map f
    depends := p.depends.map f
    locals := p.locals.map (·.map f)
    body := p.body.map (·.map f) }

/-- A progress measure with its symbols renamed. -/
def ProgressPicture.map (p : ProgressPicture σ) : ProgressPicture τ :=
  ⟨p.guard.map f, p.measure.map f⟩

/-- A row of a gantt chart with its symbols renamed. -/
def GanttMapPicture.map (p : GanttMapPicture σ) : GanttMapPicture τ :=
  ⟨p.parameters.map f, p.predicate.map f, p.mapping.map f⟩

/-- An entry of a gantt chart with its symbols renamed. -/
def GanttPicture.map (p : GanttPicture σ) : GanttPicture τ :=
  ⟨p.name, p.parameters.map f, p.mapping.map (·.map f)⟩

/-- A declaration of signals with its symbols renamed. -/
def IOPicture.map (p : IOPicture σ) : IOPicture τ :=
  { instanceName := p.instanceName
    params := p.params.map (·.map f)
    inputs := p.inputs.map (·.map f)
    outputs := p.outputs.map (·.map f)
    csp := p.csp.map (·.map f) }

/-- A block with its symbols renamed. -/
def BlockPicture.map (p : BlockPicture σ) : BlockPicture τ :=
  { frame := p.frame.map f
    vars := p.vars.map (·.map f)
    functions := p.functions.map (·.map f)
    progress := p.progress.map (·.map f)
    gantt := p.gantt.map (·.map f)
    io := p.io.map (·.map f) }

/-- A binding with its symbols renamed. -/
def Binding.map (b : Binding σ) : Binding τ :=
  { parameters := b.parameters.map f
    mapping := b.mapping.map fun pair => (f pair.1, pair.2.map f)
    argumentCount := b.argumentCount
    unbound := b.unbound
    restricted := b.restricted.map f }

/-- An instance with its symbols renamed. -/
def InstancePicture.map (p : InstancePicture σ) : InstancePicture τ :=
  ⟨f p.symbol, f p.template, p.binding.map f⟩

/-- A location with its symbols renamed. -/
def LocationPicture.map (p : LocationPicture σ) : LocationPicture τ :=
  { symbol := f p.symbol
    name := p.name.map f
    invariant := p.invariant.map f
    exponentialRate := p.exponentialRate.map f
    costRate := p.costRate.map f
    nr := p.nr }

/-- A branchpoint with its symbol renamed. -/
def BranchpointPicture.map (p : BranchpointPicture σ) : BranchpointPicture τ := ⟨f p.symbol, p.nr⟩

/-- A place with its symbol renamed. -/
def PlacePicture.map (p : PlacePicture σ) : PlacePicture τ := ⟨p.index, p.symbol.map f⟩

/-- An endpoint with its symbol renamed. -/
def EndpointPicture.map : EndpointPicture σ → EndpointPicture τ
  | .location place => .location (place.map f)
  | .branchpoint place => .branchpoint (place.map f)

/-- An edge with its symbols renamed. -/
def EdgePicture.map (p : EdgePicture σ) : EdgePicture τ :=
  { nr := p.nr
    control := p.control
    actname := p.actname
    source := p.source.map f
    target := p.target.map f
    select := p.select.map f
    guard := p.guard.map f
    assign := p.assign.map f
    sync := p.sync.map f
    prob := p.prob.map f
    selectValues := p.selectValues }

/-- A line with its symbols renamed. -/
def LinePicture.map (p : LinePicture σ) : LinePicture τ := ⟨p.nr, p.inst.map f, f p.owner⟩

/-- An event with its symbols renamed. -/
def EventPicture.map (p : EventPicture σ) : EventPicture τ :=
  { nr := p.nr
    location := p.location
    anchors := p.anchors.map (·.map f)
    label := p.label.map f
    prechart := p.prechart
    hot := p.hot }

/-- A template with its symbols renamed. -/
def TemplatePicture.map (p : TemplatePicture σ) : TemplatePicture τ :=
  { inst := p.inst.map f
    block := p.block.map f
    initial := p.initial.map f
    templateSet := p.templateSet.map f
    locations := p.locations.map (·.map f)
    branchpoints := p.branchpoints.map (·.map f)
    edges := p.edges.map (·.map f)
    dynamicEvals := p.dynamicEvals.map (·.map f)
    lines := p.lines.map (·.map f)
    messages := p.messages.map (·.map f)
    conditions := p.conditions.map (·.map f)
    updates := p.updates.map (·.map f)
    style := p.style
    hasPrechart := p.hasPrechart
    dynamic := p.dynamic
    dynindex := p.dynindex
    isDefined := p.isDefined }

/-- A priority declaration with its symbols renamed. -/
def ChanPriorityPicture.map (p : ChanPriorityPicture σ) : ChanPriorityPicture τ :=
  ⟨p.head.map f, p.tail.map fun link => (link.1, link.2.map f)⟩

/-- A document with its symbols renamed. -/
def DocumentPicture.map (p : DocumentPicture σ) : DocumentPicture τ :=
  { globals := p.globals.map f
    templates := p.templates.map (·.map f)
    dynamicTemplates := p.dynamicTemplates.map (·.map f)
    dynamicByName := p.dynamicByName.map fun entry => (entry.1, f entry.2)
    instances := p.instances.map (·.map f)
    lscInstances := p.lscInstances.map (·.map f)
    processes := p.processes.map (·.map f)
    chanPriorities := p.chanPriorities.map (·.map f)
    procPriority := p.procPriority
    queries := p.queries
    options := p.options
    methods := p.methods
    beforeUpdate := p.beforeUpdate.map f
    afterUpdate := p.afterUpdate.map f
    features := p.features
    syncUsed := p.syncUsed
    strings := p.strings
    libraries := p.libraries
    modified := p.modified
    obsTA := p.obsTA
    lines := p.lines
    errors := p.errors
    warnings := p.warnings }

end Map

/-! ## Parts that hold nothing but symbols -/

/-- The picture of a variable. -/
def Variable.picture (v : Variable) : VariablePicture SymbolId := ⟨v.symbol, v.init.term⟩

/-- The picture of a function. -/
def Function.picture (f : Function) : FunctionPicture SymbolId :=
  { symbol := f.symbol
    changes := f.changes
    depends := f.depends
    locals := f.locals.map Variable.picture
    body := f.body }

/-- The picture of a progress measure. -/
def Progress.picture (p : Progress) : ProgressPicture SymbolId := ⟨p.guard, p.measure⟩

/-- The picture of a row of a gantt chart. -/
def GanttMap.picture (m : GanttMap) : GanttMapPicture SymbolId :=
  ⟨m.parameters.symbols, m.predicate, m.mapping⟩

/-- The picture of an entry of a gantt chart. -/
def Gantt.picture (g : Gantt) : GanttPicture SymbolId :=
  ⟨g.name, g.parameters.symbols, g.mapping.map GanttMap.picture⟩

/-- The picture of a declaration of signals. -/
def IODecl.picture (io : IODecl) : IOPicture SymbolId :=
  { instanceName := io.instanceName
    params := io.params
    inputs := io.inputs
    outputs := io.outputs
    csp := io.csp }

/-- The picture of a location. -/
def Location.picture (l : Location) : LocationPicture SymbolId :=
  { symbol := l.symbol
    name := l.name.term
    invariant := l.invariant.term
    exponentialRate := l.exponentialRate.term
    costRate := l.costRate.term
    nr := l.nr }

/-- The picture of a branchpoint. -/
def Branchpoint.picture (b : Branchpoint) : BranchpointPicture SymbolId := ⟨b.symbol, b.nr⟩

/-- The picture of a priority declaration. -/
def ChanPriority.picture (p : ChanPriority) : ChanPriorityPicture SymbolId := ⟨p.head, p.tail⟩

namespace Store

variable (s : Store)

/-! ## Parts that refer to others -/

/-- The picture of a block. -/
def blockPicture (b : BlockId) : BlockPicture SymbolId :=
  { frame := (s.frame (s.block b).frame).symbols
    vars := (s.block b).vars.map Variable.picture
    functions := (s.block b).functions.map Function.picture
    progress := (s.block b).progress.map Progress.picture
    gantt := (s.block b).gantt.map Gantt.picture
    io := (s.block b).io.map IODecl.picture }

/-- The picture of an instance. -/
def instPicture (i : InstanceId) : InstancePicture SymbolId :=
  ⟨(s.inst i).symbol, s.templateSymbol (s.inst i).template, (s.inst i).binding⟩

/-- The picture of an endpoint. -/
def endpointPicture (t : TemplateId) : Endpoint → EndpointPicture SymbolId
  | .location h => .location ⟨h.index, (s.endpointSymbol t (.location h)).toOption⟩
  | .branchpoint h => .branchpoint ⟨h.index, (s.endpointSymbol t (.branchpoint h)).toOption⟩

/-- The picture of the place of a line. -/
def anchorPicture (t : TemplateId) (h : Handle) : PlacePicture SymbolId :=
  ⟨h.index, ((s.template t).lines.get h).toOption.map fun l => (s.inst l.inst).symbol⟩

/-- The picture of an edge of a template. -/
def edgePicture (t : TemplateId) (e : Edge) : EdgePicture SymbolId :=
  { nr := e.nr
    control := e.control
    actname := e.actname
    source := s.endpointPicture t e.source
    target := s.endpointPicture t e.target
    select := e.select.symbols
    guard := e.guard.term
    assign := e.assign.term
    sync := e.sync.term
    prob := e.prob.term
    selectValues := e.selectValues }

/-- The picture of a line. -/
def linePicture (l : InstanceLine) : LinePicture SymbolId :=
  ⟨l.nr, s.instPicture l.inst, s.templateSymbol l.owner⟩

/-- The picture of a message of a template. -/
def messagePicture (t : TemplateId) (m : Message) : EventPicture SymbolId :=
  { nr := m.nr
    location := m.location
    anchors := [s.anchorPicture t m.source, s.anchorPicture t m.target]
    label := m.label.term
    prechart := m.prechart }

/-- The picture of a condition of a template. -/
def conditionPicture (t : TemplateId) (c : Condition) : EventPicture SymbolId :=
  { nr := c.nr
    location := c.location
    anchors := c.anchors.map (s.anchorPicture t)
    label := c.label.term
    prechart := c.prechart
    hot := c.hot }

/-- The picture of an update of a template. -/
def updatePicture (t : TemplateId) (u : Update) : EventPicture SymbolId :=
  { nr := u.nr
    location := u.location
    anchors := [s.anchorPicture t u.anchor]
    label := u.label.term
    prechart := u.prechart }

/-- The picture of a template. -/
def templatePicture (t : TemplateId) : TemplatePicture SymbolId :=
  let x := s.template t
  { inst := s.instPicture x.inst
    block := s.blockPicture x.block
    initial := x.initial
    templateSet := (s.frame x.templateSet).symbols
    locations := x.locations.items.map Location.picture
    branchpoints := x.branchpoints.items.map Branchpoint.picture
    edges := x.edges.map (s.edgePicture t)
    dynamicEvals := x.dynamicEvals
    lines := x.lines.items.map s.linePicture
    messages := x.messages.map (s.messagePicture t)
    conditions := x.conditions.map (s.conditionPicture t)
    updates := x.updates.map (s.updatePicture t)
    style := x.style
    hasPrechart := x.hasPrechart
    dynamic := x.dynamic
    dynindex := x.dynindex
    isDefined := x.isDefined }

/-- **The picture of a document.** -/
def picture (d : DocumentId) : DocumentPicture SymbolId :=
  let x := s.document d
  { globals := s.blockPicture x.globals
    templates := x.templates.map s.templatePicture
    dynamicTemplates := x.dynamicTemplates.map s.templatePicture
    dynamicByName := x.dynamicByName.map fun entry => (entry.1, s.templateSymbol entry.2)
    instances := x.instances.map s.instPicture
    lscInstances := x.lscInstances.map s.instPicture
    processes := x.processes.map s.instPicture
    chanPriorities := x.chanPriorities.map ChanPriority.picture
    procPriority := x.procPriority
    queries := x.queries
    options := x.options
    methods := x.methods
    beforeUpdate := x.beforeUpdate.term
    afterUpdate := x.afterUpdate.term
    features := x.features
    syncUsed := x.syncUsed
    strings := x.strings
    libraries := x.libraries
    modified := x.modified
    obsTA := x.obsTA
    lines := s.lineTable x.lineTable
    errors := (s.log x.log).errors
    warnings := (s.log x.log).warnings }

end Store

end TimedNet
