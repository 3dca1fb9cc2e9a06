import TimedNet.Relocation
import TimedNet.Store.Contents

/-!
# `TimedNet.Proofs.Copy.Relocated` — a copied document as an image

A document has copies of all the entities that it owns and of all the symbols that it mentions. What
points at an owned entity points at its copy in the copied document, and what points at an entity of
another document still points there. Handles lead into the new arenas. This says what the walk that
copies a document leaves behind, without the order in which it makes things.

* `Relocations`: where each owned entity and each mentioned symbol goes.
* `Relocations.var`, `Relocations.template`, and so on: the copy of one part.
* `Store.relocations`: the plan for a document; `Store.relocated`: the store with the image.
-/

namespace TimedNet

/-- Where the entities of a document go when it is copied, and the numbers of its new arenas. -/
structure Relocations where
  symbols : Relocation .symbol
  frames : Relocation .frame
  blocks : Relocation .block
  insts : Relocation .inst
  templates : Relocation .template
  document : DocumentId
  log : LogId
  lineTable : LineTableId
  /-- The number that the first arena of the copy has. -/
  firstArena : Nat
deriving Repr

namespace Relocations

variable (ρ : Relocations)

/-- A term with its symbols copied. -/
def term (t : Term SymbolId) : Term SymbolId := t.map ρ.symbols

/-- An expression with its symbols copied, for a place of the copy. -/
def expression (e : Expression) (slot : Slot) : Expression := e.renamed ρ.symbols (.madeFor slot)

/-- A list of symbols, copied one by one. -/
def symbolList (l : List SymbolId) : List SymbolId := l.map ρ.symbols

/-- A frame that is no scope of its own: the copied symbols, in no other frame. -/
def looseFrame (f : Frame) : Frame := .ofList (ρ.symbolList f.symbols)

/-- A reference to a function. -/
def functionRef (f : FunctionRef) : FunctionRef := ⟨ρ.blocks f.block, f.index⟩

/-- A reference to a variable. -/
def variableRef : VariableRef → VariableRef
  | .ofBlock block index => .ofBlock (ρ.blocks block) index
  | .ofFunction function index => .ofFunction (ρ.functionRef function) index

/-- What a symbol stands for. -/
def subject : Subject → Subject
  | .nothing => .nothing
  | .parameter => .parameter
  | .typedef => .typedef
  | .var owner => .var (ρ.variableRef owner)
  | .fn owner => .fn (ρ.functionRef owner)
  | .location t index => .location (ρ.templates t) index
  | .branchpoint t index => .branchpoint (ρ.templates t) index
  | .line t index => .line (ρ.templates t) index
  | .template t => .template (ρ.templates t)
  | .inst i => .inst (ρ.insts i)
  | .process i => .process (ρ.insts i)

/-! ## Declarations -/

/-- A variable, declared as `owner` in the copy. -/
def var (owner : VariableRef) (v : Variable) : Variable :=
  { symbol := ρ.symbols v.symbol, init := ρ.expression v.init (.initialiser owner) }

/-- A function, declared as `owner` in the copy. -/
def function (owner : FunctionRef) (f : Function) : Function :=
  { symbol := ρ.symbols f.symbol
    changes := ρ.symbolList f.changes
    depends := ρ.symbolList f.depends
    locals := f.locals.mapIdx fun i v => ρ.var (.ofFunction owner i) v
    body := f.body.map ρ.term }

/-- A progress measure. -/
def progress (p : Progress) : Progress := { guard := ρ.term p.guard, measure := ρ.term p.measure }

/-- A declaration of signals. -/
def io (d : IODecl) : IODecl :=
  { d with
    params := d.params.map ρ.term
    inputs := d.inputs.map ρ.term
    outputs := d.outputs.map ρ.term
    csp := d.csp.map ρ.term }

/-- A row of a gantt chart. -/
def ganttMap (m : GanttMap) : GanttMap :=
  { parameters := ρ.looseFrame m.parameters
    predicate := ρ.term m.predicate
    mapping := ρ.term m.mapping }

/-- An entry of a gantt chart. -/
def gantt (g : Gantt) : Gantt :=
  { g with parameters := ρ.looseFrame g.parameters, mapping := g.mapping.map ρ.ganttMap }

/-- The block `block`. -/
def block (block : BlockId) (b : Block) : Block :=
  { frame := ρ.frames b.frame
    vars := b.vars.mapIdx fun i v => ρ.var (.ofBlock (ρ.blocks block) i) v
    functions := b.functions.mapIdx fun i f => ρ.function ⟨ρ.blocks block, i⟩ f
    progress := b.progress.map ρ.progress
    gantt := b.gantt.map ρ.gantt
    io := b.io.map ρ.io }

/-! ## Instances -/

/-- The parameters of an instance and what is known about them. -/
def binding (b : Binding SymbolId) : Binding SymbolId :=
  { b with
    parameters := ρ.symbolList b.parameters
    mapping := b.mapping.map fun pair => (ρ.symbols pair.1, ρ.term pair.2)
    restricted := ρ.symbolList b.restricted }

/-- An instance. -/
def inst (i : Instance) : Instance :=
  { symbol := ρ.symbols i.symbol
    template := ρ.templates i.template
    binding := ρ.binding i.binding }

/-! ## Templates -/

/-- The handle at the position of `h` in the arena of another number. -/
def handle (arena : Nat) (h : Handle) : Handle := ⟨arena, h.index⟩

/-- The numbers of the three arenas of the template that is copied as the one at position `i`. -/
def arenas (i : Nat) : Nat × Nat × Nat :=
  (ρ.firstArena + 3 * i, ρ.firstArena + 3 * i + 1, ρ.firstArena + 3 * i + 2)

/-- The location at position `index` of the template that becomes `t`. -/
def location (t : TemplateId) (index : Nat) (l : Location) : Location :=
  { symbol := ρ.symbols l.symbol
    name := ρ.expression l.name (.location t index .name)
    invariant := ρ.expression l.invariant (.location t index .invariant)
    exponentialRate := ρ.expression l.exponentialRate (.location t index .exponentialRate)
    costRate := ρ.expression l.costRate (.location t index .costRate)
    nr := l.nr }

/-- A branchpoint. -/
def branchpoint (b : Branchpoint) : Branchpoint := { b with symbol := ρ.symbols b.symbol }

/-- An endpoint, in arenas of the given numbers. -/
def endpoint (locations branchpoints : Nat) : Endpoint → Endpoint
  | .location h => .location (handle locations h)
  | .branchpoint h => .branchpoint (handle branchpoints h)

/-- The edge at position `index` of the template that becomes `t`. -/
def edge (locations branchpoints : Nat) (t : TemplateId) (index : Nat) (e : Edge) : Edge :=
  { e with
    source := endpoint locations branchpoints e.source
    target := endpoint locations branchpoints e.target
    select := ρ.looseFrame e.select
    guard := ρ.expression e.guard (.edge t index .guard)
    assign := ρ.expression e.assign (.edge t index .assign)
    sync := ρ.expression e.sync (.edge t index .sync)
    prob := ρ.expression e.prob (.edge t index .prob) }

/-- A line of the template that becomes `t`. -/
def line (t : TemplateId) (l : InstanceLine) : InstanceLine :=
  { nr := l.nr, inst := ρ.insts l.inst, owner := t }

/-- The message at position `index` of the template that becomes `t`. -/
def message (lines : Nat) (t : TemplateId) (index : Nat) (m : Message) : Message :=
  { m with
    source := handle lines m.source
    target := handle lines m.target
    label := ρ.expression m.label (.message t index) }

/-- The condition at position `index` of the template that becomes `t`. -/
def condition (lines : Nat) (t : TemplateId) (index : Nat) (c : Condition) : Condition :=
  { c with
    anchors := c.anchors.map (handle lines)
    label := ρ.expression c.label (.condition t index) }

/-- The update at position `index` of the template that becomes `t`. -/
def update (lines : Nat) (t : TemplateId) (index : Nat) (u : Update) : Update :=
  { u with anchor := handle lines u.anchor, label := ρ.expression u.label (.update t index) }

/-- The template `id`, copied as the one at position `i`. -/
def template (i : Nat) (id : TemplateId) (t : Template) : Template :=
  let new := ρ.templates id
  let (locations, branchpoints, lines) := ρ.arenas i
  { t with
    inst := ρ.insts t.inst
    block := ρ.blocks t.block
    log := ρ.log
    initial := t.initial.map ρ.symbols
    templateSet := ρ.frames t.templateSet
    locations :=
      { id := locations, label := Template.locationLabel
        items := t.locations.items.mapIdx (ρ.location new) }
    branchpoints :=
      { id := branchpoints, label := Template.branchpointLabel
        items := t.branchpoints.items.map ρ.branchpoint }
    edges := t.edges.mapIdx (ρ.edge locations branchpoints new)
    dynamicEvals := t.dynamicEvals.map ρ.term
    lines :=
      { id := lines, label := Template.lineLabel, items := t.lines.items.map (ρ.line new) }
    messages := t.messages.mapIdx (ρ.message lines new)
    conditions := t.conditions.mapIdx (ρ.condition lines new)
    updates := t.updates.mapIdx (ρ.update lines new) }

/-! ## Documents -/

/-- A priority declaration. -/
def chanPriority (p : ChanPriority) : ChanPriority :=
  { head := ρ.term p.head, tail := p.tail.map fun link => (link.1, ρ.term link.2) }

/-- The document itself. -/
def documentCopy (d : Document) : Document :=
  { d with
    lineTable := ρ.lineTable
    log := ρ.log
    globals := ρ.blocks d.globals
    templates := d.templates.map ρ.templates
    dynamicTemplates := d.dynamicTemplates.map ρ.templates
    dynamicByName := d.dynamicByName.map fun entry => (entry.1, ρ.templates entry.2)
    instances := d.instances.map ρ.insts
    lscInstances := d.lscInstances.map ρ.insts
    processes := d.processes.map ρ.insts
    chanPriorities := d.chanPriorities.map ρ.chanPriority
    beforeUpdate := ρ.expression d.beforeUpdate (.beforeUpdate ρ.document)
    afterUpdate := ρ.expression d.afterUpdate (.afterUpdate ρ.document) }

end Relocations

namespace Store

/-- Where the entities of a document go when it is copied now. -/
def relocations (s : Store) (document : DocumentId) : Relocations :=
  { symbols := ⟨s.mentioned document, s.symbols.size⟩
    frames := ⟨s.ownedFrames document, s.frames.size⟩
    blocks := ⟨s.ownedBlocks document, s.blocks.size⟩
    insts := ⟨s.ownedInsts document, s.insts.size⟩
    templates := ⟨(s.document document).allTemplates, s.templates.size⟩
    document := s.documents.next
    log := s.logs.next
    lineTable := s.lineTables.next
    firstArena := s.nextArena }

/-- The own symbol of an entity, and what the copy of that symbol stands for. -/
def claim? (s : Store) (ρ : Relocations) (subject : Subject) : Option (SymbolId × Subject) :=
  (s.ownSymbol? subject).map fun symbol => (symbol, ρ.subject subject)

/-- The claims of all the entities that a document owns. -/
def claims (s : Store) (ρ : Relocations) (document : DocumentId) : List (SymbolId × Subject) :=
  (s.owned document).filterMap (s.claim? ρ)

/-- The copy of a symbol: it stands for the copy of its owner, if the document has the owner, and
    for what the symbol stands for otherwise. -/
def copiedSymbol (s : Store) (claims : List (SymbolId × Subject)) (r : SymbolId) : Symbol :=
  let symbol := s.symbol r
  { symbol with subject := (Ordered.get? claims r).getD symbol.subject }

/-- The copy of the global frame: every symbol once. -/
def copiedGlobalFrame (s : Store) (ρ : Relocations) (document : DocumentId) : Frame :=
  Frame.addNew {} (ρ.symbolList (s.frame (s.globalFrame document)).symbols)

/-- The copy of the local frame of a template, inside the copied global frame: the parameters, then
    every other symbol once. -/
def copiedLocalFrame (s : Store) (ρ : Relocations) (document : DocumentId) (t : TemplateId) :
    Frame :=
  let parameters := (s.inst (s.template t).inst).binding.parameters
  let frame : Frame :=
    { parent := some (ρ.frames (s.globalFrame document)), symbols := ρ.symbolList parameters }
  frame.addNew (ρ.symbolList (s.frame (s.localFrame t)).symbols)

/-- What the copy of a frame holds. -/
def copiedFrame (s : Store) (ρ : Relocations) (document : DocumentId) (r : FrameId) : Frame :=
  if r = s.globalFrame document then s.copiedGlobalFrame ρ document
  else
    match (s.document document).allTemplates.find? fun t => s.localFrame t == r with
    | some t => s.copiedLocalFrame ρ document t
    | none => ρ.looseFrame (s.frame r)

/-- What the copy of an instance is made from: the own instance of a template is made anew. -/
def instSource (s : Store) (document : DocumentId) (i : InstanceId) : Instance :=
  match (s.document document).allTemplates.find? fun t => (s.template t).inst == i with
  | some t => (s.inst i).opened t
  | none => s.inst i

/-- The store with the image of a document, which shares no entity with the document. -/
def relocated (s : Store) (document : DocumentId) : Store × DocumentId :=
  let d := s.document document
  let ρ := s.relocations document
  let claims := s.claims ρ document
  ({ s with
      symbols := s.symbols.pushAll ((s.mentioned document).map (s.copiedSymbol claims))
      frames := s.frames.pushAll ((s.ownedFrames document).map (s.copiedFrame ρ document))
      blocks := s.blocks.pushAll ((s.ownedBlocks document).map fun b => ρ.block b (s.block b))
      insts := s.insts.pushAll
        ((s.ownedInsts document).map fun i => ρ.inst (s.instSource document i))
      templates := s.templates.pushAll
        (d.allTemplates.mapIdx fun i t => ρ.template i t (s.template t))
      documents := s.documents.push (ρ.documentCopy d)
      logs := s.logs.push { s.log d.log with lineTable := ρ.lineTable }
      lineTables := s.lineTables.push (s.lineTable d.lineTable)
      nextArena := s.nextArena + 3 * d.allTemplates.length }, ρ.document)

end Store

end TimedNet
