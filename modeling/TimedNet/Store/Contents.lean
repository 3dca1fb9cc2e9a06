import TimedNet.Store.Templates

/-!
# `TimedNet.Store.Contents` — what a document owns and what it mentions

A document owns its templates, instances and processes and what these are made of. It mentions
symbols, its own and possibly those of other documents.

## Contents
- `owned`: the entities of a document that a symbol can stand for.
- `symbols` of the parts of a model: the symbols that are stored in them.
- `ownedInsts`, `ownedBlocks`, `ownedFrames`: the instances, blocks and frames of a document, wherever they
  are.
- `mentioned`: the symbols stored anywhere in a document, each once.
-/

namespace TimedNet

/-! ## Symbols stored in the parts of a model -/

/-- The symbols stored in a variable. -/
def Variable.symbols (v : Variable) : List SymbolId := v.symbol :: v.init.term.occurrences

/-- The symbols stored in a function. -/
def Function.symbols (f : Function) : List SymbolId :=
  f.symbol :: f.changes ++ f.depends ++ f.locals.flatMap Variable.symbols
    ++ f.body.toList.flatMap Term.occurrences

/-- The symbols stored in a progress measure. -/
def Progress.symbols (p : Progress) : List SymbolId := p.guard.occurrences ++ p.measure.occurrences

/-- The symbols stored in a declaration of signals. -/
def IODecl.symbols (io : IODecl) : List SymbolId :=
  (io.params ++ io.inputs ++ io.outputs ++ io.csp).flatMap Term.occurrences

/-- The symbols stored in a row of a gantt chart. -/
def GanttMap.symbols (m : GanttMap) : List SymbolId :=
  m.parameters.symbols ++ m.predicate.occurrences ++ m.mapping.occurrences

/-- The symbols stored in an entry of a gantt chart. -/
def Gantt.symbols (g : Gantt) : List SymbolId :=
  g.parameters.symbols ++ g.mapping.flatMap GanttMap.symbols

/-- The symbols stored in a block, its frame apart. -/
def Block.symbols (b : Block) : List SymbolId :=
  b.vars.flatMap Variable.symbols ++ b.functions.flatMap Function.symbols
    ++ b.progress.flatMap Progress.symbols ++ b.io.flatMap IODecl.symbols
    ++ b.gantt.flatMap Gantt.symbols

/-- The symbols stored in an instance. -/
def Instance.symbols (i : Instance) : List SymbolId :=
  i.binding.mapping.flatMap (fun pair => pair.1 :: pair.2.occurrences)
    ++ i.symbol :: i.binding.parameters ++ i.binding.restricted

/-- The instance as one of the template `t` in which all parameters are open. -/
def Instance.opened (i : Instance) (t : TemplateId) : Instance :=
  { symbol := i.symbol, template := t
    binding := { Binding.ofParameters i.binding.parameters with restricted := i.binding.restricted } }

/-- The symbols stored in a location. -/
def Location.symbols (l : Location) : List SymbolId :=
  l.symbol :: l.name.term.occurrences ++ l.invariant.term.occurrences
    ++ l.exponentialRate.term.occurrences ++ l.costRate.term.occurrences

/-- The symbols stored in an edge. -/
def Edge.symbols (e : Edge) : List SymbolId :=
  e.select.symbols ++ e.guard.term.occurrences ++ e.assign.term.occurrences
    ++ e.sync.term.occurrences ++ e.prob.term.occurrences

/-- The symbols stored in a priority declaration. -/
def ChanPriority.symbols (p : ChanPriority) : List SymbolId :=
  p.head.occurrences ++ p.tail.flatMap fun link => link.2.occurrences

/-- The symbols stored in a template, its block, its frames and its instances apart. -/
def Template.symbols (t : Template) : List SymbolId :=
  t.initial.toList ++ t.locations.items.flatMap Location.symbols
    ++ t.branchpoints.items.map (fun b => b.symbol)
    ++ t.edges.flatMap Edge.symbols ++ t.dynamicEvals.flatMap Term.occurrences
    ++ t.messages.flatMap (fun m => m.label.term.occurrences)
    ++ t.conditions.flatMap (fun c => c.label.term.occurrences)
    ++ t.updates.flatMap (fun u => u.label.term.occurrences)

/-- The symbols stored in a document, what it refers to apart. -/
def Document.symbols (d : Document) : List SymbolId :=
  d.chanPriorities.flatMap ChanPriority.symbols
    ++ d.beforeUpdate.term.occurrences ++ d.afterUpdate.term.occurrences

namespace Store

/-! ## What a document owns -/

/-- The variables and functions of a block, a function after its local variables. -/
def ownedByBlock (s : Store) (block : BlockId) : List Subject :=
  (s.block block).vars.mapIdx (fun i _ => Subject.var (.ofBlock block i))
    ++ ((s.block block).functions.mapIdx fun i f =>
      f.locals.mapIdx (fun j _ => Subject.var (.ofFunction ⟨block, i⟩ j))
        ++ [Subject.fn ⟨block, i⟩]).flatten

/-- A template and the parts of it that symbols stand for. -/
def ownedByTemplate (s : Store) (t : TemplateId) : List Subject :=
  Subject.template t :: s.ownedByBlock (s.template t).block
    ++ (s.template t).locations.items.mapIdx (fun i _ => Subject.location t i)
    ++ (s.template t).branchpoints.items.mapIdx (fun i _ => Subject.branchpoint t i)
    ++ (s.template t).lines.items.mapIdx (fun i _ => Subject.line t i)

/-- The entities of a document that symbols stand for. -/
def owned (s : Store) (document : DocumentId) : List Subject :=
  let d := s.document document
  s.ownedByBlock d.globals ++ d.allTemplates.flatMap s.ownedByTemplate
    ++ d.instances.map .inst ++ d.lscInstances.map .inst ++ d.processes.map .process

/-- The instances of a template: its own and those of its lines. -/
def templateInsts (s : Store) (t : TemplateId) : List InstanceId :=
  (s.template t).inst :: (s.template t).lines.items.map fun line => line.inst

/-- The instances of a document: those of its templates and lines, the named ones, and the
    processes. -/
def ownedInsts (s : Store) (document : DocumentId) : List InstanceId :=
  let d := s.document document
  d.allTemplates.flatMap s.templateInsts ++ d.instances ++ d.lscInstances ++ d.processes

/-- The blocks of a document: the global one and those of its templates. -/
def ownedBlocks (s : Store) (document : DocumentId) : List BlockId :=
  let d := s.document document
  d.globals :: d.allTemplates.map fun t => (s.template t).block

/-- The frames of a document: the global one, and for each template the local one and the set. -/
def ownedFrames (s : Store) (document : DocumentId) : List FrameId :=
  s.globalFrame document :: (s.document document).allTemplates.flatMap fun t =>
    [s.localFrame t, (s.template t).templateSet]

/-! ## What a document mentions

The symbols come in the order in which they are met when the document is copied. The own instance of a
template is made anew for the copy, with all its parameters open. -/

/-- The symbols stored in a block and its frame. -/
def blockSymbols (s : Store) (block : BlockId) : List SymbolId :=
  (s.frame (s.block block).frame).symbols ++ (s.block block).symbols

/-- The symbols stored in a line: the symbol of its instance, and then all those of the instance. -/
def lineSymbols (s : Store) (line : InstanceLine) : List SymbolId :=
  (s.inst line.inst).symbol :: (s.inst line.inst).symbols

/-- The symbols stored in a template, its own instance and its block apart. -/
def bodySymbols (s : Store) (id : TemplateId) : List SymbolId :=
  let t := s.template id
  t.initial.toList ++ (s.frame t.templateSet).symbols ++ t.locations.items.flatMap Location.symbols
    ++ t.branchpoints.items.map (fun b => b.symbol) ++ t.edges.flatMap Edge.symbols
    ++ t.dynamicEvals.flatMap Term.occurrences ++ t.lines.items.flatMap s.lineSymbols
    ++ t.messages.flatMap (fun m => m.label.term.occurrences)
    ++ t.conditions.flatMap (fun c => c.label.term.occurrences)
    ++ t.updates.flatMap (fun u => u.label.term.occurrences)

/-- The symbols stored anywhere in a template. -/
def templateSymbols (s : Store) (id : TemplateId) : List SymbolId :=
  let t := s.template id
  ((s.inst t.inst).opened id).symbols ++ s.blockSymbols t.block ++ s.bodySymbols id

/-- The symbols stored anywhere in a document. -/
def storedSymbols (s : Store) (document : DocumentId) : List SymbolId :=
  let d := s.document document
  s.blockSymbols d.globals ++ d.allTemplates.flatMap s.templateSymbols
    ++ (d.instances ++ d.lscInstances ++ d.processes).flatMap (fun i => (s.inst i).symbols)
    ++ d.symbols

/-- The same, each once. -/
def mentioned (s : Store) (document : DocumentId) : List SymbolId :=
  (s.storedSymbols document).eraseDups

end Store

end TimedNet
