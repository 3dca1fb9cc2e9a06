import TimedNet.Store.Settings
import TimedNet.Store.Templates

/-!
# `TimedNet.Store.Copy` — a document once more

A copy of a document has copies of all that the document owns. It is made in one walk over the document.
The first time the walk meets a symbol it makes a new one like it, and wherever it meets the symbol
again it puts the same new one. A copied symbol stands for what the symbol stood for, until the walk has
copied the entity that the symbol belongs to; then it stands for the copy of the entity.

Templates are made as all templates are, from a symbol and parameters, and filled in afterwards. A line
may refer to a template that is copied later, so the lines are gone over once more at the end.

## Contents
- `Copying`, `CopyM`: what the walk has made so far.
- `CopyM.symbol`, `CopyM.rebind`: the copy of a symbol, and what it stands for.
- `CopyM.term`, `CopyM.var`, `CopyM.inst`, and so on: the copy of one part.
- `CopyM.contents`, `CopyM.template`, `CopyM.relink`: blocks, templates, and the lines at the end.
- `Store.copyDocument`.
-/

namespace TimedNet

/-- A store in which a document is being copied, with the copies of the symbols that were met and of the
    templates that are finished or under way. -/
structure Copying where
  store : Store
  symbols : List (SymbolId × SymbolId) := []
  templates : List (TemplateId × TemplateId) := []

/-- A part of the walk. -/
abbrev CopyM := StateM Copying

namespace CopyM

/-- The store so far. -/
def store : CopyM Store := return (← get).store

/-- A change of the store. -/
def change (f : Store → Store) : CopyM Unit := modify fun c => { c with store := f c.store }

/-- Something new in the store. -/
def make {α : Type} (f : Store → Store × α) : CopyM α :=
  modifyGet fun c => ((f c.store).2, { c with store := (f c.store).1 })

/-! ## Symbols -/

/-- The copy of a symbol, which is made when the symbol is met for the first time. -/
def symbol (r : SymbolId) : CopyM SymbolId := do
  match Ordered.get? (← get).symbols r with
  | some copy => return copy
  | none =>
    let copy ← make fun s => s.newSymbol (s.symbol r)
    modify fun c => { c with symbols := Ordered.put c.symbols r copy }
    return copy

/-- Makes a copied symbol stand for the copy of the entity that it belongs to. -/
def rebind (copy : SymbolId) (subject : Subject) : CopyM Unit :=
  change fun s => { s with symbols := s.symbols.modify copy fun x => { x with subject } }

/-- Several symbols, one after the other. -/
def symbolList (l : List SymbolId) : CopyM (List SymbolId) := l.mapM symbol

/-- A frame that is no scope of its own: the copied symbols, in no other frame. -/
def looseFrame (f : Frame) : CopyM Frame := return .ofList (← symbolList f.symbols)

mutual

/-- A term with its symbols copied. -/
def term : Term SymbolId → CopyM (Term SymbolId)
  | .empty => return .empty
  | .constant mark value span => return .constant mark value span
  | .identifier r span => return .identifier (← symbol r) span
  | .compound operator operands span => return .compound operator (← terms operands) span

/-- Several terms, from left to right. -/
def terms : List (Term SymbolId) → CopyM (List (Term SymbolId))
  | [] => return []
  | t :: ts => return (← term t) :: (← terms ts)

end

/-- An expression for a place of the copy. Nothing and a constant stay the objects that they are. -/
def expression (e : Expression) (slot : Slot) : CopyM Expression :=
  match e.term with
  | .empty | .constant .. => return e
  | .identifier .. | .compound .. => return ⟨.madeFor slot, ← term e.term⟩

/-! ## Declarations -/

/-- A variable, declared as `owner` in the copy. -/
def var (owner : VariableRef) (v : Variable) : CopyM Variable := do
  let symbol ← symbol v.symbol
  let init ← expression v.init (.initialiser owner)
  rebind symbol (.var owner)
  return { symbol, init }

/-- A function, declared as `owner` in the copy. -/
def function (owner : FunctionRef) (f : Function) : CopyM Function := do
  let symbol ← symbol f.symbol
  let changes ← symbolList f.changes
  let depends ← symbolList f.depends
  let locals ← f.locals.zipIdx.mapM fun (v, i) => var (.ofFunction owner i) v
  let body ← f.body.mapM term
  rebind symbol (.fn owner)
  return { symbol, changes, depends, locals, body }

/-- A progress measure. -/
def progress (p : Progress) : CopyM Progress :=
  return { guard := ← term p.guard, measure := ← term p.measure }

/-- A declaration of signals. -/
def io (d : IODecl) : CopyM IODecl :=
  return { instanceName := d.instanceName, params := ← terms d.params, inputs := ← terms d.inputs,
           outputs := ← terms d.outputs, csp := ← terms d.csp }

/-- A row of a gantt chart. -/
def ganttMap (m : GanttMap) : CopyM GanttMap :=
  return { parameters := ← looseFrame m.parameters, predicate := ← term m.predicate,
           mapping := ← term m.mapping }

/-- An entry of a gantt chart. -/
def gantt (g : Gantt) : CopyM Gantt :=
  return { name := g.name, parameters := ← looseFrame g.parameters,
           mapping := ← g.mapping.mapM ganttMap }

/-- The contents of a block, put into a new and empty one. A symbol that the frame of the new block has
    already, as a parameter, is not added again. -/
def contents (source target : BlockId) : CopyM Unit := do
  let block := (← store).block source
  let symbols ← symbolList ((← store).frame block.frame).symbols
  change fun s => s.modifyFrame (s.block target).frame fun f => f.addNew symbols
  let vars ← block.vars.zipIdx.mapM fun (v, i) => var (.ofBlock target i) v
  let functions ← block.functions.zipIdx.mapM fun (f, i) => function ⟨target, i⟩ f
  let progress ← block.progress.mapM progress
  let io ← block.io.mapM io
  let gantt ← block.gantt.mapM gantt
  change fun s => s.modifyBlock target fun b => { b with vars, functions, progress, io, gantt }

/-! ## Instances -/

/-- The copy of a template, or the template if it has none so far. -/
def templateRef (t : TemplateId) : CopyM TemplateId :=
  return (Ordered.get? (← get).templates t).getD t

/-- An instance. -/
def inst (i : Instance) : CopyM Instance := do
  let mapping ← i.binding.mapping.mapM fun (p, e) => return (← symbol p, ← term e)
  let symbol ← symbol i.symbol
  let template ← templateRef i.template
  let parameters ← symbolList i.binding.parameters
  let restricted ← symbolList i.binding.restricted
  return { symbol, template, binding := { i.binding with parameters, mapping, restricted } }

/-- An instance that is in the store, copied as what `subject` says of it. -/
def instWith (subject : InstanceId → Subject) (i : InstanceId) : CopyM InstanceId := do
  let copied ← inst ((← store).inst i)
  let id ← make fun s => ({ s with insts := s.insts.push copied }, s.insts.next)
  rebind copied.symbol (subject id)
  return id

/-! ## Templates -/

/-- The location at position `index` of the template that becomes `t`. -/
def location (t : TemplateId) (index : Nat) (l : Location) : CopyM Location := do
  let symbol ← symbol l.symbol
  let name ← expression l.name (.location t index .name)
  let invariant ← expression l.invariant (.location t index .invariant)
  let exponentialRate ← expression l.exponentialRate (.location t index .exponentialRate)
  let costRate ← expression l.costRate (.location t index .costRate)
  rebind symbol (.location t index)
  return { symbol, name, invariant, exponentialRate, costRate, nr := l.nr }

/-- The branchpoint at position `index` of the template that becomes `t`. -/
def branchpoint (t : TemplateId) (index : Nat) (b : Branchpoint) : CopyM Branchpoint := do
  let symbol ← symbol b.symbol
  rebind symbol (.branchpoint t index)
  return { symbol, nr := b.nr }

/-- The handle of an arena at the position of a handle. Handles of a template lead to positions that its
    copy has as well. -/
def rebased {α : Type} (a : Arena α) (h : Handle) : Handle :=
  match a.rebase h with
  | .ok new => new
  | .error _ => h

/-- An endpoint, in the arenas of a template. -/
def endpoint (locations : Arena Location) (branchpoints : Arena Branchpoint) : Endpoint → Endpoint
  | .location h => .location (rebased locations h)
  | .branchpoint h => .branchpoint (rebased branchpoints h)

/-- The edge at position `index` of the template that becomes `t` and has these nodes. -/
def edge (t : TemplateId) (locations : Arena Location) (branchpoints : Arena Branchpoint)
    (index : Nat) (e : Edge) : CopyM Edge := do
  let select ← looseFrame e.select
  let guard ← expression e.guard (.edge t index .guard)
  let assign ← expression e.assign (.edge t index .assign)
  let sync ← expression e.sync (.edge t index .sync)
  let prob ← expression e.prob (.edge t index .prob)
  return { e with source := endpoint locations branchpoints e.source,
                  target := endpoint locations branchpoints e.target,
                  select, guard, assign, sync, prob }

/-- The line at position `index` of the template that becomes `t`. Its instance is bound as it was. -/
def line (t : TemplateId) (index : Nat) (l : InstanceLine) : CopyM InstanceLine := do
  let original := (← store).inst l.inst
  let symbol ← symbol original.symbol
  let copied ← inst original
  let id ← make fun s => ({ s with insts := s.insts.push { copied with symbol } }, s.insts.next)
  rebind symbol (.line t index)
  return { nr := l.nr, inst := id, owner := t }

/-- The message at position `index` of the template that becomes `t` and has these lines. -/
def message (t : TemplateId) (lines : Arena InstanceLine) (index : Nat) (m : Message) :
    CopyM Message :=
  return { m with source := rebased lines m.source, target := rebased lines m.target,
                  label := ← expression m.label (.message t index) }

/-- The condition at position `index` of the template that becomes `t` and has these lines. -/
def condition (t : TemplateId) (lines : Arena InstanceLine) (index : Nat) (c : Condition) :
    CopyM Condition :=
  return { c with anchors := c.anchors.map (rebased lines),
                  label := ← expression c.label (.condition t index) }

/-- The update at position `index` of the template that becomes `t` and has these lines. -/
def update (t : TemplateId) (lines : Arena InstanceLine) (index : Nat) (u : Update) : CopyM Update :=
  return { u with anchor := rebased lines u.anchor, label := ← expression u.label (.update t index) }

/-- A template inside the frame `globals`, still without contents. It is made from the copied symbol and
    parameters, so its own instance has all of them open, and its frame begins with them. -/
def emptyTemplate (globals : FrameId) (log : LogId) (t : TemplateId) : CopyM TemplateId := do
  let original := (← store).template t
  let own := (← store).inst original.inst
  let symbol ← symbol own.symbol
  let parameters ← symbolList own.binding.parameters
  let new ← make fun s => s.newTemplate symbol parameters (some globals) log original.style
  modify fun c => { c with templates := Ordered.put c.templates t new }
  let restricted ← symbolList own.binding.restricted
  change fun s => s.modifyInst (s.template new).inst fun i =>
    { i with binding := { i.binding with restricted } }
  return new

/-- The contents of a template, its block apart, put into the new one. -/
def body (t new : TemplateId) : CopyM Unit := do
  let original := (← store).template t
  let set := (← store).frame original.templateSet
  let empty := (← store).template new
  let initial ← original.initial.mapM CopyM.symbol
  let templateSet ← looseFrame set
  change fun s => s.modifyFrame empty.templateSet fun _ => templateSet
  let locations ← original.locations.items.zipIdx.mapM fun (l, i) => location new i l
  let locations := { empty.locations with items := locations }
  let branchpoints ← original.branchpoints.items.zipIdx.mapM fun (b, i) => branchpoint new i b
  let branchpoints := { empty.branchpoints with items := branchpoints }
  let edges ← original.edges.zipIdx.mapM fun (e, i) => edge new locations branchpoints i e
  let dynamicEvals ← terms original.dynamicEvals
  let lines ← original.lines.items.zipIdx.mapM fun (l, i) => line new i l
  let lines := { empty.lines with items := lines }
  let messages ← original.messages.zipIdx.mapM fun (m, i) => message new lines i m
  let conditions ← original.conditions.zipIdx.mapM fun (c, i) => condition new lines i c
  let updates ← original.updates.zipIdx.mapM fun (u, i) => update new lines i u
  change fun s => s.modifyTemplate new fun x =>
    { x with
      initial, locations, branchpoints, edges, dynamicEvals, lines, messages, conditions, updates
      hasPrechart := original.hasPrechart, dynamic := original.dynamic
      dynindex := original.dynindex, isDefined := original.isDefined }

/-- A template inside the frame `globals`. -/
def template (globals : FrameId) (log : LogId) (t : TemplateId) : CopyM TemplateId := do
  let new ← emptyTemplate globals log t
  contents ((← store).template t).block ((← store).template new).block
  body t new
  return new

/-- Leads the lines of a copied template to the copies of the templates that they refer to. -/
def relink (t : TemplateId) : CopyM Unit := do
  let templates := (← get).templates
  change fun s => (s.template t).lines.items.foldl (fun s l => s.modifyInst l.inst fun i =>
    { i with template := (Ordered.get? templates i.template).getD i.template }) s

/-! ## Documents -/

/-- A priority declaration. -/
def chanPriority (p : ChanPriority) : CopyM ChanPriority :=
  return { head := ← term p.head,
           tail := ← p.tail.mapM fun (separator, chan) => return (separator, ← term chan) }

/-- A document that is still empty, with a line table and a log of its own. -/
def emptyDocument (d : DocumentId) : CopyM DocumentId := do
  let original := (← store).document d
  let lineTable ← make fun s => s.newLineTable (s.lineTable original.lineTable)
  let log ← make fun s => s.copyLog original.log lineTable
  make fun s => s.newDocument lineTable log

/-- Dynamic templates, entered under their names. -/
def byName (templates : List TemplateId) : CopyM (List (String × TemplateId)) := do
  let name := (← store).templateName
  return templates.foldl (fun map t => Ordered.put map (name t) t) []

/-- The contents of a document, put into the new one. -/
def fill (d copy : DocumentId) : CopyM Unit := do
  let original := (← store).document d
  let empty := (← store).document copy
  let frame := ((← store).block empty.globals).frame
  contents original.globals empty.globals
  let templates ← original.templates.mapM (template frame empty.log)
  let dynamicTemplates ← original.dynamicTemplates.mapM (template frame empty.log)
  let dynamicByName ← byName dynamicTemplates
  (templates ++ dynamicTemplates).forM relink
  let instances ← original.instances.mapM (instWith .inst)
  let lscInstances ← original.lscInstances.mapM (instWith .inst)
  let processes ← original.processes.mapM (instWith .process)
  let chanPriorities ← original.chanPriorities.mapM chanPriority
  let beforeUpdate ← expression original.beforeUpdate (.beforeUpdate copy)
  let afterUpdate ← expression original.afterUpdate (.afterUpdate copy)
  change fun s => s.modifyDocument copy fun x =>
    { original with
      lineTable := x.lineTable, log := x.log, globals := x.globals
      templates, dynamicTemplates, dynamicByName, instances, lscInstances, processes
      chanPriorities, beforeUpdate, afterUpdate }

/-- A document. -/
def document (d : DocumentId) : CopyM DocumentId := do
  let copy ← emptyDocument d
  fill d copy
  return copy

end CopyM

/-- A copy of a document, which shares no entity with it. -/
def Store.copyDocument (s : Store) (document : DocumentId) : Store × DocumentId :=
  let (copy, c) := (CopyM.document document).run { store := s }
  (c.store, copy)

end TimedNet
