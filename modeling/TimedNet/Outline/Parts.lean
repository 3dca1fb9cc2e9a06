import TimedNet.Outline.Basic
import TimedNet.Store.Charts
import TimedNet.Store.Declarations
import TimedNet.Store.Instances

/-!
# `TimedNet.Outline.Parts` — outlines of the parts of a document

## Contents
- Declarations: variables, functions, progress measures, gantt entries, signals, blocks.
- Bindings and instances.
- Automata: locations, branchpoints, edges.
- Charts: lines, events, simregions, cuts.
-/

namespace TimedNet

/-! ## Declarations -/

instance : Outlined Variable := ⟨fun s v =>
  .record [("variable", s.symbolOutline v.symbol), s.field "init" v.init,
    s.field "text" (s.variableText v)]⟩

instance : Outlined VariableRef := ⟨fun s r => outline s (s.variableAt r)⟩

instance : Outlined Function := ⟨fun s f =>
  .record [("function", s.symbolOutline f.symbol), ("changes", .set f.changes),
    ("depends", .set f.depends), s.field "variables" f.locals, s.field "body" f.body]⟩

instance : Outlined FunctionRef := ⟨fun s r => outline s (s.functionAt r)⟩

instance : Outlined Progress := ⟨fun s p => outline s [p.guard, p.measure]⟩

instance : Outlined GanttMap := ⟨fun s m =>
  .list [outline s m.parameters, outline s m.predicate, outline s m.mapping]⟩

instance : Outlined Gantt := ⟨fun s g =>
  .record [s.field "gantt" g.name, s.field "parameters" g.parameters, s.field "mapping" g.mapping]⟩

instance : Outlined IODecl := ⟨fun s io =>
  .record [s.field "io" io.instanceName, s.field "params" io.params, s.field "inputs" io.inputs,
    s.field "outputs" io.outputs, s.field "csp" io.csp]⟩

instance : Outlined BlockId := ⟨fun s r =>
  let b := s.block r
  .record [("symbols", .list ((s.frame b.frame).symbols.map s.symbolOutline)),
    s.field "variables" b.vars, s.field "functions" b.functions,
    s.field "progress" b.progress, s.field "gantt" b.gantt, s.field "io" b.io]⟩

/-! ## Instances -/

instance : Outlined (Binding SymbolId) := ⟨fun s b =>
  .record [s.field "parameters" b.parameters, s.field "mapping" b.mapping,
    s.field "argumentCount" b.argumentCount, s.field "unbound" b.unbound,
    ("restricted", .set b.restricted)]⟩

instance : Outlined InstanceId := ⟨fun s r =>
  let i := s.inst r
  let b := i.binding
  .record [("instance", s.symbolOutline i.symbol),
    s.field "template" (s.templateSymbol i.template), s.field "parameters" b.parameters,
    s.field "unbound" b.unbound, s.field "argumentCount" b.argumentCount,
    s.field "closed" b.isClosed, s.field "free" b.unboundParameters,
    s.field "bound" b.boundParameters, s.field "mapping" b.mapping,
    ("restricted", .set b.restricted), s.field "writeParameters" (s.writeParameters r),
    s.field "writeArguments" (s.writeArguments r), s.field "writeMapping" (s.writeMapping r)]⟩

/-! ## Automata -/

instance : Outlined Location := ⟨fun s l =>
  .record [("state", s.symbolOutline l.symbol), s.field "nr" l.nr, s.field "name" l.name,
    s.field "invariant" l.invariant, s.field "exponentialRate" l.exponentialRate,
    s.field "costRate" l.costRate]⟩

instance : Outlined Branchpoint := ⟨fun s b =>
  .record [("branchpoint", s.symbolOutline b.symbol), s.field "nr" b.nr]⟩

instance : Outlined Endpoint := ⟨fun s e =>
  match e with
  | .location h => outline s ("state", h)
  | .branchpoint h => outline s ("branchpoint", h)⟩

/-- An edge of a template. -/
def Store.edgeOutline (s : Store) (t : TemplateId) (index : Nat) : Outline :=
  let e := (s.template t).edges.getD index default
  .record [s.field "edge" e.nr, s.field "control" e.control, s.field "actname" e.actname,
    s.field "src" e.source, s.field "dst" e.target, s.field "select" e.select,
    s.field "guard" e.guard, s.field "assign" e.assign, s.field "sync" e.sync,
    s.field "prob" e.prob, ("selectValues", .growing (.selectValues t index))]

/-! ## Charts -/

instance : Outlined InstanceLine := ⟨fun s l =>
  .record [s.field "line" l.nr, s.field "name" (s.lineName l),
    s.field "owner" (s.templateSymbol l.owner), s.field "instance" l.inst]⟩

instance : Outlined Message := ⟨fun s m =>
  .record [s.field "message" m.nr, s.field "location" m.location, s.field "src" m.source,
    s.field "dst" m.target, s.field "label" m.label, s.field "prechart" m.prechart]⟩

instance : Outlined Condition := ⟨fun s c =>
  .record [s.field "condition" c.nr, s.field "location" c.location, s.field "anchors" c.anchors,
    s.field "label" c.label, s.field "prechart" c.prechart, s.field "hot" c.hot]⟩

instance : Outlined Update := ⟨fun s u =>
  .record [s.field "update" u.nr, s.field "location" u.location, s.field "anchor" u.anchor,
    s.field "label" u.label, s.field "prechart" u.prechart]⟩

/-- The fields of a simregion. -/
def Store.regionFields (s : Store) (x : Simregion) : List (String × Outline) :=
  [s.field "nr" x.nr, s.field "text" x.text, s.field "loc" x.location,
    s.field "prechart" x.isInPrechart]

/-- The fields of a simregion with its events. -/
def Store.regionDetails (s : Store) (x : Simregion) : List (String × Outline) :=
  s.regionFields x ++ [s.field "has" (EventKind.all.map x.has), s.field "message" x.message,
    s.field "condition" x.condition, s.field "update" x.update]

instance : Outlined Simregion := ⟨fun s x => .record (s.regionFields x)⟩

instance : Outlined RegionId := ⟨fun s r => outline s (s.region r)⟩

instance : Outlined CutId := ⟨fun s r =>
  let c := s.cut r
  .record [s.field "cut" c.nr, s.field "size" c.size, s.field "text" (c.text s.region),
    s.field "regions" (c.members.map fun m => (s.region m).text)]⟩

end TimedNet
