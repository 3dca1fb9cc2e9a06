import TimedNet.Outline.Parts

/-!
# `TimedNet.Outline.Document` — outlines of templates, logs and documents

## Contents
- Templates: `Store.templateFields`, `Store.templateOutline`.
- Line tables, logs, problems.
- Queries, options, methods, features.
- `Store.documentOutline`: all that can be seen of a document.
-/

namespace TimedNet

/-! ## Templates -/

/-- The fields of a template, its body apart. -/
def Store.templateFields (s : Store) (r : TemplateId) : List (String × Outline) :=
  let t := s.template r
  [("template", s.symbolOutline (s.templateSymbol r)), s.field "name" (s.templateName r),
    s.field "isTA" t.style.isTA, s.field "type" t.style.type, s.field "mode" t.style.mode,
    s.field "invariant" t.isInvariant, s.field "hasPrechart" t.hasPrechart,
    s.field "dynamic" t.dynamic, s.field "dynindex" t.dynindex, s.field "isDefined" t.isDefined,
    s.field "init" t.initial, s.field "parameters" (s.inst t.inst).binding.parameters,
    s.field "frame" (s.frame (s.localFrame r))]

instance : Outlined TemplateId := ⟨fun s r => .record (s.templateFields r)⟩

/-- A template with its body. -/
def Store.templateOutline (s : Store) (r : TemplateId) : Outline :=
  let t := s.template r
  .record (s.templateFields r ++
    [s.field "instance" t.inst, s.field "declarations" t.block,
      s.field "templateSet" (s.frame t.templateSet), s.field "states" t.locations.items,
      s.field "branchpoints" t.branchpoints.items,
      ("edges", .list ((List.range t.edges.length).map (s.edgeOutline r))),
      s.field "dynamicEvals" t.dynamicEvals, s.field "lines" t.lines.items,
      s.field "messages" t.messages, s.field "conditions" t.conditions,
      s.field "updates" t.updates, s.field "simregions" t.events.simregions])

/-! ## Line tables, logs and problems -/

instance : Outlined LineInfo := ⟨fun s i =>
  .list [outline s i.position, outline s i.offset, outline s i.line, outline s i.path]⟩

instance : Outlined LineTableId := ⟨fun s r =>
  let t := s.lineTable r
  .record [s.field "size" t.size, s.field "entries" t.entries.toList]⟩

instance : Outlined Diagnostic := ⟨fun s d =>
  .record [s.field "pos" d.span, s.field "start" d.first, s.field "end" d.last,
    s.field "message" d.message, s.field "context" d.context]⟩

instance : Outlined LogId := ⟨fun s r =>
  let l := s.log r
  .record [s.field "hasErrors" l.hasErrors, s.field "hasWarnings" l.hasWarnings,
    s.field "errors" l.errors, s.field "warnings" l.warnings]⟩

instance : Outlined Problem := ⟨fun s p =>
  .record [s.field "kind" p.kind, s.field "message" p.message, s.field "template" p.template,
    s.field "subject" p.subject, s.field "severity" p.severity.text,
    s.field "warning" (p.severity == .warning)]⟩

/-! ## Settings -/

instance : Outlined ChanPriority := ⟨fun s p => outline s (p.text s.name)⟩

instance : Outlined ModelOption := ⟨fun s o => outline s (o.name, o.value)⟩

instance : Outlined Resource := ⟨fun s r =>
  .list [outline s r.name, outline s r.value, outline s r.unit]⟩

instance : Outlined Expectation := ⟨fun s e =>
  .record [s.field "valueType" e.valueType, s.field "status" e.status, s.field "value" e.value,
    s.field "resources" e.resources]⟩

instance : Outlined Query := ⟨fun s q =>
  .record [s.field "formula" q.formula, s.field "comment" q.comment, s.field "options" q.options,
    s.field "expectation" q.expectation, s.field "location" q.location]⟩

instance : Outlined QueryId := ⟨fun s r => outline s (s.query r)⟩

instance : Outlined Methods := ⟨fun s m => outline s [m.symbolic, m.stochastic, m.concrete]⟩

/-- What was recorded about a document. -/
def Store.flagOutline (s : Store) (d : Document) : Outline :=
  let f := d.features
  .record [s.field "priorities" f.priorities, s.field "strictInvariants" f.strictInvariants,
    s.field "stopWatch" f.stopWatch, s.field "strictLowerBound" f.strictLowerBound,
    s.field "clockGuardRecvBroadcast" f.clockGuardRecvBroadcast,
    s.field "urgentTransition" f.urgentTransition,
    s.field "dynamicTemplates" (!d.dynamicTemplates.isEmpty),
    s.field "queriesEmpty" d.queries.isEmpty, s.field "syncUsed" d.syncUsed,
    s.field "modified" d.modified, s.field "obsTA" d.obsTA]

/-- The last library of a document. -/
def Document.lastLibrary (d : Document) : Outline := d.libraries.getLast?.elim .absent .library

/-! ## Documents -/

/-- All that can be seen of a document. -/
def Store.documentOutline (s : Store) (r : DocumentId) : Outline :=
  let d := s.document r
  .record [s.field "globals" d.globals,
    ("templates", .list (d.templates.map s.templateOutline)),
    ("dynamic", .list (d.dynamicTemplates.map s.templateOutline)),
    s.field "instances" d.instances, s.field "lscInstances" d.lscInstances,
    s.field "processes" d.processes, s.field "chanPriorities" d.chanPriorities,
    s.field "queries" d.queries, s.field "options" d.options, s.field "methods" d.methods,
    s.field "beforeUpdate" d.beforeUpdate, s.field "afterUpdate" d.afterUpdate,
    ("flags", s.flagOutline d), ("strings", .growing (.strings r)), ("lastLibrary", d.lastLibrary),
    s.field "diagnostics" d.log]

end TimedNet
