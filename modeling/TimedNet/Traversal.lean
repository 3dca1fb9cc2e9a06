import TimedNet.Store.Charts
import TimedNet.Store.Declarations
import TimedNet.Store.Instances

/-!
# `TimedNet.Traversal` — the order in which a document is read

A pass over a document meets its entities in a fixed order:

* the document, before all else;
* the global types, variables and functions in the order of their declaration, then progress
  measures, gantt entries and declarations of signals;
* each template, the static ones before the dynamic ones, and, if the pass enters it: its local
  types, variables and functions, its locations, edges, lines, messages, conditions and updates, and
  the template again;
* the instances, those of charts after the others, and the processes;
* the document, after all else.

## Contents
- `Visit`: one meeting; `Store.visitText`: the meeting as text.
- `Store.visits`: all of them, given which templates the pass enters.
-/

namespace TimedNet

/-- What a pass meets. The parts of a template come with the template. -/
inductive Visit where
  | documentBefore (document : DocumentId)
  | documentAfter (document : DocumentId)
  | typedef (symbol : SymbolId)
  | var (owner : VariableRef)
  | fn (owner : FunctionRef)
  | progress (entry : Progress)
  | gantt (entry : Gantt)
  | io (entry : IODecl)
  | templateBefore (template : TemplateId)
  | templateAfter (template : TemplateId)
  | location (template : TemplateId) (entry : Location)
  | edge (template : TemplateId) (entry : Edge)
  | line (template : TemplateId) (entry : InstanceLine)
  | message (template : TemplateId) (entry : Message)
  | condition (template : TemplateId) (entry : Condition)
  | update (template : TemplateId) (entry : Update)
  | inst (ref : InstanceId)
  | process (ref : InstanceId)
deriving Repr

/-- The word for what is met, and whether it is met before or after what is inside it. -/
def Visit.word : Visit → String
  | .documentBefore _ => "SystemBefore"
  | .documentAfter _ => "SystemAfter"
  | .typedef _ => "TypeDef"
  | .var _ => "Variable"
  | .fn _ => "Function"
  | .progress _ => "ProgressMeasure"
  | .gantt _ => "GanttChart"
  | .io _ => "IODecl"
  | .templateBefore _ => "TemplateBefore"
  | .templateAfter _ => "TemplateAfter"
  | .location .. => "State"
  | .edge .. => "Edge"
  | .line .. => "InstanceLine"
  | .message .. => "Message"
  | .condition .. => "Condition"
  | .update .. => "Update"
  | .inst _ => "Instance"
  | .process _ => "Process"

namespace Store

/-- One meeting as text: what is met, and by what name or number. -/
def visitText (s : Store) : Visit → String
  | .documentBefore _ => "system"
  | .documentAfter _ => "/system"
  | .typedef symbol => "typedef " ++ s.name symbol
  | .var owner => "var " ++ s.variableText (s.variableAt owner)
  | .fn owner => "fn " ++ s.name (s.functionAt owner).symbol
  | .progress p => "progress " ++ p.guard.render s.name ++ "; " ++ p.measure.render s.name
  | .gantt g => "gantt " ++ g.name
  | .io d => "io " ++ d.instanceName
  | .templateBefore t => "template " ++ s.templateName t
  | .templateAfter t => "/template " ++ s.templateName t
  | .location t l => "state " ++ s.templateName t ++ "." ++ s.name l.symbol
  | .edge t e => "edge " ++ s.templateName t ++ "." ++ toString e.nr
  | .line t l => "line " ++ s.templateName t ++ "." ++ s.lineName l
  | .message t m => "message " ++ s.templateName t ++ "." ++ toString m.nr
  | .condition t c => "condition " ++ s.templateName t ++ "." ++ toString c.nr
  | .update t u => "update " ++ s.templateName t ++ "." ++ toString u.nr
  | .inst i => "instance " ++ s.instName i
  | .process i => "process " ++ s.instName i

/-- The meeting with what a symbol declares. Locations, lines, templates and instances are met
    elsewhere. -/
def declarationVisit? (s : Store) (symbol : SymbolId) : Option Visit :=
  match (s.symbol symbol).subject with
  | .typedef => some (.typedef symbol)
  | .var owner => some (.var owner)
  | .fn owner => some (.fn owner)
  | _ => none

/-- The types, variables and functions of a frame. -/
def frameVisits (s : Store) (frame : FrameId) : List Visit :=
  (s.frame frame).symbols.filterMap s.declarationVisit?

/-- What the global block declares. -/
def globalVisits (s : Store) (block : BlockId) : List Visit :=
  let b := s.block block
  s.frameVisits b.frame ++ b.progress.map .progress ++ b.gantt.map .gantt ++ b.io.map .io

/-- What is inside a template. -/
def bodyVisits (s : Store) (t : TemplateId) : List Visit :=
  let template := s.template t
  s.frameVisits (s.localFrame t)
    ++ template.locations.items.map (.location t)
    ++ template.edges.map (.edge t)
    ++ template.lines.items.map (.line t)
    ++ template.messages.map (.message t)
    ++ template.conditions.map (.condition t)
    ++ template.updates.map (.update t)

/-- A template, with what is inside it if the pass enters it. -/
def templateVisits (s : Store) (enters : TemplateId → Bool) (t : TemplateId) : List Visit :=
  if enters t then .templateBefore t :: s.bodyVisits t ++ [.templateAfter t]
  else [.templateBefore t]

/-- All that a pass over a document meets when it enters the templates that `enters` accepts. -/
def visits (s : Store) (document : DocumentId) (enters : TemplateId → Bool) : List Visit :=
  let d := s.document document
  .documentBefore document :: s.globalVisits d.globals
    ++ d.allTemplates.flatMap (s.templateVisits enters)
    ++ d.instances.map .inst ++ d.lscInstances.map .inst ++ d.processes.map .process
    ++ [.documentAfter document]

end Store

end TimedNet
