import TimedNet.Store.Scope

/-!
# `TimedNet.Store.Templates` — static and dynamic templates

## Contents
- `newTemplate`: a template of its own.
- `addTemplate`: a template of a document, under a new global name.
- `addDynamicTemplate`: a template that is instantiated at run time. The first call for a name
  declares it, the second one defines what was declared, and any further one is refused.
- `findTemplate?`, `findDynamicTemplate?`.
- `addDynamicEval`: a term that is evaluated at run time.
-/

namespace TimedNet.Store

/-- A template under a symbol, which becomes the template's. Its arenas are new. -/
def newTemplate (s : Store) (symbol : SymbolId) (parameters : List SymbolId)
    (globals : Option FrameId) (log : LogId) (style : Style) : Store × TemplateId :=
  let id := s.templates.next
  let inst := s.insts.next
  let s := { s with
    insts := s.insts.push { symbol, template := id, binding := .ofParameters parameters } }
  let (s, block) := s.newBlock globals parameters
  let (s, templateSet) := s.newFrame {}
  ({ s with
      symbols := s.symbols.modify symbol fun x => { x with subject := .template id }
      templates := s.templates.push
        { inst, block, log, templateSet, style
          locations := { id := s.nextArena, label := Template.locationLabel }
          branchpoints := { id := s.nextArena + 1, label := Template.branchpointLabel }
          lines := { id := s.nextArena + 2, label := Template.lineLabel } }
      nextArena := s.nextArena + 3 }, id)

/-- The frame of a document's global block. -/
def globalFrame (s : Store) (document : DocumentId) : FrameId :=
  (s.block (s.document document).globals).frame

/-- The frame of a template's local block. -/
def localFrame (s : Store) (t : TemplateId) : FrameId := (s.block (s.template t).block).frame

/-- The type that the symbol of a template has. -/
def templateType (isTA : Bool) : String := if isTA then "instance" else "lsc-instance"

/-- A template of a document. -/
def addTemplate (s : Store) (document : DocumentId) (name : String) (parameters : List SymbolId)
    (span : Span) (style : Style := {}) : Attempt TemplateId :=
  let log := (s.document document).log
  let globals := s.globalFrame document
  match s.declare globals { name, type := templateType style.isTA, span } with
  | (s, .error p) => s.reject log span p
  | (s, .ok symbol) =>
    let (s, id) := s.newTemplate symbol parameters (some globals) log style
    (s.modifyDocument document fun d => { d with templates := d.templates ++ [id] }, .ok id)

/-- The first static template of a name. -/
def findTemplate? (s : Store) (document : DocumentId) (name : String) : Option TemplateId :=
  (s.document document).templates.find? fun t => s.templateName t == name

/-- The dynamic template of a name, as the document has entered it. -/
def findDynamicTemplate? (s : Store) (document : DocumentId) (name : String) :
    Option TemplateId :=
  Ordered.get? (s.document document).dynamicByName name

/-- A dynamic template of a document: declared by the first call for a name, defined by the
    second. -/
def addDynamicTemplate (s : Store) (document : DocumentId) (name : String)
    (parameters : List SymbolId) (span : Span) : Attempt TemplateId :=
  let log := (s.document document).log
  match s.findDynamicTemplate? document name with
  | some id =>
    if (s.template id).isDefined then
      s.reject log span (ProblemKind.duplicateDefinition.on name)
    else (s.modifyTemplate id fun t => { t with isDefined := true }, .ok id)
  | none =>
    let globals := s.globalFrame document
    match s.declare globals { name, type := templateType true, span } with
    | (s, .error p) => s.reject log span p
    | (s, .ok symbol) =>
      let (s, id) := s.newTemplate symbol parameters (some globals) log {}
      let index := (s.document document).dynamicTemplates.length
      let s := s.modifyTemplate id fun t =>
        { t with dynamic := true, dynindex := index, isDefined := false }
      (s.modifyDocument document fun d =>
        { d with
          dynamicTemplates := d.dynamicTemplates ++ [id]
          dynamicByName := Ordered.put d.dynamicByName name id }, .ok id)

/-- One more term that a template evaluates at run time. -/
def addDynamicEval (s : Store) (t : TemplateId) (term : Term SymbolId) : Store :=
  s.modifyTemplate t fun t => { t with dynamicEvals := t.dynamicEvals ++ [term] }

end TimedNet.Store
