import TimedNet.Store.Automata
import TimedNet.Store.Charts
import TimedNet.Store.Contents
import TimedNet.Store.Copy
import TimedNet.Store.Declarations
import TimedNet.Store.Instances
import TimedNet.Store.Restriction
import TimedNet.Store.Settings

/-!
# `TimedNet.Store.Operation` — what a program can do with a store

Everything that changes a store, as data. A program keeps references to what it made and passes them
to further operations, so an operation can only be carried out when all it mentions exists.

## Contents
- `Entity`: references of all kinds that are stored in a document.
- `Operation`, `Store.perform`.
- `Operation.receivers`, `Operation.others`, `Operation.symbols`: what an operation mentions.
- `Operation.Admissible`: everything mentioned exists.
- `Store.Run`: the stores that a program reaches; `Store.Performs`: the same as a check.
-/

namespace TimedNet

/-- A reference to an entity of some kind. -/
inductive Entity where
  | symbol (r : SymbolId)
  | frame (r : FrameId)
  | block (r : BlockId)
  | inst (r : InstanceId)
  | template (r : TemplateId)
  | document (r : DocumentId)
  | log (r : LogId)
  | lineTable (r : LineTableId)
deriving DecidableEq, Repr

/-- Whether the entity is in the store. -/
def Store.Has (s : Store) : Entity → Prop
  | .symbol r => r ∈ s.symbols
  | .frame r => r ∈ s.frames
  | .block r => r ∈ s.blocks
  | .inst r => r ∈ s.insts
  | .template r => r ∈ s.templates
  | .document r => r ∈ s.documents
  | .log r => r ∈ s.logs
  | .lineTable r => r ∈ s.lineTables

instance (s : Store) : ∀ e, Decidable (s.Has e)
  | .symbol r => inferInstanceAs (Decidable (r ∈ s.symbols))
  | .frame r => inferInstanceAs (Decidable (r ∈ s.frames))
  | .block r => inferInstanceAs (Decidable (r ∈ s.blocks))
  | .inst r => inferInstanceAs (Decidable (r ∈ s.insts))
  | .template r => inferInstanceAs (Decidable (r ∈ s.templates))
  | .document r => inferInstanceAs (Decidable (r ∈ s.documents))
  | .log r => inferInstanceAs (Decidable (r ∈ s.logs))
  | .lineTable r => inferInstanceAs (Decidable (r ∈ s.lineTables))

/-- The operations on stores. -/
inductive Operation where
  -- Entities on their own.
  | newSymbol (symbol : Symbol)
  | newFrame (frame : Frame)
  | extendFrame (frame : FrameId) (symbols : List SymbolId)
  | declareSymbol (frame : FrameId) (symbol : Symbol)
  | newBlock (parent : Option FrameId)
  | newTemplate (symbol : SymbolId) (parameters : List SymbolId) (globals : Option FrameId)
      (log : LogId) (style : Style)
  | copyInst (inst : InstanceId) (symbol : SymbolId)
  | extendParameters (inst : InstanceId) (symbols : List SymbolId)
  | newLineTable (lines : LineTable)
  | addLine (lines : LineTableId) (entry : LineInfo)
  | openLog (lines : Option LineTableId)
  | copyLog (log : LogId) (lines : LineTableId)
  | addError (log : LogId) (span : Span) (message context : String)
  | addWarning (log : LogId) (span : Span) (message context : String)
  | report (log : LogId) (span : Span) (problem : Problem) (context : String)
  | clearErrors (log : LogId)
  | clearWarnings (log : LogId)
  -- Documents.
  | openDocument (lines : Option LineTableId) (log : Option LogId)
  | copyDocument (document : DocumentId)
  | addTemplate (document : DocumentId) (name : String) (parameters : List SymbolId) (span : Span)
      (style : Style)
  | addDynamicTemplate (document : DocumentId) (name : String) (parameters : List SymbolId)
      (span : Span)
  | addInstance (document : DocumentId) (name : String) (base : InstanceId)
      (parameters : List SymbolId) (arguments : List (Term SymbolId)) (span : Span)
  | addLscInstance (document : DocumentId) (name : String) (base : InstanceId)
      (parameters : List SymbolId) (arguments : List (Term SymbolId)) (span : Span)
  | addProcess (document : DocumentId) (inst : InstanceId) (span : Span)
  | removeProcess (document : DocumentId) (inst : InstanceId)
  | beginChanPriority (document : DocumentId) (chan : Term SymbolId)
  | addChanPriority (document : DocumentId) (separator : String) (chan : Term SymbolId)
  | setProcPriority (document : DocumentId) (name : String) (priority : Int)
  | recordFeature (document : DocumentId) (feature : Feature)
  | setOptions (document : DocumentId) (options : List ModelOption)
  | addQuery (document : DocumentId) (query : QueryId)
  | addLibrary (document : DocumentId) (library : Nat)
  | addString (document : DocumentId) (text : String)
  | internString (document : DocumentId) (text : String)
  | assignDocument (document : DocumentId) (syncUsed : Int) (modified : Bool) (obsTA : String)
      (methods : Methods) (beforeUpdate afterUpdate : Expression)
  -- Declarations.
  | declareVariable (block : BlockId) (type name : String) (init : Expression) (span : Span)
  | declareLocal (function : FunctionRef) (frame : FrameId) (type name : String)
      (init : Expression) (span : Span)
  | declareFunction (block : BlockId) (type name : String) (span : Span)
  | declareType (block : BlockId) (name type : String) (span : Span)
  | addVariable (document : DocumentId) (block : BlockId) (type name : String) (init : Expression)
      (span : Span)
  | addLocal (document : DocumentId) (function : FunctionRef) (frame : FrameId)
      (type name : String) (init : Expression) (span : Span)
  | addFunction (document : DocumentId) (block : BlockId) (type name : String) (span : Span)
  | addTypedef (document : DocumentId) (block : BlockId) (name type : String) (span : Span)
  | addProgress (block : BlockId) (entry : Progress)
  | addGantt (block : BlockId) (entry : Gantt)
  | newIODecl (block : BlockId)
  | setIODecl (block : BlockId) (index : Nat) (entry : IODecl)
  | setBody (function : FunctionRef) (body : Option (Term SymbolId))
  | addEffects (function : FunctionRef) (changes depends : List SymbolId)
  | setInitialiser (owner : VariableRef) (init : Expression)
  | copyVariables (document : DocumentId) (source target : TemplateId)
  | copyFunctions (document : DocumentId) (source target : TemplateId)
  -- Templates.
  | assignTemplate (template : TemplateId) (style : Style) (hasPrechart dynamic : Bool)
      (dynindex : Int) (isDefined : Bool)
  | addDynamicEval (template : TemplateId) (term : Term SymbolId)
  | addLocation (template : TemplateId) (name : String) (invariant rate : Expression) (span : Span)
  | assignLocation (template : TemplateId) (index : Nat)
      (name invariant exponentialRate costRate : Expression)
  | addBranchpoint (template : TemplateId) (name : String) (span : Span)
  | setInitial (template : TemplateId) (symbol : SymbolId)
  | addEdge (template : TemplateId) (source target : SymbolId) (control : Bool) (actname : String)
  | assignEdge (template : TemplateId) (index : Nat) (guard assign sync prob : Expression)
  | extendEdge (template : TemplateId) (index : Nat) (select : List SymbolId) (values : List Int)
  | restrict (template : TemplateId) (symbol : SymbolId)
  | addInstanceLine (template : TemplateId) (name : String) (span : Span)
  | bindLine (template : TemplateId) (index : Nat) (base : InstanceId)
      (parameters : List SymbolId) (arguments : List (Term SymbolId))
  | addMessage (template : TemplateId) (source target : SymbolId) (location : Int)
      (prechart : Bool) (label : Expression)
  | addCondition (template : TemplateId) (anchors : List SymbolId) (location : Int)
      (prechart hot : Bool) (label : Expression)
  | addUpdate (template : TemplateId) (anchor : SymbolId) (location : Int) (prechart : Bool)
      (label : Expression)
  -- What belongs to no document.
  | newRegions (regions : List Simregion)
  | setRegion (region : RegionId) (content : Simregion)
  | newCut (cut : Cut RegionId)
  | addToCut (cut : CutId) (region : RegionId)
  | eraseFromCut (cut : CutId) (region : RegionId)
  | newQuery (query : Query)
  | setQuery (query : QueryId) (content : Query)
  | newArena (label : String) (items : List Constant)
  | pushToArena (arena : ArenaId) (item : Constant)

namespace Store

/-- The store with another initialiser for a variable. -/
def setInitialiser (s : Store) (owner : VariableRef) (init : Expression) : Store :=
  match owner with
  | .ofBlock block index => s.modifyBlock block fun b =>
    { b with vars := b.vars.modify index fun v => { v with init } }
  | .ofFunction function index => s.modifyFunction function fun f =>
    { f with locals := f.locals.modify index fun v => { v with init } }

/-- The store after an operation, whether the operation succeeds or fails. -/
def perform (s : Store) : Operation → Store
  | .newSymbol symbol => (s.newSymbol symbol).1
  | .newFrame frame => (s.newFrame frame).1
  | .extendFrame frame symbols => s.modifyFrame frame fun f => f.addAll symbols
  | .declareSymbol frame symbol => (s.declare frame symbol).1
  | .newBlock parent => (s.newBlock parent).1
  | .newTemplate symbol parameters globals log style =>
    (s.newTemplate symbol parameters globals log style).1
  | .copyInst inst symbol => (s.copyInst inst symbol).1
  | .extendParameters inst symbols => s.extendParameters inst symbols
  | .newLineTable lines => (s.newLineTable lines).1
  | .addLine lines entry => s.addLine lines entry
  | .openLog lines => (s.openLog lines).1
  | .copyLog log lines => (s.copyLog log lines).1
  | .addError log span message context => s.addError log span message context
  | .addWarning log span message context => s.addWarning log span message context
  | .report log span problem context => s.report log span problem context
  | .clearErrors log => s.clearErrors log
  | .clearWarnings log => s.clearWarnings log
  | .openDocument lines log => (s.openDocument lines log).1
  | .copyDocument document => (s.copyDocument document).1
  | .addTemplate document name parameters span style =>
    (s.addTemplate document name parameters span style).1
  | .addDynamicTemplate document name parameters span =>
    (s.addDynamicTemplate document name parameters span).1
  | .addInstance document name base parameters arguments span =>
    (s.addInstance document name base parameters arguments span).1
  | .addLscInstance document name base parameters arguments span =>
    (s.addLscInstance document name base parameters arguments span).1
  | .addProcess document inst span => (s.addProcess document inst span).1
  | .removeProcess document inst => (s.removeProcess document inst).1
  | .beginChanPriority document chan => s.beginChanPriority document chan
  | .addChanPriority document separator chan => (s.addChanPriority document separator chan).1
  | .setProcPriority document name priority => s.setProcPriority document name priority
  | .recordFeature document feature => s.recordFeature document feature
  | .setOptions document options => s.setOptions document options
  | .addQuery document query => s.addQuery document query
  | .addLibrary document library => s.addLibrary document library
  | .addString document text => s.addString document text
  | .internString document text => (s.internString document text).1
  | .assignDocument document syncUsed modified obsTA methods beforeUpdate afterUpdate =>
    s.modifyDocument document fun d =>
      { d with syncUsed, modified, obsTA, methods, beforeUpdate, afterUpdate }
  | .declareVariable block type name init span => (s.declareVariable block type name init span).1
  | .declareLocal function frame type name init span =>
    (s.declareLocal function frame type name init span).1
  | .declareFunction block type name span => (s.declareFunction block type name span).1
  | .declareType block name type span => (s.declareType block name type span).1
  | .addVariable document block type name init span =>
    (s.addVariable document block type name init span).1
  | .addLocal document function frame type name init span =>
    (s.addLocal document function frame type name init span).1
  | .addFunction document block type name span => (s.addFunction document block type name span).1
  | .addTypedef document block name type span => (s.addTypedef document block name type span).1
  | .addProgress block entry => s.addProgress block entry
  | .addGantt block entry => s.addGantt block entry
  | .newIODecl block => s.newIODecl block
  | .setIODecl block index entry => s.setIODecl block index entry
  | .setBody function body => s.setBody function body
  | .addEffects function changes depends => s.addEffects function changes depends
  | .setInitialiser owner init => s.setInitialiser owner init
  | .copyVariables document source target => s.copyVariables document source target
  | .copyFunctions document source target => s.copyFunctions document source target
  | .assignTemplate template style hasPrechart dynamic dynindex isDefined =>
    s.modifyTemplate template fun t => { t with style, hasPrechart, dynamic, dynindex, isDefined }
  | .addDynamicEval template term => s.addDynamicEval template term
  | .addLocation template name invariant rate span =>
    (s.addLocation template name invariant rate span).1
  | .assignLocation template index name invariant exponentialRate costRate =>
    s.modifyLocation template index fun l => { l with name, invariant, exponentialRate, costRate }
  | .addBranchpoint template name span => (s.addBranchpoint template name span).1
  | .setInitial template symbol => (s.setInitial template symbol).1
  | .addEdge template source target control actname =>
    (s.addEdge template source target control actname).1
  | .assignEdge template index guard assign sync prob =>
    s.modifyEdge template index fun e => { e with guard, assign, sync, prob }
  | .extendEdge template index select values =>
    s.modifyEdge template index fun e =>
      { e with select := e.select.addAll select, selectValues := e.selectValues ++ values }
  | .restrict template symbol => s.restrict template symbol
  | .addInstanceLine template name span => (s.addInstanceLine template name span).1
  | .bindLine template index base parameters arguments =>
    (s.bindLine (s.lineAt template index).inst base parameters arguments).1
  | .addMessage template source target location prechart label =>
    (s.addMessage template source target location prechart label).1
  | .addCondition template anchors location prechart hot label =>
    (s.addCondition template anchors location prechart hot label).1
  | .addUpdate template anchor location prechart label =>
    (s.addUpdate template anchor location prechart label).1
  | .newRegions regions => (s.newRegions regions).1
  | .setRegion region content => s.modifyRegion region fun _ => content
  | .newCut cut => (s.newCut cut).1
  | .addToCut cut region => s.addToCut cut region
  | .eraseFromCut cut region => (s.eraseFromCut cut region).1
  | .newQuery query => (s.newQuery query).1
  | .setQuery query content => s.modifyQuery query fun _ => content
  | .newArena label items => (s.newArena label items).1
  | .pushToArena arena item => (s.pushToArena arena item).1

end Store

/-- The block in which a variable is declared. -/
def VariableRef.block : VariableRef → BlockId
  | .ofBlock block _ => block
  | .ofFunction function _ => function.block

namespace Operation

/-- What an operation is called on. -/
def receivers : Operation → List Entity
  | .extendFrame frame _ | .declareSymbol frame _ => [.frame frame]
  | .newTemplate symbol .. => [.symbol symbol]
  | .extendParameters inst _ => [.inst inst]
  | .addLine lines _ => [.lineTable lines]
  | .addError log .. | .addWarning log .. | .report log .. | .clearErrors log
  | .clearWarnings log => [.log log]
  | .addTemplate document .. | .addDynamicTemplate document .. | .addInstance document ..
  | .addLscInstance document .. | .addProcess document .. | .removeProcess document _
  | .beginChanPriority document _ | .addChanPriority document .. | .setProcPriority document ..
  | .recordFeature document _ | .setOptions document _ | .addQuery document _
  | .addLibrary document _ | .addString document _ | .internString document _
  | .assignDocument document .. => [.document document]
  | .declareVariable block .. | .declareFunction block .. | .declareType block ..
  | .addProgress block _ | .addGantt block _ | .newIODecl block | .setIODecl block .. => [.block block]
  | .declareLocal function frame .. => [.block function.block, .frame frame]
  | .addVariable document block .. | .addFunction document block .. | .addTypedef document block .. =>
    [.document document, .block block]
  | .addLocal document function frame .. =>
    [.document document, .block function.block, .frame frame]
  | .setBody function _ | .addEffects function .. => [.block function.block]
  | .setInitialiser owner _ => [.block owner.block]
  | .copyVariables document _ target | .copyFunctions document _ target =>
    [.document document, .template target]
  | .assignTemplate template .. | .addDynamicEval template _ | .addLocation template ..
  | .assignLocation template .. | .addBranchpoint template .. | .setInitial template _
  | .addEdge template .. | .assignEdge template .. | .extendEdge template ..
  | .restrict template _ | .addInstanceLine template .. | .bindLine template ..
  | .addMessage template .. | .addCondition template .. | .addUpdate template .. =>
    [.template template]
  | .newSymbol _ | .newFrame _ | .newBlock _ | .copyInst .. | .newLineTable _ | .openLog _
  | .copyLog .. | .openDocument .. | .copyDocument _ | .newRegions _ | .setRegion .. | .newCut _
  | .addToCut .. | .eraseFromCut .. | .newQuery _ | .setQuery .. | .newArena ..
  | .pushToArena .. => []

/-- The other entities that an operation mentions, apart from symbols. -/
def others : Operation → List Entity
  | .newFrame frame => frame.parent.toList.map .frame
  | .newBlock parent => parent.toList.map .frame
  | .newTemplate _ _ globals log _ => .log log :: globals.toList.map .frame
  | .copyInst inst _ => [.inst inst]
  | .openLog lines => lines.toList.map .lineTable
  | .copyLog log lines => [.log log, .lineTable lines]
  | .openDocument lines log => lines.toList.map .lineTable ++ log.toList.map .log
  | .copyDocument document => [.document document]
  | .addInstance _ _ base .. | .addLscInstance _ _ base .. | .bindLine _ _ base .. => [.inst base]
  | .addProcess _ inst _ => [.inst inst]
  | .copyVariables _ source _ | .copyFunctions _ source _ => [.template source]
  | _ => []

/-- The symbols that an operation mentions, alone or in something else. -/
def symbols : Operation → List SymbolId
  | .newFrame frame => frame.symbols
  | .extendFrame _ symbols | .extendParameters _ symbols => symbols
  | .newTemplate symbol parameters .. => symbol :: parameters
  | .copyInst _ symbol => [symbol]
  | .addTemplate _ _ parameters .. | .addDynamicTemplate _ _ parameters _ => parameters
  | .addInstance _ _ _ parameters arguments _ | .addLscInstance _ _ _ parameters arguments _
  | .bindLine _ _ _ parameters arguments => parameters ++ arguments.flatMap Term.occurrences
  | .beginChanPriority _ chan | .addChanPriority _ _ chan => chan.occurrences
  | .assignDocument _ _ _ _ _ beforeUpdate afterUpdate =>
    beforeUpdate.term.occurrences ++ afterUpdate.term.occurrences
  | .declareVariable _ _ _ init _ | .declareLocal _ _ _ _ init _ | .addVariable _ _ _ _ init _
  | .addLocal _ _ _ _ _ init _ | .setInitialiser _ init => init.term.occurrences
  | .addProgress _ entry => entry.symbols
  | .addGantt _ entry => entry.symbols
  | .setIODecl _ _ entry => entry.symbols
  | .setBody _ body => body.toList.flatMap Term.occurrences
  | .addEffects _ changes depends => changes ++ depends
  | .addDynamicEval _ term => term.occurrences
  | .addLocation _ _ invariant rate _ => invariant.term.occurrences ++ rate.term.occurrences
  | .assignLocation _ _ name invariant exponentialRate costRate =>
    name.term.occurrences ++ invariant.term.occurrences ++ exponentialRate.term.occurrences
      ++ costRate.term.occurrences
  | .setInitial _ symbol | .restrict _ symbol => [symbol]
  | .addEdge _ source target .. => [source, target]
  | .assignEdge _ _ guard assign sync prob =>
    guard.term.occurrences ++ assign.term.occurrences ++ sync.term.occurrences
      ++ prob.term.occurrences
  | .extendEdge _ _ select _ => select
  | .addMessage _ source target _ _ label => source :: target :: label.term.occurrences
  | .addCondition _ anchors _ _ _ label => anchors ++ label.term.occurrences
  | .addUpdate _ anchor _ _ label => anchor :: label.term.occurrences
  | _ => []

/-- The line that is bound exists, a symbol made on its own stands for nothing, and a template made on
    its own gets a symbol that stands for nothing. -/
def WellFormed (s : Store) : Operation → Prop
  | .newSymbol symbol | .declareSymbol _ symbol => symbol.subject.isBare
  | .newTemplate symbol .. => (s.symbol symbol).subject.isBare
  | .bindLine template index .. => index < (s.template template).lines.size
  | _ => True

/-- An operation can be carried out when all it mentions exists. -/
structure Admissible (s : Store) (op : Operation) : Prop where
  receivers : ∀ e ∈ op.receivers, s.Has e
  others : ∀ e ∈ op.others, s.Has e
  symbols : ∀ r ∈ op.symbols, r ∈ s.symbols
  wellFormed : op.WellFormed s

instance (s : Store) : ∀ op : Operation, Decidable (op.WellFormed s)
  | .newSymbol symbol | .declareSymbol _ symbol =>
    inferInstanceAs (Decidable (symbol.subject.isBare = true))
  | .newTemplate symbol .. => inferInstanceAs (Decidable ((s.symbol symbol).subject.isBare = true))
  | .bindLine template index .. =>
    inferInstanceAs (Decidable (index < (s.template template).lines.size))
  | .newFrame .. | .extendFrame .. | .newBlock .. | .copyInst .. | .extendParameters ..
  | .newLineTable .. | .addLine .. | .openLog .. | .copyLog .. | .addError .. | .addWarning ..
  | .report .. | .clearErrors .. | .clearWarnings .. | .openDocument .. | .copyDocument .. | .addTemplate ..
  | .addDynamicTemplate .. | .addInstance .. | .addLscInstance .. | .addProcess ..
  | .removeProcess .. | .beginChanPriority .. | .addChanPriority .. | .setProcPriority ..
  | .recordFeature .. | .setOptions .. | .addQuery .. | .addLibrary .. | .addString ..
  | .internString .. | .assignDocument .. | .declareVariable .. | .declareLocal ..
  | .declareFunction .. | .declareType .. | .addVariable .. | .addLocal .. | .addFunction ..
  | .addTypedef .. | .addProgress .. | .addGantt .. | .newIODecl .. | .setIODecl ..
  | .setBody .. | .addEffects .. | .setInitialiser .. | .copyVariables .. | .copyFunctions ..
  | .assignTemplate .. | .addDynamicEval .. | .addLocation .. | .assignLocation ..
  | .addBranchpoint .. | .setInitial .. | .addEdge .. | .assignEdge .. | .extendEdge ..
  | .restrict .. | .addInstanceLine .. | .addMessage .. | .addCondition .. | .addUpdate ..
  | .newRegions .. | .setRegion .. | .newCut .. | .addToCut .. | .eraseFromCut .. | .newQuery ..
  | .setQuery .. | .newArena .. | .pushToArena .. => .isTrue trivial

instance (s : Store) (op : Operation) : Decidable (op.Admissible s) :=
  decidable_of_iff ((∀ e ∈ op.receivers, s.Has e) ∧ (∀ e ∈ op.others, s.Has e)
      ∧ (∀ r ∈ op.symbols, r ∈ s.symbols) ∧ op.WellFormed s)
    ⟨fun h => ⟨h.1, h.2.1, h.2.2.1, h.2.2.2⟩,
      fun h => ⟨h.receivers, h.others, h.symbols, h.wellFormed⟩⟩

end Operation

/-- The stores that a program reaches from an empty one, when all its operations are admissible and
    satisfy a condition. -/
inductive Store.Run (condition : Store → Operation → Prop) (start : Store) : Store → Prop where
  | refl : Store.Run condition start start
  | step {s : Store} (run : Store.Run condition start s) (op : Operation)
      (admissible : op.Admissible s) (holds : condition s op) :
      Store.Run condition start (s.perform op)

namespace Store

variable {condition : Store → Operation → Prop}

/-- The operations can be carried out one after the other and satisfy a condition. -/
def Performs (condition : Store → Operation → Prop) (s : Store) : List Operation → Prop
  | [] => True
  | op :: ops => op.Admissible s ∧ condition s op ∧ (s.perform op).Performs condition ops

instance decidablePerforms [∀ s op, Decidable (condition s op)] :
    ∀ (s : Store) (ops : List Operation), Decidable (s.Performs condition ops)
  | _, [] => inferInstanceAs (Decidable True)
  | s, op :: ops =>
    have : Decidable ((s.perform op).Performs condition ops) := decidablePerforms (s.perform op) ops
    inferInstanceAs (Decidable (op.Admissible s ∧ condition s op
      ∧ (s.perform op).Performs condition ops))

/-- What operations lead to is reached. -/
theorem Run.performs {start s : Store} (hrun : Run condition start s) {ops : List Operation}
    (h : s.Performs condition ops) : Run condition start (ops.foldl perform s) := by
  induction ops generalizing s with
  | nil => exact hrun
  | cons op ops ih => exact ih (.step hrun op h.1 h.2.1) h.2.2

end Store

end TimedNet
