import TimedNet.Store.Templates

/-!
# `TimedNet.Store.Instances` — instances and processes

## Contents
- `addInstance`, `addLscInstance`: a further step of instantiation under a new global name.
- `bindLine`: a line of a chart as an instance of something else.
- `extendParameters`: symbols added to the parameters of an instance by hand.
- `addProcess`, `removeProcess`, `findProcess?`.
- `writeParameters`, `writeArguments`, `writeMapping`: an instance as text.
-/

namespace TimedNet.Store

/-- The name of an instance. -/
def instName (s : Store) (i : InstanceId) : String := s.name (s.inst i).symbol

/-- One step of instantiation of `base`, which fails when there are too many arguments. -/
def bind (s : Store) (base : InstanceId) (parameters : List SymbolId)
    (arguments : List (Term SymbolId)) : Except Problem (Binding SymbolId) :=
  match (s.inst base).binding.bind? parameters arguments with
  | some b => .ok b
  | none => .error (ProblemKind.tooManyArguments.on (s.instName base))

/-- An instance of `base` under a new global name, which `enlist` adds to a list of the document.
    Whether the arguments fit counts first, whether the name is free second. -/
def instantiate (s : Store) (document : DocumentId) (name : String) (base : InstanceId)
    (parameters : List SymbolId) (arguments : List (Term SymbolId)) (span : Span)
    (enlist : InstanceId → Document → Document) : Attempt InstanceId :=
  let log := (s.document document).log
  match s.bind base parameters arguments with
  | .error p => s.reject log span p
  | .ok binding =>
    -- The symbol names the instance that is pushed once the name turns out to be free.
    let id := s.insts.next
    match s.declare (s.globalFrame document)
        { name, type := "instance", span, subject := .inst id } with
    | (s, .error p) => s.reject log span p
    | (s, .ok symbol) =>
      let template := (s.inst base).template
      let s := { s with insts := s.insts.push { symbol, template, binding } }
      (s.modifyDocument document (enlist id), .ok id)

/-- A named instance. -/
def addInstance (s : Store) (document : DocumentId) (name : String) (base : InstanceId)
    (parameters : List SymbolId) (arguments : List (Term SymbolId)) (span : Span) :
    Attempt InstanceId :=
  s.instantiate document name base parameters arguments span fun id d =>
    { d with instances := d.instances ++ [id] }

/-- A named instance that a chart refers to. -/
def addLscInstance (s : Store) (document : DocumentId) (name : String) (base : InstanceId)
    (parameters : List SymbolId) (arguments : List (Term SymbolId)) (span : Span) :
    Attempt InstanceId :=
  s.instantiate document name base parameters arguments span fun id d =>
    { d with lscInstances := d.lscInstances ++ [id] }

/-- Makes the instance of a line a further step from `base`. A failure is not logged. -/
def bindLine (s : Store) (line : InstanceId) (base : InstanceId) (parameters : List SymbolId)
    (arguments : List (Term SymbolId)) : Attempt InstanceId :=
  match s.bind base parameters arguments with
  | .error p => (s, .error p)
  | .ok binding =>
    let template := (s.inst base).template
    (s.modifyInst line fun i => { i with template, binding }, .ok line)

/-- An instance with the same binding under another symbol, which goes on standing for whatever it
    stands for. -/
def copyInst (s : Store) (i : InstanceId) (symbol : SymbolId) : Store × InstanceId :=
  ({ s with insts := s.insts.push { s.inst i with symbol } }, s.insts.next)

/-- More symbols at the end of the parameters of an instance. As many parameters as before are open. -/
def extendParameters (s : Store) (i : InstanceId) (symbols : List SymbolId) : Store :=
  s.modifyInst i fun x =>
    { x with binding := { x.binding with parameters := x.binding.parameters ++ symbols } }

/-! ## Processes -/

/-- The type of the symbol of a process: an instance with open parameters stands for a set. -/
def processType (closed : Bool) : String := if closed then "process" else "process-set"

/-- A copy of an instance as a process. No open parameter may be restricted. -/
def addProcess (s : Store) (document : DocumentId) (i : InstanceId) (span : Span) :
    Attempt InstanceId :=
  let b := (s.inst i).binding
  match b.unboundParameters.find? fun p => b.restricted.contains p with
  | some p =>
    s.reject (s.document document).log span
      (ProblemKind.freeRestrictedParameter.on (s.name p))
  | none =>
    let (s, symbol) := s.newSymbol
      { name := s.instName i, type := processType b.isClosed, span,
        subject := .process s.insts.next }
    let (s, id) := s.copyInst i symbol
    (s.modifyDocument document fun d => { d with processes := d.processes ++ [id] }, .ok id)

/-- The store without a process, and whether it was there. -/
def removeProcess (s : Store) (document : DocumentId) (i : InstanceId) : Store × Bool :=
  (s.modifyDocument document fun d => { d with processes := d.processes.erase i },
    (s.document document).processes.contains i)

/-- The first process of a name. -/
def findProcess? (s : Store) (document : DocumentId) (name : String) : Option InstanceId :=
  (s.document document).processes.find? fun i => s.instName i == name

/-! ## Instances as text -/

/-- The open parameters with their types. -/
def writeParameters (s : Store) (i : InstanceId) : String :=
  String.intercalate ", " ((s.inst i).binding.unboundParameters.map fun p =>
    (s.symbol p).type ++ " " ++ s.name p)

/-- The arguments, in the order in which the template declares its parameters. -/
def writeArguments (s : Store) (i : InstanceId) : String :=
  let inst := s.inst i
  let parameters := (s.inst (s.template inst.template).inst).binding.parameters
  String.intercalate ", " (parameters.filterMap fun p =>
    (inst.binding.argument? p).map fun term => term.render s.name)

/-- A line for each bound parameter and its argument. -/
def writeMapping (s : Store) (i : InstanceId) : String :=
  String.join ((s.inst i).binding.mapping.map fun pair =>
    s.name pair.1 ++ " = " ++ pair.2.render s.name ++ "\n")

end TimedNet.Store
