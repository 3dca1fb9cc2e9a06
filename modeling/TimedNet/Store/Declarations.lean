import TimedNet.Relocation
import TimedNet.Store.Scope

/-!
# `TimedNet.Store.Declarations` — variables, functions and types

A declaration gives its name to a frame and its entity to a block, both or neither.

## Contents
- `declareVariable`, `declareLocal`, `declareFunction`, `declareType`: one declaration.
- `addVariable`, `addLocal`, `addFunction`, `addTypedef`: the same for a document, which logs what
  fails and warns of a variable that hides another.
- `addProgress`, `addGantt`, `newIODecl`, `setIODecl`, `addIODecl`: entries without a name in a frame.
- `setBody`, `addEffects`: what becomes known of a function later.
- `copyVariables`, `copyFunctions`: the declarations of one template in another.
- `findVariable?`, `findFunction?`, `variableText`.
-/

namespace TimedNet.Store

/-- A variable as text. -/
def variableText (s : Store) (v : Variable) : String :=
  let symbol := s.symbol v.symbol
  let init := if v.init.term.isEmpty then "" else " = " ++ v.init.term.render s.name
  symbol.type ++ " " ++ symbol.name ++ init ++ ";"

/-! ## Look-up in a block -/

/-- The first variable of a name in a block. -/
def findVariable? (s : Store) (block : BlockId) (name : String) : Option VariableRef :=
  ((s.block block).vars.findIdx? fun v => s.name v.symbol == name).map fun i =>
    .ofBlock block i

/-- The first function of a name in a block. -/
def findFunction? (s : Store) (block : BlockId) (name : String) : Option FunctionRef :=
  ((s.block block).functions.findIdx? fun f => s.name f.symbol == name).map fun i => ⟨block, i⟩

/-! ## One declaration -/

/-- The store with a function changed. -/
def modifyFunction (s : Store) (r : FunctionRef) (f : Function → Function) : Store :=
  s.modifyBlock r.block fun b => { b with functions := b.functions.modify r.index f }

/-- A variable of a block. -/
def declareVariable (s : Store) (block : BlockId) (type name : String) (init : Expression)
    (span : Span) : Attempt VariableRef :=
  let b := s.block block
  let owner := VariableRef.ofBlock block b.vars.length
  match s.declare b.frame { name, type, span, subject := .var owner } with
  | (s, .error p) => (s, .error p)
  | (s, .ok symbol) =>
    (s.modifyBlock block fun b => { b with vars := b.vars ++ [⟨symbol, init⟩] },
      .ok owner)

/-- A local variable of a function, in the frame of the block that declares it. -/
def declareLocal (s : Store) (function : FunctionRef) (frame : FrameId) (type name : String)
    (init : Expression) (span : Span) : Attempt VariableRef :=
  let owner := VariableRef.ofFunction function (s.functionAt function).locals.length
  match s.declare frame { name, type, span, subject := .var owner } with
  | (s, .error p) => (s, .error p)
  | (s, .ok symbol) =>
    (s.modifyFunction function fun f => { f with locals := f.locals ++ [⟨symbol, init⟩] },
      .ok owner)

/-- A function of a block, with no body yet. -/
def declareFunction (s : Store) (block : BlockId) (type name : String) (span : Span) :
    Attempt FunctionRef :=
  let b := s.block block
  let owner : FunctionRef := ⟨block, b.functions.length⟩
  match s.declare b.frame { name, type, span, subject := .fn owner } with
  | (s, .error p) => (s, .error p)
  | (s, .ok symbol) =>
    (s.modifyBlock block fun b => { b with functions := b.functions ++ [{ symbol }] }, .ok owner)

/-- A type definition of a block. -/
def declareType (s : Store) (block : BlockId) (name type : String) (span : Span) :
    Attempt SymbolId :=
  s.declare (s.block block).frame { name, type, span, subject := .typedef }

/-! ## Declarations of a document -/

/-- A warning when a name is new in the frame of a block and visible from around it. -/
def warnShadowing (s : Store) (log : LogId) (block : BlockId) (name : String) (span : Span) :
    Store :=
  let frame := s.frame (s.block block).frame
  match frame.parent with
  | none => s
  | some parent =>
    if (s.lookup frame name).isNone && (s.resolve parent name).isSome then
      s.report log span (ProblemKind.shadowsAVariable.on name) ""
    else s

/-- A variable of a block. A name that is visible from around the block is taken with a warning. -/
def addVariable (s : Store) (document : DocumentId) (block : BlockId) (type name : String)
    (init : Expression) (span : Span) : Attempt VariableRef :=
  let log := (s.document document).log
  logged log span ((s.warnShadowing log block name span).declareVariable block type name init span)

/-- A local variable of a function. -/
def addLocal (s : Store) (document : DocumentId) (function : FunctionRef) (frame : FrameId)
    (type name : String) (init : Expression) (span : Span) : Attempt VariableRef :=
  logged (s.document document).log span (s.declareLocal function frame type name init span)

/-- A function with no body yet. -/
def addFunction (s : Store) (document : DocumentId) (block : BlockId) (type name : String)
    (span : Span) : Attempt FunctionRef :=
  logged (s.document document).log span (s.declareFunction block type name span)

/-- A type definition. -/
def addTypedef (s : Store) (document : DocumentId) (block : BlockId) (name type : String)
    (span : Span) : Attempt SymbolId :=
  logged (s.document document).log span (s.declareType block name type span)

/-- A progress measure. -/
def addProgress (s : Store) (block : BlockId) (p : Progress) : Store :=
  s.modifyBlock block fun b => { b with progress := b.progress ++ [p] }

/-- An entry of a gantt chart. -/
def addGantt (s : Store) (block : BlockId) (g : Gantt) : Store :=
  s.modifyBlock block fun b => { b with gantt := b.gantt ++ [g] }

/-- A declaration of signals, in which nothing is said yet. -/
def newIODecl (s : Store) (block : BlockId) : Store :=
  s.modifyBlock block fun b => { b with io := b.io ++ [{}] }

/-- What a declaration of signals says from now on. -/
def setIODecl (s : Store) (block : BlockId) (index : Nat) (io : IODecl) : Store :=
  s.modifyBlock block fun b => { b with io := b.io.set index io }

/-- A declaration of signals in the global block of a document, with what it says. -/
def addIODecl (s : Store) (document : DocumentId) (io : IODecl) : Store :=
  let block := (s.document document).globals
  (s.newIODecl block).setIODecl block (s.block block).io.length io

/-- The body of a function. -/
def setBody (s : Store) (function : FunctionRef) (body : Option (Term SymbolId)) : Store :=
  s.modifyFunction function fun f => { f with body }

/-- More symbols that a function writes and reads. -/
def addEffects (s : Store) (function : FunctionRef) (changes depends : List SymbolId) : Store :=
  s.modifyFunction function fun f =>
    { f with
      changes := Ordered.union f.changes changes
      depends := Ordered.union f.depends depends }

/-! ## Copying declarations between templates -/

/-- The variables of one template as new variables of another, with the same names and the very same
    initialisers. A name that is taken is an error at the place of the variable. -/
def copyVariables (s : Store) (document : DocumentId) (source target : TemplateId) : Store :=
  let log := (s.document document).log
  let block := (s.template target).block
  (s.block (s.template source).block).vars.foldl (fun s v =>
    let symbol := s.symbol v.symbol
    (logged log symbol.span
      (s.declareVariable block symbol.type symbol.name v.init symbol.span)).1) s

/-- Gives the function `target`, which is new, the contents of `f`. The local variables become new
    ones with new symbols, which replace the old ones in initialisers and in the body. -/
def fillFunction (s : Store) (f : Function) (target : FunctionRef) : Store :=
  let symbols := f.locals.map fun v => v.symbol
  -- The new symbols come to the end of the table, in the order of the local variables.
  let ρ : Relocation .symbol := ⟨symbols, s.symbols.size⟩
  let copies := symbols.mapIdx fun i symbol =>
    { s.symbol symbol with subject := .var (.ofFunction target i) }
  let locals := f.locals.mapIdx fun i v =>
    { symbol := ρ v.symbol
      init := v.init.renamed ρ (.madeFor (.initialiser (.ofFunction target i))) : Variable }
  { s with symbols := s.symbols.pushAll copies }.modifyFunction target fun g =>
    { g with
      changes := f.changes
      depends := f.depends
      locals
      body := f.body.map (Term.map ρ) }

/-- The functions of one template as new functions of another, with new local variables. -/
def copyFunctions (s : Store) (document : DocumentId) (source target : TemplateId) : Store :=
  let log := (s.document document).log
  let block := (s.template target).block
  (s.block (s.template source).block).functions.foldl (fun s f =>
    let symbol := s.symbol f.symbol
    match logged log symbol.span (s.declareFunction block symbol.type symbol.name symbol.span) with
    | (s, .ok g) => s.fillFunction f g
    | (s, .error _) => s) s

end TimedNet.Store
