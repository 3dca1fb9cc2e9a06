import TimedNet.Store.Operation

/-!
# `TimedNet.Store.Outcome` — what an operation gives back

An operation makes another store of a store, and gives something to the program that carried it out: a
reference to what is new, an answer, or the problem for which it failed.

## Contents
- `Outcome`: what a program can get; `Outcome.of`: the same from what was made or the problem.
- `Store.outcome`: what each operation gives.
-/

namespace TimedNet

/-- What an operation gives back. -/
inductive Outcome where
  | done
  | failed (problem : Problem)
  | entity (e : Entity)
  | var (owner : VariableRef)
  | fn (owner : FunctionRef)
  | index (i : Nat)
  | answer (b : Bool)
  | chanPriority (p : ChanPriority)
  | regions (rs : List RegionId)
  | cut (c : CutId)
  | query (q : QueryId)
  | arena (a : ArenaId)
  | handle (h : Handle)

/-- What is given of what was made, or of the problem for which nothing was. -/
def Outcome.of {α : Type} (made : α → Outcome) : Except Problem α → Outcome
  | .ok a => made a
  | .error p => .failed p

/-- What an operation gives back in a store. -/
def Store.outcome (s : Store) : Operation → Outcome
  | .newSymbol symbol => .entity (.symbol (s.newSymbol symbol).2)
  | .newFrame frame => .entity (.frame (s.newFrame frame).2)
  | .declareSymbol frame symbol => .of (fun r => .entity (.symbol r)) (s.declare frame symbol).2
  | .newBlock parent => .entity (.block (s.newBlock parent).2)
  | .newTemplate symbol parameters globals log style =>
    .entity (.template (s.newTemplate symbol parameters globals log style).2)
  | .copyInst inst symbol => .entity (.inst (s.copyInst inst symbol).2)
  | .newLineTable lines => .entity (.lineTable (s.newLineTable lines).2)
  | .openLog lines => .entity (.log (s.openLog lines).2)
  | .copyLog log lines => .entity (.log (s.copyLog log lines).2)
  | .openDocument lines log => .entity (.document (s.openDocument lines log).2)
  | .copyDocument document => .entity (.document (s.copyDocument document).2)
  | .addTemplate document name parameters span style =>
    .of (fun t => .entity (.template t)) (s.addTemplate document name parameters span style).2
  | .addDynamicTemplate document name parameters span =>
    .of (fun t => .entity (.template t)) (s.addDynamicTemplate document name parameters span).2
  | .addInstance document name base parameters arguments span =>
    .of (fun i => .entity (.inst i)) (s.addInstance document name base parameters arguments span).2
  | .addLscInstance document name base parameters arguments span =>
    .of (fun i => .entity (.inst i))
      (s.addLscInstance document name base parameters arguments span).2
  | .addProcess document inst span =>
    .of (fun i => .entity (.inst i)) (s.addProcess document inst span).2
  | .removeProcess document inst => .answer (s.removeProcess document inst).2
  | .addChanPriority document separator chan =>
    .of .chanPriority (s.addChanPriority document separator chan).2
  | .internString document text => .index (s.internString document text).2
  | .declareVariable block type name init span =>
    .of .var (s.declareVariable block type name init span).2
  | .declareLocal function frame type name init span =>
    .of .var (s.declareLocal function frame type name init span).2
  | .declareFunction block type name span => .of .fn (s.declareFunction block type name span).2
  | .declareType block name type span =>
    .of (fun r => .entity (.symbol r)) (s.declareType block name type span).2
  | .addVariable document block type name init span =>
    .of .var (s.addVariable document block type name init span).2
  | .addLocal document function frame type name init span =>
    .of .var (s.addLocal document function frame type name init span).2
  | .addFunction document block type name span =>
    .of .fn (s.addFunction document block type name span).2
  | .addTypedef document block name type span =>
    .of (fun r => .entity (.symbol r)) (s.addTypedef document block name type span).2
  | .addLocation template name invariant rate span =>
    .of .index (s.addLocation template name invariant rate span).2
  | .addBranchpoint template name span => .of .index (s.addBranchpoint template name span).2
  | .setInitial template symbol => .of .index (s.setInitial template symbol).2
  | .addEdge template source target control actname =>
    .of .index (s.addEdge template source target control actname).2
  | .addInstanceLine template name span => .of .index (s.addInstanceLine template name span).2
  | .bindLine template index base parameters arguments =>
    .of (fun i => .entity (.inst i))
      (s.bindLine (s.lineAt template index).inst base parameters arguments).2
  | .addMessage template source target location prechart label =>
    .of .index (s.addMessage template source target location prechart label).2
  | .addCondition template anchors location prechart hot label =>
    .of .index (s.addCondition template anchors location prechart hot label).2
  | .addUpdate template anchor location prechart label =>
    .of .index (s.addUpdate template anchor location prechart label).2
  | .newRegions regions => .regions (s.newRegions regions).2
  | .newCut cut => .cut (s.newCut cut).2
  | .eraseFromCut cut region => .answer (s.eraseFromCut cut region).2
  | .newQuery query => .query (s.newQuery query).2
  | .newArena label items => .arena (s.newArena label items).2
  | .pushToArena arena item => .handle (s.pushToArena arena item).2
  -- The others give nothing back.
  | .extendFrame .. | .extendParameters .. | .addLine .. | .addError .. | .addWarning ..
  | .report .. | .clearErrors _ | .clearWarnings _ | .beginChanPriority .. | .setProcPriority .. | .recordFeature ..
  | .setOptions .. | .addQuery .. | .addLibrary .. | .addString .. | .assignDocument ..
  | .addProgress .. | .addGantt .. | .newIODecl .. | .setIODecl .. | .setBody .. | .addEffects ..
  | .setInitialiser .. | .copyVariables .. | .copyFunctions .. | .assignTemplate ..
  | .addDynamicEval .. | .assignLocation .. | .assignEdge .. | .extendEdge .. | .restrict ..
  | .setRegion .. | .addToCut .. | .setQuery .. => .done

end TimedNet
