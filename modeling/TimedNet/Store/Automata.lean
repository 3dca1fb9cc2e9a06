import TimedNet.Store.Templates

/-!
# `TimedNet.Store.Automata` — building the body of an automaton

## Contents
- `addLocation`, `addBranchpoint`: nodes, each with a symbol in the local frame.
- `endpoint?`: the node of a template that a symbol stands for.
- `setInitial`, `addEdge`: refused for a symbol that stands for no node of this template.
- `endpointSymbol`: from an endpoint back to the symbol.
- `modifyLocation`, `modifyEdge`: changes to one of them.
-/

namespace TimedNet.Store

/-- A location. -/
def addLocation (s : Store) (t : TemplateId) (name : String) (invariant rate : Expression)
    (span : Span) : Attempt Nat :=
  let index := (s.template t).locations.size
  match s.declare (s.localFrame t)
      { name, type := "location", span, subject := .location t index } with
  | (s, .error p) => s.reject (s.template t).log span p
  | (s, .ok symbol) =>
    let location : Location :=
      { symbol
        name := ⟨.madeFor (.location t index .name), .identifier symbol span⟩
        invariant
        exponentialRate := rate
        costRate := .empty
        nr := index }
    (s.modifyTemplate t fun t => { t with locations := t.locations.push location }, .ok index)

/-- A branchpoint. -/
def addBranchpoint (s : Store) (t : TemplateId) (name : String) (span : Span) : Attempt Nat :=
  let index := (s.template t).branchpoints.size
  match s.declare (s.localFrame t)
      { name, type := "branchpoint", span, subject := .branchpoint t index } with
  | (s, .error p) => s.reject (s.template t).log span p
  | (s, .ok symbol) =>
    (s.modifyTemplate t fun t =>
      { t with branchpoints := t.branchpoints.push { symbol, nr := index } }, .ok index)

/-- The location or branchpoint of the template that a symbol stands for. -/
def endpoint? (s : Store) (t : TemplateId) (symbol : SymbolId) : Option Endpoint :=
  match (s.symbol symbol).subject with
  | .location owner index =>
    let arena := (s.template t).locations
    if owner = t ∧ index < arena.size then some (.location (arena.handleAt index)) else none
  | .branchpoint owner index =>
    let arena := (s.template t).branchpoints
    if owner = t ∧ index < arena.size then some (.branchpoint (arena.handleAt index)) else none
  | _ => none

/-- The failure for a symbol that is no location or branchpoint of the template, logged at the place
    of the symbol. -/
def notALocation {α : Type} (s : Store) (t : TemplateId) (symbol : SymbolId) : Attempt α :=
  s.reject (s.template t).log (s.symbol symbol).span
    (ProblemKind.notALocation.on (s.name symbol))

/-- Marks a location of the template as the initial one. -/
def setInitial (s : Store) (t : TemplateId) (symbol : SymbolId) : Attempt Nat :=
  match s.endpoint? t symbol with
  | some (.location handle) =>
    (s.modifyTemplate t fun t => { t with initial := some symbol }, .ok handle.index.toNat)
  | _ => s.notALocation t symbol

/-- An edge between two nodes of the template. Its expressions are empty and are set later. -/
def addEdge (s : Store) (t : TemplateId) (source target : SymbolId) (control : Bool)
    (actname : String) : Attempt Nat :=
  match s.endpoint? t source with
  | none => s.notALocation t source
  | some start =>
    match s.endpoint? t target with
    | none => s.notALocation t target
    | some stop =>
      let nr := (s.template t).edges.length
      let edge : Edge := { nr, control, actname, source := start, target := stop }
      (s.modifyTemplate t fun t => { t with edges := t.edges ++ [edge] }, .ok nr)

/-- The symbol of the node that an endpoint leads to in the template. -/
def endpointSymbol (s : Store) (t : TemplateId) : Endpoint → Except Arena.Fault SymbolId
  | .location handle => ((s.template t).locations.get handle).map fun l => l.symbol
  | .branchpoint handle => ((s.template t).branchpoints.get handle).map fun b => b.symbol

/-- The store with a location changed. -/
def modifyLocation (s : Store) (t : TemplateId) (index : Nat) (f : Location → Location) : Store :=
  s.modifyTemplate t fun t =>
    { t with locations := { t.locations with items := t.locations.items.modify index f } }

/-- The store with an edge changed. -/
def modifyEdge (s : Store) (t : TemplateId) (index : Nat) (f : Edge → Edge) : Store :=
  s.modifyTemplate t fun t => { t with edges := t.edges.modify index f }

end TimedNet.Store
