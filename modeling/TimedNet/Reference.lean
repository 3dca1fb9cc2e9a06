/-!
# `TimedNet.Reference` — typed references to stored entities

A model is a graph: symbols point at what they name, instances at the template they bind, frames
at the frame around them. Entities are therefore kept in tables and mentioned by reference, and
two references are the same exactly when they lead to the same entity.

## Contents
- `Kind` and `Ref`: a reference is a position in the table of its kind, so that a reference to a
  frame cannot be used where one to a template is meant.
- `FunctionRef`, `VariableRef`: entities that live inside a declaration block are named by the
  block and their position in it.
-/

namespace TimedNet

/-- The kinds of entity that have a table of their own. -/
inductive Kind where
  | symbol | frame | block | inst | template | document
  | log | lineTable | region | cut | query | arena
deriving DecidableEq, Repr

/-- A reference to the entity at a position of the table of kind `k`. -/
structure Ref (k : Kind) where
  index : Nat
deriving DecidableEq, Repr, Inhabited

/-- Lists of references are searched for the very reference. -/
instance {k : Kind} : LawfulBEq (Ref k) := inferInstance

/-- A symbol: the identity behind a name. -/
abbrev SymbolId := Ref .symbol
/-- A scope. -/
abbrev FrameId := Ref .frame
/-- A declaration block. -/
abbrev BlockId := Ref .block
/-- An instance, whether a template's own, a named one, a process or that of a chart's line. -/
abbrev InstanceId := Ref .inst
/-- A template: an automaton or a scenario chart. -/
abbrev TemplateId := Ref .template
/-- A document. -/
abbrev DocumentId := Ref .document
/-- A log of problems. -/
abbrev LogId := Ref .log
/-- A table of line starts. -/
abbrev LineTableId := Ref .lineTable
/-- A simregion. -/
abbrev RegionId := Ref .region
/-- A cut. -/
abbrev CutId := Ref .cut
/-- A query outside any document. -/
abbrev QueryId := Ref .query
/-- An arena outside any template. -/
abbrev ArenaId := Ref .arena

/-- A function, by its block and its position among the functions of that block. -/
structure FunctionRef where
  block : BlockId
  index : Nat
deriving DecidableEq, Repr, Inhabited

/-- A variable, by the block or the function that declares it and its position there. -/
inductive VariableRef where
  | ofBlock (block : BlockId) (index : Nat)
  | ofFunction (function : FunctionRef) (index : Nat)
deriving DecidableEq, Repr, Inhabited

end TimedNet
