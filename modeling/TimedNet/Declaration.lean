import TimedNet.Expression.Object
import TimedNet.Frame

/-!
# `TimedNet.Declaration` — declaration blocks

A document has a global block and each template a local one. A block has a frame, which names what
it declares, and lists of the declared entities in the order of their declaration.

## Contents
- `Variable`, `Function`, `Progress`, `Gantt`, `GanttMap`, `IODecl`.
- `Block`: all of them with their frame.
-/

namespace TimedNet

/-- A variable, clock, channel or constant. -/
structure Variable where
  symbol : SymbolId
  init : Expression
deriving Repr, Inhabited

/-- A function. What it writes and reads is filled in by analysis and kept in order of arrival. -/
structure Function where
  symbol : SymbolId
  changes : List SymbolId := []
  depends : List SymbolId := []
  locals : List Variable := []
  body : Option (Term SymbolId) := none
deriving Repr, Inhabited

/-- A measure that grows while its guard holds. -/
structure Progress where
  guard : Term SymbolId
  measure : Term SymbolId
deriving Repr, Inhabited

/-- A predicate mapped to a row of a gantt chart, for all values of the parameters. -/
structure GanttMap where
  parameters : Frame
  predicate : Term SymbolId
  mapping : Term SymbolId
deriving Repr, Inhabited

/-- An entry of a gantt chart. -/
structure Gantt where
  name : String
  parameters : Frame
  mapping : List GanttMap
deriving Repr, Inhabited

/-- The signals of an instance. -/
structure IODecl where
  instanceName : String := ""
  params : List (Term SymbolId) := []
  inputs : List (Term SymbolId) := []
  outputs : List (Term SymbolId) := []
  csp : List (Term SymbolId) := []
deriving Repr, Inhabited

/-- A declaration block: its frame and what it declares. -/
structure Block where
  frame : FrameId
  vars : List Variable := []
  functions : List Function := []
  progress : List Progress := []
  gantt : List Gantt := []
  io : List IODecl := []
deriving Repr, Inhabited

end TimedNet
