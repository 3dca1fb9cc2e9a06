import TimedNet.Arena
import TimedNet.Expression.Object
import TimedNet.Frame

/-!
# `TimedNet.Automaton` — locations, branchpoints and edges

The body of a timed automaton: locations with their rates and invariants, branchpoints, in which no
time passes, and edges between them.
-/

namespace TimedNet

/-- A location. -/
structure Location where
  symbol : SymbolId
  name : Expression
  invariant : Expression
  exponentialRate : Expression
  costRate : Expression
  /-- Its number within the template. -/
  nr : Nat
deriving Repr, Inhabited

/-- A node that is left as soon as it is entered. -/
structure Branchpoint where
  symbol : SymbolId
  nr : Nat
deriving DecidableEq, Repr, Inhabited

/-- Where an edge starts or ends. -/
inductive Endpoint where
  | location (handle : Handle)
  | branchpoint (handle : Handle)
deriving DecidableEq, Repr, Inhabited

/-- An edge. -/
structure Edge where
  /-- Its place in the input. -/
  nr : Nat
  control : Bool
  actname : String
  source : Endpoint
  target : Endpoint
  select : Frame := {}
  guard : Expression := .empty
  assign : Expression := .empty
  sync : Expression := .empty
  prob : Expression := .empty
  selectValues : List Int := []
deriving Repr, Inhabited

/-- The expression of a location in a field. -/
def Location.expression (l : Location) : LocationField → Expression
  | .name => l.name
  | .invariant => l.invariant
  | .exponentialRate => l.exponentialRate
  | .costRate => l.costRate

/-- The expression of an edge in a field. -/
def Edge.expression (e : Edge) : EdgeField → Expression
  | .guard => e.guard
  | .assign => e.assign
  | .sync => e.sync
  | .prob => e.prob

end TimedNet
