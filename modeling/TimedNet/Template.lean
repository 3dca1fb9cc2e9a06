import TimedNet.Automaton
import TimedNet.Chart.Derivation

/-!
# `TimedNet.Template` — parameterised automata and scenario charts

A template is an instance of itself with nothing bound, a block of local declarations, and a body:
locations, branchpoints and edges of an automaton, lines and events of a chart.

## Contents
- `InstanceLine`, `Style`, `Template`.
- `Template.isInvariant`, `Template.events`: what a chart says, and when.
-/

namespace TimedNet

/-- A line of a chart. Its instance refers to the chart itself until it is bound to another one. -/
structure InstanceLine where
  nr : Nat
  inst : InstanceId
  owner : TemplateId
deriving DecidableEq, Repr, Inhabited

/-- What kind of template it is: an automaton or a chart, with its type and mode. -/
structure Style where
  isTA : Bool := true
  type : String := ""
  mode : String := ""
deriving DecidableEq, Repr, Inhabited

/-- An automaton or a chart. -/
structure Template where
  /-- The template as an instance with nothing bound; it has the symbol and the parameters. -/
  inst : InstanceId
  block : BlockId
  /-- Where problems of the body are logged. -/
  log : LogId
  initial : Option SymbolId := none
  templateSet : FrameId
  locations : Arena Location
  branchpoints : Arena Branchpoint
  edges : List Edge := []
  dynamicEvals : List (Term SymbolId) := []
  lines : Arena InstanceLine
  messages : List Message := []
  conditions : List Condition := []
  updates : List Update := []
  style : Style := {}
  hasPrechart : Bool := false
  dynamic : Bool := false
  dynindex : Int := -1
  isDefined : Bool := true
deriving Repr, Inhabited

namespace Template

/-- The label of an arena of locations. -/
def locationLabel : String := "location"

/-- The label of an arena of branchpoints. -/
def branchpointLabel : String := "branchpoint"

/-- The label of an arena of lines. -/
def lineLabel : String := "instance line"

/-- Whether the chart says what always holds rather than what can happen. -/
def isInvariant (t : Template) : Bool := t.style.mode == "invariant"

/-- The events of the chart. -/
def events (t : Template) : Events := ⟨t.messages, t.conditions, t.updates⟩

end Template

end TimedNet
