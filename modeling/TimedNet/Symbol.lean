import TimedNet.Reference
import TimedNet.Source.Span

/-!
# `TimedNet.Symbol` — named identities

A symbol gives a name, a type text and a place to an entity, and points back at it. Two symbols of
one name are two symbols; a reference to a symbol is its identity.

## Contents
- `Subject`: what a symbol stands for.
- `Symbol`, `Symbol.copy`.
-/

namespace TimedNet

/-- What a symbol stands for. The parts of a template are named by their position in it. -/
inductive Subject where
  /-- Nothing yet. -/
  | nothing
  /-- A parameter, which has no entity behind it. -/
  | parameter
  /-- A type definition, which has no entity behind it. -/
  | typedef
  | var (owner : VariableRef)
  | fn (owner : FunctionRef)
  | location (template : TemplateId) (index : Nat)
  | branchpoint (template : TemplateId) (index : Nat)
  | line (template : TemplateId) (index : Nat)
  | template (ref : TemplateId)
  | inst (ref : InstanceId)
  | process (ref : InstanceId)
deriving DecidableEq, Repr, Inhabited

/-- Whether there is no entity behind the symbol. -/
def Subject.isBare : Subject → Bool
  | .nothing | .parameter | .typedef => true
  | _ => false

/-- The word for what a symbol stands for. -/
def Subject.word : Subject → String
  | .nothing => "none"
  | .parameter => "parameter"
  | .typedef => "typedef"
  | .var _ => "variable"
  | .fn _ => "function"
  | .location .. => "state"
  | .branchpoint .. => "branchpoint"
  | .line .. => "instance-line"
  | .template _ => "template"
  | .inst _ => "instance"
  | .process _ => "process"

/-- A name with its type and place. -/
structure Symbol where
  name : String
  type : String
  span : Span := {}
  subject : Subject := .nothing
deriving DecidableEq, Repr, Inhabited

/-- A symbol of the same name, type and place that stands for nothing. -/
def Symbol.copy (s : Symbol) : Symbol := { s with subject := .nothing }

end TimedNet
