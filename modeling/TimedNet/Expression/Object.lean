import TimedNet.Expression.Term
import TimedNet.Reference

/-!
# `TimedNet.Expression.Object` — terms with an identity

Two expressions can have equal terms and still be different objects; one object can stand at several
places of a model. The empty expression is one object, and a constant stays the object it is when
symbols are renamed, while every other term that is renamed becomes a new one.

## Contents
- `LocationField`, `EdgeField`: the expressions of a location and of an edge, with their names.
- `Slot`: the places of a document that hold an expression which can be read back.
- `ExpressionId`, `Expression`.
- `Expression.renamed`: the expression with its symbols passed through a function.
-/

namespace TimedNet

/-- The expressions of a location. -/
inductive LocationField where
  | name | invariant | exponentialRate | costRate
deriving DecidableEq, Repr

/-- The field of a name. -/
def LocationField.ofName? : String → Option LocationField
  | "name" => some .name
  | "invariant" => some .invariant
  | "exponentialRate" => some .exponentialRate
  | "costRate" => some .costRate
  | _ => none

/-- The expressions of an edge. -/
inductive EdgeField where
  | guard | assign | sync | prob
deriving DecidableEq, Repr

/-- The field of a name. -/
def EdgeField.ofName? : String → Option EdgeField
  | "guard" => some .guard
  | "assign" => some .assign
  | "sync" => some .sync
  | "prob" => some .prob
  | _ => none

/-- A place that holds an expression. -/
inductive Slot where
  | initialiser (owner : VariableRef)
  | location (template : TemplateId) (index : Nat) (field : LocationField)
  | edge (template : TemplateId) (index : Nat) (field : EdgeField)
  | message (template : TemplateId) (index : Nat)
  | condition (template : TemplateId) (index : Nat)
  | update (template : TemplateId) (index : Nat)
  | beforeUpdate (document : DocumentId)
  | afterUpdate (document : DocumentId)
deriving DecidableEq, Repr

/-- Which object an expression is. -/
inductive ExpressionId where
  /-- The empty expression. -/
  | empty
  /-- The object built under a number. -/
  | built (mark : Nat)
  /-- The object made for a place when the entity that has the place was made. -/
  | madeFor (slot : Slot)
deriving DecidableEq, Repr, Inhabited

/-- A term and the object that it is the value of. -/
structure Expression where
  id : ExpressionId
  term : Term SymbolId
deriving Repr

namespace Expression

/-- The empty expression. -/
def empty : Expression := ⟨.empty, .empty⟩

instance : Inhabited Expression := ⟨.empty⟩

/-- Two expressions are the same when they are one object. -/
instance : BEq Expression := ⟨fun a b => a.id == b.id⟩

/-- A term as the object built under a number; the empty term is always the same object. -/
def built (mark : Nat) : Term SymbolId → Expression
  | .empty => .empty
  | term => ⟨.built mark, term⟩

/-- The expression with its symbols passed through `f`: an identifier or a compound term becomes the
    object `id`, while nothing and a constant stay what they are. -/
def renamed (e : Expression) (f : SymbolId → SymbolId) (id : ExpressionId) : Expression :=
  match e.term with
  | .empty | .constant .. => e
  | .identifier .. | .compound .. => ⟨id, e.term.map f⟩

@[simp] theorem term_renamed (e : Expression) (f : SymbolId → SymbolId) (id : ExpressionId) :
    (e.renamed f id).term = e.term.map f := by
  cases e with
  | mk _ term => cases term <;> rfl

end Expression

end TimedNet
