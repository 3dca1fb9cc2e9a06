import TimedNet.Number.Text
import TimedNet.Text.Quoted

/-!
# `TimedNet.Expression.Constant` — the constants of expressions

## Contents
- `Constant`, `Constant.equal`, `Constant.plain`, `Constant.render`.
- `Constant.canonical`, `equal_iff`: one constant for all of equal value; a NaN equals nothing.
-/

namespace TimedNet

/-- A number, a truth value or a text. -/
inductive Constant where
  | number (value : Binary64)
  | boolean (value : Bool)
  | text (value : String)
deriving DecidableEq, Repr, Inhabited

namespace Constant

/-- Equality of values: numbers by numeric equality, constants of different types never. -/
def equal : Constant → Constant → Bool
  | .number x, .number y => x.equal y
  | .boolean x, .boolean y => x == y
  | .text x, .text y => x == y
  | _, _ => false

/-- The plain text of a constant. -/
def plain : Constant → String
  | .number x => x.text
  | .boolean true => "true"
  | .boolean false => "false"
  | .text s => s

/-- A constant as an expression shows it: a text between quotes, all else plain. -/
def render : Constant → String
  | .text s => Text.quote s
  | c => c.plain

/-- The name of a constant's type. -/
def typeName : Constant → String
  | .number _ => "number"
  | .boolean _ => "boolean"
  | .text _ => "string"

/-! ## Equality of values -/

/-- Whether a constant is a number that is none. -/
def isNaN : Constant → Bool
  | .number x => x.isNaN
  | _ => false

/-- The constant that stands for all constants of equal value. -/
def canonical : Constant → Constant
  | .number x => .number x.canonical
  | c => c

theorem isNaN_canonical (c : Constant) : c.canonical.isNaN = c.isNaN := by
  cases c with
  | number x => exact x.isNaN_canonical
  | boolean b => rfl
  | text s => rfl

theorem render_canonical (c : Constant) : c.canonical.render = c.render := by
  cases c with
  | number x => exact x.text_canonical
  | boolean b => rfl
  | text s => rfl

/-- Two constants have equal values when the first is no NaN and they have one canonical form. -/
theorem equal_iff {a b : Constant} :
    a.equal b = true ↔ a.isNaN = false ∧ a.canonical = b.canonical := by
  cases a <;> cases b <;> simp [equal, isNaN, canonical, Binary64.equal_iff]

end Constant

end TimedNet
