import TimedNet.Expression.Term
import TimedNet.Reference

/-!
# `TimedNet.Priority` — channel priorities

A declaration `chan priority a, b < c;` ranks channels: a comma puts two on one level, a `<` starts
a higher one. Whether the terms denote channels is checked elsewhere.
-/

namespace TimedNet

/-- The separator between channels of one level. -/
def levelSeparator : String := ","

/-- The first channel of a declaration and the others, each with the separator before it. -/
structure ChanPriority where
  head : Term SymbolId
  tail : List (String × Term SymbolId) := []
deriving Repr, Inhabited

namespace ChanPriority

/-- The declaration with one more channel. -/
def add (p : ChanPriority) (separator : String) (chan : Term SymbolId) : ChanPriority :=
  { p with tail := p.tail ++ [(separator, chan)] }

/-- How a separator is written: a comma close to what is before it, any other between blanks. -/
def separatorText (separator : String) : String :=
  if separator == levelSeparator then ", " else " " ++ separator ++ " "

/-- The declaration as text. -/
def text (name : SymbolId → String) (p : ChanPriority) : String :=
  let rest := p.tail.map fun link => separatorText link.1 ++ link.2.render name
  "chan priority " ++ p.head.render name ++ String.join rest ++ ";"

end ChanPriority

end TimedNet
