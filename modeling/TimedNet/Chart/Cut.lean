import TimedNet.Chart.Simregion

/-!
# `TimedNet.Chart.Cut` — how far a run of a chart has come

A cut is a set of simregions, in order of insertion. Its members are whatever leads to a simregion
through a `view`; two members are equal when their simregions are.

## Contents
- `Cut`, `Cut.contains`, `Cut.add`, `Cut.erase`, `Cut.equal`, `Cut.isInPrechart`, `Cut.text`.
-/

namespace TimedNet

/-- A numbered set of simregions. -/
structure Cut (α : Type) where
  nr : Int := 0
  members : List α := []
deriving DecidableEq, Repr, Inhabited

namespace Cut

variable {α : Type} (view : α → Simregion)

/-- How many members there are. -/
def size (c : Cut α) : Nat := c.members.length

/-- Whether a simregion equal to that of `a` is in the cut. -/
def contains (c : Cut α) (a : α) : Bool := c.members.any fun b => (view b).equal (view a)

/-- The cut with `a`, unless an equal simregion is in it. -/
def add (c : Cut α) (a : α) : Cut α :=
  if c.contains view a then c else { c with members := c.members ++ [a] }

/-- The cut without the simregion that equals that of `a`. -/
def erase (c : Cut α) (a : α) : Cut α :=
  { c with members := c.members.eraseP fun b => (view b).equal (view a) }

/-- Whether both cuts have the same simregions, in whatever order. -/
def equal (c d : Cut α) : Bool := c.size == d.size && c.members.all (d.contains view)

/-- Whether all simregions of the cut are in the prechart. With a simregion that follows the cut,
    that one has to be in the prechart too: otherwise the cut is where the prechart ends. -/
def isInPrechart (c : Cut α) (following : Option α := none) : Bool :=
  following.all (fun a => (view a).isInPrechart) && c.members.all fun a => (view a).isInPrechart

/-- The same members under another number. -/
def copy (c : Cut α) (nr : Int) : Cut α := { c with nr }

/-- The simregions of the cut as text. -/
def text (c : Cut α) : String :=
  "CUT(" ++ String.intercalate " " (c.members.map fun a => (view a).text) ++ ")"

end Cut

end TimedNet
