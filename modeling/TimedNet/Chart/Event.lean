import TimedNet.Arena
import TimedNet.Expression.Object

/-!
# `TimedNet.Chart.Event` — messages, conditions and updates

The events of a scenario chart are anchored at its instance lines and stand on a row, their
location.

## Contents
- `Message`, `Condition`, `Update`, each with the event `absent`, which stands for none.
- `Events`: the three lists of a chart; `EventKind`, `Precedence`.
- `takeOnLines`: the first member of a pool on the first line that has one, and the pool without it.
- `findCondition`, `findUpdate`, `findUpdateOnAny`: look-up by line and row.
-/

namespace TimedNet

/-- The number of an event that stands for none. -/
def absentNr : Int := -1

/-- The handle that no arena owns, where the events that stand for none are anchored. -/
def Handle.noLine : Handle := ⟨0, -1⟩

/-- A message from one line to another. -/
structure Message where
  nr : Int
  /-- The row. Rows are whole numbers; fractions, infinities and what is no number are left out. -/
  location : Int
  source : Handle
  target : Handle
  label : Expression := .empty
  prechart : Bool := false
deriving Repr

/-- A condition over several lines. -/
structure Condition where
  nr : Int
  /-- The row, a whole number as that of a message. -/
  location : Int
  anchors : List Handle
  label : Expression := .empty
  prechart : Bool := false
  hot : Bool := false
deriving Repr

/-- An update on a line. -/
structure Update where
  nr : Int
  /-- The row, a whole number as that of a message. -/
  location : Int
  anchor : Handle
  label : Expression := .empty
  prechart : Bool := false
deriving Repr

/-- No message. -/
def Message.absent : Message :=
  { nr := absentNr, location := -1, source := .noLine, target := .noLine }

/-- No condition. -/
def Condition.absent : Condition := { nr := absentNr, location := -1, anchors := [] }

/-- No update. -/
def Update.absent : Update := { nr := absentNr, location := -1, anchor := .noLine }

instance : Inhabited Message := ⟨.absent⟩
instance : Inhabited Condition := ⟨.absent⟩
instance : Inhabited Update := ⟨.absent⟩

/-- The kinds of event. -/
inductive EventKind where
  | message | condition | update
deriving DecidableEq, Repr

/-- The word for a kind of event. -/
def EventKind.word : EventKind → String
  | .message => "message"
  | .condition => "condition"
  | .update => "update"

/-- All kinds of event. -/
def EventKind.all : List EventKind := [.message, .condition, .update]

/-- Which kind of event leads among simregions on one row: the first of these that a simregion
    contains. -/
abbrev Precedence := List EventKind

/-- Conditions lead, then messages, then updates. -/
def Precedence.standard : Precedence := [.condition, .message, .update]

/-- The events of a chart. -/
structure Events where
  messages : List Message := []
  conditions : List Condition := []
  updates : List Update := []
deriving Repr

/-! ## Look-up -/

/-- Whether the condition stands on row `y` and is anchored at the line numbered `line`. -/
def Condition.isOn (c : Condition) (y line : Int) : Bool :=
  c.location == y && c.anchors.any fun anchor => anchor.index == line

/-- Whether the update stands on row `y` and is anchored at the line numbered `line`. -/
def Update.isOn (u : Update) (y line : Int) : Bool := u.location == y && u.anchor.index == line

/-- The first condition on a row and a line. -/
def findCondition (conditions : List Condition) (y line : Int) : Option Condition :=
  conditions.find? fun c => c.isOn y line

/-- The first update on a row and a line. -/
def findUpdate (updates : List Update) (y line : Int) : Option Update :=
  updates.find? fun u => u.isOn y line

/-- The first update on a row and the first of the lines that has one. -/
def findUpdateOnAny (updates : List Update) (y : Int) (lines : List Int) : Option Update :=
  lines.findSome? fun line => findUpdate updates y line

/-- The first member of the pool that `on` accepts for the first line for which it accepts any,
    and the pool without it. -/
def takeOnLines {α : Type} (on : Int → α → Bool) (pool : List α) : List Int → Option α × List α
  | [] => (none, pool)
  | line :: lines =>
    match pool.find? (on line) with
    | some a => (some a, pool.eraseP (on line))
    | none => takeOnLines on pool lines

end TimedNet
