import TimedNet.Chart.Event

/-!
# `TimedNet.Chart.Simregion` — events that occur together

A simregion groups at most one message, one condition and one update.

## Contents
- `Simregion`, `Simregion.has`, `Simregion.location`, `Simregion.isInPrechart`,
  `Simregion.touches`, `Simregion.equal`, `Simregion.text`.
- `Simregion.setMessage`, `Simregion.setCondition`, `Simregion.setUpdate`.
- `Simregion.before`: the order of simregions in a chart.
- `prechartBoundary`: where a list of simregions leaves the prechart.
-/

namespace TimedNet

/-- A slot for each kind of event. -/
structure Simregion where
  nr : Int := 0
  message : Message := .absent
  condition : Condition := .absent
  update : Update := .absent
deriving Repr

namespace Simregion

instance : Inhabited Simregion := ⟨{}⟩

/-- The number of the event in a slot. -/
def eventNr (s : Simregion) : EventKind → Int
  | .message => s.message.nr
  | .condition => s.condition.nr
  | .update => s.update.nr

/-- Whether there is an event of a kind. -/
def has (s : Simregion) (k : EventKind) : Bool := s.eventNr k != absentNr

/-- The slot filled with the message of that number, or emptied when there is none. -/
def setMessage (s : Simregion) (messages : List Message) (nr : Int) : Simregion :=
  { s with message := (messages.find? fun m => m.nr == nr).getD .absent }

/-- The slot filled with the condition of that number, or emptied when there is none. -/
def setCondition (s : Simregion) (conditions : List Condition) (nr : Int) : Simregion :=
  { s with condition := (conditions.find? fun c => c.nr == nr).getD .absent }

/-- The slot filled with the update of that number, or emptied when there is none. -/
def setUpdate (s : Simregion) (updates : List Update) (nr : Int) : Simregion :=
  { s with update := (updates.find? fun u => u.nr == nr).getD .absent }

/-- The rows of the events that are there. -/
def rows (s : Simregion) : List Int :=
  (if s.has .message then [s.message.location] else [])
    ++ (if s.has .condition then [s.condition.location] else [])
    ++ (if s.has .update then [s.update.location] else [])

/-- The greatest row of an event and -1, which is also the row of a simregion without events. -/
def location (s : Simregion) : Int := s.rows.foldl max (-1)

/-- For each event that is there, whether it is in the prechart. -/
def prechartFlags (s : Simregion) : List Bool :=
  (if s.has .message then [s.message.prechart] else [])
    ++ (if s.has .condition then [s.condition.prechart] else [])
    ++ (if s.has .update then [s.update.prechart] else [])

/-- Whether there is an event and all of them are in the prechart. -/
def isInPrechart (s : Simregion) : Bool := !s.prechartFlags.isEmpty && s.prechartFlags.all id

/-- Whether an event that is there is anchored at the line numbered `line`. -/
def touches (s : Simregion) (line : Int) : Bool :=
  s.has .message && (s.message.source.index == line || s.message.target.index == line)
    || s.has .condition && s.condition.anchors.any (fun anchor => anchor.index == line)
    || s.has .update && s.update.anchor.index == line

/-- Whether message, condition and update have the same numbers. -/
def equal (s t : Simregion) : Bool :=
  s.message.nr == t.message.nr && s.condition.nr == t.condition.nr && s.update.nr == t.update.nr

/-- The events that are there, by their numbers. -/
def text (s : Simregion) : String :=
  let parts :=
    (if s.has .message then [s!"m:{s.message.nr}"] else [])
      ++ (if s.has .condition then [s!"c:{s.condition.nr}"] else [])
      ++ (if s.has .update then [s!"u:{s.update.nr}"] else [])
  "s(" ++ String.intercalate " " parts ++ ")"

/-- The rank of a simregion: the position of the first kind of event that it has. -/
def rank (s : Simregion) (precedence : Precedence) : Nat := precedence.findIdx s.has

/-- The number of the event that gives a simregion its rank. -/
def leadingNr (s : Simregion) (precedence : Precedence) : Int :=
  match precedence.find? s.has with
  | some k => s.eventNr k
  | none => -1

/-- The order of simregions: by row, then by rank, then by the number of the leading event. -/
def before (precedence : Precedence) (s t : Simregion) : Bool :=
  if s.location ≠ t.location then decide (s.location < t.location)
  else if s.rank precedence ≠ t.rank precedence then
    decide (s.rank precedence < t.rank precedence)
  else decide (s.leadingNr precedence ≤ t.leadingNr precedence)

end Simregion

/-- How many of the simregions come before the first that is not in the prechart. -/
def prechartBoundary (simregions : List Simregion) : Nat :=
  simregions.findIdx fun s => !s.isInPrechart

end TimedNet
