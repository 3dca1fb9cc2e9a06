import TimedNet.Chart.Simregion

/-!
# `TimedNet.Chart.Derivation` — grouping the events of a chart

Events on one row that share a line belong together. Every message starts a simregion and takes a
condition and an update on its row, first those on its source line, then those on its target line.
Every condition that is left starts one and takes an update on one of its anchors; every update
that is left stands alone. What is taken is taken from a pool, so no event is used twice.

## Contents
- `ofMessages`, `ofConditions`, `ofUpdates`: the three passes, with the pools that they leave.
- `Events.grouped`: all simregions in order of creation; `Events.simregions`: in chart order.
- `onLine`: the simregions that touch a line, by row.
-/

namespace TimedNet

/-- The conditions and updates that no simregion has taken. -/
structure Pool where
  conditions : List Condition
  updates : List Update

/-- The simregion of a message and what it leaves in the pool. -/
def Pool.takeMessage (pool : Pool) (m : Message) : Simregion × Pool :=
  -- The source line has the first choice among the events on the row.
  let lines := [m.source.index, m.target.index]
  let (condition, conditions) :=
    takeOnLines (fun line c => c.isOn m.location line) pool.conditions lines
  let (update, updates) := takeOnLines (fun line u => u.isOn m.location line) pool.updates lines
  ({ message := m, condition := condition.getD .absent, update := update.getD .absent },
    { conditions, updates })

/-- The simregions of the messages, and what they leave in the pool. -/
def ofMessages : Pool → List Message → List Simregion × Pool
  | pool, [] => ([], pool)
  | pool, m :: ms =>
    let (region, pool) := pool.takeMessage m
    let (regions, pool) := ofMessages pool ms
    (region :: regions, pool)

/-- The simregions of the conditions that are left, and the updates that these leave. -/
def ofConditions : List Update → List Condition → List Simregion × List Update
  | updates, [] => ([], updates)
  | updates, c :: cs =>
    let (update, updates) :=
      takeOnLines (fun line u => u.isOn c.location line) updates
        (c.anchors.map fun anchor => anchor.index)
    let (regions, updates) := ofConditions updates cs
    ({ condition := c, update := update.getD .absent } :: regions, updates)

/-- The simregions of the updates that are left. -/
def ofUpdates (updates : List Update) : List Simregion :=
  updates.map fun u => { update := u }

/-- All simregions: those of messages, of conditions, of updates. -/
def Events.grouped (e : Events) : List Simregion :=
  let (ofMsgs, pool) := ofMessages ⟨e.conditions, e.updates⟩ e.messages
  let (ofConds, updates) := ofConditions pool.updates pool.conditions
  ofMsgs ++ ofConds ++ ofUpdates updates

/-- The list with every simregion numbered by its position. -/
def numbered (regions : List Simregion) : List Simregion :=
  regions.mapIdx fun i region => { region with nr := i }

/-- The simregions of a chart, ordered by row, by the kind of event that leads under the precedence,
    and by the number of that event. -/
def Events.simregions (e : Events) (precedence : Precedence := .standard) : List Simregion :=
  numbered (e.grouped.mergeSort (Simregion.before precedence))

/-- The members whose simregions touch a line, by row; members on one row keep their order. -/
def onLine {α : Type} (view : α → Simregion) (members : List α) (line : Int) : List α :=
  (members.filter fun a => (view a).touches line).mergeSort
    fun a b => decide ((view a).location ≤ (view b).location)

end TimedNet
