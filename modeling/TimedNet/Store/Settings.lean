import TimedNet.Store.Basic

/-!
# `TimedNet.Store.Settings` — priorities, strings, queries and logs of documents

## Contents
- `beginChanPriority`, `addChanPriority`, `setProcPriority`, `procPriority`.
- `recordFeature`, `setOptions`, `addQuery`, `addLibrary`, `addString`, `internString`.
- `addError`, `addWarning`, `clearErrors`, `clearWarnings`, `copyLog`.
-/

namespace TimedNet.Store

/-! ## Priorities -/

/-- The store after it is known that a document declares priorities. -/
def markPriorities (s : Store) (document : DocumentId) : Store :=
  s.modifyDocument document fun d => { d with features := { d.features with priorities := true } }

/-- A new declaration of channel priorities, with its first channel. -/
def beginChanPriority (s : Store) (document : DocumentId) (chan : Term SymbolId) : Store :=
  (s.markPriorities document).modifyDocument document fun d =>
    { d with chanPriorities := d.chanPriorities ++ [{ head := chan }] }

/-- One more channel in the last declaration of channel priorities, which is given back. -/
def addChanPriority (s : Store) (document : DocumentId) (separator : String)
    (chan : Term SymbolId) : Attempt ChanPriority :=
  let d := s.document document
  match d.chanPriorities.getLast? with
  | none =>
    s.reject d.log chan.span (ProblemKind.missingChanPriority.on (chan.render s.name))
  | some last =>
    let extended := last.add separator chan
    (s.modifyDocument document fun d =>
      { d with chanPriorities := d.chanPriorities.dropLast ++ [extended] }, .ok extended)

/-- The priority of the process of a name. -/
def setProcPriority (s : Store) (document : DocumentId) (name : String) (priority : Int) : Store :=
  (s.markPriorities document).modifyDocument document fun d =>
    { d with procPriority := Ordered.put d.procPriority name priority }

/-- The priority declared for the process of a name, or zero. -/
def procPriority (s : Store) (document : DocumentId) (name : String) : Int :=
  (Ordered.get? (s.document document).procPriority name).getD 0

/-! ## Features, options, queries, strings and libraries -/

/-- The store after a checker found a feature in a document. -/
def recordFeature (s : Store) (document : DocumentId) (feature : Feature) : Store :=
  s.modifyDocument document fun d => { d with features := d.features.record feature }

/-- Other options for a document. -/
def setOptions (s : Store) (document : DocumentId) (options : List ModelOption) : Store :=
  s.modifyDocument document fun d => { d with options }

/-- A new query outside any document. -/
def newQuery (s : Store) (query : Query) : Store × QueryId :=
  ({ s with queries := s.queries.push query }, s.queries.next)

/-- The store with a query changed. -/
def modifyQuery (s : Store) (q : QueryId) (f : Query → Query) : Store :=
  { s with queries := s.queries.modify q f }

/-- A document with one more query, as the query is now. -/
def addQuery (s : Store) (document : DocumentId) (q : QueryId) : Store :=
  s.modifyDocument document fun d => { d with queries := d.queries ++ [s.query q] }

/-- A document with one more handle of an external library. -/
def addLibrary (s : Store) (document : DocumentId) (library : Nat) : Store :=
  s.modifyDocument document fun d => { d with libraries := d.libraries ++ [library] }

/-- A document with one more string. -/
def addString (s : Store) (document : DocumentId) (text : String) : Store :=
  s.modifyDocument document fun d => { d with strings := d.strings ++ [text] }

/-- The index of a string in the table of a document, to which it is added if it is not there. -/
def internString (s : Store) (document : DocumentId) (text : String) : Store × Nat :=
  let strings := (s.document document).strings
  match strings.idxOf? text with
  | some i => (s, i)
  | none => (s.addString document text, strings.length)

/-! ## Logs -/

/-- One more error in a log. -/
def addError (s : Store) (log : LogId) (span : Span) (message context : String) :
    Store :=
  s.modifyLog log fun l => l.addError (s.lineTable l.lineTable) span message context

/-- One more warning in a log. -/
def addWarning (s : Store) (log : LogId) (span : Span) (message context : String) :
    Store :=
  s.modifyLog log fun l => l.addWarning (s.lineTable l.lineTable) span message context

/-- The store with a log without its errors. -/
def clearErrors (s : Store) (log : LogId) : Store := s.modifyLog log Log.clearErrors

/-- The store with a log without its warnings. -/
def clearWarnings (s : Store) (log : LogId) : Store := s.modifyLog log Log.clearWarnings

/-- A copy of a log that locates what it will receive by another line table. -/
def copyLog (s : Store) (log : LogId) (lineTable : LineTableId) : Store × LogId :=
  s.newLog { s.log log with lineTable }

/-! ## Arenas outside templates -/

/-- A new arena. -/
def newArena (s : Store) (label : String) (items : List Constant) : Store × ArenaId :=
  ({ s with
      arenas := s.arenas.push { id := s.nextArena, label, items }
      nextArena := s.nextArena + 1 }, s.arenas.next)

/-- One more entry in an arena, with its handle. -/
def pushToArena (s : Store) (a : ArenaId) (item : Constant) : Store × Handle :=
  ({ s with arenas := s.arenas.modify a fun arena => arena.push item },
    (s.arena a).handleAt (s.arena a).size)

end TimedNet.Store
