import TimedNet.Chart.Cut
import TimedNet.Declaration
import TimedNet.Document
import TimedNet.Instance
import TimedNet.Source.Log
import TimedNet.Symbol
import TimedNet.Table
import TimedNet.Template

/-!
# `TimedNet.Store.Basic` — everything that exists

A store holds all entities, those of every document and those that belong to none. An operation of
this library is a function from a store to a store; what it does not mention is as before.

## Contents
- `Store` and the access to its entities.
- `Attempt`: an operation that can fail; `Store.reject`, `Store.logged`: failing with a log entry.
- `Store.newLineTable`, `Store.newLog`, `Store.newBlock`, `Store.newDocument`.
- `Store.openLog`, `Store.openDocument`: new ones over what is given of their parts.
-/

namespace TimedNet

/-- All entities by kind, and the number that the next arena will have. -/
structure Store where
  symbols : Table .symbol Symbol := {}
  frames : Table .frame Frame := {}
  blocks : Table .block Block := {}
  insts : Table .inst Instance := {}
  templates : Table .template Template := {}
  documents : Table .document Document := {}
  logs : Table .log Log := {}
  lineTables : Table .lineTable LineTable := {}
  regions : Table .region Simregion := {}
  cuts : Table .cut (Cut RegionId) := {}
  queries : Table .query Query := {}
  arenas : Table .arena (Arena Constant) := {}
  nextArena : Nat := 1
deriving Inhabited

/-- The outcome of an operation that can fail: the store afterwards and what was made. -/
abbrev Attempt (α : Type) := Store × Except Problem α

namespace Store

/-! ## Access -/

/-- A symbol. -/
def symbol (s : Store) (r : SymbolId) : Symbol := s.symbols.get r
/-- A frame. -/
def frame (s : Store) (r : FrameId) : Frame := s.frames.get r
/-- A declaration block. -/
def block (s : Store) (r : BlockId) : Block := s.blocks.get r
/-- An instance. -/
def inst (s : Store) (r : InstanceId) : Instance := s.insts.get r
/-- A template. -/
def template (s : Store) (r : TemplateId) : Template := s.templates.get r
/-- A document. -/
def document (s : Store) (r : DocumentId) : Document := s.documents.get r
/-- A log. -/
def log (s : Store) (r : LogId) : Log := s.logs.get r
/-- A line table. -/
def lineTable (s : Store) (r : LineTableId) : LineTable := s.lineTables.get r
/-- A simregion. -/
def region (s : Store) (r : RegionId) : Simregion := s.regions.get r
/-- A cut. -/
def cut (s : Store) (r : CutId) : Cut RegionId := s.cuts.get r
/-- A query. -/
def query (s : Store) (r : QueryId) : Query := s.queries.get r
/-- An arena outside any template. -/
def arena (s : Store) (r : ArenaId) : Arena Constant := s.arenas.get r

/-- The name of a symbol. -/
def name (s : Store) (r : SymbolId) : String := (s.symbol r).name

/-- A function. -/
def functionAt (s : Store) (f : FunctionRef) : Function :=
  (s.block f.block).functions.getD f.index default

/-- A variable. -/
def variableAt (s : Store) : VariableRef → Variable
  | .ofBlock block index => (s.block block).vars.getD index default
  | .ofFunction function index => (s.functionAt function).locals.getD index default

/-- A location of a template. -/
def locationAt (s : Store) (t : TemplateId) (index : Nat) : Location :=
  (s.template t).locations.items.getD index default

/-- A branchpoint of a template. -/
def branchpointAt (s : Store) (t : TemplateId) (index : Nat) : Branchpoint :=
  (s.template t).branchpoints.items.getD index default

/-- A line of a template. -/
def lineAt (s : Store) (t : TemplateId) (index : Nat) : InstanceLine :=
  (s.template t).lines.items.getD index default

/-- The symbol of a template. -/
def templateSymbol (s : Store) (t : TemplateId) : SymbolId := (s.inst (s.template t).inst).symbol

/-- The name of a template. -/
def templateName (s : Store) (t : TemplateId) : String := s.name (s.templateSymbol t)

/-- The symbol that an entity has itself, which need not be the one that led to it: a copied symbol
    may still point at the entity of the symbol it was copied from. -/
def ownSymbol? (s : Store) : Subject → Option SymbolId
  | .nothing | .parameter | .typedef => none
  | .var owner => some (s.variableAt owner).symbol
  | .fn owner => some (s.functionAt owner).symbol
  | .location t index => some (s.locationAt t index).symbol
  | .branchpoint t index => some (s.branchpointAt t index).symbol
  | .line t index => some (s.inst (s.lineAt t index).inst).symbol
  | .template t => some (s.templateSymbol t)
  | .inst i | .process i => some (s.inst i).symbol

/-! ## Changes to one entity -/

/-- The store with a frame changed. -/
def modifyFrame (s : Store) (r : FrameId) (f : Frame → Frame) : Store :=
  { s with frames := s.frames.modify r f }

/-- The store with a block changed. -/
def modifyBlock (s : Store) (r : BlockId) (f : Block → Block) : Store :=
  { s with blocks := s.blocks.modify r f }

/-- The store with an instance changed. -/
def modifyInst (s : Store) (r : InstanceId) (f : Instance → Instance) : Store :=
  { s with insts := s.insts.modify r f }

/-- The store with a template changed. -/
def modifyTemplate (s : Store) (r : TemplateId) (f : Template → Template) : Store :=
  { s with templates := s.templates.modify r f }

/-- The store with a document changed. -/
def modifyDocument (s : Store) (r : DocumentId) (f : Document → Document) : Store :=
  { s with documents := s.documents.modify r f }

/-- The store with a log changed. -/
def modifyLog (s : Store) (r : LogId) (f : Log → Log) : Store :=
  { s with logs := s.logs.modify r f }

/-! ## Logging -/

/-- The store after a problem was logged at the lines known to the log. -/
def report (s : Store) (log : LogId) (span : Span) (p : Problem) (context : String) : Store :=
  s.modifyLog log fun l => l.report (s.lineTable l.lineTable) span p context

/-- A failure that is logged and changes nothing else. -/
def reject {α : Type} (s : Store) (log : LogId) (span : Span) (p : Problem) : Attempt α :=
  (s.report log span p "", .error p)

/-- An outcome whose failure, if it is one, is logged. -/
def logged {α : Type} (log : LogId) (span : Span) : Attempt α → Attempt α
  | (s, .ok a) => (s, .ok a)
  | (s, .error p) => s.reject log span p

/-! ## New entities -/

/-- A new symbol. -/
def newSymbol (s : Store) (symbol : Symbol) : Store × SymbolId :=
  ({ s with symbols := s.symbols.push symbol }, s.symbols.next)

/-- A new frame. -/
def newFrame (s : Store) (frame : Frame) : Store × FrameId :=
  ({ s with frames := s.frames.push frame }, s.frames.next)

/-- A new line table. -/
def newLineTable (s : Store) (lines : LineTable := {}) : Store × LineTableId :=
  ({ s with lineTables := s.lineTables.push lines }, s.lineTables.next)

/-- The store with one more line in a table. -/
def addLine (s : Store) (r : LineTableId) (e : LineInfo) : Store :=
  { s with lineTables := s.lineTables.modify r fun t => t.insert e }

/-- A new log. -/
def newLog (s : Store) (log : Log) : Store × LogId :=
  ({ s with logs := s.logs.push log }, s.logs.next)

/-- A new, empty declaration block inside a frame. -/
def newBlock (s : Store) (parent : Option FrameId) (parameters : List SymbolId := []) :
    Store × BlockId :=
  let (s, frame) := s.newFrame { parent, symbols := parameters }
  ({ s with blocks := s.blocks.push { frame } }, s.blocks.next)

/-- A new, empty document over a line table and a log. -/
def newDocument (s : Store) (lineTable : LineTableId) (log : LogId) : Store × DocumentId :=
  let (s, globals) := s.newBlock none
  ({ s with documents := s.documents.push { lineTable, log, globals } }, s.documents.next)

/-- The given line table, or else a new one. -/
def lineTableOrNew (s : Store) : Option LineTableId → Store × LineTableId
  | some lineTable => (s, lineTable)
  | none => s.newLineTable

/-- A new log over the given line table, or else over a new one. -/
def openLog (s : Store) (lineTable : Option LineTableId) : Store × LogId :=
  let (s, lineTable) := s.lineTableOrNew lineTable
  s.newLog { lineTable }

/-- A new, empty document over the given line table and log, each of which is new if it is not
    given. -/
def openDocument (s : Store) (lineTable : Option LineTableId) (log : Option LogId) :
    Store × DocumentId :=
  let (s, lineTable) := s.lineTableOrNew lineTable
  match log with
  | some log => s.newDocument lineTable log
  | none =>
    let (s, log) := s.newLog { lineTable }
    s.newDocument lineTable log

end Store

end TimedNet
