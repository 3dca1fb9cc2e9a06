import TimedNet.Expression.Object
import TimedNet.Priority
import TimedNet.Query

/-!
# `TimedNet.Document` — the root of a network

A document lists its templates, instances and processes, its priorities, queries and options. The
entities themselves are in a store, and so are the line table and the log, which other documents
may share.
-/

namespace TimedNet

/-- A network of timed automata and scenario charts. -/
structure Document where
  lineTable : LineTableId
  log : LogId
  globals : BlockId
  templates : List TemplateId := []
  dynamicTemplates : List TemplateId := []
  /-- The dynamic templates under their names. -/
  dynamicByName : List (String × TemplateId) := []
  instances : List InstanceId := []
  lscInstances : List InstanceId := []
  processes : List InstanceId := []
  chanPriorities : List ChanPriority := []
  procPriority : List (String × Int) := []
  queries : List Query := []
  options : List ModelOption := []
  methods : Methods := {}
  beforeUpdate : Expression := .empty
  afterUpdate : Expression := .empty
  features : Features := {}
  syncUsed : Int := 0
  strings : List String := []
  /-- Handles of external libraries, whose meaning is known elsewhere. -/
  libraries : List Nat := []
  modified : Bool := false
  /-- The name of the observer automaton, if there is one. -/
  obsTA : String := ""
deriving Repr, Inhabited

/-- All templates, the static ones before the dynamic ones. -/
def Document.allTemplates (d : Document) : List TemplateId := d.templates ++ d.dynamicTemplates

end TimedNet
