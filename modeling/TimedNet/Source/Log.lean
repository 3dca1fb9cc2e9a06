import TimedNet.Reference
import TimedNet.Source.LineTable
import TimedNet.Source.Problem

/-!
# `TimedNet.Source.Log` — the problems found in a model

Problems are collected while a model is built, errors and warnings apart, each with the lines that
its span started and ended on according to the line table at that time.

## Contents
- `Diagnostic`, `Log`.
- `Log.addError`, `Log.addWarning`, `Log.report`, `Log.clearErrors`, `Log.clearWarnings`.
-/

namespace TimedNet

/-- A logged problem. -/
structure Diagnostic where
  span : Span
  first : Option LineInfo
  last : Option LineInfo
  message : String
  context : String
deriving DecidableEq, Repr, Inhabited

/-- The entry for a message about a span. -/
def Diagnostic.locate (lines : LineTable) (span : Span) (message context : String) : Diagnostic :=
  ⟨span, lines.find span.start, lines.find span.stop, message, context⟩

/-- Errors and warnings in order of arrival, located by a line table. -/
structure Log where
  lineTable : LineTableId
  errors : List Diagnostic := []
  warnings : List Diagnostic := []
deriving DecidableEq, Repr, Inhabited

namespace Log

/-- The log with one more error. -/
def addError (l : Log) (lines : LineTable) (span : Span) (message context : String) : Log :=
  { l with errors := l.errors ++ [.locate lines span message context] }

/-- The log with one more warning. -/
def addWarning (l : Log) (lines : LineTable) (span : Span) (message context : String) : Log :=
  { l with warnings := l.warnings ++ [.locate lines span message context] }

/-- The log with a problem recorded under its severity. -/
def report (l : Log) (lines : LineTable) (span : Span) (p : Problem) (context : String) :
    Log :=
  match p.severity with
  | .error => l.addError lines span p.message context
  | .warning => l.addWarning lines span p.message context

/-- Whether there is an error. -/
def hasErrors (l : Log) : Bool := !l.errors.isEmpty

/-- Whether there is a warning. -/
def hasWarnings (l : Log) : Bool := !l.warnings.isEmpty

/-- The log without its errors. -/
def clearErrors (l : Log) : Log := { l with errors := [] }

/-- The log without its warnings. -/
def clearWarnings (l : Log) : Log := { l with warnings := [] }

end Log

end TimedNet
