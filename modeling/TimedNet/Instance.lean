import TimedNet.Binding
import TimedNet.Reference

/-!
# `TimedNet.Instance` — bindings of a template's parameters

A template has an instance of its own, in which all its parameters are open; named instances,
processes and the lines of a chart are instances that bind some or all of them.
-/

namespace TimedNet

/-- A binding under a name, for a template. -/
structure Instance where
  symbol : SymbolId
  template : TemplateId
  binding : Binding SymbolId := {parameters := []}
deriving Repr, Inhabited

end TimedNet
