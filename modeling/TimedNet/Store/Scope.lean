import TimedNet.Store.Basic

/-!
# `TimedNet.Store.Scope` — names in scopes

A name is looked up in a frame and then in the frames around it, of which each was there before the
frame inside it. A new symbol may not have a name that its frame holds already.

## Contents
- `Store.lookup`, `Store.indexOf?`: names in one frame.
- `Store.resolve`, `Store.resolveIn`: names visible from a frame.
- `Store.declare?`: a new symbol at the end of a frame.
-/

namespace TimedNet.Store

/-- The position of the first symbol of a name in a frame. -/
def indexOf? (s : Store) (frame : Frame) (name : String) : Option Nat :=
  frame.symbols.findIdx? fun r => s.name r == name

/-- The first symbol of a name in a frame. -/
def lookup (s : Store) (frame : Frame) (name : String) : Option SymbolId :=
  frame.symbols.find? fun r => s.name r == name

/-- The symbol of a name that is visible from a stored frame, the innermost one first. -/
def resolve (s : Store) (r : FrameId) (name : String) : Option SymbolId :=
  match s.lookup (s.frame r) name with
  | some symbol => some symbol
  | none =>
    match (s.frame r).parent with
    | none => none
    | some parent => if parent.index < r.index then s.resolve parent name else none
termination_by r.index

/-- The symbol of a name that is visible from a frame. -/
def resolveIn (s : Store) (frame : Frame) (name : String) : Option SymbolId :=
  match s.lookup frame name with
  | some symbol => some symbol
  | none => frame.parent.bind fun parent => s.resolve parent name

/-- A new symbol in a frame, unless its name is taken there. -/
def declare? (s : Store) (r : FrameId) (symbol : Symbol) : Option (Store × SymbolId) :=
  if (s.lookup (s.frame r) symbol.name).isSome then none
  else
    let (s, id) := s.newSymbol symbol
    some (s.modifyFrame r fun f => f.add id, id)

/-- A new symbol in a frame, for which a taken name is a duplicate definition. -/
def declare (s : Store) (r : FrameId) (symbol : Symbol) : Attempt SymbolId :=
  match s.declare? r symbol with
  | some (s, id) => (s, .ok id)
  | none => (s, .error (ProblemKind.duplicateDefinition.on symbol.name))

end TimedNet.Store
