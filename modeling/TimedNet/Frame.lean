import TimedNet.Ordered
import TimedNet.Reference

/-!
# `TimedNet.Frame` — ordered scopes

A frame lists symbols in the order in which they were declared and may lie inside another frame.

## Contents
- `Frame`, `Frame.add`, `Frame.addAll`, `Frame.concat`.
- `Frame.at?`: the symbol at a position; `Frame.get`: the same, or the reason why there is none.
- `Frame.slice`: a stretch of a frame, with positions counted from the end when negative.
-/

namespace TimedNet

/-- The symbols of a scope, and the scope around it. -/
structure Frame where
  parent : Option FrameId := none
  symbols : List SymbolId := []
deriving DecidableEq, Repr, Inhabited

/-- There is no symbol at an index. -/
structure Frame.OutOfRange where
  index : Int
deriving DecidableEq, Repr

/-- The fault as text. -/
def Frame.OutOfRange.message (e : OutOfRange) : String :=
  "No symbol at index " ++ toString e.index

namespace Frame

/-- The frame of the given symbols that lies in no other. -/
def ofList (symbols : List SymbolId) : Frame := { symbols }

/-- How many symbols there are. -/
def size (f : Frame) : Nat := f.symbols.length

/-- The symbol at a position. -/
def at? (f : Frame) : Int → Option SymbolId
  | .ofNat i => f.symbols[i]?
  | .negSucc _ => none

/-- The symbol at a position, which must be there. -/
def get (f : Frame) (index : Int) : Except OutOfRange SymbolId :=
  match f.at? index with
  | some r => .ok r
  | none => .error ⟨index⟩

/-- Whether a symbol is in the frame itself. -/
def has (f : Frame) (s : SymbolId) : Bool := f.symbols.contains s

/-- The frame with one more symbol, whatever names it holds. -/
def add (f : Frame) (s : SymbolId) : Frame := { f with symbols := f.symbols ++ [s] }

/-- The frame with several more symbols, whatever names it holds. -/
def addAll (f : Frame) (ss : List SymbolId) : Frame := { f with symbols := f.symbols ++ ss }

/-- The frame with those of the symbols that it does not hold yet, each once. -/
def addNew (f : Frame) (ss : List SymbolId) : Frame :=
  { f with symbols := Ordered.union f.symbols ss }

/-- A new frame of the symbols of two. -/
def concat (f g : Frame) : Frame := ofList (f.symbols ++ g.symbols)

/-- A position given as a number: a negative one counts from the end, and none leaves the frame. -/
def clamp (f : Frame) (i : Int) : Nat :=
  if i < 0 then (i + f.size).toNat else min i.toNat f.size

/-- A new frame of the symbols from `start` up to `stop`, by default up to the end. -/
def slice (f : Frame) (start : Int) (stop : Option Int) : Frame :=
  let first := f.clamp start
  let last := (stop.map f.clamp).getD f.size
  ofList ((f.symbols.take last).drop first)

@[simp] theorem symbols_add (f : Frame) (s : SymbolId) : (f.add s).symbols = f.symbols ++ [s] := rfl

@[simp] theorem parent_add (f : Frame) (s : SymbolId) : (f.add s).parent = f.parent := rfl

end Frame

end TimedNet
