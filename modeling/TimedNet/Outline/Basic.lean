import TimedNet.Store.Basic

/-!
# `TimedNet.Outline.Basic` — what can be seen of an entity

An outline is a tree of labelled values that shows an entity as it is in a store: its own data, its
text, and the outlines of what it is made of. References do not show; symbols do, for a symbol is an
identity. Whatever two stores agree on has the same outline in both. Three lists of plain values are
shown themselves and not what they hold, for who keeps an outline sees them grow.

## Contents
- `GrowingList`, with what it holds in a store.
- `Outline`, and the class `Outlined` of what has one; `Store.field`: a labelled outline.
- The outlines of plain values, symbols, terms, frames and handles.
-/

namespace TimedNet

/-- The lists of plain values that their owners extend in place. -/
inductive GrowingList where
  | strings (document : DocumentId)
  | selectValues (template : TemplateId) (edge : Nat)
  | arena (arena : ArenaId)
deriving DecidableEq, Repr

/-- A tree of labelled values. -/
inductive Outline where
  | absent
  | value (c : Constant)
  | number (n : Int)
  | symbol (r : SymbolId)
  /-- Symbols whose order means nothing. -/
  | set (l : List SymbolId)
  /-- A handle of an external library. -/
  | library (handle : Nat)
  /-- A list that is shown itself, with what it holds by the time it is looked at. -/
  | growing (l : GrowingList)
  | list (l : List Outline)
  | record (fields : List (String × Outline))
deriving Repr, Inhabited

/-- What a growing list holds. -/
def Store.growing (s : Store) : GrowingList → List Constant
  | .strings d => (s.document d).strings.map .text
  | .selectValues t edge =>
    ((s.template t).edges.getD edge default).selectValues.map fun n => .number (.ofDecimal n 0)
  | .arena a => (s.arena a).items

/-- What can be seen of a value of this type. -/
class Outlined (α : Type) where
  outline : Store → α → Outline

export Outlined (outline)

/-- A labelled outline. -/
def Store.field {α : Type} [Outlined α] (s : Store) (key : String) (a : α) : String × Outline :=
  (key, outline s a)

instance : Outlined String := ⟨fun _ t => .value (.text t)⟩
instance : Outlined Bool := ⟨fun _ b => .value (.boolean b)⟩
instance : Outlined Constant := ⟨fun _ c => .value c⟩
instance : Outlined Int := ⟨fun _ n => .number n⟩
instance : Outlined Nat := ⟨fun _ n => .number n⟩
instance : Outlined Outline := ⟨fun _ o => o⟩

instance {α : Type} [Outlined α] : Outlined (Option α) :=
  ⟨fun s o => o.elim .absent (outline s)⟩

instance {α : Type} [Outlined α] : Outlined (List α) := ⟨fun s l => .list (l.map (outline s))⟩

instance {α β : Type} [Outlined α] [Outlined β] : Outlined (α × β) :=
  ⟨fun s p => .list [outline s p.1, outline s p.2]⟩

/-! ## Symbols, terms and frames -/

instance : Outlined SymbolId := ⟨fun _ r => .symbol r⟩

/-- A span as its two offsets. -/
instance : Outlined Span := ⟨fun s p => outline s (p.start, p.stop)⟩

/-- A handle as its two numbers. -/
instance : Outlined Handle := ⟨fun s h => outline s (h.arena, h.index)⟩

/-- The word for what a symbol stands for, marked when the entity has another symbol. -/
def Store.subjectWord (s : Store) (r : SymbolId) : String :=
  let subject := (s.symbol r).subject
  if (s.ownSymbol? subject).any (· != r) then subject.word ++ "!" else subject.word

/-- The fields of a symbol. -/
def Store.symbolFields (s : Store) (r : SymbolId) : List (String × Outline) :=
  let symbol := s.symbol r
  [s.field "sym" r, s.field "type" symbol.type, s.field "pos" symbol.span,
    s.field "data" (s.subjectWord r)]

/-- A symbol with its type, its place and what it stands for. -/
def Store.symbolOutline (s : Store) (r : SymbolId) : Outline := .record (s.symbolFields r)

/-- A term with its text and the symbols that it mentions. -/
instance : Outlined (Term SymbolId) := ⟨fun s t =>
  .record [s.field "kind" t.kind.word, s.field "text" (t.render s.name), s.field "pos" t.span,
    s.field "syms" t.symbols]⟩

/-- A node of a term on its own: its shape, what it says, how many operands it has and its span. -/
def Store.nodeOutline (s : Store) (t : Term SymbolId) : Outline :=
  let content : Outline := match t with
    | .constant _ c _ => outline s (c.typeName ++ " " ++ c.plain)
    | .identifier r _ => .symbol r
    | t => outline s t.operator
  .list [outline s t.kind.word, content, outline s t.operands.length, outline s t.span.start,
    outline s t.span.stop]

instance : Outlined Expression := ⟨fun s e => outline s e.term⟩

/-- The contents of a frame. -/
instance : Outlined Frame := ⟨fun s f => outline s f.symbols⟩

/-- A stored frame with its size. -/
instance : Outlined FrameId := ⟨fun s r =>
  let f := s.frame r
  .record [s.field "size" f.size, s.field "symbols" f]⟩

end TimedNet
