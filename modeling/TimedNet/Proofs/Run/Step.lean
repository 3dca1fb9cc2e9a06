import TimedNet.Proofs.Copy.Relocated
import TimedNet.Proofs.Run.Edit

/-!
# `TimedNet.Proofs.Run.Step` — the steps that operations are made of

Every operation takes a few of the steps below. What holds of the store is shown for each step once, and
so is what each step leaves alone. A step carries a label that says what it writes; the label is all
that the results about special runs need to know of it.

* `Write`: what a step writes; `Write.targets`: the entities among it that were there before.
* `Step`: one step.
* `Path`: steps one after the other, with a condition on their labels.
-/

namespace TimedNet

/-- What a step writes. -/
inductive Write where
  /-- Nothing that was there before. -/
  | fresh
  /-- Something that is part of no document. -/
  | aside
  /-- A new instance with this binding. -/
  | inst (binding : Binding SymbolId)
  /-- Given symbols at the end of a frame. -/
  | extend (frame : FrameId) (symbols : List SymbolId)
  /-- A new symbol at the end of a frame. -/
  | declare (frame : FrameId)
  | block (r : BlockId)
  /-- What is restricted in an instance. -/
  | restrict (inst : InstanceId)
  /-- Given symbols at the end of the parameters of an instance. -/
  | parameters (inst : InstanceId) (symbols : List SymbolId)
  /-- Another binding for an instance. -/
  | bind (inst : InstanceId) (binding : Binding SymbolId)
  /-- A new template with these parameters, for which a symbol stands from now on. -/
  | newTemplate (symbol : SymbolId) (parameters : List SymbolId)
  /-- Something about a template. -/
  | template (r : TemplateId) (aspect : Template.Aspect)
  | document (r : DocumentId)
  | log (r : LogId)
  | lineTable (r : LineTableId)
  /-- A copy of a document. -/
  | copy (document : DocumentId)

/-- The entities that a step writes and that were there before it. -/
def Write.targets : Write → List Entity
  | .fresh | .aside | .inst .. | .copy .. => []
  | .extend r _ | .declare r => [.frame r]
  | .block r => [.block r]
  | .restrict r | .parameters r _ | .bind r _ => [.inst r]
  | .newTemplate symbol _ => [.symbol symbol]
  | .template r _ => [.template r]
  | .document r => [.document r]
  | .log r => [.log r]
  | .lineTable r => [.lineTable r]

namespace Store

/-- The store after a symbol was declared in a frame. -/
def declared (s : Store) (r : FrameId) (x : Symbol) : Store :=
  (s.newSymbol x).1.modifyFrame r fun f => f.add s.symbols.next

/-- Only entities outside documents differ, and the next arena has no smaller number. -/
structure Aside (s s' : Store) : Prop where
  symbols : s'.symbols = s.symbols
  frames : s'.frames = s.frames
  blocks : s'.blocks = s.blocks
  insts : s'.insts = s.insts
  templates : s'.templates = s.templates
  documents : s'.documents = s.documents
  logs : s'.logs = s.logs
  lineTables : s'.lineTables = s.lineTables
  nextArena : s.nextArena ≤ s'.nextArena

/-- One step, with what it writes. -/
inductive Step (s : Store) : Write → Store → Prop where
  | symbols (xs : List Symbol) : Step s .fresh { s with symbols := s.symbols.pushAll xs }
  | frame (f : Frame) (hsymbols : s.HasAll f.symbols) (hparent : ∀ p ∈ f.parent, p ∈ s.frames) :
      Step s .fresh (s.newFrame f).1
  | extend (r : FrameId) (rs : List SymbolId) (hrs : s.HasAll rs) :
      Step s (.extend r rs) (s.modifyFrame r fun f => f.addAll rs)
  | declare (r : FrameId) (x : Symbol) (hnew : s.lookup (s.frame r) x.name = none) :
      Step s (.declare r) (s.declared r x)
  | block (parent : Option FrameId) (hparent : ∀ p ∈ parent, p ∈ s.frames) :
      Step s .fresh (s.newBlock parent).1
  | editBlock (r : BlockId) (f : Block → Block)
      (hf : r ∈ s.blocks → Block.Edit s r (s.block r) (f (s.block r))) :
      Step s (.block r) (s.modifyBlock r f)
  | inst (i : Instance) (hi : i.Sound s) :
      Step s (.inst i.binding) { s with insts := s.insts.push i }
  | restrict (r : InstanceId) (rs : List SymbolId) (hrs : s.HasAll rs) :
      Step s (.restrict r) (s.modifyInst r fun i =>
        { i with binding := { i.binding with restricted := rs } })
  | parameters (r : InstanceId) (rs : List SymbolId) (hrs : s.HasAll rs) :
      Step s (.parameters r rs) (s.extendParameters r rs)
  | bind (r : InstanceId) (template : TemplateId) (b : Binding SymbolId)
      (htemplate : template ∈ s.templates)
      (hsymbols : s.HasAll ({ (s.inst r) with binding := b } : Instance).symbols)
      (hr : ∀ t ∈ s.templates, (s.template t).inst ≠ r) :
      Step s (.bind r b) (s.modifyInst r fun i => { i with template, binding := b })
  | newTemplate (symbol : SymbolId) (parameters : List SymbolId) (globals : Option FrameId)
      (log : LogId) (style : Style) (hsymbol : symbol ∈ s.symbols)
      (hbare : (s.symbol symbol).subject.isBare = true)
      (hparameters : s.HasAll parameters) (hglobals : ∀ p ∈ globals, p ∈ s.frames)
      (hlog : log ∈ s.logs) :
      Step s (.newTemplate symbol parameters) (s.newTemplate symbol parameters globals log style).1
  | editTemplate (r : TemplateId) (a : Template.Aspect) (f : Template → Template)
      (hf : r ∈ s.templates → (s.template r).Edit s r a (f (s.template r))) :
      Step s (.template r a) (s.modifyTemplate r f)
  | document (lineTable : LineTableId) (log : LogId) (hlineTable : lineTable ∈ s.lineTables)
      (hlog : log ∈ s.logs) : Step s .fresh (s.newDocument lineTable log).1
  | editDocument (r : DocumentId) (f : Document → Document)
      (hf : r ∈ s.documents → Document.Edit s (s.document r) (f (s.document r))) :
      Step s (.document r) (s.modifyDocument r f)
  | log (l : Log) (hl : l.Sound s) : Step s .fresh (s.newLog l).1
  | editLog (r : LogId) (f : Log → Log) (hf : ∀ l : Log, l.Keeps (f l)) :
      Step s (.log r) (s.modifyLog r f)
  | lineTable (lines : LineTable) : Step s .fresh (s.newLineTable lines).1
  | editLineTable (r : LineTableId) (e : LineInfo) : Step s (.lineTable r) (s.addLine r e)
  | aside (s' : Store) (h : s.Aside s') : Step s .aside s'
  | copy (document : DocumentId) (hdocument : document ∈ s.documents) :
      Step s (.copy document) (s.relocated document).1

/-- Steps one after the other whose labels satisfy a condition. -/
inductive Path (P : Write → Prop) (s : Store) : Store → Prop where
  | refl : Path P s s
  | step {t u : Store} {w : Write} (path : Path P s t) (hw : P w) (step : t.Step w u) : Path P s u

namespace Path

variable {P Q : Write → Prop} {s t u : Store}

theorem single {w : Write} (hw : P w) (h : s.Step w t) : Path P s t := .step .refl hw h

theorem trans (h : Path P s t) (h' : Path P t u) : Path P s u := by
  induction h' with
  | refl => exact h
  | step _ hw hstep ih => exact .step ih hw hstep

theorem imp (himp : ∀ w, P w → Q w) (h : Path P s t) : Path Q s t := by
  induction h with
  | refl => exact .refl
  | step _ hw hstep ih => exact .step ih (himp _ hw) hstep

end Path

end Store

end TimedNet
