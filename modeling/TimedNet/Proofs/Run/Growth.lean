import TimedNet.Store.Operation

/-!
# `TimedNet.Proofs.Run.Growth` — what a store never loses

No entity leaves a store, and each keeps what makes it the entity it is: a symbol its name and what it
stands for, a block its frame, a template its instance, block and arenas. `Store.Grows` collects all of
this; what is proved of a store from it is true of every later store.

* `Symbol.Keeps`, `Frame.Keeps`, …: what an entity keeps.
* `Store.Grows`, `Grows.refl`, `Grows.trans`.
* `grows_newSymbols`, `grows_modifyFrame`, and so on: one for each kind of change.
-/

namespace TimedNet

/-! ## What an entity keeps -/

/-- A symbol keeps its name, its type and its place, and what it stands for once there is an entity
    behind it. -/
structure Symbol.Keeps (x y : Symbol) : Prop where
  name : y.name = x.name
  type : y.type = x.type
  span : y.span = x.span
  subject : x.subject.isBare = false → y.subject = x.subject

/-- A frame keeps the frame around it and gets symbols at its end. -/
structure Frame.Keeps (f g : Frame) : Prop where
  parent : g.parent = f.parent
  symbols : f.symbols <+: g.symbols

/-- A block keeps its frame. -/
structure Block.Keeps (b c : Block) : Prop where
  frame : c.frame = b.frame

/-- An instance keeps its symbol. -/
structure Instance.Keeps (i j : Instance) : Prop where
  symbol : j.symbol = i.symbol

/-- A log keeps its line table. -/
structure Log.Keeps (l m : Log) : Prop where
  lineTable : m.lineTable = l.lineTable

/-- A template keeps its instance, its block, its log, its set and its arenas, which grow. -/
structure Template.Keeps (t u : Template) : Prop where
  inst : u.inst = t.inst
  block : u.block = t.block
  log : u.log = t.log
  templateSet : u.templateSet = t.templateSet
  locations : u.locations.id = t.locations.id ∧ t.locations.size ≤ u.locations.size
  branchpoints : u.branchpoints.id = t.branchpoints.id
    ∧ t.branchpoints.size ≤ u.branchpoints.size
  lines : u.lines.id = t.lines.id ∧ t.lines.size ≤ u.lines.size

/-- A document keeps its line table, its log and its global block. -/
structure Document.Keeps (d e : Document) : Prop where
  lineTable : e.lineTable = d.lineTable
  log : e.log = d.log
  globals : e.globals = d.globals

theorem Symbol.Keeps.refl (x : Symbol) : x.Keeps x := ⟨rfl, rfl, rfl, fun _ => rfl⟩

theorem Symbol.Keeps.trans {x y z : Symbol} (h : x.Keeps y) (h' : y.Keeps z) : x.Keeps z where
  name := h'.name.trans h.name
  type := h'.type.trans h.type
  span := h'.span.trans h.span
  subject := by
    intro hx
    have hxy := h.subject hx
    rw [h'.subject (by rw [hxy, hx]), hxy]

theorem Frame.Keeps.refl (f : Frame) : f.Keeps f := ⟨rfl, List.prefix_refl _⟩

theorem Frame.Keeps.trans {f g h : Frame} (hfg : f.Keeps g) (hgh : g.Keeps h) : f.Keeps h :=
  ⟨hgh.parent.trans hfg.parent, hfg.symbols.trans hgh.symbols⟩

theorem Block.Keeps.refl (b : Block) : b.Keeps b := ⟨rfl⟩

theorem Block.Keeps.trans {b c d : Block} (h : b.Keeps c) (h' : c.Keeps d) : b.Keeps d :=
  ⟨h'.frame.trans h.frame⟩

theorem Instance.Keeps.refl (i : Instance) : i.Keeps i := ⟨rfl⟩

theorem Instance.Keeps.trans {i j k : Instance} (h : i.Keeps j) (h' : j.Keeps k) : i.Keeps k :=
  ⟨h'.symbol.trans h.symbol⟩

theorem Log.Keeps.refl (l : Log) : l.Keeps l := ⟨rfl⟩

theorem Log.Keeps.trans {l m n : Log} (h : l.Keeps m) (h' : m.Keeps n) : l.Keeps n :=
  ⟨h'.lineTable.trans h.lineTable⟩

theorem Template.Keeps.refl (t : Template) : t.Keeps t :=
  ⟨rfl, rfl, rfl, rfl, ⟨rfl, Nat.le_refl _⟩, ⟨rfl, Nat.le_refl _⟩, ⟨rfl, Nat.le_refl _⟩⟩

theorem Template.Keeps.trans {t u v : Template} (h : t.Keeps u) (h' : u.Keeps v) : t.Keeps v :=
  ⟨h'.inst.trans h.inst, h'.block.trans h.block, h'.log.trans h.log,
    h'.templateSet.trans h.templateSet,
    ⟨h'.locations.1.trans h.locations.1, Nat.le_trans h.locations.2 h'.locations.2⟩,
    ⟨h'.branchpoints.1.trans h.branchpoints.1, Nat.le_trans h.branchpoints.2 h'.branchpoints.2⟩,
    ⟨h'.lines.1.trans h.lines.1, Nat.le_trans h.lines.2 h'.lines.2⟩⟩

theorem Document.Keeps.refl (d : Document) : d.Keeps d := ⟨rfl, rfl, rfl⟩

theorem Document.Keeps.trans {d e f : Document} (h : d.Keeps e) (h' : e.Keeps f) : d.Keeps f :=
  ⟨h'.lineTable.trans h.lineTable, h'.log.trans h.log, h'.globals.trans h.globals⟩

namespace Store

/-! ## What a store keeps -/

/-- Everything is still there and is what it was. -/
structure Grows (s s' : Store) : Prop where
  symbols : s.symbols.Keeps Symbol.Keeps s'.symbols
  frames : s.frames.Keeps Frame.Keeps s'.frames
  blocks : s.blocks.Keeps Block.Keeps s'.blocks
  insts : s.insts.Keeps Instance.Keeps s'.insts
  templates : s.templates.Keeps Template.Keeps s'.templates
  documents : s.documents.Keeps Document.Keeps s'.documents
  logs : s.logs.Keeps Log.Keeps s'.logs
  lineTables : s.lineTables.Keeps (fun _ _ => True) s'.lineTables
  nextArena : s.nextArena ≤ s'.nextArena

theorem Grows.refl (s : Store) : s.Grows s where
  symbols := .refl Symbol.Keeps.refl _
  frames := .refl Frame.Keeps.refl _
  blocks := .refl Block.Keeps.refl _
  insts := .refl Instance.Keeps.refl _
  templates := .refl Template.Keeps.refl _
  documents := .refl Document.Keeps.refl _
  logs := .refl Log.Keeps.refl _
  lineTables := .refl (fun _ => trivial) _
  nextArena := Nat.le_refl _

theorem Grows.trans {s s' s'' : Store} (h : s.Grows s') (h' : s'.Grows s'') : s.Grows s'' where
  symbols := h.symbols.trans h'.symbols Symbol.Keeps.trans
  frames := h.frames.trans h'.frames Frame.Keeps.trans
  blocks := h.blocks.trans h'.blocks Block.Keeps.trans
  insts := h.insts.trans h'.insts Instance.Keeps.trans
  templates := h.templates.trans h'.templates Template.Keeps.trans
  documents := h.documents.trans h'.documents Document.Keeps.trans
  logs := h.logs.trans h'.logs Log.Keeps.trans
  lineTables := h.lineTables.trans h'.lineTables fun _ _ => trivial
  nextArena := Nat.le_trans h.nextArena h'.nextArena

/-! ## One kind of change at a time -/

section Changes

variable (s : Store)

theorem grows_newSymbols (xs : List Symbol) :
    s.Grows { s with symbols := s.symbols.pushAll xs } :=
  { Grows.refl s with symbols := Table.keeps_pushAll Symbol.Keeps.refl _ _ }

theorem grows_newSymbol (x : Symbol) : s.Grows (s.newSymbol x).1 :=
  { Grows.refl s with symbols := Table.keeps_push Symbol.Keeps.refl _ _ }

theorem grows_newFrame (f : Frame) : s.Grows (s.newFrame f).1 :=
  { Grows.refl s with frames := Table.keeps_push Frame.Keeps.refl _ _ }

theorem grows_modifyFrame (r : FrameId) (ss : List SymbolId) :
    s.Grows (s.modifyFrame r fun f => f.addAll ss) :=
  { Grows.refl s with
    frames := Table.keeps_modify Frame.Keeps.refl fun _ => ⟨rfl, List.prefix_append _ _⟩ }

theorem grows_newBlock (parent : Option FrameId) (parameters : List SymbolId) :
    s.Grows (s.newBlock parent parameters).1 :=
  { Grows.refl s with
    frames := Table.keeps_push Frame.Keeps.refl _ _
    blocks := Table.keeps_push Block.Keeps.refl _ _ }

theorem grows_modifyBlock {r : BlockId} {f : Block → Block}
    (hf : r ∈ s.blocks → (s.block r).Keeps (f (s.block r))) :
    s.Grows (s.modifyBlock r f) :=
  { Grows.refl s with blocks := Table.keeps_modify Block.Keeps.refl hf }

theorem grows_newInst (i : Instance) : s.Grows { s with insts := s.insts.push i } :=
  { Grows.refl s with insts := Table.keeps_push Instance.Keeps.refl _ _ }

theorem grows_modifyInst {r : InstanceId} {f : Instance → Instance}
    (hf : (s.inst r).Keeps (f (s.inst r))) : s.Grows (s.modifyInst r f) :=
  { Grows.refl s with insts := Table.keeps_modify Instance.Keeps.refl fun _ => hf }

theorem grows_modifyTemplate {r : TemplateId} {f : Template → Template}
    (hf : r ∈ s.templates → (s.template r).Keeps (f (s.template r))) : s.Grows (s.modifyTemplate r f) :=
  { Grows.refl s with templates := Table.keeps_modify Template.Keeps.refl hf }

theorem grows_modifyDocument {r : DocumentId} {f : Document → Document}
    (hf : r ∈ s.documents → (s.document r).Keeps (f (s.document r))) : s.Grows (s.modifyDocument r f) :=
  { Grows.refl s with documents := Table.keeps_modify Document.Keeps.refl hf }

theorem grows_newLog (l : Log) : s.Grows (s.newLog l).1 :=
  { Grows.refl s with logs := Table.keeps_push Log.Keeps.refl _ _ }

theorem grows_modifyLog {r : LogId} {f : Log → Log} (hf : ∀ l : Log, l.Keeps (f l)) :
    s.Grows (s.modifyLog r f) :=
  { Grows.refl s with logs := Table.keeps_modify Log.Keeps.refl fun _ => hf _ }

theorem grows_newLineTable (lines : LineTable) : s.Grows (s.newLineTable lines).1 :=
  { Grows.refl s with lineTables := Table.keeps_push (fun _ => trivial) _ _ }

theorem grows_addLine (r : LineTableId) (e : LineInfo) : s.Grows (s.addLine r e) :=
  { Grows.refl s with lineTables := Table.keeps_modify (fun _ => trivial) fun _ => trivial }

end Changes

end Store

end TimedNet
