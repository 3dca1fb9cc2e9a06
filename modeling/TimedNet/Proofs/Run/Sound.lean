import TimedNet.Proofs.Run.Growth

/-!
# `TimedNet.Proofs.Run.Sound` — stores in which everything fits together

References lead somewhere, the symbol of an entity stands for that entity, handles lead into the arenas
of their template, and no two entities share a part. `Store.Sound` says so of all entities of a store.

* `Store.Stands`: a symbol stands for an entity.
* `Frame.Sound`, `Block.Sound`, …, `Document.Sound`: an entity in a store; each is kept by growth.
* `Store.Apart`: entities do not share their parts.
* `Store.Sound`, `Sound.renew`: what has to be shown of a change.
-/

namespace TimedNet

/-- Handles of an arena are good for every later state of it. -/
theorem Arena.owns_mono {α β : Type} {a : Arena α} {b : Arena β} (hid : b.id = a.id)
    (hsize : a.size ≤ b.size) {h : Handle} (howns : a.owns h = true) : b.owns h = true := by
  simp only [Arena.owns, Bool.and_eq_true, decide_eq_true_eq] at howns ⊢
  rw [hid]
  exact ⟨howns.1, Int.lt_of_lt_of_le howns.2 (by exact_mod_cast hsize)⟩

theorem Arena.owns_handleAt {α : Type} {a : Arena α} {i : Nat} :
    a.owns (a.handleAt i) = true ↔ i < a.size := by
  simp [Arena.owns, Arena.handleAt]

/-- Whether an endpoint leads to a node of the template. -/
def Template.hasEndpoint (t : Template) : Endpoint → Bool
  | .location h => t.locations.owns h
  | .branchpoint h => t.branchpoints.owns h

namespace Store

/-- A symbol stands for an entity. -/
structure Stands (s : Store) (r : SymbolId) (o : Subject) : Prop where
  mem : r ∈ s.symbols
  subject : (s.symbol r).subject = o
  real : o.isBare = false

/-- The frame of a block lies in the given one, or in none. -/
structure Nested (s : Store) (b : BlockId) (p : Option FrameId) : Prop where
  block : b ∈ s.blocks
  frame : (s.block b).frame ∈ s.frames
  parent : (s.frame (s.block b).frame).parent = p

/-- All these symbols exist. -/
def HasAll (s : Store) (rs : List SymbolId) : Prop := ∀ r ∈ rs, r ∈ s.symbols

/-- A symbol stands for one entity. -/
theorem Stands.unique {s : Store} {r : SymbolId} {o q : Subject} (h : s.Stands r o)
    (h' : s.Stands r q) : o = q :=
  h.subject.symm.trans h'.subject

theorem Stands.mono {s s' : Store} (hg : s.Grows s') {r : SymbolId} {o : Subject}
    (h : s.Stands r o) : s'.Stands r o where
  mem := (hg.symbols r h.mem).1
  subject := by
    have hreal : (s.symbol r).subject.isBare = false := by rw [h.subject, h.real]
    exact ((hg.symbols r h.mem).2.subject hreal).trans h.subject
  real := h.real

theorem Nested.mono {s s' : Store} (hg : s.Grows s') {b : BlockId} {p : Option FrameId}
    (h : s.Nested b p) : s'.Nested b p := by
  have hframe : (s'.block b).frame = (s.block b).frame := (hg.blocks b h.block).2.frame
  refine ⟨(hg.blocks b h.block).1, ?_, ?_⟩
  · rw [hframe]
    exact (hg.frames _ h.frame).1
  · rw [hframe]
    exact ((hg.frames _ h.frame).2.parent).trans h.parent

theorem HasAll.mono {s s' : Store} (hg : s.Grows s') {rs : List SymbolId} (h : s.HasAll rs) :
    s'.HasAll rs :=
  fun r hr => (hg.symbols r (h r hr)).1

theorem HasAll.append {s : Store} {rs qs : List SymbolId} (hr : s.HasAll rs) (hq : s.HasAll qs) :
    s.HasAll (rs ++ qs) :=
  fun r h => (List.mem_append.mp h).elim (hr r) (hq r)

theorem hasAll_append {s : Store} {rs qs : List SymbolId} :
    s.HasAll (rs ++ qs) ↔ s.HasAll rs ∧ s.HasAll qs :=
  ⟨fun h => ⟨fun r hr => h r (List.mem_append_left _ hr),
    fun r hr => h r (List.mem_append_right _ hr)⟩, fun h => h.1.append h.2⟩

theorem hasAll_cons {s : Store} {r : SymbolId} {rs : List SymbolId} :
    s.HasAll (r :: rs) ↔ r ∈ s.symbols ∧ s.HasAll rs :=
  List.forall_mem_cons

theorem hasAll_flatMap {s : Store} {α : Type} {l : List α} {f : α → List SymbolId} :
    s.HasAll (l.flatMap f) ↔ ∀ a ∈ l, s.HasAll (f a) :=
  ⟨fun h a ha r hr => h r (List.mem_flatMap.mpr ⟨a, ha, hr⟩),
    fun h r hr => by
      obtain ⟨a, ha, hr⟩ := List.mem_flatMap.mp hr
      exact h a ha r hr⟩

@[simp] theorem hasAll_nil (s : Store) : s.HasAll [] := fun _ h => absurd h List.not_mem_nil

end Store

/-! ## Entities -/

/-- A frame lists symbols that exist and lies in a frame that was there before it. -/
structure Frame.Sound (s : Store) (r : FrameId) (f : Frame) : Prop where
  symbols : s.HasAll f.symbols
  parent : ∀ p ∈ f.parent, p ∈ s.frames ∧ p.index < r.index

/-- A block has a frame, and the symbols of what it declares stand for what it declares. -/
structure Block.Sound (s : Store) (r : BlockId) (b : Block) : Prop where
  frame : b.frame ∈ s.frames
  symbols : s.HasAll b.symbols
  vars : ∀ i v, b.vars[i]? = some v → s.Stands v.symbol (.var (.ofBlock r i))
  functions : ∀ i f, b.functions[i]? = some f → s.Stands f.symbol (.fn ⟨r, i⟩)
  locals : ∀ i f, b.functions[i]? = some f → ∀ j v, f.locals[j]? = some v →
    s.Stands v.symbol (.var (.ofFunction ⟨r, i⟩ j))

/-- An instance mentions symbols that exist and has a template. -/
structure Instance.Sound (s : Store) (i : Instance) : Prop where
  symbols : s.HasAll i.symbols
  template : i.template ∈ s.templates

/-- The own instance of a template, in which nothing is bound. -/
structure Instance.IsOwn (t : TemplateId) (i : Instance) : Prop where
  template : i.template = t
  mapping : i.binding.mapping = []
  argumentCount : i.binding.argumentCount = 0

/-- A template has all its parts, their symbols stand for them, its handles are its own, and its set lies
    in no other frame. -/
structure Template.Sound (s : Store) (r : TemplateId) (t : Template) : Prop where
  inst : t.inst ∈ s.insts
  block : t.block ∈ s.blocks
  log : t.log ∈ s.logs
  templateSet : t.templateSet ∈ s.frames
  symbols : s.HasAll t.symbols
  own : s.Stands (s.inst t.inst).symbol (.template r)
  locations : ∀ i l, t.locations.items[i]? = some l → s.Stands l.symbol (.location r i)
  branchpoints : ∀ i b, t.branchpoints.items[i]? = some b → s.Stands b.symbol (.branchpoint r i)
  lines : ∀ i l, t.lines.items[i]? = some l →
    l.inst ∈ s.insts ∧ s.Stands (s.inst l.inst).symbol (.line r i)
  edges : ∀ e ∈ t.edges, t.hasEndpoint e.source = true ∧ t.hasEndpoint e.target = true
  messages : ∀ m ∈ t.messages, t.lines.owns m.source = true ∧ t.lines.owns m.target = true
  conditions : ∀ c ∈ t.conditions, ∀ h ∈ c.anchors, t.lines.owns h = true
  updates : ∀ u ∈ t.updates, t.lines.owns u.anchor = true
  arenas : t.branchpoints.id = t.locations.id + 1 ∧ t.lines.id = t.locations.id + 2
    ∧ t.lines.id < s.nextArena
  owners : ∀ l ∈ t.lines.items, l.owner = r
  loose : (s.frame t.templateSet).parent = none

/-- The instances that a document lists itself. -/
def Document.listed (d : Document) : List InstanceId := d.instances ++ d.lscInstances ++ d.processes

/-- A document has all its parts, its templates log where it does and have their frames inside the global
    one, and the symbols of its instances and processes stand for them. It lists nothing twice, and its
    dynamic templates have different names, under which it has entered them in their order. -/
structure Document.Sound (s : Store) (d : Document) : Prop where
  lineTable : d.lineTable ∈ s.lineTables
  log : d.log ∈ s.logs
  globals : d.globals ∈ s.blocks
  templates : ∀ t ∈ d.allTemplates, t ∈ s.templates ∧ (s.template t).log = d.log
  distinct : d.allTemplates.Nodup
  instances : ∀ i ∈ d.instances ++ d.lscInstances,
    i ∈ s.insts ∧ s.Stands (s.inst i).symbol (.inst i)
  processes : ∀ i ∈ d.processes, i ∈ s.insts ∧ s.Stands (s.inst i).symbol (.process i)
  symbols : s.HasAll d.symbols
  root : s.Nested d.globals none
  scopes : ∀ t ∈ d.allTemplates, s.Nested (s.template t).block (some (s.block d.globals).frame)
  listsOnce : d.listed.Nodup
  names : (d.dynamicTemplates.map s.templateName).Nodup
  entered : d.dynamicByName = d.dynamicTemplates.map fun t => (s.templateName t, t)

theorem Document.Sound.dynamic_mem {s : Store} {d : Document} (h : d.Sound s) {t : TemplateId}
    (ht : t ∈ d.dynamicTemplates) : t ∈ s.templates :=
  (h.templates t (List.mem_append_right _ ht)).1

/-- A document has entered its dynamic templates under their names. -/
theorem Document.Sound.keys_dynamicByName {s : Store} {d : Document} (h : d.Sound s) :
    d.dynamicByName.map Prod.fst = d.dynamicTemplates.map s.templateName := by
  rw [h.entered, List.map_map]
  rfl

/-- A log has a line table. -/
structure Log.Sound (s : Store) (l : Log) : Prop where
  lineTable : l.lineTable ∈ s.lineTables

section Mono

variable {s s' : Store} (hg : s.Grows s')
include hg

theorem Frame.Sound.mono {r : FrameId} {f : Frame} (h : f.Sound s r) : f.Sound s' r where
  symbols := h.symbols.mono hg
  parent := fun p hp => ⟨(hg.frames p (h.parent p hp).1).1, (h.parent p hp).2⟩

theorem Block.Sound.mono {r : BlockId} {b : Block} (h : b.Sound s r) : b.Sound s' r where
  frame := (hg.frames _ h.frame).1
  symbols := h.symbols.mono hg
  vars := fun i v hv => (h.vars i v hv).mono hg
  functions := fun i f hf => (h.functions i f hf).mono hg
  locals := fun i f hf j v hv => (h.locals i f hf j v hv).mono hg

theorem Instance.Sound.mono {i : Instance} (h : i.Sound s) : i.Sound s' where
  symbols := h.symbols.mono hg
  template := (hg.templates _ h.template).1

/-- The symbol of an instance goes on standing for what it stood for. -/
theorem Store.Stands.inst_mono {i : InstanceId} (hi : i ∈ s.insts) {o : Subject}
    (h : s.Stands (s.inst i).symbol o) : s'.Stands (s'.inst i).symbol o := by
  have hsymbol : (s'.inst i).symbol = (s.inst i).symbol := (hg.insts i hi).2.symbol
  rw [hsymbol]
  exact h.mono hg

theorem Template.Sound.mono {r : TemplateId} {t : Template} (h : t.Sound s r) : t.Sound s' r where
  inst := (hg.insts _ h.inst).1
  block := (hg.blocks _ h.block).1
  log := (hg.logs _ h.log).1
  templateSet := (hg.frames _ h.templateSet).1
  symbols := h.symbols.mono hg
  own := h.own.inst_mono hg h.inst
  locations := fun i l hl => (h.locations i l hl).mono hg
  branchpoints := fun i b hb => (h.branchpoints i b hb).mono hg
  lines := fun i l hl =>
    ⟨(hg.insts _ (h.lines i l hl).1).1, (h.lines i l hl).2.inst_mono hg (h.lines i l hl).1⟩
  edges := h.edges
  messages := h.messages
  conditions := h.conditions
  updates := h.updates
  arenas := ⟨h.arenas.1, h.arenas.2.1, Nat.lt_of_lt_of_le h.arenas.2.2 hg.nextArena⟩
  owners := h.owners
  loose := ((hg.frames _ h.templateSet).2.parent).trans h.loose

/-- A template keeps its symbol. -/
theorem Template.Sound.symbol_eq {t : TemplateId} (h : (s.template t).Sound s t) (ht : t ∈ s.templates) :
    s'.templateSymbol t = s.templateSymbol t := by
  unfold Store.templateSymbol
  rw [show (s'.template t).inst = _ from (hg.templates t ht).2.inst]
  exact (hg.insts _ h.inst).2.symbol

/-- A template keeps its name. -/
theorem Template.Sound.name_eq {t : TemplateId} (h : (s.template t).Sound s t) (ht : t ∈ s.templates) :
    s'.templateName t = s.templateName t := by
  unfold Store.templateName
  rw [h.symbol_eq hg ht]
  exact (hg.symbols _ h.own.mem).2.name

theorem Document.Sound.mono {d : Document} (h : d.Sound s)
    (htemplates : ∀ t ∈ s.templates, (s.template t).Sound s t) : d.Sound s' where
  lineTable := (hg.lineTables _ h.lineTable).1
  log := (hg.logs _ h.log).1
  globals := (hg.blocks _ h.globals).1
  templates := fun t ht =>
    ⟨(hg.templates t (h.templates t ht).1).1,
      ((hg.templates t (h.templates t ht).1).2.log).trans (h.templates t ht).2⟩
  distinct := h.distinct
  instances := fun i hi =>
    ⟨(hg.insts i (h.instances i hi).1).1, (h.instances i hi).2.inst_mono hg (h.instances i hi).1⟩
  processes := fun i hi =>
    ⟨(hg.insts i (h.processes i hi).1).1, (h.processes i hi).2.inst_mono hg (h.processes i hi).1⟩
  symbols := h.symbols.mono hg
  root := h.root.mono hg
  scopes := by
    intro t ht
    rw [show (s'.template t).block = _ from (hg.templates t (h.templates t ht).1).2.block,
      show (s'.block d.globals).frame = _ from (hg.blocks _ h.globals).2.frame]
    exact (h.scopes t ht).mono hg
  listsOnce := h.listsOnce
  names := by
    rw [List.map_congr_left fun t ht => (htemplates t (h.dynamic_mem ht)).name_eq hg (h.dynamic_mem ht)]
    exact h.names
  entered := by
    rw [List.map_congr_left fun t ht => congrArg (·, t)
      ((htemplates t (h.dynamic_mem ht)).name_eq hg (h.dynamic_mem ht))]
    exact h.entered

theorem Log.Sound.mono {l : Log} (h : l.Sound s) : l.Sound s' where
  lineTable := (hg.lineTables _ h.lineTable).1

end Mono

/-! ## Parts that are not shared -/

namespace Store

/-- No two entities share a part: a frame is that of one block or the set of one template, a block is
    that of one template or the global one of one document, and templates and instances are listed by
    one document. The arenas of later templates have greater numbers. -/
structure Apart (s : Store) : Prop where
  frames : ∀ b ∈ s.blocks, ∀ c ∈ s.blocks, (s.block b).frame = (s.block c).frame → b = c
  sets : ∀ t ∈ s.templates, ∀ u ∈ s.templates,
    (s.template t).templateSet = (s.template u).templateSet → t = u
  sets_frames : ∀ t ∈ s.templates, ∀ b ∈ s.blocks, (s.template t).templateSet ≠ (s.block b).frame
  blocks : ∀ t ∈ s.templates, ∀ u ∈ s.templates, (s.template t).block = (s.template u).block → t = u
  globals : ∀ d ∈ s.documents, ∀ e ∈ s.documents,
    (s.document d).globals = (s.document e).globals → d = e
  globals_blocks : ∀ d ∈ s.documents, ∀ t ∈ s.templates,
    (s.document d).globals ≠ (s.template t).block
  templates : ∀ d ∈ s.documents, ∀ e ∈ s.documents, ∀ t ∈ (s.document d).allTemplates,
    t ∈ (s.document e).allTemplates → d = e
  listed : ∀ d ∈ s.documents, ∀ e ∈ s.documents, ∀ i ∈ (s.document d).listed,
    i ∈ (s.document e).listed → d = e
  arenas : ∀ t ∈ s.templates, ∀ u ∈ s.templates, t.index < u.index →
    (s.template t).lines.id < (s.template u).locations.id

/-! ## Sound stores -/

/-- A store in which everything fits together. -/
structure Sound (s : Store) : Prop where
  frames : ∀ r ∈ s.frames, (s.frame r).Sound s r
  blocks : ∀ r ∈ s.blocks, (s.block r).Sound s r
  insts : ∀ r ∈ s.insts, (s.inst r).Sound s
  templates : ∀ r ∈ s.templates, (s.template r).Sound s r
  documents : ∀ r ∈ s.documents, (s.document r).Sound s
  logs : ∀ r ∈ s.logs, (s.log r).Sound s
  apart : s.Apart
  own : ∀ t ∈ s.templates, (s.inst (s.template t).inst).IsOwn t

/-- What has to be shown of a change that loses nothing: the entities that are not as they were are
    sound, and no part is shared. -/
theorem Sound.renew {s s' : Store} (h : s.Sound) (hg : s.Grows s')
    (hframes : s.frames.Renews (fun r f => f.Sound s' r) s'.frames)
    (hblocks : s.blocks.Renews (fun r b => b.Sound s' r) s'.blocks)
    (hinsts : s.insts.Renews (fun _ i => i.Sound s') s'.insts)
    (htemplates : s.templates.Renews (fun r t => t.Sound s' r) s'.templates)
    (hdocuments : s.documents.Renews (fun _ d => d.Sound s') s'.documents)
    (hlogs : s.logs.Renews (fun _ l => l.Sound s') s'.logs)
    (hapart : s'.Apart) (hown : ∀ t ∈ s'.templates, (s'.inst (s'.template t).inst).IsOwn t) :
    s'.Sound where
  frames := hframes.forall fun r hr => (h.frames r hr).mono hg
  blocks := hblocks.forall fun r hr => (h.blocks r hr).mono hg
  insts := hinsts.forall fun r hr => (h.insts r hr).mono hg
  templates := htemplates.forall fun r hr => (h.templates r hr).mono hg
  documents := hdocuments.forall fun r hr => (h.documents r hr).mono hg h.templates
  logs := hlogs.forall fun r hr => (h.logs r hr).mono hg
  apart := hapart
  own := hown

/-- The own instances of the templates are own instances when they are as they were. -/
theorem Sound.own_of_same {s s' : Store} (h : s.Sound) (hg : s.Grows s')
    (hold : ∀ t ∈ s'.templates, t ∈ s.templates)
    (hsame : ∀ t ∈ s.templates, s'.inst (s.template t).inst = s.inst (s.template t).inst) :
    ∀ t ∈ s'.templates, (s'.inst (s'.template t).inst).IsOwn t := by
  intro t ht
  have hinst : (s'.template t).inst = (s.template t).inst := (hg.templates t (hold t ht)).2.inst
  rw [hinst, hsame t (hold t ht)]
  exact h.own t (hold t ht)

/-- **What is entered under a name is the first dynamic template of the list that has the name.** -/
theorem Sound.findDynamicTemplate?_eq {s : Store} (h : s.Sound) {d : DocumentId}
    (hd : d ∈ s.documents) (name : String) : s.findDynamicTemplate? d name
      = (s.document d).dynamicTemplates.find? fun t => s.templateName t == name := by
  rw [findDynamicTemplate?, (h.documents d hd).entered, Ordered.get?, List.find?_map, Option.map_map]
  exact Option.map_id' ..

/-- A name leads to the dynamic template that has it. -/
theorem Sound.findDynamicTemplate?_iff {s : Store} (h : s.Sound) {d : DocumentId}
    (hd : d ∈ s.documents) {name : String} {t : TemplateId} :
    s.findDynamicTemplate? d name = some t
      ↔ t ∈ (s.document d).dynamicTemplates ∧ s.templateName t = name := by
  have hdocument := h.documents d hd
  have hnames : (s.document d).dynamicByName.map Prod.fst |>.Nodup := by
    rw [hdocument.keys_dynamicByName]
    exact hdocument.names
  rw [findDynamicTemplate?, Ordered.get?_eq_some_iff hnames, hdocument.entered, List.mem_map]
  constructor
  · rintro ⟨u, hu, heq⟩
    obtain ⟨rfl, rfl⟩ := Prod.mk.inj heq
    exact ⟨hu, rfl⟩
  · rintro ⟨ht, rfl⟩
    exact ⟨t, ht, rfl⟩

theorem sound_empty : Sound {} where
  frames := fun _ hr => absurd hr (Nat.not_lt_zero _)
  blocks := fun _ hr => absurd hr (Nat.not_lt_zero _)
  insts := fun _ hr => absurd hr (Nat.not_lt_zero _)
  templates := fun _ hr => absurd hr (Nat.not_lt_zero _)
  documents := fun _ hr => absurd hr (Nat.not_lt_zero _)
  logs := fun _ hr => absurd hr (Nat.not_lt_zero _)
  apart :=
    { frames := fun _ hr => absurd hr (Nat.not_lt_zero _)
      sets := fun _ hr => absurd hr (Nat.not_lt_zero _)
      sets_frames := fun _ hr => absurd hr (Nat.not_lt_zero _)
      blocks := fun _ hr => absurd hr (Nat.not_lt_zero _)
      templates := fun _ hr => absurd hr (Nat.not_lt_zero _)
      listed := fun _ hr => absurd hr (Nat.not_lt_zero _)
      globals := fun _ hr => absurd hr (Nat.not_lt_zero _)
      globals_blocks := fun _ hr => absurd hr (Nat.not_lt_zero _)
      arenas := fun _ hr => absurd hr (Nat.not_lt_zero _) }
  own := fun _ hr => absurd hr (Nat.not_lt_zero _)

end Store

end TimedNet
