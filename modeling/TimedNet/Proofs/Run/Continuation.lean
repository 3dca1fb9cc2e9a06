import Mathlib.Data.List.Find
import TimedNet.Proofs.Separation.Footprint

/-!
# `TimedNet.Proofs.Run.Continuation` — lists get longer at their end

What a program has built stays where it is. A member of a list may be changed later, as an initialiser
or an invariant is, but it keeps its place and its identity, and what is new comes after it. Only the
removal of a process takes a member away.

* `ListContinues`: a list that goes on where another one ended; what is found in it by a test.
* `Block.Continues`, `Template.Continues`, `Document.Continues`: the same for all lists of an entity.
* `Store.Continues`, `Step.continues`, `Run.continues`: blocks and templates, step by step.
* `documents_addTemplate` and so on: a relation between each document and what an operation makes of it.
* `Sound.documentsContinue_perform`, `Run.document_continues`: documents, operation by operation.
-/

namespace TimedNet

/-! ## Lists -/

section Lists

variable {α : Type} {R : α → α → Prop} {l m : List α}

/-- Each member of the first list has a place, and at this place the second list has what the member has
    become. -/
def ListContinues (R : α → α → Prop) (l m : List α) : Prop :=
  ∀ (i : Nat) (a : α), l[i]? = some a → ∃ b, m[i]? = some b ∧ R a b

theorem ListContinues.refl (hR : ∀ a, R a a) (l : List α) : ListContinues R l l :=
  fun _ a ha => ⟨a, ha, hR a⟩

theorem ListContinues.trans {n : List α} (h : ListContinues R l m) (h' : ListContinues R m n)
    (hR : ∀ {a b c}, R a b → R b c → R a c) : ListContinues R l n := by
  intro i a ha
  obtain ⟨b, hb, hab⟩ := h i a ha
  obtain ⟨c, hc, hbc⟩ := h' i b hb
  exact ⟨c, hc, hR hab hbc⟩

theorem ListContinues.of_extends (hR : ∀ a, R a a) (h : l <+: m) : ListContinues R l m := by
  obtain ⟨n, rfl⟩ := h
  intro i a ha
  have hi := (List.getElem?_eq_some_iff.mp ha).1
  rw [List.getElem?_append_left hi]
  exact ⟨a, ha, hR a⟩

theorem continues_concat (hR : ∀ a, R a a) (l : List α) (a : α) :
    ListContinues R l (l ++ [a]) :=
  .of_extends hR (List.prefix_append l [a])

theorem continues_modify (hR : ∀ a, R a a) {i : Nat} {f : α → α} (hf : ∀ a, l[i]? = some a → R a (f a)) :
    ListContinues R l (l.modify i f) := by
  intro j a ha
  rw [List.getElem?_modify, ha]
  by_cases hij : i = j
  · subst hij
    exact ⟨f a, by simp, hf a ha⟩
  · exact ⟨a, by simp [hij], hR a⟩

/-- The last member stays at its place when something else it has become stands there. -/
theorem continues_dropLast (hR : ∀ a, R a a) {a b : α} (ha : l.getLast? = some a) (hab : R a b) :
    ListContinues R l (l.dropLast ++ [b]) := by
  obtain ⟨before, rfl⟩ := List.getLast?_eq_some_iff.mp ha
  rw [List.dropLast_concat]
  intro i c hc
  rw [List.getElem?_append] at hc ⊢
  by_cases hi : i < before.length
  · rw [if_pos hi] at hc ⊢
    exact ⟨c, hc, hR c⟩
  · rw [if_neg hi] at hc ⊢
    rw [List.getElem?_singleton] at hc ⊢
    by_cases hzero : i - before.length = 0
    · rw [if_pos hzero] at hc ⊢
      obtain rfl := Option.some.inj hc
      exact ⟨b, rfl, hab⟩
    · rw [if_neg hzero] at hc
      exact absurd hc (Option.some_ne_none c).symm

/-- A member that was found by a test is found where it was, if no test has another outcome. -/
theorem ListContinues.findIdx? {p q : α → Bool} (h : ListContinues R l m)
    (hpq : ∀ a ∈ l, ∀ b, R a b → q b = p a) {i : Nat} (hi : l.findIdx? p = some i) :
    m.findIdx? q = some i := by
  rw [List.findIdx?_eq_some_iff_getElem] at hi ⊢
  obtain ⟨hlt, hfound, hfirst⟩ := hi
  obtain ⟨b, hb, hab⟩ := h i l[i] (List.getElem?_eq_getElem hlt)
  obtain ⟨hlt', rfl⟩ := List.getElem?_eq_some_iff.mp hb
  refine ⟨hlt', ?_, fun j hj => ?_⟩
  · rw [hpq _ (List.getElem_mem hlt) _ hab]
    exact hfound
  · have hjl : j < l.length := Nat.lt_trans hj hlt
    obtain ⟨c, hc, hac⟩ := h j l[j] (List.getElem?_eq_getElem hjl)
    obtain ⟨_, rfl⟩ := List.getElem?_eq_some_iff.mp hc
    rw [hpq _ (List.getElem_mem hjl) _ hac]
    exact hfirst j hj

theorem find?_of_extends {p q : α → Bool} (h : l <+: m) (hpq : ∀ a ∈ l, q a = p a) {a : α}
    (ha : l.find? p = some a) : m.find? q = some a := by
  obtain ⟨n, rfl⟩ := h
  have hsame : l.find? q = l.find? p := List.find?_congr hpq
  rw [List.find?_append, hsame, ha]
  rfl

end Lists

/-! ## Entities -/

/-- A variable keeps its symbol. -/
structure Variable.Continues (v w : Variable) : Prop where
  symbol : w.symbol = v.symbol

/-- A function keeps its symbol and its local variables. -/
structure Function.Continues (f g : Function) : Prop where
  symbol : g.symbol = f.symbol
  locals : ListContinues Variable.Continues f.locals g.locals

/-- A block keeps its frame and all that it declares. An entry of signals keeps its place, and all that is
    in it may be assigned later. -/
structure Block.Continues (b c : Block) : Prop where
  frame : c.frame = b.frame
  vars : ListContinues Variable.Continues b.vars c.vars
  functions : ListContinues Function.Continues b.functions c.functions
  progress : b.progress <+: c.progress
  gantt : b.gantt <+: c.gantt
  io : b.io.length ≤ c.io.length

/-- A location keeps its symbol and its number. -/
structure Location.Continues (l m : Location) : Prop where
  symbol : m.symbol = l.symbol
  nr : m.nr = l.nr

/-- An edge keeps its number and its ends. -/
structure Edge.Continues (e f : Edge) : Prop where
  nr : f.nr = e.nr
  source : f.source = e.source
  target : f.target = e.target

/-- An arena keeps its number and its entries. -/
structure Arena.Continues {α : Type} (R : α → α → Prop) (a b : Arena α) : Prop where
  id : b.id = a.id
  items : ListContinues R a.items b.items

/-- A template keeps all that it is made of. -/
structure Template.Continues (t u : Template) : Prop where
  locations : t.locations.Continues Location.Continues u.locations
  branchpoints : t.branchpoints.Continues Eq u.branchpoints
  edges : ListContinues Edge.Continues t.edges u.edges
  lines : t.lines.Continues Eq u.lines
  messages : t.messages <+: u.messages
  conditions : t.conditions <+: u.conditions
  updates : t.updates <+: u.updates
  dynamicEvals : t.dynamicEvals <+: u.dynamicEvals

/-- A declaration of channel priorities keeps its channels. -/
structure ChanPriority.Continues (p q : ChanPriority) : Prop where
  head : q.head = p.head
  tail : p.tail <+: q.tail

/-- A document keeps all that it lists. -/
structure Document.Continues (d e : Document) : Prop where
  templates : d.templates <+: e.templates
  dynamicTemplates : d.dynamicTemplates <+: e.dynamicTemplates
  dynamicByName : d.dynamicByName <+: e.dynamicByName
  instances : d.instances <+: e.instances
  lscInstances : d.lscInstances <+: e.lscInstances
  processes : d.processes <+: e.processes
  chanPriorities : ListContinues ChanPriority.Continues d.chanPriorities e.chanPriorities
  queries : d.queries <+: e.queries
  strings : d.strings <+: e.strings
  libraries : d.libraries <+: e.libraries

/-! ### What continues itself, and what continues what continues it -/

theorem Variable.Continues.refl (v : Variable) : v.Continues v := ⟨rfl⟩

theorem Variable.Continues.trans {v w x : Variable} (h : v.Continues w) (h' : w.Continues x) :
    v.Continues x :=
  ⟨h'.symbol.trans h.symbol⟩

theorem Function.Continues.refl (f : Function) : f.Continues f := ⟨rfl, .refl Variable.Continues.refl _⟩

theorem Function.Continues.trans {f g k : Function} (h : f.Continues g) (h' : g.Continues k) :
    f.Continues k :=
  ⟨h'.symbol.trans h.symbol, h.locals.trans h'.locals Variable.Continues.trans⟩

theorem Block.Continues.refl (b : Block) : b.Continues b where
  frame := rfl
  vars := .refl Variable.Continues.refl _
  functions := .refl Function.Continues.refl _
  progress := List.prefix_rfl
  gantt := List.prefix_rfl
  io := Nat.le_refl _

theorem Block.Continues.trans {b c d : Block} (h : b.Continues c) (h' : c.Continues d) :
    b.Continues d where
  frame := h'.frame.trans h.frame
  vars := h.vars.trans h'.vars Variable.Continues.trans
  functions := h.functions.trans h'.functions Function.Continues.trans
  progress := h.progress.trans h'.progress
  gantt := h.gantt.trans h'.gantt
  io := h.io.trans h'.io

theorem Location.Continues.refl (l : Location) : l.Continues l := ⟨rfl, rfl⟩

theorem Location.Continues.trans {l m n : Location} (h : l.Continues m) (h' : m.Continues n) :
    l.Continues n :=
  ⟨h'.symbol.trans h.symbol, h'.nr.trans h.nr⟩

theorem Edge.Continues.refl (e : Edge) : e.Continues e := ⟨rfl, rfl, rfl⟩

theorem Edge.Continues.trans {e f g : Edge} (h : e.Continues f) (h' : f.Continues g) : e.Continues g :=
  ⟨h'.nr.trans h.nr, h'.source.trans h.source, h'.target.trans h.target⟩

theorem Arena.Continues.refl {α : Type} {R : α → α → Prop} (hR : ∀ a, R a a) (a : Arena α) :
    a.Continues R a :=
  ⟨rfl, .refl hR _⟩

theorem Arena.Continues.trans {α : Type} {R : α → α → Prop} {a b c : Arena α} (h : a.Continues R b)
    (h' : b.Continues R c) (hR : ∀ {a b c}, R a b → R b c → R a c) : a.Continues R c :=
  ⟨h'.id.trans h.id, h.items.trans h'.items hR⟩

theorem Template.Continues.refl (t : Template) : t.Continues t where
  locations := .refl Location.Continues.refl _
  branchpoints := .refl Eq.refl _
  edges := .refl Edge.Continues.refl _
  lines := .refl Eq.refl _
  messages := List.prefix_rfl
  conditions := List.prefix_rfl
  updates := List.prefix_rfl
  dynamicEvals := List.prefix_rfl

theorem Template.Continues.trans {t u v : Template} (h : t.Continues u) (h' : u.Continues v) :
    t.Continues v where
  locations := h.locations.trans h'.locations Location.Continues.trans
  branchpoints := h.branchpoints.trans h'.branchpoints Eq.trans
  edges := h.edges.trans h'.edges Edge.Continues.trans
  lines := h.lines.trans h'.lines Eq.trans
  messages := h.messages.trans h'.messages
  conditions := h.conditions.trans h'.conditions
  updates := h.updates.trans h'.updates
  dynamicEvals := h.dynamicEvals.trans h'.dynamicEvals

theorem ChanPriority.Continues.refl (p : ChanPriority) : p.Continues p := ⟨rfl, List.prefix_rfl⟩

theorem ChanPriority.Continues.trans {p q r : ChanPriority} (h : p.Continues q) (h' : q.Continues r) :
    p.Continues r :=
  ⟨h'.head.trans h.head, h.tail.trans h'.tail⟩

theorem Document.Continues.refl (d : Document) : d.Continues d where
  templates := List.prefix_rfl
  dynamicTemplates := List.prefix_rfl
  dynamicByName := List.prefix_rfl
  instances := List.prefix_rfl
  lscInstances := List.prefix_rfl
  processes := List.prefix_rfl
  chanPriorities := .refl ChanPriority.Continues.refl _
  queries := List.prefix_rfl
  strings := List.prefix_rfl
  libraries := List.prefix_rfl

theorem Document.Continues.trans {d e f : Document} (h : d.Continues e) (h' : e.Continues f) :
    d.Continues f where
  templates := h.templates.trans h'.templates
  dynamicTemplates := h.dynamicTemplates.trans h'.dynamicTemplates
  dynamicByName := h.dynamicByName.trans h'.dynamicByName
  instances := h.instances.trans h'.instances
  lscInstances := h.lscInstances.trans h'.lscInstances
  processes := h.processes.trans h'.processes
  chanPriorities := h.chanPriorities.trans h'.chanPriorities ChanPriority.Continues.trans
  queries := h.queries.trans h'.queries
  strings := h.strings.trans h'.strings
  libraries := h.libraries.trans h'.libraries

/-! ## Edits -/

section Edits

variable {s : Store}

theorem Function.Edit.continues {r : FunctionRef} {f g : Function} (h : f.Edit s r g) :
    f.Continues g := by
  cases h with
  | body | effects => exact ⟨rfl, .refl Variable.Continues.refl _⟩
  | addLocal v _ _ => exact ⟨rfl, continues_concat Variable.Continues.refl _ v⟩
  | initialiser index init _ => exact ⟨rfl, continues_modify Variable.Continues.refl fun _ _ => ⟨rfl⟩⟩
  | fill _ hnew hsymbol _ _ =>
    -- There was nothing to keep.
    refine ⟨hsymbol, fun i v hv => ?_⟩
    rw [hnew] at hv
    exact absurd hv (by simp)

/-- **A changed block has all that it had.** -/
theorem Block.Edit.continues {r : BlockId} {b c : Block} (h : b.Edit s r c) : b.Continues c := by
  cases h with
  | addVariable v _ _ _ =>
    exact { Continues.refl b with vars := continues_concat Variable.Continues.refl _ v }
  | initialiser index init _ =>
    exact { Continues.refl b with vars := continues_modify Variable.Continues.refl fun _ _ => ⟨rfl⟩ }
  | addFunction symbol _ _ =>
    exact { Continues.refl b with functions := continues_concat Function.Continues.refl _ _ }
  | function index g hg =>
    exact { Continues.refl b with
      functions := continues_modify Function.Continues.refl fun f hf => (hg f hf).continues }
  | addProgress p _ => exact { Continues.refl b with progress := List.prefix_append _ _ }
  | addGantt g _ => exact { Continues.refl b with gantt := List.prefix_append _ _ }
  | newIODecl => exact { Continues.refl b with io := List.length_append ▸ Nat.le_add_right _ _ }
  | setIODecl index d _ => exact { Continues.refl b with io := Nat.le_of_eq List.length_set.symm }

/-- **A changed template has all that it had.** -/
theorem Template.Edit.continues {r : TemplateId} {a : Template.Aspect} {t u : Template}
    (h : t.Edit s r a u) : t.Continues u := by
  cases h with
  | addLocation l _ _ _ _ =>
    exact { Continues.refl t with locations := ⟨rfl, continues_concat Location.Continues.refl _ l⟩ }
  | addBranchpoint b _ _ _ =>
    exact { Continues.refl t with branchpoints := ⟨rfl, continues_concat Eq.refl _ b⟩ }
  | addEdge e _ _ _ _ =>
    exact { Continues.refl t with edges := continues_concat Edge.Continues.refl _ e }
  | addLine l _ _ _ _ _ =>
    exact { Continues.refl t with lines := ⟨rfl, continues_concat Eq.refl _ l⟩ }
  | addMessage m _ _ _ _ => exact { Continues.refl t with messages := List.prefix_append _ _ }
  | addCondition c _ _ _ => exact { Continues.refl t with conditions := List.prefix_append _ _ }
  | addUpdate x _ _ _ => exact { Continues.refl t with updates := List.prefix_append _ _ }
  | addDynamicEval term _ => exact { Continues.refl t with dynamicEvals := List.prefix_append _ _ }
  | editLocation index f hkeeps _ =>
    have hitems := continues_modify Location.Continues.refl (l := t.locations.items) (i := index) (f := f)
      fun l _ => ⟨(hkeeps l).1, (hkeeps l).2⟩
    exact { Continues.refl t with locations := ⟨rfl, hitems⟩ }
  | editEdge index f hkeeps _ =>
    refine { Continues.refl t with edges := continues_modify Edge.Continues.refl fun e _ => ?_ }
    obtain ⟨hsource, htarget, hnr⟩ := hkeeps e
    exact ⟨hnr, hsource, htarget⟩
  | _ => exact { Continues.refl t with }

end Edits

namespace Store

variable {s s' : Store}

/-! ## Blocks and templates -/

/-- All blocks and templates have what they had. -/
structure Continues (s s' : Store) : Prop where
  blocks : s.blocks.Keeps Block.Continues s'.blocks
  templates : s.templates.Keeps Template.Continues s'.templates

theorem Continues.refl (s : Store) : s.Continues s :=
  ⟨.refl Block.Continues.refl _, .refl Template.Continues.refl _⟩

theorem Continues.trans {s'' : Store} (h : s.Continues s') (h' : s'.Continues s'') :
    s.Continues s'' :=
  ⟨h.blocks.trans h'.blocks Block.Continues.trans,
    h.templates.trans h'.templates Template.Continues.trans⟩

/-- **No step takes anything from a block or a template.** -/
theorem Step.continues {w : Write} (hstep : s.Step w s') : s.Continues s' := by
  cases hstep with
  | block parent _ | document lineTable log _ _ =>
    exact { Continues.refl s with blocks := Table.keeps_push Block.Continues.refl _ _ }
  | editBlock r f hf =>
    exact { Continues.refl s with
      blocks := Table.keeps_modify Block.Continues.refl fun hr => (hf hr).continues }
  | newTemplate symbol parameters globals log style _ _ _ _ _ =>
    exact
      { blocks := Table.keeps_push Block.Continues.refl _ _
        templates := Table.keeps_push Template.Continues.refl _ _ }
  | editTemplate r _ f hf =>
    exact { Continues.refl s with
      templates := Table.keeps_modify Template.Continues.refl fun hr => (hf hr).continues }
  | aside s' ha =>
    exact
      { blocks := ha.blocks ▸ .refl Block.Continues.refl _
        templates := ha.templates ▸ .refl Template.Continues.refl _ }
  | copy document _ =>
    exact
      { blocks := Table.keeps_pushAll Block.Continues.refl _ _
        templates := Table.keeps_pushAll Template.Continues.refl _ _ }
  | _ => exact { Continues.refl s with }

theorem Path.continues {P : Write → Prop} (hpath : Path P s s') : s.Continues s' := by
  induction hpath with
  | refl => exact .refl s
  | step _ _ hstep ih => exact ih.trans hstep.continues

theorem Run.continues {condition : Store → Operation → Prop} (hrun : Run condition s s')
    (h : s.Sound) : s.Continues s' := by
  induction hrun with
  | refl => exact .refl s
  | step run op hadmissible _ ih =>
    exact ih.trans ((run.sound h).path_perform hadmissible).continues

/-! ## Documents -/

section Documents

variable {R : Document → Document → Prop}

/-- Documents keep a relation that each has to itself and the changed one to what it becomes. -/
theorem documents_modifyDocument (hR : ∀ x, R x x) {d : DocumentId} {f : Document → Document}
    (hf : R (s.document d) (f (s.document d))) : s.documents.Keeps R (s.modifyDocument d f).documents :=
  Table.keeps_modify hR fun _ => hf

theorem documents_addTemplate (hR : ∀ x, R x x)
    (hadd : ∀ x t, R x { x with templates := x.templates ++ [t] }) {d : DocumentId} {name : String}
    {parameters : List SymbolId} {span : Span} {style : Style} :
    s.documents.Keeps R (s.addTemplate d name parameters span style).1.documents := by
  unfold addTemplate
  dsimp only
  rcases s.declare_cases (s.globalFrame d)
    { name, type := templateType style.isTA, span } with heq | ⟨_, heq⟩ <;> rw [heq]
  · exact .refl hR _
  · exact Table.keeps_modify hR fun _ => hadd _ _

theorem documents_addDynamicTemplate (hR : ∀ x, R x x)
    (hadd : ∀ x name t, Ordered.get? x.dynamicByName name = none → R x
      { x with
        dynamicTemplates := x.dynamicTemplates ++ [t]
        dynamicByName := Ordered.put x.dynamicByName name t }) {d : DocumentId}
    {name : String} {parameters : List SymbolId} {span : Span} :
    s.documents.Keeps R (s.addDynamicTemplate d name parameters span).1.documents := by
  unfold addDynamicTemplate
  dsimp only
  split
  · split
    · exact .refl hR _
    · exact .refl hR _
  · next hfind =>
    rcases s.declare_cases (s.globalFrame d)
      { name, type := templateType true, span } with heq | ⟨_, heq⟩ <;> rw [heq]
    · exact .refl hR _
    · exact Table.keeps_modify hR fun _ => hadd _ _ _ hfind

theorem documents_instantiate (hR : ∀ x, R x x) {enlist : InstanceId → Document → Document}
    (henlist : ∀ i x, R x (enlist i x)) {d : DocumentId} {name : String} {base : InstanceId}
    {parameters : List SymbolId} {arguments : List (Term SymbolId)} {span : Span} :
    s.documents.Keeps R (s.instantiate d name base parameters arguments span enlist).1.documents := by
  unfold instantiate
  rcases s.bind_cases base parameters arguments with heq | ⟨b, _, _, heq⟩ <;> rw [heq]
  · exact .refl hR _
  · dsimp only
    rcases s.declare_cases (s.globalFrame d)
      { name, type := "instance", span, subject := .inst s.insts.next } with heq | ⟨_, heq⟩ <;> rw [heq]
    · exact .refl hR _
    · exact Table.keeps_modify hR fun _ => henlist _ _

theorem documents_addProcess (hR : ∀ x, R x x)
    (hadd : ∀ x i, R x { x with processes := x.processes ++ [i] }) {d : DocumentId} {i : InstanceId}
    {span : Span} : s.documents.Keeps R (s.addProcess d i span).1.documents := by
  unfold addProcess
  dsimp only
  split
  · exact .refl hR _
  · exact Table.keeps_modify hR fun _ => hadd _ _

theorem documents_addChanPriority (hR : ∀ x, R x x)
    (hedit : ∀ x : Document, ∀ last ∈ x.chanPriorities.getLast?, ∀ separator chan,
      R x { x with chanPriorities := x.chanPriorities.dropLast ++ [last.add separator chan] })
    {d : DocumentId} {separator : String} {chan : Term SymbolId} :
    s.documents.Keeps R (s.addChanPriority d separator chan).1.documents := by
  unfold addChanPriority
  dsimp only
  split
  · exact .refl hR _
  · next last hlast => exact documents_modifyDocument hR (hedit _ last hlast separator chan)

theorem documents_internString (hR : ∀ x, R x x)
    (hadd : ∀ x text, R x { x with strings := x.strings ++ [text] }) {d : DocumentId} {text : String} :
    s.documents.Keeps R (s.internString d text).1.documents := by
  unfold internString
  dsimp only
  split
  · exact .refl hR _
  · exact documents_modifyDocument hR (hadd _ _)

/-- An operation that writes no document leaves all of them as they are. -/
theorem Sound.documents_perform (h : s.Sound) {op : Operation} (hop : op.Admissible s)
    (hR : ∀ x, R x x) (hwrites : ∀ d, ∀ w ∈ op.writes s, .document d ∉ w.targets) :
    s.documents.Keeps R (s.perform op).documents := by
  have hpath := h.path_perform hop
  intro d hd
  refine ⟨(hpath.grows.documents d hd).1, ?_⟩
  have heq : (s.perform op).documents.get d = s.documents.get d :=
    hpath.same (e := .document d) hd (hwrites d)
  rw [heq]
  exact hR _

end Documents

/-- All documents have what they had. -/
abbrev DocumentsContinue (s s' : Store) : Prop := s.documents.Keeps Document.Continues s'.documents

theorem documentsContinue_modifyDocument {d : DocumentId} {f : Document → Document}
    (hf : (s.document d).Continues (f (s.document d))) : s.DocumentsContinue (s.modifyDocument d f) :=
  documents_modifyDocument Document.Continues.refl hf

theorem DocumentsContinue.trans {s'' : Store} (h : s.DocumentsContinue s')
    (h' : s'.DocumentsContinue s'') : s.DocumentsContinue s'' :=
  Table.Keeps.trans h h' Document.Continues.trans

theorem documentsContinue_markPriorities (d : DocumentId) : s.DocumentsContinue (s.markPriorities d) :=
  documentsContinue_modifyDocument { Document.Continues.refl _ with }

/-- **No operation takes anything from a document but the removal of a process.** -/
theorem Sound.documentsContinue_perform (h : s.Sound) {op : Operation} (hop : op.Admissible s)
    (hkeep : ∀ d i, op ≠ .removeProcess d i) : s.DocumentsContinue (s.perform op) := by
  cases op with
  | addTemplate =>
    refine documents_addTemplate Document.Continues.refl fun x _ => ?_
    exact { Document.Continues.refl x with templates := List.prefix_append _ _ }
  | addDynamicTemplate =>
    refine documents_addDynamicTemplate Document.Continues.refl fun x name t hnew => ?_
    -- The name is new, so it is entered after those that are there.
    have hentered := Ordered.put_of_not_mem (b := t) (Ordered.get?_eq_none_iff.mp hnew)
    exact { Document.Continues.refl x with
      dynamicTemplates := List.prefix_append _ _
      dynamicByName := ⟨_, hentered.symm⟩ }
  | addInstance =>
    refine documents_instantiate Document.Continues.refl fun _ x => ?_
    exact { Document.Continues.refl x with instances := List.prefix_append _ _ }
  | addLscInstance =>
    refine documents_instantiate Document.Continues.refl fun _ x => ?_
    exact { Document.Continues.refl x with lscInstances := List.prefix_append _ _ }
  | addProcess =>
    refine documents_addProcess Document.Continues.refl fun x _ => ?_
    exact { Document.Continues.refl x with processes := List.prefix_append _ _ }
  | removeProcess d i => exact absurd rfl (hkeep d i)
  | beginChanPriority d chan =>
    exact (documentsContinue_markPriorities d).trans (documentsContinue_modifyDocument
      { Document.Continues.refl _ with
        chanPriorities := continues_concat ChanPriority.Continues.refl _ _ })
  | addChanPriority =>
    refine documents_addChanPriority Document.Continues.refl fun x last hlast separator chan => ?_
    exact { Document.Continues.refl x with
      chanPriorities := continues_dropLast ChanPriority.Continues.refl hlast
        ⟨rfl, List.prefix_append _ _⟩ }
  | setProcPriority d name priority =>
    exact (documentsContinue_markPriorities d).trans
      (documentsContinue_modifyDocument { Document.Continues.refl _ with })
  | recordFeature d | setOptions d | assignDocument d =>
    exact documentsContinue_modifyDocument { Document.Continues.refl _ with }
  | addQuery d q =>
    exact documentsContinue_modifyDocument
      { Document.Continues.refl _ with queries := List.prefix_append _ _ }
  | addLibrary d library =>
    exact documentsContinue_modifyDocument
      { Document.Continues.refl _ with libraries := List.prefix_append _ _ }
  | addString d text =>
    exact documentsContinue_modifyDocument
      { Document.Continues.refl _ with strings := List.prefix_append _ _ }
  | internString =>
    refine documents_internString Document.Continues.refl fun x _ => ?_
    exact { Document.Continues.refl x with strings := List.prefix_append _ _ }
  | _ =>
    exact h.documents_perform hop Document.Continues.refl (by simp [Operation.writes, Write.targets])

/-- **A document keeps all that it lists**, as long as no process is taken from it. -/
theorem Run.document_continues {d : DocumentId}
    (hrun : Run (fun _ op => ∀ i, op ≠ .removeProcess d i) s s') (h : s.Sound) (hd : d ∈ s.documents) :
    (s.document d).Continues (s'.document d) := by
  induction hrun with
  | refl => exact .refl _
  | @step u run op hadmissible hkeep ih =>
    have hu := run.sound h
    have hdu : d ∈ u.documents := (run.grows h).documents d hd |>.1
    refine ih.trans ?_
    by_cases hremove : ∃ c i, op = .removeProcess c i
    · obtain ⟨c, i, rfl⟩ := hremove
      have hne : c ≠ d := fun heq => hkeep i (heq ▸ rfl)
      have heq : (u.perform (.removeProcess c i)).document d = u.document d :=
        Table.get_modify_of_ne _ hne
      rw [heq]
      exact .refl _
    · exact (hu.documentsContinue_perform hadmissible (fun c i heq => hremove ⟨c, i, heq⟩) d hdu).2

end Store

end TimedNet
