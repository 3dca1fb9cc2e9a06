import TimedNet.Proofs.Run.Bodies
import TimedNet.Proofs.Run.Continuation
import TimedNet.Proofs.Scope.Steps
import TimedNet.Proofs.Separation.Foreign

/-!
# `TimedNet.Proofs.Run.AppendOnly` — handles and names keep their meaning

Since lists get longer at their end only, a handle leads where it led, and the first match for a name
stays the first. Both hold for whatever a program does to a document, failing or not; only the process
that it removes is gone, and the others keep their order.

* `Template.KeepsHandles`: what a handle leads to.
* `Store.KeepsNames`: what is found by a name.
* `Store.RemovesProcess`: the one operation that takes something away.
* `Store.append_only`: all of it for every run.
-/

namespace TimedNet

/-! ## Handles -/

/-- What a handle led to is what it leads to, or what this has become. -/
theorem Arena.Continues.get {α : Type} {R : α → α → Prop} {a b : Arena α} (h : a.Continues R b)
    {handle : Handle} {item : α} (hget : a.get handle = .ok item) :
    ∃ later, b.get handle = .ok later ∧ R item later := by
  obtain ⟨i, hindex, hitem⟩ := exists_getElem?_of_get hget
  obtain ⟨later, hlater, hR⟩ := h.items i item hitem
  have harena : handle.arena = b.id := by
    rw [h.id]
    exact arena_of_owns (owns_iff.mpr ⟨item, hget⟩)
  refine ⟨later, ?_, hR⟩
  have hat : b.at? handle.index = some later := by
    rw [hindex]
    exact hlater
  rw [Arena.get, if_pos harena, hat]

/-- The handles of a template keep their meaning: a location may have got another invariant and other
    rates, a branchpoint and a line are as they were. -/
structure Template.KeepsHandles (t u : Template) : Prop where
  locations : ∀ h l, t.locations.get h = .ok l → ∃ m, u.locations.get h = .ok m ∧ l.Continues m
  branchpoints : ∀ h b, t.branchpoints.get h = .ok b → u.branchpoints.get h = .ok b
  lines : ∀ h l, t.lines.get h = .ok l → u.lines.get h = .ok l

theorem Template.Continues.keepsHandles {t u : Template} (h : t.Continues u) : t.KeepsHandles u where
  locations _ _ hl := h.locations.get hl
  branchpoints handle b hb := by
    obtain ⟨c, hc, rfl⟩ := h.branchpoints.get hb
    exact hc
  lines handle l hl := by
    obtain ⟨m, hm, rfl⟩ := h.lines.get hl
    exact hm

namespace Store

variable {s s' : Store} {d : DocumentId}

/-! ## Names -/

/-- Names keep their meaning: a symbol that a frame has under a name, and what a document or a block
    has under a name, is what is found under the name later. -/
structure KeepsNames (s s' : Store) (d : DocumentId) : Prop where
  indexOf : ∀ f ∈ s.frames, ∀ name i, s.indexOf? (s.frame f) name = some i →
    s'.indexOf? (s'.frame f) name = some i
  resolve : ∀ f ∈ s.frames, ∀ name x, s.lookup (s.frame f) name = some x →
    s'.resolve f name = some x
  findTemplate : ∀ name t, s.findTemplate? d name = some t → s'.findTemplate? d name = some t
  findDynamicTemplate : ∀ name t, s.findDynamicTemplate? d name = some t →
    s'.findDynamicTemplate? d name = some t
  findProcess : ∀ name i, s.findProcess? d name = some i → s'.findProcess? d name = some i
  findVariable : ∀ b ∈ s.blocks, ∀ name v, s.findVariable? b name = some v →
    s'.findVariable? b name = some v
  findFunction : ∀ b ∈ s.blocks, ∀ name f, s.findFunction? b name = some f →
    s'.findFunction? b name = some f

theorem Grows.instName_eq (hg : s.Grows s') (h : s.Sound) {i : InstanceId} (hi : i ∈ s.insts) :
    s'.instName i = s.instName i := by
  have hsymbol : (s'.inst i).symbol = (s.inst i).symbol := (hg.insts i hi).2.symbol
  rw [instName, hsymbol]
  exact hg.name_eq ((h.insts i hi).symbols _ (by simp [Instance.symbols]))

theorem Grows.templateName_eq (hg : s.Grows s') (h : s.Sound) {t : TemplateId} (ht : t ∈ s.templates) :
    s'.templateName t = s.templateName t := by
  rw [templateName, h.templateSymbol_eq hg ht]
  exact hg.name_eq (h.templates t ht).own.mem

/-- **Names keep their meaning where lists go on**, because the first match stays the first. -/
theorem keepsNames (h : s.Sound) (hd : d ∈ s.documents) (hg : s.Grows s') (hlists : s.Continues s')
    (hdocument : (s.document d).Continues (s'.document d)) : s.KeepsNames s' d := by
  have hframe : ∀ f ∈ s.frames, (s.frame f).symbols <+: (s'.frame f).symbols :=
    fun f hf => (hg.frames f hf).2.symbols
  have hnames : ∀ f ∈ s.frames, ∀ (name : String), ∀ x ∈ (s.frame f).symbols,
      (s'.name x == name) = (s.name x == name) := by
    intro f hf name x hx
    rw [hg.name_eq ((h.frames f hf).symbols x hx)]
  have hlists' : ∀ b ∈ s.blocks, (s.block b).Continues (s'.block b) := fun b hb => (hlists.blocks b hb).2
  have hblock := fun b hb => Block.hasAll_symbols.mp (h.blocks b hb).symbols
  have htemplate : ∀ t ∈ (s.document d).allTemplates, ∀ (name : String),
      (s'.templateName t == name) = (s.templateName t == name) := by
    intro t ht name
    rw [hg.templateName_eq h ((h.documents d hd).templates t ht).1]
  refine
    { indexOf := fun f hf name i hi => ?_
      resolve := fun f hf name x hx => ?_
      findTemplate := fun name t ht => ?_
      findDynamicTemplate := fun name t ht => ?_
      findProcess := fun name i hi => ?_
      findVariable := fun b hb name v hv => ?_
      findFunction := fun b hb name f hf => ?_ }
  · refine (ListContinues.of_extends Eq.refl (hframe f hf)).findIdx? ?_ hi
    rintro x hx y rfl
    exact hnames f hf name x hx
  · have hlookup : s'.lookup (s'.frame f) name = some x :=
      find?_of_extends (hframe f hf) (hnames f hf name) hx
    rw [Store.resolve, hlookup]
  · exact find?_of_extends hdocument.templates
      (fun u hu => htemplate u (List.mem_append_left _ hu) name) ht
  · obtain ⟨entry, hentry, rfl⟩ := Option.map_eq_some_iff.mp ht
    exact Option.map_eq_some_iff.mpr
      ⟨entry, find?_of_extends hdocument.dynamicByName (fun _ _ => rfl) hentry, rfl⟩
  · refine find?_of_extends hdocument.processes (fun j hj => ?_) hi
    rw [hg.instName_eq h ((h.documents d hd).processes j hj).1]
  · obtain ⟨i, hi, rfl⟩ := Option.map_eq_some_iff.mp hv
    refine Option.map_eq_some_iff.mpr ⟨i, (hlists' b hb).vars.findIdx? ?_ hi, rfl⟩
    intro v hv w hw
    have hmem : v.symbol ∈ s.symbols := (Variable.hasAll_symbols.mp ((hblock b hb).1 v hv)).1
    rw [hw.symbol, hg.name_eq hmem]
  · obtain ⟨i, hi, rfl⟩ := Option.map_eq_some_iff.mp hf
    refine Option.map_eq_some_iff.mpr ⟨i, (hlists' b hb).functions.findIdx? ?_ hi, rfl⟩
    intro g hg' k hk
    have hmem : g.symbol ∈ s.symbols := (Function.hasAll_symbols.mp ((hblock b hb).2.1 g hg')).1
    rw [hk.symbol, hg.name_eq hmem]

/-! ## Removing a process -/

/-- What the removal of a process does: it says whether the process was there, takes it out of the
    list, in which the others stay in order, and leaves everything else. -/
structure RemovesProcess (s : Store) (d : DocumentId) (i : InstanceId) : Prop where
  answer : (s.removeProcess d i).2 = true ↔ i ∈ (s.document d).processes
  present : ∀ before after, (s.document d).processes = before ++ i :: after →
    ((s.removeProcess d i).1.document d).processes = before ++ after
  absent : i ∉ ((s.removeProcess d i).1.document d).processes
  unchanged : i ∉ (s.document d).processes →
    ((s.removeProcess d i).1.document d).processes = (s.document d).processes
  document : (s.removeProcess d i).1.document d
    = { s.document d with processes := ((s.removeProcess d i).1.document d).processes }
  others : ∀ e, e ≠ .document d → s.Same (s.removeProcess d i).1 e

theorem removesProcess (hd : d ∈ s.documents) (honce : (s.document d).processes.Nodup)
    (i : InstanceId) : s.RemovesProcess d i := by
  have hdocument : (s.removeProcess d i).1.document d
      = { s.document d with processes := (s.document d).processes.erase i } := Table.get_modify_self _ hd
  have hprocesses : ((s.removeProcess d i).1.document d).processes
      = (s.document d).processes.erase i := by
    rw [hdocument]
  refine
    { answer := List.contains_iff_mem
      present := fun before after heq => ?_
      absent := ?_
      unchanged := fun hnot => ?_
      document := hdocument.trans (by rw [hprocesses])
      others := fun e he => ?_ }
  · have hbefore : i ∉ before := by
      rw [heq] at honce
      intro hmem
      exact List.disjoint_of_nodup_append honce hmem List.mem_cons_self
    rw [hprocesses, heq, List.erase_append_right _ hbefore, List.erase_cons_head]
  · rw [hprocesses]
    exact honce.not_mem_erase
  · rw [hprocesses, List.erase_of_not_mem hnot]
  · cases e with
    | document c => exact Table.get_modify_of_ne _ fun heq => he (heq ▸ rfl)
    | _ => rfl

/-! ## Every run -/

/-- All that was there is still there: entities with what makes them what they are, lists as the first
    part of longer ones, handles and names with their meaning. -/
structure AppendedTo (s s' : Store) (d : DocumentId) : Prop where
  grows : s.Grows s'
  document : (s.document d).Continues (s'.document d)
  lists : s.Continues s'
  handles : ∀ t ∈ s.templates, (s.template t).KeepsHandles (s'.template t)
  names : s.KeepsNames s' d

/-- **Construction is append-only.** Whatever a program does from a reachable store on, except that it
    removes a process of the document: the lists of the document, of all blocks and of all templates,
    and the contents of all frames, are afterwards what they were and more after it; handles lead to
    what they led to, and what was found by a name is found. Removing a process takes the one process
    out of its list. -/
theorem append_only {condition : Store → Operation → Prop} (hrun : Run condition {} s)
    (hd : d ∈ s.documents) :
    (∀ s', Run (fun _ op => ∀ i, op ≠ .removeProcess d i) s s' → s.AppendedTo s' d)
      ∧ ∀ i, s.RemovesProcess d i := by
  have h := hrun.sound sound_empty
  constructor
  · intro s' hlater
    have hgrows := hlater.grows h
    have hlists := hlater.continues h
    have hdocument := hlater.document_continues h hd
    exact
      { grows := hgrows
        document := hdocument
        lists := hlists
        handles := fun t ht => (hlists.templates t ht).2.keepsHandles
        names := keepsNames h hd hgrows hlists hdocument }
  · have honce := (h.documents d hd).listsOnce
    unfold Document.listed at honce
    exact removesProcess hd honce.of_append_right

/-- A template with a location, a variable, a process and a declaration of channel priorities. -/
def early : List Operation :=
  [.openDocument none none, .addTemplate ⟨0⟩ "T" [] {} {}, .addVariable ⟨0⟩ ⟨0⟩ "chan" "a" .empty {},
    .addProcess ⟨0⟩ ⟨0⟩ {}, .addLocation ⟨0⟩ "L" .empty .empty {},
    .beginChanPriority ⟨0⟩ (.identifier ⟨1⟩ {})]

/-- A template under a name that is taken, an initialiser for the variable, another variable, process
    and channel, and other expressions for the location. -/
def late : List Operation :=
  [.addTemplate ⟨0⟩ "T" [] {} {}, .setInitialiser (.ofBlock ⟨0⟩ 0) ⟨.built 0, .identifier ⟨0⟩ {}⟩,
    .addVariable ⟨0⟩ ⟨0⟩ "chan" "b" .empty {}, .addChanPriority ⟨0⟩ "<" (.identifier ⟨4⟩ {}),
    .addProcess ⟨0⟩ ⟨0⟩ {}, .assignLocation ⟨0⟩ 0 .empty ⟨.built 1, .identifier ⟨1⟩ {}⟩ .empty .empty]

/-- The store after the first part. -/
def built : Store := early.foldl perform {}

/-- The store after both parts. -/
def extended : Store := late.foldl perform built

/-- The second part leaves what the first one made; two processes have one name, and the first of them
    is found before and after it. -/
theorem append_only_second_process : Run (fun _ _ => True) {} built
    ∧ Run (fun _ op => ∀ i, op ≠ .removeProcess ⟨0⟩ i) built extended
    ∧ built.AppendedTo extended ⟨0⟩ ∧ built.RemovesProcess ⟨0⟩ ⟨1⟩
    ∧ (built.document ⟨0⟩).processes = [⟨1⟩] ∧ (extended.document ⟨0⟩).processes = [⟨1⟩, ⟨2⟩]
    ∧ extended.instName ⟨2⟩ = "T" ∧ extended.findProcess? ⟨0⟩ "T" = some ⟨1⟩ := by
  have hearly : ({} : Store).Performs (fun _ _ => True) early := by decide
  have hrun : Run (fun _ _ => True) {} built := Run.refl.performs hearly
  have hlate : built.Performs (fun _ op => ∀ i, op ≠ .removeProcess ⟨0⟩ i) late := by
    refine ⟨by decide, ?_, by decide, ?_, by decide, ?_, by decide, ?_, by decide, ?_, by decide, ?_,
      trivial⟩
    all_goals exact fun _ => Operation.noConfusion
  have hlater : Run (fun _ op => ∀ i, op ≠ .removeProcess ⟨0⟩ i) built extended :=
    Run.refl.performs hlate
  have happended := append_only hrun (d := ⟨0⟩) (by decide)
  have hnames := (happended.1 extended hlater).names
  exact ⟨hrun, hlater, happended.1 extended hlater, happended.2 ⟨1⟩, by decide, by decide, by decide,
    hnames.findProcess "T" ⟨1⟩ (by decide)⟩

end Store

end TimedNet
