import TimedNet.Proofs.Run.Reachable
import TimedNet.Proofs.Scope.Copy

/-!
# `TimedNet.Proofs.Scope.Names` — the names of templates are different

A template is listed under a symbol that was declared in the global frame, and declaring brings no
name into a frame that has it. So no two templates of a document have one name, whether static or
dynamic, unless a program adds symbols to frames itself.

* `Operation.DeclaresOnly`: the programs in question.
* `Step.nodup_names`: a step that adds no symbols by hand brings no name twice into a frame.
* `Store.GlobalNames`, `Step.named`, `Run.named`: names and templates of the global scopes.
* `GlobalNames.eq_of_templateName`, `GlobalNames.lookup_templateName`: look-ups by name.
-/

namespace TimedNet

/-- No symbol is added to a frame or to parameters by hand. -/
def Operation.DeclaresOnly (_ : Store) : Operation → Prop
  | .extendFrame .. | .extendParameters .. => False
  | _ => True

theorem Operation.DeclaresOnly.addsOnce {s : Store} {op : Operation} (h : op.DeclaresOnly s) :
    op.AddsOnce s := by
  cases op with
  | extendFrame | extendParameters => exact absurd h id
  | _ => trivial

/-- The same of a step. -/
def Write.DeclaresOnly : Write → Prop
  | .extend .. | .parameters .. => False
  | _ => True

theorem Write.DeclaresOnly.addsOnce {w : Write} (h : w.DeclaresOnly) (s : Store) : w.AddsOnce s := by
  cases w with
  | extend | parameters => exact absurd h id
  | _ => trivial

/-- Symbols are added by hand in two operations only. -/
theorem Operation.DeclaresOnly.of_mem_writes {s : Store} {op : Operation} (h : op.DeclaresOnly s)
    {w : Write} (hw : w ∈ op.writes s) : w.DeclaresOnly := by
  cases w with
  | extend | parameters =>
    cases op with
    | extendFrame | extendParameters => exact absurd h id
    | _ => simp [Operation.writes] at hw
  | _ => trivial

namespace Store

variable {s s' : Store} {d : DocumentId}

/-! ## Frames -/

/-- **A step that adds no symbols by hand leaves a frame without repeated names.** -/
theorem Step.nodup_names {w : Write} (hstep : s.Step w s') (h : s.Sound)
    (hw : w.DeclaresOnly) {b : BlockId} (hb : b ∈ s.blocks)
    (hnames : ((s.frameSymbols b).map s.name).Nodup) :
    ((s'.frameSymbols b).map s'.name).Nodup := by
  have hsame : .frame (s.block b).frame ∉ w.targets →
      ((s'.frameSymbols b).map s'.name).Nodup := by
    intro hframe
    have hkept : (s.frameSymbols b).map s'.name = (s.frameSymbols b).map s.name :=
      List.map_congr_left fun r hr => hstep.grows.name_eq (h.hasAll_frameSymbols hb r hr)
    rw [hstep.frameSymbols_eq h hb hframe, hkept]
    exact hnames
  cases hstep with
  | extend => exact absurd hw id
  | declare r x hnew =>
    by_cases hr : (s.block b).frame = r
    · subst hr
      exact h.nodup_names_declared hb hnew hnames
    · exact hsame (by simpa [Write.targets] using hr)
  | _ => exact hsame (by simp [Write.targets])

theorem Sound.frameSymbols_subset (h : s.Sound) (hg : s.Grows s') {b : BlockId} (hb : b ∈ s.blocks) :
    s.frameSymbols b ⊆ s'.frameSymbols b := by
  have hframe : (s'.block b).frame = (s.block b).frame := (hg.blocks b hb).2.frame
  rw [frameSymbols, frameSymbols, hframe]
  exact (hg.frames _ (h.blocks b hb).frame).2.symbols.subset

/-! ## Global scopes -/

/-- The global scope of a document has no name twice, and it has the symbols of the templates. -/
structure GlobalNames (s : Store) (d : DocumentId) : Prop where
  names : ((s.frameSymbols (s.document d).globals).map s.name).Nodup
  templates : ∀ t ∈ (s.document d).allTemplates,
    s.templateSymbol t ∈ s.frameSymbols (s.document d).globals

/-- The same of all documents. -/
def Named (s : Store) : Prop := ∀ d ∈ s.documents, s.GlobalNames d

theorem globalNames_newDocument (s : Store) (lineTable : LineTableId) (log : LogId) :
    (s.newDocument lineTable log).1.GlobalNames s.documents.next := by
  have hdocument : (s.newDocument lineTable log).1.document s.documents.next
      = { lineTable, log, globals := s.blocks.next } := Table.get_push_next s.documents _
  have hsymbols := congrArg Frame.symbols (s.globalFrame_newDocument lineTable log)
  constructor
  · rw [show frameSymbols _ (Store.document _ s.documents.next).globals = _ from hsymbols]
    exact List.nodup_nil
  · intro t ht
    rw [hdocument] at ht
    exact absurd ht List.not_mem_nil

/-- The copies of the symbols of a document have their names. -/
theorem GlobalNames.relocated (hnamed : s.GlobalNames d) (htidy : s.Tidy) (hd : d ∈ s.documents) :
    (s.relocated d).1.GlobalNames (s.relocated d).2 := by
  have hmem : ∀ r ∈ s.frameSymbols (s.document d).globals, r ∈ s.mentioned d := fun r hr =>
    mem_mentioned_of_frame (frame_mem_ownedFrames (globals_mem_ownedBlocks s d)) hr
  have hsymbols : (s.relocated d).1.frameSymbols
      ((s.relocated d).1.document (s.relocated d).2).globals
        = (s.frameSymbols (s.document d).globals).map (s.relocations d).symbols := by
    have hframe := s.globalFrame_relocated d
    unfold globalFrame at hframe
    rw [frameSymbols, hframe]
    exact htidy.symbols_copiedGlobalFrame hd
  constructor
  · rw [hsymbols, names_relocated hmem]
    exact hnamed.names
  · intro t ht
    rw [relocated_document, allTemplates_documentCopy] at ht
    obtain ⟨u, hu, rfl⟩ := List.mem_map.mp ht
    rw [hsymbols, templateSymbol_relocated hu]
    exact List.mem_map_of_mem (hnamed.templates u hu)

/-- **A step that adds no symbols by hand leaves the names of global scopes different.** -/
theorem Step.named {w : Write} (hstep : s.Step w s') (h : s.Sound) (htidy : s.Tidy)
    (hw : w.DeclaresOnly) (hnamed : s.Named) : s'.Named := by
  have hg := hstep.grows
  -- What a document lists has to be there already, with a symbol in the global frame.
  have hkept : ∀ d ∈ s.documents, (∀ t ∈ (s'.document d).allTemplates,
      t ∈ s.templates ∧ s.templateSymbol t ∈ s.frameSymbols (s.document d).globals) →
        s'.GlobalNames d := by
    intro d hd htemplates
    have hglobals := (h.documents d hd).globals
    have hsame : (s'.document d).globals = (s.document d).globals := (hg.documents d hd).2.globals
    constructor
    · rw [hsame]
      exact hstep.nodup_names h hw hglobals (hnamed d hd).names
    · intro t ht
      obtain ⟨hmem, hsymbol⟩ := htemplates t ht
      rw [hsame, h.templateSymbol_eq hg hmem]
      exact h.frameSymbols_subset hg hglobals hsymbol
  have hlisted : ∀ d ∈ s.documents, ∀ t ∈ (s.document d).allTemplates,
      t ∈ s.templates ∧ s.templateSymbol t ∈ s.frameSymbols (s.document d).globals := fun d hd t ht =>
    ⟨((h.documents d hd).templates t ht).1, (hnamed d hd).templates t ht⟩
  intro d hd
  rcases hstep.document_origins hd with ⟨hold, heq⟩ | ⟨hold, -, hedit⟩ | ⟨lineTable, log, rfl, rfl⟩
    | ⟨e, he, rfl, rfl⟩
  · refine hkept d hold fun t ht => ?_
    rw [heq] at ht
    exact hlisted d hold t ht
  · refine hkept d hold fun t ht => ?_
    rcases hedit.mem_allTemplates ht with hthere | ⟨hmem, -, hframe⟩
    · exact hlisted d hold t hthere
    · exact ⟨hmem, hframe⟩
  · exact globalNames_newDocument s lineTable log
  · exact (hnamed e he).relocated htidy he

theorem Path.named {P : Write → Prop} (hpath : Path P s s') (h : s.Sound)
    (hP : ∀ w, P w → w.DeclaresOnly) (htidy : s.Tidy) (hnamed : s.Named) : s'.Named := by
  refine (hpath.keeps (I := fun u => u.Tidy ∧ u.Named) h (fun {t u w} hw hstep hsound hinv => ?_)
    ⟨htidy, hnamed⟩).2
  exact ⟨hstep.tidy hsound ((hP w hw).addsOnce t) hinv.1, hstep.named hsound hinv.1 (hP w hw) hinv.2⟩

/-- **The names in the global scopes are different** if a program adds no symbols by hand. -/
theorem Run.named (hrun : Run Operation.DeclaresOnly {} s) : s.Named := by
  induction hrun with
  | refl => exact fun _ hd => absurd hd (Nat.not_lt_zero _)
  | @step t run op hadmissible hdeclares ih =>
    have h := run.sound sound_empty
    have htidy : t.Tidy := (run.imp fun _ _ => Operation.DeclaresOnly.addsOnce).tidy
    exact (h.path_perform hadmissible).named h (fun _ => hdeclares.of_mem_writes) htidy ih

/-! ## Look-ups -/

theorem templateName_of_find? {ts : List TemplateId} {name : String} {t : TemplateId}
    (hfind : ts.find? (fun u => s.templateName u == name) = some t) : s.templateName t = name := by
  have htest := List.find?_some hfind
  simpa using htest

/-- **No two templates of a document have one name.** -/
theorem GlobalNames.eq_of_templateName (hnamed : s.GlobalNames d) (h : s.Sound) (hd : d ∈ s.documents)
    {t u : TemplateId} (ht : t ∈ (s.document d).allTemplates)
    (hu : u ∈ (s.document d).allTemplates) (hname : s.templateName t = s.templateName u) : t = u := by
  have hsymbol : s.templateSymbol t = s.templateSymbol u :=
    List.inj_on_of_nodup_map hnamed.names (hnamed.templates t ht) (hnamed.templates u hu) hname
  -- The symbol of a template stands for the template.
  have hown : ∀ v ∈ (s.document d).allTemplates, s.Stands (s.templateSymbol v) (.template v) :=
    fun v hv => (h.templates v ((h.documents d hd).templates v hv).1).own
  have hsubject := (hown t ht).unique (hsymbol ▸ hown u hu)
  exact Subject.template.inj hsubject

theorem Sound.mem_allTemplates_of_find (h : s.Sound) (hd : d ∈ s.documents) {name : String}
    {t : TemplateId} (hfind : s.findDynamicTemplate? d name = some t) :
    t ∈ (s.document d).allTemplates :=
  List.mem_append_right _ ((h.findDynamicTemplate?_iff hd).mp hfind).1

/-- **The global frame has under the name of a template its symbol.** -/
theorem GlobalNames.lookup_templateName (hnamed : s.GlobalNames d) {t : TemplateId}
    (ht : t ∈ (s.document d).allTemplates) :
    s.lookup (s.frame (s.globalFrame d)) (s.templateName t) = some (s.templateSymbol t) := by
  have hmem := hnamed.templates t ht
  cases hfind : s.lookup (s.frame (s.globalFrame d)) (s.templateName t) with
  | none => exact absurd (beq_self_eq_true _) (List.find?_eq_none.mp hfind _ hmem)
  | some r =>
    have hname : s.name r = s.templateName t := by simpa using List.find?_some hfind
    exact congrArg some
      (List.inj_on_of_nodup_map hnamed.names (List.mem_of_find?_eq_some hfind) hmem hname)

/-- **No name is that of a static and of a dynamic template.** -/
theorem GlobalNames.findDynamicTemplate?_eq_none (hnamed : s.GlobalNames d) (h : s.Sound)
    (hd : d ∈ s.documents) {name : String} {t : TemplateId} (ht : s.findTemplate? d name = some t) :
    s.findDynamicTemplate? d name = none := by
  cases hfind : s.findDynamicTemplate? d name with
  | none => rfl
  | some u =>
    have htmem : t ∈ (s.document d).templates := List.mem_of_find?_eq_some ht
    obtain ⟨humem, hfound⟩ := (h.findDynamicTemplate?_iff hd).mp hfind
    have hname : s.templateName t = s.templateName u :=
      (templateName_of_find? ht).trans hfound.symm
    obtain rfl := hnamed.eq_of_templateName h hd (List.mem_append_left _ htmem)
      (List.mem_append_right _ humem) hname
    exact absurd humem (List.disjoint_of_nodup_append (h.documents d hd).distinct htmem)

end Store

end TimedNet
