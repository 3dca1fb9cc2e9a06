import TimedNet.Proofs.Copy.Isomorphism
import TimedNet.Proofs.Run.Scoping
import TimedNet.Proofs.Separation.Copy

/-!
# `TimedNet.Proofs.Copy.Resolution` — what names mean in a copy

A name is looked up in a frame and then in the frames around it. The copied global frame and the copied local
frames lie in each other as the originals do, and from them every name means the copy of what it meant. All
other frames are copied without the frames around them. This makes no difference for template sets and for
the symbols that edges select, whose frames lie in no other. It does for the frame of a gantt entry or of one
of its rows if a program has put it into another frame: of the names that are found further out, none is
found from the copy.

* `Ordered.find?_union`: what is found when repetitions are left out.
* `Sound.resolve_globalFrame`, `Sound.resolve_localFrame`, `Sound.resolve_templateSet`: names in any store.
* `lookup_looseFrame`, `lookup_copiedGlobalFrame`, `lookup_copiedLocalFrame`: names in one frame of a copy.
* `Store.CopiedAlone`: a frame that is copied without the frames around it.
* `Store.ScopesCopied`; `resolution_copied`; `outer_names_lost`.
-/

namespace TimedNet

/-- Leaving out repetitions does not change what is found first. -/
theorem Ordered.find?_union {α : Type} [BEq α] [LawfulBEq α] (set as : List α) (p : α → Bool) :
    (Ordered.union set as).find? p = (set ++ as).find? p := by
  unfold Ordered.union
  induction as generalizing set with
  | nil => rw [List.append_nil, List.foldl_nil]
  | cons a as ih =>
    rw [List.foldl_cons, ih, Ordered.insert]
    split
    · next hmem =>
      -- A member that is there already would have been found before.
      rw [List.find?_append, List.find?_append, List.find?_cons]
      cases hset : set.find? p with
      | some b => rfl
      | none =>
        have hpa : p a = false :=
          Bool.eq_false_iff.mpr (List.find?_eq_none.mp hset a (List.contains_iff_mem.mp hmem))
        rw [hpa]
    · rw [List.append_assoc, List.singleton_append]

namespace Store

variable {s t : Store} {c d : DocumentId} {φ : SymbolId → SymbolId}

/-! ## One frame -/

/-- From a stored frame names are seen as from the frame itself. -/
theorem Sound.resolve_eq (h : s.Sound) {r : FrameId} (hr : r ∈ s.frames) (name : String) :
    s.resolve r name = s.resolveIn (s.frame r) name := by
  rw [resolve, resolveIn]
  cases s.lookup (s.frame r) name with
  | some symbol => rfl
  | none =>
    cases hparent : (s.frame r).parent with
    | none => rfl
    | some p => exact if_pos ((h.frames r hr).parent p (Option.mem_def.mpr hparent)).2

/-- Nothing is seen further out from a frame that lies in no other. -/
theorem resolveIn_eq_lookup {f : Frame} (hparent : f.parent = none) (name : String) :
    s.resolveIn f name = s.lookup f name := by
  rw [resolveIn, hparent]
  cases s.lookup f name <;> rfl

theorem Sound.resolve_globalFrame (h : s.Sound) (hd : d ∈ s.documents) (name : String) :
    s.resolve (s.globalFrame d) name = s.lookup (s.frame (s.globalFrame d)) name := by
  have hparent : (s.frame (s.globalFrame d)).parent = none := (h.documents d hd).root.parent
  rw [h.resolve_eq (h.globalFrame_mem hd), resolveIn_eq_lookup hparent]

/-- What a local frame does not have is seen in the global one. -/
theorem Sound.resolve_localFrame (h : s.Sound) (hd : d ∈ s.documents) {x : TemplateId}
    (hx : x ∈ (s.document d).allTemplates) (name : String) :
    s.resolve (s.localFrame x) name
      = (s.lookup (s.frame (s.localFrame x)) name).or (s.resolve (s.globalFrame d) name) := by
  have hscope := (h.documents d hd).scopes x hx
  have hframe : s.localFrame x ∈ s.frames := hscope.frame
  have hparent : (s.frame (s.localFrame x)).parent = some (s.globalFrame d) := hscope.parent
  rw [h.resolve_eq hframe, resolveIn, hparent]
  cases s.lookup (s.frame (s.localFrame x)) name <;> rfl

theorem Sound.resolve_templateSet (h : s.Sound) {x : TemplateId} (hx : x ∈ s.templates) (name : String) :
    s.resolve (s.template x).templateSet name = s.lookup (s.frame (s.template x).templateSet) name := by
  have htemplate := h.templates x hx
  rw [h.resolve_eq htemplate.templateSet, resolveIn_eq_lookup htemplate.loose]

theorem Renames.lookup_map (hφ : s.Renames d t c φ) {rs : List SymbolId}
    (hrs : ∀ r ∈ rs, r ∈ s.mentioned d) (name : String) :
    ((rs.map φ).find? fun r => t.name r == name) = (rs.find? fun r => s.name r == name).map φ := by
  refine find?_map_eq fun r hr => ?_
  rw [Store.name, Store.name, hφ.name r (hrs r hr)]

/-- What begins a list is found there, so it may as well be looked through before. -/
theorem find?_append_of_begins {α : Type} {first l : List α} (hfirst : first <+: l) (p : α → Bool) :
    (first ++ l).find? p = l.find? p := by
  obtain ⟨rest, rfl⟩ := hfirst
  rw [List.find?_append, List.find?_append]
  cases first.find? p <;> rfl

theorem mem_allTemplates_relocated {x : TemplateId} (hx : x ∈ (s.document d).allTemplates) :
    (s.relocations d).templates x
      ∈ ((s.relocated d).1.document (s.relocated d).2).allTemplates := by
  rw [allTemplates_relocated]
  exact List.mem_map_of_mem hx

section Frames

variable (hself : s.SelfContained d) (h : s.Sound) (hd : d ∈ s.documents)
include hself h hd

theorem SelfContained.lookup_looseFrame {f : Frame} (hf : ∀ r ∈ f.symbols, r ∈ s.mentioned d)
    (name : String) :
    (s.relocated d).1.lookup ((s.relocations d).looseFrame f) name
      = (s.lookup f name).map (s.relocations d).symbols :=
  (hself.renames_relocated h hd).lookup_map hf name

theorem SelfContained.lookup_copiedGlobalFrame (name : String) :
    (s.relocated d).1.lookup (s.copiedGlobalFrame (s.relocations d) d) name
      = (s.lookup (s.frame (s.globalFrame d)) name).map (s.relocations d).symbols := by
  rw [lookup, copiedGlobalFrame, Frame.addNew, Ordered.find?_union]
  exact (hself.renames_relocated h hd).lookup_map
    (fun r hr => mem_mentioned_of_frame (globalFrame_mem_ownedFrames s d) hr) name

/-- The parameters of a template come first in its local frame already, so nothing else is found in the copy,
    which has them in front. -/
theorem SelfContained.lookup_copiedLocalFrame (hfirst : s.ParametersFirst) {x : TemplateId}
    (hx : x ∈ (s.document d).allTemplates) (name : String) :
    (s.relocated d).1.lookup (s.copiedLocalFrame (s.relocations d) d x) name
      = (s.lookup (s.frame (s.localFrame x)) name).map (s.relocations d).symbols := by
  have hbegins := hfirst x ((h.documents d hd).templates x hx).1
  have hmentioned : ∀ r ∈ (s.frame (s.localFrame x)).symbols, r ∈ s.mentioned d := fun r hr =>
    mem_mentioned_of_frame (localFrame_mem_ownedFrames hx) hr
  rw [lookup, copiedLocalFrame, Frame.addNew, Ordered.find?_union, Relocations.symbolList,
    Relocations.symbolList, ← List.map_append, (hself.renames_relocated h hd).lookup_map,
    find?_append_of_begins hbegins, lookup]
  intro r hr
  rcases List.mem_append.mp hr with hr | hr
  · exact hmentioned r (hbegins.subset hr)
  · exact hmentioned r hr

/-! ## Names that are seen -/

theorem SelfContained.resolve_globalFrame (name : String) :
    (s.relocated d).1.resolve ((s.relocated d).1.globalFrame (s.relocated d).2) name
      = (s.resolve (s.globalFrame d) name).map (s.relocations d).symbols := by
  rw [(h.relocated hd).resolve_globalFrame (mem_documents_relocated s d), globalFrame_relocated,
    relocated_globalFrame, hself.lookup_copiedGlobalFrame h hd, h.resolve_globalFrame hd]

theorem SelfContained.resolve_localFrame (hfirst : s.ParametersFirst) {x : TemplateId}
    (hx : x ∈ (s.document d).allTemplates) (name : String) :
    (s.relocated d).1.resolve ((s.relocated d).1.localFrame ((s.relocations d).templates x)) name
      = (s.resolve (s.localFrame x) name).map (s.relocations d).symbols := by
  rw [(h.relocated hd).resolve_localFrame (mem_documents_relocated s d)
      (mem_allTemplates_relocated hx), hself.resolve_globalFrame h hd, localFrame_relocated hx,
    relocated_localFrame h hd hx, hself.lookup_copiedLocalFrame h hd hfirst hx,
    h.resolve_localFrame hd hx, Option.map_or]

theorem SelfContained.resolve_templateSet {x : TemplateId} (hx : x ∈ (s.document d).allTemplates)
    (name : String) :
    (s.relocated d).1.resolve
        ((s.relocated d).1.template ((s.relocations d).templates x)).templateSet name
      = (s.resolve (s.template x).templateSet name).map (s.relocations d).symbols := by
  have hcopy := (h.relocated hd).documents _ (mem_documents_relocated s d)
  have hset : ((s.relocated d).1.template ((s.relocations d).templates x)).templateSet
      = (s.relocations d).frames (s.template x).templateSet := by
    rw [relocated_template hx]
    rfl
  have hmentioned : ∀ r ∈ (s.frame (s.template x).templateSet).symbols, r ∈ s.mentioned d := fun r hr =>
    mem_mentioned_of_frame (templateSet_mem_ownedFrames hx) hr
  rw [(h.relocated hd).resolve_templateSet (hcopy.templates _ (mem_allTemplates_relocated hx)).1,
    hset, relocated_templateSet h hd hx, hself.lookup_looseFrame h hd hmentioned,
    h.resolve_templateSet ((h.documents d hd).templates x hx).1]

end Frames

/-! ## Frames that are copied alone -/

/-- A frame and its copy, which lies in no other frame: the names in the frame mean their copies, and what the
    copy sees is what the frame sees unless this is found further out. -/
structure CopiedAlone (s t : Store) (φ : SymbolId → SymbolId) (f f' : Frame) : Prop where
  own : ∀ name, t.resolveIn f' name = (s.lookup f name).map φ
  same_iff : ∀ name, t.resolveIn f' name = (s.resolveIn f name).map φ
    ↔ (s.lookup f name = none → s.resolveIn f name = none)
  same : f.parent = none → ∀ name, t.resolveIn f' name = (s.resolveIn f name).map φ

theorem CopiedAlone.of_own {f f' : Frame} (hown : ∀ name, t.resolveIn f' name = (s.lookup f name).map φ) :
    s.CopiedAlone t φ f f' where
  own := hown
  same_iff name := by
    rw [hown, resolveIn]
    cases s.lookup f name with
    | some symbol => simp
    | none =>
      constructor
      · intro heq _
        exact Option.map_eq_none_iff.mp heq.symm
      · intro hnone
        rw [show _ = none from hnone rfl]
  same hparent name := by rw [hown, resolveIn_eq_lookup hparent]

theorem SelfContained.copiedAlone (hself : s.SelfContained d) (h : s.Sound) (hd : d ∈ s.documents)
    {f : Frame} (hf : ∀ r ∈ f.symbols, r ∈ s.mentioned d) :
    s.CopiedAlone (s.relocated d).1 (s.relocations d).symbols f ((s.relocations d).looseFrame f) := by
  refine .of_own fun name => ?_
  rw [resolveIn_eq_lookup rfl, hself.lookup_looseFrame h hd hf]

/-- The frames of the gantt entries of a block and of their rows are copied alone. -/
def ChartsCopied (s t : Store) (φ : SymbolId → SymbolId) (b b' : BlockId) : Prop :=
  ∀ (i : Nat) (g : Gantt), (s.block b).gantt[i]? = some g → ∃ g' : Gantt, (t.block b').gantt[i]? = some g'
    ∧ s.CopiedAlone t φ g.parameters g'.parameters
    ∧ ∀ (j : Nat) (m : GanttMap), g.mapping[j]? = some m → ∃ m' : GanttMap, g'.mapping[j]? = some m'
      ∧ s.CopiedAlone t φ m.parameters m'.parameters

theorem SelfContained.chartsCopied (hself : s.SelfContained d) (h : s.Sound) (hd : d ∈ s.documents)
    {b : BlockId} (hb : b ∈ s.ownedBlocks d) :
    s.ChartsCopied (s.relocated d).1 (s.relocations d).symbols b ((s.relocations d).blocks b) := by
  intro i g hg
  have hmentioned : ∀ r ∈ g.symbols, r ∈ s.mentioned d := fun r hr =>
    mem_mentioned_of_block hb
      (List.mem_append_right _ (List.mem_flatMap.mpr ⟨g, List.mem_of_getElem? hg, hr⟩))
  refine ⟨(s.relocations d).gantt g, ?_, ?_, fun j m hm => ?_⟩
  · rw [relocated_block hb]
    exact getElem?_map_of _ hg
  · exact hself.copiedAlone h hd fun r hr => hmentioned r (List.mem_append_left _ hr)
  · refine ⟨(s.relocations d).ganttMap m, getElem?_map_of _ hm, hself.copiedAlone h hd fun r hr => ?_⟩
    refine hmentioned r (List.mem_append_right _ (List.mem_flatMap.mpr ⟨m, List.mem_of_getElem? hm, ?_⟩))
    unfold GanttMap.symbols
    simp [hr]

/-! ## Documents -/

/-- What names mean in a copy, for a renaming of the symbols and one of the templates. From the global frame,
    from local frames and from template sets, and among the symbols that edges select, every name means the
    copy of what it meant, and nothing if it meant nothing. The frames of gantt entries and of their rows are
    copied alone. -/
structure ScopesCopied (s : Store) (d : DocumentId) (t : Store) (c : DocumentId)
    (φ : SymbolId → SymbolId) (ψ : TemplateId → TemplateId) : Prop where
  templates : (t.document c).allTemplates = (s.document d).allTemplates.map ψ
  globals : ∀ name, t.resolve (t.globalFrame c) name = (s.resolve (s.globalFrame d) name).map φ
  locals : ∀ x ∈ (s.document d).allTemplates, ∀ name,
    t.resolve (t.localFrame (ψ x)) name = (s.resolve (s.localFrame x) name).map φ
  sets : ∀ x ∈ (s.document d).allTemplates, ∀ name,
    t.resolve (t.template (ψ x)).templateSet name
      = (s.resolve (s.template x).templateSet name).map φ
  selects : ∀ x ∈ (s.document d).allTemplates, ∀ (i : Nat) (e : Edge), (s.template x).edges[i]? = some e →
    ∃ e' : Edge, (t.template (ψ x)).edges[i]? = some e'
      ∧ ∀ name, t.resolveIn e'.select name = (s.resolveIn e.select name).map φ
  globalCharts : s.ChartsCopied t φ (s.document d).globals (t.document c).globals
  localCharts : ∀ x ∈ (s.document d).allTemplates,
    s.ChartsCopied t φ (s.template x).block (t.template (ψ x)).block

theorem SelfContained.scopesCopied (hself : s.SelfContained d) (h : s.Sound) (hd : d ∈ s.documents)
    (hfirst : s.ParametersFirst) (hloose : s.SelectsLoose) :
    s.ScopesCopied d (s.relocated d).1 (s.relocated d).2 (s.relocations d).symbols
      (s.relocations d).templates where
  templates := allTemplates_relocated s d
  globals := hself.resolve_globalFrame h hd
  locals x hx := hself.resolve_localFrame h hd hfirst hx
  sets x hx := hself.resolve_templateSet h hd hx
  selects x hx i e he := by
    have hmem := List.mem_of_getElem? he
    have hloose := hloose x ((h.documents d hd).templates x hx).1 e hmem
    have hmentioned : ∀ r ∈ e.select.symbols, r ∈ s.mentioned d := by
      intro r hr
      have hedge : r ∈ e.symbols := by
        unfold Edge.symbols
        simp [hr]
      refine mem_mentioned_of_template hx ?_
      unfold Template.symbols
      simp only [List.mem_append, List.mem_flatMap]
      exact Or.inl (Or.inl (Or.inl (Or.inl (Or.inr ⟨e, hmem, hedge⟩))))
    have hcopy : ∃ e' : Edge,
        ((s.relocated d).1.template ((s.relocations d).templates x)).edges[i]? = some e'
          ∧ e'.select = (s.relocations d).looseFrame e.select := by
      rw [relocated_template hx]
      exact ⟨_, getElem?_mapIdx_of _ he, rfl⟩
    obtain ⟨e', he', hselect⟩ := hcopy
    exact ⟨e', he', hselect ▸ (hself.copiedAlone h hd hmentioned).same hloose⟩
  globalCharts := by
    rw [relocated_document]
    exact hself.chartsCopied h hd (globals_mem_ownedBlocks s d)
  localCharts x hx := by
    rw [relocated_template hx]
    exact hself.chartsCopied h hd (block_mem_ownedBlocks hx)

/-- **What names mean in the copy of a self-contained document.** -/
theorem resolution_copied (hrun : Run Operation.LeavesParameters {} s) (hd : d ∈ s.documents)
    (hself : s.SelfContained d) (hcopy : s.copyDocument d = (t, c)) :
    ∃ (φ : SymbolId → SymbolId) (ψ : TemplateId → TemplateId),
      s.Renames d t c φ ∧ s.ScopesCopied d t c φ ψ := by
  have h := hrun.sound sound_empty
  rw [h.copyDocument_eq hd] at hcopy
  obtain ⟨rfl, rfl⟩ : (s.relocated d).1 = t ∧ (s.relocated d).2 = c :=
    ⟨congrArg Prod.fst hcopy, congrArg Prod.snd hcopy⟩
  exact ⟨_, _, hself.renames_relocated h hd,
    hself.scopesCopied h hd hrun.parametersFirst hrun.selectsLoose⟩

/-- A document with a variable and a template that has a parameter, and with a gantt entry for the same
    parameter, whose frame lies in the given one. -/
def charted (parent : Option FrameId) : Store :=
  [.newSymbol { name := "p", type := "int", subject := .parameter }, .openDocument none none,
    .addVariable ⟨0⟩ ⟨0⟩ "int" "x" .empty {}, .addTemplate ⟨0⟩ "T" [⟨0⟩] {} {},
    .addGantt ⟨0⟩ ⟨"G", { parent, symbols := [⟨0⟩] }, []⟩].foldl perform {}

/-- The same with a copy. -/
def chartedTwice (parent : Option FrameId) : Store := ((charted parent).copyDocument ⟨0⟩).1

/-- The variable is seen from the local frame of the template, and its copy from the copied one. -/
theorem resolution_copied_outer_variable : Run Operation.LeavesParameters {} (charted none)
    ∧ ∃ φ : SymbolId → SymbolId, (charted none).resolve ((charted none).localFrame ⟨0⟩) "x" = some ⟨1⟩
      ∧ (chartedTwice none).resolve ((chartedTwice none).localFrame ⟨1⟩) "x" = some (φ ⟨1⟩)
      ∧ (charted none).Renames ⟨0⟩ (chartedTwice none) ⟨1⟩ φ := by
  have hrun : Run Operation.LeavesParameters {} (charted none) := Run.refl.performs (by decide +kernel)
  have hself : (charted none).SelfContained ⟨0⟩ := ⟨by decide +kernel, by decide +kernel⟩
  have hid : ((charted none).copyDocument ⟨0⟩).2 = ⟨1⟩ := by decide +kernel
  have hcopy : (charted none).copyDocument ⟨0⟩ = (chartedTwice none, ⟨1⟩) := by
    rw [← hid, chartedTwice]
  obtain ⟨φ, ψ, hφ, hscopes⟩ := resolution_copied hrun (by decide +kernel) hself hcopy
  have htemplate : ψ ⟨0⟩ = ⟨1⟩ := by
    have hold : ((charted none).document ⟨0⟩).allTemplates = [⟨0⟩] := by decide +kernel
    have hnew : ((chartedTwice none).document ⟨1⟩).allTemplates = [⟨1⟩] := by decide +kernel
    have heq := hscopes.templates
    rw [hold, hnew] at heq
    exact (List.cons.inj heq).1.symm
  have hvariable : (charted none).resolve ((charted none).localFrame ⟨0⟩) "x" = some ⟨1⟩ := by
    decide +kernel
  have hcopied := hscopes.locals ⟨0⟩ (by decide +kernel) "x"
  rw [htemplate, hvariable] at hcopied
  exact ⟨hrun, φ, hvariable, hcopied, hφ⟩

/-- If the frame of the gantt entry lies in the global one, the variable is seen from it, but nothing is seen
    from the copied frame. -/
theorem outer_names_lost : Run Operation.LeavesParameters {} (charted (some ⟨0⟩))
    ∧ (charted (some ⟨0⟩)).SelfContained ⟨0⟩
    ∧ ((charted (some ⟨0⟩)).document ⟨0⟩).globals = ⟨0⟩
    ∧ ((chartedTwice (some ⟨0⟩)).document ⟨1⟩).globals = ⟨2⟩
    ∧ ((charted (some ⟨0⟩)).block ⟨0⟩).gantt.map
      (fun g => (charted (some ⟨0⟩)).resolveIn g.parameters "x") = [some ⟨1⟩]
    ∧ ((chartedTwice (some ⟨0⟩)).block ⟨2⟩).gantt.map
      (fun g => (chartedTwice (some ⟨0⟩)).resolveIn g.parameters "x") = [none] :=
  ⟨Run.refl.performs (by decide +kernel), ⟨by decide +kernel, by decide +kernel⟩, by decide +kernel,
    by decide +kernel, by decide +kernel, by decide +kernel⟩

end Store

end TimedNet
