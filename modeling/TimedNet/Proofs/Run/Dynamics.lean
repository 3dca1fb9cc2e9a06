import TimedNet.Proofs.Run.Bodies
import TimedNet.Proofs.Run.Continuation

/-!
# `TimedNet.Proofs.Run.Dynamics` — who changes the dynamic templates of a document

One operation lists dynamic templates, gives them their indices and defines them. What else a program
does leaves all three alone, unless it sets the marks of templates by hand.

* `Operation.KeepsDynamics`: the programs in question.
* `Step.template_edit`, `Sound.isDefined_perform`: what is defined.
* `Store.Indexed`, `Step.indexed`, `Run.indexed`: the indices.
* `Sound.dynamicTemplates_perform`: the lists.
-/

namespace TimedNet

/-- No symbol is added to a frame by hand, and marks that are set by hand leave the index of a
    template and whether it is defined. -/
def Operation.KeepsDynamics (s : Store) : Operation → Prop
  | .extendFrame .. | .extendParameters .. => False
  | .assignTemplate template _ _ _ dynindex isDefined =>
    dynindex = (s.template template).dynindex ∧ isDefined = (s.template template).isDefined
  | _ => True

instance (s : Store) : ∀ op : Operation, Decidable (op.KeepsDynamics s)
  | .extendFrame .. | .extendParameters .. => .isFalse id
  | .assignTemplate template _ _ _ dynindex isDefined =>
    inferInstanceAs (Decidable
      (dynindex = (s.template template).dynindex ∧ isDefined = (s.template template).isDefined))
  | .newSymbol .. | .newFrame .. | .declareSymbol .. | .newBlock .. | .newTemplate .. | .copyInst ..
  | .newLineTable .. | .addLine .. | .openLog .. | .copyLog .. | .addError .. | .addWarning ..
  | .report .. | .clearErrors .. | .clearWarnings .. | .openDocument .. | .copyDocument ..
  | .addTemplate .. | .addDynamicTemplate .. | .addInstance .. | .addLscInstance .. | .addProcess ..
  | .removeProcess .. | .beginChanPriority .. | .addChanPriority .. | .setProcPriority ..
  | .recordFeature .. | .setOptions .. | .addQuery .. | .addLibrary .. | .addString ..
  | .internString .. | .assignDocument .. | .declareVariable .. | .declareLocal ..
  | .declareFunction .. | .declareType .. | .addVariable .. | .addLocal .. | .addFunction ..
  | .addTypedef .. | .addProgress .. | .addGantt .. | .newIODecl .. | .setIODecl .. | .setBody ..
  | .addEffects .. | .setInitialiser .. | .copyVariables .. | .copyFunctions .. | .addDynamicEval ..
  | .addLocation .. | .assignLocation .. | .addBranchpoint .. | .setInitial .. | .addEdge ..
  | .assignEdge .. | .extendEdge .. | .restrict .. | .addInstanceLine .. | .bindLine ..
  | .addMessage .. | .addCondition .. | .addUpdate .. | .newRegions .. | .setRegion .. | .newCut ..
  | .addToCut .. | .eraseFromCut .. | .newQuery .. | .setQuery .. | .newArena ..
  | .pushToArena .. => .isTrue trivial

/-! ## Changes of one template -/

namespace Template

variable {s : Store} {r : TemplateId} {a : Aspect} {t u : Template}

/-- What is neither about definitions nor about marks leaves a template defined or undefined. -/
theorem Edit.isDefined_eq (h : t.Edit s r a u) (hdefinition : a ≠ .definition) (hmarks : a ≠ .marks) :
    u.isDefined = t.isDefined := by
  cases h with
  | makeDynamic | define => exact absurd rfl hdefinition
  | assign => exact absurd rfl hmarks
  | _ => rfl

/-- The index of a template that is listed changes only by hand. -/
theorem Edit.dynindex_eq (h : t.Edit s r a u) (hlisted : ¬ s.UnlistedTemplate r) (hmarks : a ≠ .marks) :
    u.dynindex = t.dynindex := by
  cases h with
  | makeDynamic _ hfree => exact absurd hfree hlisted
  | assign => exact absurd rfl hmarks
  | _ => rfl

end Template

namespace Store

variable {s s' : Store} {d : DocumentId} {t : TemplateId}

/-- A step leaves a template as it was, or changes it. -/
theorem Step.template_edit {w : Write} (hstep : s.Step w s') (ht : t ∈ s.templates) :
    s'.template t = s.template t
      ∨ ∃ a, w = .template t a ∧ (s.template t).Edit s t a (s'.template t) := by
  have hsame : .template t ∉ w.targets → s'.template t = s.template t :=
    fun hw => hstep.same (e := .template t) ht hw
  cases hstep with
  | editTemplate r a f hf =>
    by_cases hr : r = t
    · subst hr
      have hchanged : (s.modifyTemplate r f).template r = f (s.template r) :=
        Table.get_modify_self f ht
      exact Or.inr ⟨a, rfl, hchanged ▸ hf ht⟩
    · exact Or.inl (hsame (by simpa [Write.targets] using Ne.symm hr))
  | _ => exact Or.inl (hsame (by simp [Write.targets]))

/-! ## Definitions -/

theorem Path.isDefined_eq {P : Write → Prop} (hpath : Path P s s') (ht : t ∈ s.templates)
    (hdefinition : ¬ P (.template t .definition)) (hmarks : ¬ P (.template t .marks)) :
    (s'.template t).isDefined = (s.template t).isDefined := by
  induction hpath with
  | refl => rfl
  | @step u v w path hw hstep ih =>
    rcases hstep.template_edit (path.grows.templates t ht).1 with heq | ⟨a, rfl, hedit⟩
    · rw [heq, ih]
    · rw [hedit.isDefined_eq (fun ha => hdefinition (ha ▸ hw)) (fun ha => hmarks (ha ▸ hw)), ih]

/-- **A template is defined by a call for its name only.** -/
theorem Sound.isDefined_perform (h : s.Sound) {op : Operation} (hop : op.Admissible s)
    (hkeeps : op.KeepsDynamics s) (ht : t ∈ s.templates)
    (hcall : ∀ d name parameters span, op = .addDynamicTemplate d name parameters span →
      s.findDynamicTemplate? d name ≠ some t) :
    ((s.perform op).template t).isDefined = (s.template t).isDefined := by
  have hpath := h.path_perform hop
  have hquiet : .template t .definition ∉ op.writes s → .template t .marks ∉ op.writes s →
      ((s.perform op).template t).isDefined = (s.template t).isDefined :=
    fun hdefinition hmarks => hpath.isDefined_eq ht hdefinition hmarks
  cases op with
  | addDynamicTemplate d name parameters span =>
    have hfind := hcall d name parameters span rfl
    have hnext : t ≠ s.templates.next := Table.ne_next_of_mem ht
    exact hquiet (by simp [Operation.writes, hnext, hfind]) (by simp [Operation.writes])
  | assignTemplate template style hasPrechart dynamic dynindex isDefined =>
    by_cases htemplate : template = t
    · subst htemplate
      exact (congrArg Template.isDefined (Table.get_modify_self _ ht)).trans hkeeps.2
    · exact congrArg Template.isDefined (Table.get_modify_of_ne _ htemplate)
  | _ => exact hquiet (by simp [Operation.writes]) (by simp [Operation.writes])

/-! ## Indices -/

/-- The index of a dynamic template is its place in the list of its document. -/
def Indexed (s : Store) : Prop :=
  ∀ d ∈ s.documents, ∀ (i : Nat) t, (s.document d).dynamicTemplates[i]? = some t →
    (s.template t).dynindex = i

/-- **A step that sets no marks by hand leaves the indices right.** -/
theorem Step.indexed {w : Write} (hstep : s.Step w s') (h : s.Sound)
    (hw : ∀ t, w ≠ .template t .marks) (hindexed : s.Indexed) : s'.Indexed := by
  -- What a document lists has the index that it had.
  have hkept : ∀ d ∈ s.documents, ∀ t ∈ (s.document d).allTemplates,
      (s'.template t).dynindex = (s.template t).dynindex := by
    intro d hd t ht
    rcases hstep.template_edit ((h.documents d hd).templates t ht).1 with heq | ⟨a, rfl, hedit⟩
    · rw [heq]
    · exact hedit.dynindex_eq (fun hfree => hfree d hd ht) fun ha => hw t (ha ▸ rfl)
  have hold : ∀ d ∈ s.documents, ∀ (i : Nat) t, (s.document d).dynamicTemplates[i]? = some t →
      (s'.template t).dynindex = i := by
    intro d hd i t ht
    rw [hkept d hd t (List.mem_append_right _ (List.mem_of_getElem? ht))]
    exact hindexed d hd i t ht
  intro d hd
  rcases hstep.document_origins hd with ⟨hthere, heq⟩ | ⟨hthere, rfl, hedit⟩
    | ⟨lineTable, log, rfl, rfl⟩ | ⟨e, he, rfl, rfl⟩
  · rw [heq]
    exact hold d hthere
  · have hlist := hold d hthere
    generalize s'.document d = y at hedit ⊢
    generalize hx : s.document d = x at hedit hlist
    cases hedit with
    | addDynamicTemplate u name hu _ _ _ _ hindex _ _ =>
      have hsame : s'.template u = s.template u :=
        hstep.same (e := .template u) hu (by simp [Write.targets])
      refine forall_getElem?_concat hlist ?_
      rw [hsame]
      exact hindex
    | _ => exact hlist
  · have hdocument : ((s.newDocument lineTable log).1.document s.documents.next).dynamicTemplates = [] :=
      congrArg Document.dynamicTemplates (Table.get_push_next s.documents _)
    intro i t ht
    rw [hdocument] at ht
    exact absurd ht (by simp)
  · intro i t ht
    rw [relocated_document] at ht
    have hmap : ((s.document e).dynamicTemplates.map (s.relocations e).templates)[i]? = some t := ht
    rw [List.getElem?_map] at hmap
    obtain ⟨u, hu, rfl⟩ := Option.map_eq_some_iff.mp hmap
    rw [relocated_template (List.mem_append_right _ (List.mem_of_getElem? hu))]
    exact hindexed e he i u hu

/-- Marks are set by hand in one operation only. -/
theorem eq_assignTemplate_of_mem_writes {op : Operation} (h : .template t .marks ∈ op.writes s) :
    ∃ style hasPrechart dynamic dynindex isDefined,
      op = .assignTemplate t style hasPrechart dynamic dynindex isDefined := by
  rcases body_of_mem_writes h with hbody | ⟨symbol, rfl⟩ | hassign
  · simp at hbody
  · simp [Operation.writes] at h
  · exact hassign

/-- A change of a template that leaves its index leaves the indices right. -/
theorem Indexed.modifyTemplate (hindexed : s.Indexed) (ht : t ∈ s.templates) {f : Template → Template}
    (hf : (f (s.template t)).dynindex = (s.template t).dynindex) :
    (s.modifyTemplate t f).Indexed := by
  intro d hd i u hu
  have hold : (s.template u).dynindex = i := hindexed d hd i u hu
  by_cases htu : t = u
  · subst htu
    have hchanged : (s.modifyTemplate t f).template t = f (s.template t) := Table.get_modify_self f ht
    rw [hchanged, hf, hold]
  · have hsame : (s.modifyTemplate t f).template u = s.template u := Table.get_modify_of_ne f htu
    rw [hsame, hold]

/-- **The indices of dynamic templates are right** as long as a program does not set them by hand. -/
theorem Run.indexed (hrun : Run Operation.KeepsDynamics {} s) : s.Indexed := by
  induction hrun with
  | refl => exact fun _ hd => absurd hd (Nat.not_lt_zero _)
  | @step s run op hadmissible hkeeps ih =>
    have h := run.sound sound_empty
    by_cases hmarks : ∃ t, .template t .marks ∈ op.writes s
    · obtain ⟨t, hmem⟩ := hmarks
      obtain ⟨_, _, _, _, _, rfl⟩ := eq_assignTemplate_of_mem_writes hmem
      exact ih.modifyTemplate (hadmissible.receivers (.template t) List.mem_cons_self) hkeeps.1
    · refine (h.path_perform hadmissible).keeps h (fun hw hstep hsound => ?_) ih
      exact hstep.indexed hsound fun t heq => hmarks ⟨t, heq ▸ hw⟩

/-! ## Lists -/

/-- **Dynamic templates are listed by a call for a dynamic template only.** -/
theorem Sound.dynamicTemplates_perform (h : s.Sound) {op : Operation} (hop : op.Admissible s)
    (hcall : ∀ d name parameters span, op ≠ .addDynamicTemplate d name parameters span)
    (hd : d ∈ s.documents) :
    ((s.perform op).document d).dynamicTemplates = (s.document d).dynamicTemplates := by
  let R : Document → Document → Prop := fun x y => y.dynamicTemplates = x.dynamicTemplates
  have hR : ∀ x, R x x := fun _ => rfl
  suffices hkeeps : s.documents.Keeps R (s.perform op).documents from (hkeeps d hd).2
  cases op with
  | addDynamicTemplate d name parameters span => exact absurd rfl (hcall d name parameters span)
  | addTemplate => exact documents_addTemplate hR fun _ _ => rfl
  | addInstance | addLscInstance =>
    refine documents_instantiate hR fun _ _ => ?_
    rfl
  | addProcess => exact documents_addProcess hR fun _ _ => rfl
  | addChanPriority => exact documents_addChanPriority hR fun _ _ _ _ _ => rfl
  | internString => exact documents_internString hR fun _ _ => rfl
  | beginChanPriority d | setProcPriority d =>
    have hmark : s.documents.Keeps R (s.markPriorities d).documents :=
      documents_modifyDocument hR rfl
    exact hmark.trans (documents_modifyDocument hR rfl) fun hxy hyz => hyz.trans hxy
  | removeProcess | recordFeature | setOptions | addQuery | addLibrary | addString
  | assignDocument => exact documents_modifyDocument hR rfl
  | _ => exact h.documents_perform hop hR (by simp [Operation.writes, Write.targets])

end Store

end TimedNet
