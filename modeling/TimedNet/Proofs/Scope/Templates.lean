import TimedNet.Proofs.Scope.Declarations

/-!
# `TimedNet.Proofs.Scope.Templates` — operations on templates and documents register what they make

What is added to a template or to a document is declared in its frame and then listed, after an instance
or a template was made for it.

* `Enrolled.newInst`: an instance alone is in no scope.
* `Enrolled.addLocation`, …, `Enrolled.addUpdate`: the body of a template.
* `Enrolled.instantiate`, `Enrolled.addProcess`: instances of a document.
* `Enrolled.addTemplate`, `Enrolled.addDynamicTemplate`: templates of a document.
* `Enrolled.setting`: what else is stored in a document.
-/

namespace TimedNet.Store

variable {s : Store} {p : Option Pending}

theorem ScopesApart.newInst (h : s.ScopesApart) (i : Instance) :
    ({ s with insts := s.insts.push i } : Store).ScopesApart where
  mem σ hσ := by
    have hmem := h.mem σ
    cases σ <;> exact hmem hσ
  unique σ τ hσ hτ heq := by
    have hunique := h.unique σ τ
    cases σ <;> cases τ <;> exact hunique hσ hτ heq

/-- An instance alone is in no scope. -/
theorem Enrolled.newInst (hreg : s.Enrolled p) (h : s.Sound) (i : Instance) :
    ({ s with insts := s.insts.push i } : Store).Enrolled p := by
  have hg : s.Grows { s with insts := s.insts.push i } := s.grows_newInst i
  have hinst : ∀ t ∈ s.templates, ({ s with insts := s.insts.push i } : Store).inst (s.template t).inst
      = s.inst (s.template t).inst := fun t ht => Table.get_push_of_mem i (h.templates t ht).inst
  refine hreg.keep (fun σ hσ => ⟨⟨by cases σ <;> rfl, rfl, fun r _ => ⟨rfl, rfl⟩, ?_, ?_⟩,
    fun ρ => .of_eq (congrArg (· ++ _) (congrArg (_ ++ ·) ?_))⟩)
    fun σ hσ => Or.inl (by cases σ <;> exact hσ)
  · cases σ with
    | document d => exact id
    | template t =>
      intro hbare
      show s.BareParameters t
      rw [BareParameters, ← hinst t hσ]
      exact hbare
  · cases σ with
    | document d => exact id
    | template t =>
      intro hproper
      show s.ProperParameters t
      rw [ProperParameters, ← hinst t hσ]
      exact hproper
  · cases σ with
    | document d => exact (h.listedByDocument_eq hg (h.documents d hσ) ρ).symm
    | template t => exact (hg.listedByTemplate_eq (h.templates t hσ) ρ).symm

/-! ## The body of a template -/

section Body

variable {t : TemplateId}

theorem listedByTemplate_addLocation (s : Store) (u : Template) (l : Location) (ρ : Role) :
    s.listedByTemplate { u with locations := u.locations.push l } ρ
      = s.listedByTemplate u ρ ++ if Role.location = ρ then [l.symbol] else [] := by
  cases ρ <;> simp [listedByTemplate]

theorem listedByTemplate_addBranchpoint (s : Store) (u : Template) (b : Branchpoint) (ρ : Role) :
    s.listedByTemplate { u with branchpoints := u.branchpoints.push b } ρ
      = s.listedByTemplate u ρ ++ if Role.branchpoint = ρ then [b.symbol] else [] := by
  cases ρ <;> simp [listedByTemplate]

theorem listedByTemplate_addLine (u : Template) {l : InstanceLine} {x : SymbolId}
    (hx : (s.inst l.inst).symbol = x) (ρ : Role) :
    s.listedByTemplate { u with lines := u.lines.push l } ρ
      = s.listedByTemplate u ρ ++ if Role.line = ρ then [x] else [] := by
  cases ρ <;> simp [listedByTemplate, hx]

theorem Enrolled.addLocation (hreg : s.Enrolled none) (h : s.Sound) (ht : t ∈ s.templates)
    (name : String) (invariant rate : Expression) (span : Span) :
    (s.addLocation t name invariant rate span).1.Enrolled none := by
  let x : Symbol :=
    { name, type := "location", span, subject := .location t (s.template t).locations.size }
  rcases s.declare_cases (s.localFrame t) x with heq | ⟨hnew, heq⟩ <;> rw [Store.addLocation, heq]
  · exact hreg.report h _ span _ ""
  · have hdeclared := hreg.declareIn h (h.templates t ht).block hnew (ρ := .location) rfl
    exact hdeclared.listInTemplate (h.declared _ x).scopesApart ht (fun _ => ⟨rfl, rfl⟩)
      (listedByTemplate_addLocation _ _ _)

theorem Enrolled.addBranchpoint (hreg : s.Enrolled none) (h : s.Sound) (ht : t ∈ s.templates)
    (name : String) (span : Span) : (s.addBranchpoint t name span).1.Enrolled none := by
  let x : Symbol :=
    { name, type := "branchpoint", span, subject := .branchpoint t (s.template t).branchpoints.size }
  rcases s.declare_cases (s.localFrame t) x with heq | ⟨hnew, heq⟩ <;> rw [Store.addBranchpoint, heq]
  · exact hreg.report h _ span _ ""
  · have hdeclared := hreg.declareIn h (h.templates t ht).block hnew (ρ := .branchpoint) rfl
    exact hdeclared.listInTemplate (h.declared _ x).scopesApart ht (fun _ => ⟨rfl, rfl⟩)
      (listedByTemplate_addBranchpoint _ _ _)

theorem Enrolled.addInstanceLine (hreg : s.Enrolled none) (h : s.Sound) (ht : t ∈ s.templates)
    (name : String) (span : Span) : (s.addInstanceLine t name span).1.Enrolled none := by
  let x : Symbol :=
    { name, type := "instance-line", span, subject := .line t (s.template t).lines.size }
  rcases s.declare_cases (s.localFrame t) x with heq | ⟨hnew, heq⟩ <;> rw [Store.addInstanceLine, heq]
  · exact hreg.report h _ span _ ""
  · have hdeclared := hreg.declareIn h (h.templates t ht).block hnew (ρ := .line) rfl
    have hsound := h.declared (s.localFrame t) x
    let i : Instance := { symbol := s.symbols.next, template := t }
    let s₂ : Store :=
      { s.declared (s.localFrame t) x with insts := (s.declared (s.localFrame t) x).insts.push i }
    have hsymbol : (s₂.inst s.insts.next).symbol = s.symbols.next :=
      congrArg Instance.symbol (Table.get_push_next s.insts i)
    exact (hdeclared.newInst hsound i).listInTemplate (hsound.scopesApart.newInst i) ht
      (fun _ => ⟨rfl, rfl⟩) (listedByTemplate_addLine (s := s₂) _ hsymbol)

/-- A change of a template that lists the same, in a sound store. -/
theorem Enrolled.edited (hreg : s.Enrolled none) (h : s.Sound) (ht : t ∈ s.templates)
    {f : Template → Template} (hf : ∀ u, Template.SameLists u (f u)) :
    (s.modifyTemplate t f).Enrolled none :=
  hreg.editTemplate h.scopesApart ht hf

theorem Enrolled.setInitial (hreg : s.Enrolled none) (h : s.Sound) (ht : t ∈ s.templates)
    (symbol : SymbolId) : (s.setInitial t symbol).1.Enrolled none := by
  unfold Store.setInitial
  split
  · exact hreg.edited h ht fun _ => ⟨rfl, rfl, rfl, rfl, rfl⟩
  · exact hreg.report h _ _ _ ""

theorem Enrolled.addEdge (hreg : s.Enrolled none) (h : s.Sound) (ht : t ∈ s.templates)
    (source target : SymbolId) (control : Bool) (actname : String) :
    (s.addEdge t source target control actname).1.Enrolled none := by
  unfold Store.addEdge
  split
  · exact hreg.report h _ _ _ ""
  · split
    · exact hreg.report h _ _ _ ""
    · exact hreg.edited h ht fun _ => ⟨rfl, rfl, rfl, rfl, rfl⟩

theorem Enrolled.addMessage (hreg : s.Enrolled none) (h : s.Sound) (ht : t ∈ s.templates)
    (source target : SymbolId) (location : Int) (prechart : Bool) (label : Expression) :
    (s.addMessage t source target location prechart label).1.Enrolled none := by
  unfold Store.addMessage
  split
  · exact hreg.report h _ _ _ ""
  · split
    · exact hreg.report h _ _ _ ""
    · exact hreg.edited h ht fun _ => ⟨rfl, rfl, rfl, rfl, rfl⟩

theorem Enrolled.addCondition (hreg : s.Enrolled none) (h : s.Sound) (ht : t ∈ s.templates)
    (anchors : List SymbolId) (location : Int) (prechart hot : Bool) (label : Expression) :
    (s.addCondition t anchors location prechart hot label).1.Enrolled none := by
  unfold Store.addCondition
  split
  · exact hreg.edited h ht fun _ => ⟨rfl, rfl, rfl, rfl, rfl⟩
  · exact hreg.report h _ _ _ ""

theorem Enrolled.addUpdate (hreg : s.Enrolled none) (h : s.Sound) (ht : t ∈ s.templates)
    (anchor : SymbolId) (location : Int) (prechart : Bool) (label : Expression) :
    (s.addUpdate t anchor location prechart label).1.Enrolled none := by
  unfold Store.addUpdate
  split
  · exact hreg.edited h ht fun _ => ⟨rfl, rfl, rfl, rfl, rfl⟩
  · exact hreg.report h _ _ _ ""

end Body

/-! ## Instances of a document -/

section Documents

variable {d : DocumentId}

/-- One more instance in one of the two lists. -/
theorem listedByDocument_addInst {x y : Document} {i : InstanceId} {r : SymbolId}
    (hr : (s.inst i).symbol = r) (htemplates : y.allTemplates = x.allTemplates)
    (hinsts : (x.instances ++ x.lscInstances ++ [i]).Perm (y.instances ++ y.lscInstances)) (ρ : Role) :
    ρ.Agree (s.listedByDocument x ρ ++ if Role.inst = ρ then [r] else [])
      (s.listedByDocument y ρ) := by
  cases ρ with
  | inst =>
    have hperm := hinsts.map fun i => (s.inst i).symbol
    rw [List.map_append, List.map_singleton, hr] at hperm
    exact hperm
  | template => exact .of_eq (by simp [listedByDocument, htemplates])
  | _ => rfl

theorem Enrolled.instantiate (hreg : s.Enrolled none) (h : s.Sound) (hd : d ∈ s.documents)
    (name : String) (base : InstanceId) (parameters : List SymbolId)
    (arguments : List (Term SymbolId)) (span : Span) {enlist : InstanceId → Document → Document}
    (hglobals : ∀ i x, (enlist i x).globals = x.globals)
    (htemplates : ∀ i x, (enlist i x).allTemplates = x.allTemplates)
    (hinsts : ∀ i x, (x.instances ++ x.lscInstances ++ [i]).Perm
      ((enlist i x).instances ++ (enlist i x).lscInstances)) :
    (s.instantiate d name base parameters arguments span enlist).1.Enrolled none := by
  unfold Store.instantiate
  rcases s.bind_cases base parameters arguments with heq | ⟨b, -, -, heq⟩ <;> rw [heq]
  · exact hreg.report h _ span _ ""
  · let x : Symbol := { name, type := "instance", span, subject := .inst s.insts.next }
    dsimp only
    rcases s.declare_cases (s.globalFrame d) x with heq | ⟨hnew, heq⟩ <;> rw [heq]
    · exact hreg.report h _ span _ ""
    · have hdeclared := hreg.declareIn h (h.documents d hd).globals hnew (ρ := .inst) rfl
      have hsound := h.declared (s.globalFrame d) x
      let i : Instance := { symbol := s.symbols.next, template := (s.inst base).template, binding := b }
      let s₂ : Store :=
        { s.declared (s.globalFrame d) x with insts := (s.declared (s.globalFrame d) x).insts.push i }
      have hsymbol : (s₂.inst s.insts.next).symbol = s.symbols.next :=
        congrArg Instance.symbol (Table.get_push_next s.insts i)
      exact (hdeclared.newInst hsound i).listInDocument (hsound.scopesApart.newInst i) hd
        (hglobals _) (listedByDocument_addInst (s := s₂) hsymbol (htemplates _ _) (hinsts _ _))

theorem Enrolled.addInstance (hreg : s.Enrolled none) (h : s.Sound) (hd : d ∈ s.documents)
    (name : String) (base : InstanceId) (parameters : List SymbolId)
    (arguments : List (Term SymbolId)) (span : Span) :
    (s.addInstance d name base parameters arguments span).1.Enrolled none := by
  refine hreg.instantiate h hd _ _ _ _ span (fun _ _ => rfl) (fun _ _ => rfl) fun i x => ?_
  rw [List.append_assoc, List.append_assoc]
  exact List.perm_append_comm.append_left x.instances

theorem Enrolled.addLscInstance (hreg : s.Enrolled none) (h : s.Sound) (hd : d ∈ s.documents)
    (name : String) (base : InstanceId) (parameters : List SymbolId)
    (arguments : List (Term SymbolId)) (span : Span) :
    (s.addLscInstance d name base parameters arguments span).1.Enrolled none := by
  refine hreg.instantiate h hd _ _ _ _ span (fun _ _ => rfl) (fun _ _ => rfl) fun i x => ?_
  rw [List.append_assoc]

theorem Enrolled.addProcess (hreg : s.Enrolled none) (h : s.Sound) (hd : d ∈ s.documents)
    (i : InstanceId) (span : Span) : (s.addProcess d i span).1.Enrolled none := by
  unfold Store.addProcess
  dsimp only
  split
  · exact hreg.report h _ span _ ""
  · let x : Symbol :=
      { name := s.instName i, type := processType (s.inst i).binding.isClosed, span,
        subject := .process s.insts.next }
    let copy : Instance := { s.inst i with symbol := s.symbols.next }
    have hstep : s.Step .fresh (s.newSymbol x).1 := .symbols [x]
    have hsymbol := hstep.enrolled h trivial (fun _ => rfl) hreg
    have hsound := hstep.sound h
    exact (hsymbol.newInst hsound copy).editDocument (hsound.scopesApart.newInst copy) hd
      fun _ => ⟨rfl, rfl, rfl⟩

/-! ## Settings of a document -/

/-- What is stored in a document beside its templates and instances. -/
theorem Enrolled.setting (hreg : s.Enrolled none) (h : s.Sound) (hd : d ∈ s.documents)
    {f : Document → Document} (hf : ∀ x, Document.SameLists x (f x)) :
    (s.modifyDocument d f).Enrolled none :=
  hreg.editDocument h.scopesApart hd hf

theorem Enrolled.addChanPriority (hreg : s.Enrolled none) (h : s.Sound) (hd : d ∈ s.documents)
    (separator : String) (chan : Term SymbolId) :
    (s.addChanPriority d separator chan).1.Enrolled none := by
  unfold Store.addChanPriority
  dsimp only
  split
  · exact hreg.report h _ _ _ ""
  · exact hreg.setting h hd fun _ => ⟨rfl, rfl, rfl⟩

theorem Enrolled.internString (hreg : s.Enrolled none) (h : s.Sound) (hd : d ∈ s.documents)
    (text : String) : (s.internString d text).1.Enrolled none := by
  rw [Store.internString]
  split
  · exact hreg
  · exact hreg.setting h hd fun _ => ⟨rfl, rfl, rfl⟩

/-- A setting of a document after it is known that the document declares priorities. -/
theorem Enrolled.markedSetting (hreg : s.Enrolled none) (h : s.Sound) (hd : d ∈ s.documents)
    {f : Document → Document} (hf : ∀ x, Document.SameLists x (f x)) :
    ((s.markPriorities d).modifyDocument d f).Enrolled none := by
  have hmark : Path (fun _ => True) s (s.markPriorities d) := h.path_markPriorities trivial
  have hmarked : (s.markPriorities d).Enrolled none := hreg.setting h hd fun _ => ⟨rfl, rfl, rfl⟩
  exact hmarked.setting (hmark.sound h) (Table.mem_modify.mpr hd) hf

end Documents

/-! ## Templates of a document -/

section Templates

variable {d : DocumentId}

/-- One more template in one of the two lists. -/
theorem listedByDocument_addTemplate {x y : Document} {t : TemplateId} {r : SymbolId}
    (hr : s.templateSymbol t = r) (htemplates : (x.allTemplates ++ [t]).Perm y.allTemplates)
    (hinsts : y.instances ++ y.lscInstances = x.instances ++ x.lscInstances) (ρ : Role) :
    ρ.Agree (s.listedByDocument x ρ ++ if Role.template = ρ then [r] else [])
      (s.listedByDocument y ρ) := by
  cases ρ with
  | template =>
    have hperm := htemplates.map s.templateSymbol
    rw [List.map_append, List.map_singleton, hr] at hperm
    exact hperm
  | inst => exact .of_eq (by simp only [listedByDocument, hinsts]; simp)
  | _ => rfl

/-- A new symbol in the global frame and a template under it, which is to be listed. -/
theorem Enrolled.declaredTemplate (hreg : s.Enrolled none) (h : s.Sound) (hd : d ∈ s.documents)
    {x : Symbol} (hnew : s.lookup (s.frame (s.globalFrame d)) x.name = none)
    (hbare : x.subject.isBare = true) {parameters : List SymbolId} (hparameters : s.HasAll parameters)
    (style : Style) :
    ((s.declared (s.globalFrame d) x).newTemplate s.symbols.next parameters
      (some (s.globalFrame d)) (s.document d).log style).1.Enrolled
        (some ⟨(s.document d).globals, .template, s.symbols.next⟩) := by
  have hglobals := (h.documents d hd).globals
  have hdeclared := hreg.declareBare h hnew hbare
  have hsymbol : (s.declared (s.globalFrame d) x).symbol s.symbols.next = x :=
    symbol_declared_next s (s.globalFrame d) x
  refine Enrolled.newTemplate (h.declared _ x) (s.next_mem_declared _ x) (by rwa [hsymbol])
    (h.step_declaredTemplate hd hbare hparameters style) hdeclared (fun ρ => ?_) fun σ hσ => ?_
  · exact Pending.awaited_of_block_ne fun heq => Table.next_not_mem s.blocks (heq ▸ hglobals)
  · have hthere : s.Has σ.entity := by cases σ <;> exact hσ
    have hblock : (s.declared (s.globalFrame d) x).scopeBlock σ = s.scopeBlock σ := by
      cases σ <;> rfl
    have hfresh : s.symbols.next ∉ s.frameSymbols (s.scopeBlock σ) := fun hmem =>
      Table.next_not_mem s.symbols (h.hasAll_frameSymbols (h.scopesApart.mem σ hthere) _ hmem)
    rw [hblock, frameSymbols_declared (h.globalFrame_mem hd)]
    by_cases hσd : s.scopeBlock σ = (s.document d).globals
    · have hframe : (s.block (s.scopeBlock σ)).frame = s.globalFrame d := by rw [hσd]; rfl
      rw [if_pos hframe]
      exact Or.inr ⟨⟨_, rfl, hfresh⟩, fun ρ => hσd ▸ Pending.awaited_self _ _ _ _⟩
    · have hframe : (s.block (s.scopeBlock σ)).frame ≠ s.globalFrame d := fun heq =>
        hσd (h.scopeBlock_eq_of_frame hthere hglobals heq)
      rw [if_neg hframe]
      exact Or.inl ⟨hfresh, fun ρ => Pending.awaited_of_block_ne (Ne.symm hσd)⟩

theorem Enrolled.addTemplate (hreg : s.Enrolled none) (h : s.Sound) (hd : d ∈ s.documents)
    (name : String) {parameters : List SymbolId} (hparameters : s.HasAll parameters) (span : Span)
    (style : Style) : (s.addTemplate d name parameters span style).1.Enrolled none := by
  let x : Symbol := { name, type := templateType style.isTA, span }
  rcases s.declare_cases (s.globalFrame d) x with heq | ⟨hnew, heq⟩ <;> rw [Store.addTemplate, heq]
  · exact hreg.report h _ span _ ""
  · have hmade := hreg.declaredTemplate h hd hnew rfl hparameters style
    have hsound := (h.step_declaredTemplate hd (x := x) rfl hparameters style).sound (h.declared _ x)
    let s₁ := s.declared (s.globalFrame d) x
    let s₂ := (s₁.newTemplate s.symbols.next parameters (some (s.globalFrame d))
      (s.document d).log style).1
    have hsymbol : s₂.templateSymbol s.templates.next = s.symbols.next :=
      templateSymbol_newTemplate s₁ s.symbols.next parameters _ _ style
    refine hmade.listInDocument hsound.scopesApart hd (fun _ => rfl)
      (listedByDocument_addTemplate (s := s₂) hsymbol ?_ (by rfl))
    show ((s.document d).templates ++ (s.document d).dynamicTemplates ++ [s.templates.next]).Perm
      ((s.document d).templates ++ [s.templates.next] ++ (s.document d).dynamicTemplates)
    rw [List.append_assoc, List.append_assoc]
    exact List.perm_append_comm.append_left _

theorem Enrolled.addDynamicTemplate (hreg : s.Enrolled none) (h : s.Sound) (hd : d ∈ s.documents)
    (name : String) {parameters : List SymbolId} (hparameters : s.HasAll parameters) (span : Span) :
    (s.addDynamicTemplate d name parameters span).1.Enrolled none := by
  unfold Store.addDynamicTemplate
  cases hfind : s.findDynamicTemplate? d name with
  | some t =>
    have ht : t ∈ (s.document d).allTemplates :=
      List.mem_append_right _ ((h.findDynamicTemplate?_iff hd).mp hfind).1
    dsimp only
    split
    · exact hreg.report h _ span _ ""
    · exact hreg.edited h ((h.documents d hd).templates t ht).1 fun _ => ⟨rfl, rfl, rfl, rfl, rfl⟩
  | none =>
    let x : Symbol := { name, type := templateType true, span }
    dsimp only
    rcases s.declare_cases (s.globalFrame d) x with heq | ⟨hnew, heq⟩ <;> rw [heq]
    · exact hreg.report h _ span _ ""
    · have hmade := hreg.declaredTemplate h hd hnew rfl hparameters {}
      have hsound := (h.step_declaredTemplate hd (x := x) rfl hparameters {}).sound (h.declared _ x)
      let s₁ := s.declared (s.globalFrame d) x
      let s₂ := (s₁.newTemplate s.symbols.next parameters (some (s.globalFrame d))
        (s.document d).log {}).1
      have hmem : s.templates.next ∈ s₂.templates := Table.next_mem_push _ _
      let assigned : Template → Template := fun t =>
        { t with dynamic := true, dynindex := (s₂.document d).dynamicTemplates.length,
                 isDefined := false }
      let s₃ := s₂.modifyTemplate s.templates.next assigned
      have hfree : s₂.UnlistedTemplate s.templates.next :=
        (h.declared (s.globalFrame d) x).unlistedTemplate
      have hassigned : s₂.Step (.template s.templates.next .definition) s₃ :=
        .editTemplate _ .definition _ fun _ => .makeDynamic _ _ hfree
      have hmarked : s₃.Enrolled (some ⟨(s.document d).globals, .template, s.symbols.next⟩) :=
        hmade.editTemplate hsound.scopesApart hmem fun _ => ⟨rfl, rfl, rfl, rfl, rfl⟩
      have hsymbol : s₃.templateSymbol s.templates.next = s.symbols.next := by
        have hget : s₃.template s.templates.next = assigned (s₂.template s.templates.next) :=
          Table.get_modify_self assigned hmem
        rw [templateSymbol, hget]
        exact templateSymbol_newTemplate s₁ s.symbols.next parameters _ _ {}
      refine hmarked.listInDocument (hassigned.sound hsound).scopesApart hd (fun _ => rfl)
        (listedByDocument_addTemplate (s := s₃) hsymbol ?_ (by rfl))
      show ((s.document d).templates ++ (s.document d).dynamicTemplates ++ [s.templates.next]).Perm
        ((s.document d).templates ++ ((s.document d).dynamicTemplates ++ [s.templates.next]))
      rw [List.append_assoc]

end Templates

end TimedNet.Store
