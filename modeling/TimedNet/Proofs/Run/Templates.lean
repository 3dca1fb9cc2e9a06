import TimedNet.Proofs.Run.Writes

/-!
# `TimedNet.Proofs.Run.Templates` — the steps of operations on templates

A template of a document is a symbol, the template itself and a change of the document. What is added to
a template is a change of the template, after the declaration of a symbol if it has a name.

* `path_addTemplate`, `path_addDynamicTemplate`.
* `path_addLocation`, …, `path_addEdge`: the body of an automaton.
* `path_addInstanceLine`, …, `path_addUpdate`: the body of a chart.
* `hasEndpoint_of_endpoint?`, `owns_of_lineHandle?`: a handle that is handed out is good.
-/

namespace TimedNet.Store

variable {s : Store} {P : Write → Prop} {t : TemplateId}

/-! ## Templates of a document -/

theorem Sound.globalFrame_mem (h : s.Sound) {d : DocumentId} (hd : d ∈ s.documents) :
    s.globalFrame d ∈ s.frames :=
  (h.blocks _ (h.documents d hd).globals).frame

/-- What is not there is listed by no document. -/
theorem Sound.unlistedTemplate (h : s.Sound) : s.UnlistedTemplate s.templates.next := by
  intro d hd hmem
  exact Table.next_not_mem _ ((h.documents d hd).templates _ hmem).1

/-- The local frame of a new template lies where it is said to lie. -/
theorem nested_newTemplate (s : Store) (symbol : SymbolId) (parameters : List SymbolId)
    (globals : Option FrameId) (log : LogId) (style : Style) :
    (s.newTemplate symbol parameters globals log style).1.Nested
      ((s.newTemplate symbol parameters globals log style).1.template s.templates.next).block
      globals := by
  rw [template_newTemplate]
  have hnested := s.nested_newBlock globals parameters
  have hset : (s.newBlock globals parameters).1.Grows
      ((s.newBlock globals parameters).1.newFrame {}).1 := grows_newFrame _ _
  obtain ⟨hblock, hframe, hparent⟩ := hnested.mono hset
  exact ⟨hblock, hframe, hparent⟩

/-- The symbol of a new template. -/
theorem templateSymbol_newTemplate (s : Store) (symbol : SymbolId) (parameters : List SymbolId)
    (globals : Option FrameId) (log : LogId) (style : Style) :
    (s.newTemplate symbol parameters globals log style).1.templateSymbol s.templates.next
      = symbol := by
  rw [templateSymbol, template_newTemplate]
  exact congrArg Instance.symbol (Table.get_push_next s.insts _)

/-- The frame of the global block of a document is the same in a later store. -/
theorem Sound.globalFrame_eq (h : s.Sound) {s' : Store} (hg : s.Grows s') {d : DocumentId}
    (hd : d ∈ s.documents) : s'.globalFrame d = s.globalFrame d := by
  rw [globalFrame, show (s'.document d).globals = _ from (hg.documents d hd).2.globals]
  exact (hg.blocks _ (h.documents d hd).globals).2.frame

/-- A template under a symbol that was just declared in the global frame. -/
theorem Sound.step_declaredTemplate (h : s.Sound) {d : DocumentId} (hd : d ∈ s.documents)
    {x : Symbol} (hbare : x.subject.isBare = true) {parameters : List SymbolId}
    (hparameters : s.HasAll parameters) (style : Style) :
    (s.declared (s.globalFrame d) x).Step (.newTemplate s.symbols.next parameters)
      ((s.declared (s.globalFrame d) x).newTemplate s.symbols.next parameters
        (some (s.globalFrame d)) (s.document d).log style).1 := by
  have hg := s.grows_declared (s.globalFrame d) x
  refine .newTemplate _ parameters _ _ style (s.next_mem_declared _ x) ?_ (hparameters.mono hg) ?_ ?_
  · rw [show (s.declared (s.globalFrame d) x).symbol s.symbols.next = x from
      Table.get_push_next s.symbols x]
    exact hbare
  · intro p hp
    obtain rfl := Option.some.inj hp
    exact (hg.frames _ (h.globalFrame_mem hd)).1
  · exact (h.documents d hd).log

/-- A new symbol in the global frame and a template under it. -/
theorem Sound.path_declaredTemplate (h : s.Sound) {d : DocumentId} (hd : d ∈ s.documents)
    {x : Symbol} (hnew : s.lookup (s.frame (s.globalFrame d)) x.name = none)
    (hbare : x.subject.isBare = true) {parameters : List SymbolId} (hparameters : s.HasAll parameters)
    (style : Style) (hframe : P (.declare (s.globalFrame d)))
    (htemplate : P (.newTemplate s.symbols.next parameters)) :
    Path P s ((s.declared (s.globalFrame d) x).newTemplate s.symbols.next parameters
      (some (s.globalFrame d)) (s.document d).log style).1 :=
  (Path.single hframe (.declare _ x hnew)).step htemplate
    (h.step_declaredTemplate hd hbare hparameters style)

/-- The global frame has the symbol of such a template. -/
theorem Sound.declares_declaredTemplate (h : s.Sound) {d : DocumentId} (hd : d ∈ s.documents)
    {x : Symbol} (hbare : x.subject.isBare = true) {parameters : List SymbolId}
    (hparameters : s.HasAll parameters) (style : Style) :
    (s.document d).Declares
      ((s.declared (s.globalFrame d) x).newTemplate s.symbols.next parameters
        (some (s.globalFrame d)) (s.document d).log style).1 s.symbols.next := by
  have hstep := h.step_declaredTemplate hd hbare hparameters style
  have hdeclared := s.grows_declared (s.globalFrame d) x
  have hmem := h.globalFrame_mem hd
  have hadded : (s.declared (s.globalFrame d) x).frame (s.globalFrame d)
      = (s.frame (s.globalFrame d)).add s.symbols.next := Table.get_modify_self _ hmem
  have hin : s.symbols.next ∈ ((s.declared (s.globalFrame d) x).frame (s.globalFrame d)).symbols := by
    rw [hadded]
    simp
  unfold Document.Declares
  rw [show (Store.block _ (s.document d).globals).frame = s.globalFrame d from
    ((hdeclared.trans hstep.grows).blocks _ (h.documents d hd).globals).2.frame]
  exact (hstep.grows.frames _ (hdeclared.frames _ hmem).1).2.symbols.subset hin

/-- Such a template has the name that was declared. -/
theorem Sound.name_declaredTemplate (h : s.Sound) {d : DocumentId} (hd : d ∈ s.documents)
    {x : Symbol} (hbare : x.subject.isBare = true) {parameters : List SymbolId}
    (hparameters : s.HasAll parameters) (style : Style) :
    ((s.declared (s.globalFrame d) x).newTemplate s.symbols.next parameters
        (some (s.globalFrame d)) (s.document d).log style).1.name s.symbols.next = x.name := by
  have hstep := h.step_declaredTemplate hd hbare hparameters style
  have hdeclared : (s.declared (s.globalFrame d) x).name s.symbols.next = x.name :=
    congrArg Symbol.name (Table.get_push_next s.symbols x)
  exact (hstep.grows.symbols _ (s.next_mem_declared _ x)).2.name.trans hdeclared

theorem Sound.path_addTemplate (h : s.Sound) {d : DocumentId} (hd : d ∈ s.documents) {name : String}
    {parameters : List SymbolId} {span : Span} {style : Style} (hparameters : s.HasAll parameters)
    (hlog : P (.log (s.document d).log)) (hframe : P (.declare (s.globalFrame d)))
    (htemplate : P (.newTemplate s.symbols.next parameters)) (hdocument : P (.document d)) :
    Path P s (s.addTemplate d name parameters span style).1 := by
  let x : Symbol := { name, type := templateType style.isTA, span }
  rcases s.declare_cases (s.globalFrame d) x with heq | ⟨hnew, heq⟩ <;> rw [addTemplate, heq]
  · exact path_reject _ span _ hlog
  · have hdeclared := h.declared (s.globalFrame d) x
    have hpath : Path P s _ :=
      h.path_declaredTemplate hd hnew rfl hparameters style hframe htemplate
    refine hpath.step hdocument
      (.editDocument d _ fun _ => .addTemplate _ _ (Table.next_mem_push _ _) ?_ ?_ ?_ ?_)
    · exact congrArg Template.log
        (template_newTemplate (s.declared (s.globalFrame d) x) _ parameters _ _ style)
    · exact hdeclared.unlistedTemplate
    · rw [show (Store.block _ (Store.document _ d).globals).frame = _ from
        h.globalFrame_eq hpath.grows hd]
      exact nested_newTemplate (s.declared (s.globalFrame d) x) _ parameters _ _ style
    · show (Store.document _ d).Declares _ (Store.templateSymbol _ s.templates.next)
      rw [show Store.templateSymbol _ s.templates.next = _ from
        templateSymbol_newTemplate (s.declared (s.globalFrame d) x) _ parameters _ _ style]
      exact h.declares_declaredTemplate hd rfl hparameters style

theorem Sound.path_addDynamicTemplate (h : s.Sound) {d : DocumentId} (hd : d ∈ s.documents)
    {name : String} {parameters : List SymbolId} {span : Span} (hparameters : s.HasAll parameters)
    (hlog : P (.log (s.document d).log)) (hframe : P (.declare (s.globalFrame d)))
    (htemplate : P (.newTemplate s.symbols.next parameters))
    (hassign : P (.template s.templates.next .definition))
    (hdefine : ∀ t ∈ s.findDynamicTemplate? d name, P (.template t .definition))
    (hdocument : P (.document d)) :
    Path P s (s.addDynamicTemplate d name parameters span).1 := by
  unfold addDynamicTemplate
  cases hfind : s.findDynamicTemplate? d name with
  | some t =>
    -- The template was declared before, and now it is defined, unless it was already.
    dsimp only
    split
    · exact path_reject _ span _ hlog
    · exact .single (hdefine t hfind) (.editTemplate t .definition _ fun _ => .define _)
  | none =>
    -- The template is new.
    let x : Symbol := { name, type := templateType true, span }
    dsimp only
    rcases s.declare_cases (s.globalFrame d) x with heq | ⟨hnew, heq⟩ <;> rw [heq]
    · exact path_reject _ span _ hlog
    · -- The template is made, marked as dynamic, and listed.
      have hdeclared := h.declared (s.globalFrame d) x
      let s₁ := s.declared (s.globalFrame d) x
      let s₂ := (s₁.newTemplate s.symbols.next parameters (some (s.globalFrame d))
        (s.document d).log {}).1
      have hmem : s.templates.next ∈ s₂.templates := Table.next_mem_push _ _
      have hfresh : s₂.template s.templates.next
          = s₁.freshTemplate parameters (some (s.globalFrame d)) (s.document d).log {} :=
        template_newTemplate s₁ _ _ _ _ _
      let assigned : Template → Template := fun t =>
        { t with dynamic := true, dynindex := (s₂.document d).dynamicTemplates.length,
                 isDefined := false }
      have hfree : s₂.UnlistedTemplate s.templates.next := hdeclared.unlistedTemplate
      have hassigned : s₂.Step (.template s.templates.next .definition)
          (s₂.modifyTemplate s.templates.next assigned) :=
        .editTemplate _ .definition _ fun _ => .makeDynamic _ _ hfree
      have hget : (s₂.modifyTemplate s.templates.next assigned).template s.templates.next
          = assigned (s₂.template s.templates.next) := Table.get_modify_self assigned hmem
      have hmade : Path P s s₂ := h.path_declaredTemplate hd hnew rfl hparameters {} hframe htemplate
      have hpath : Path P s (s₂.modifyTemplate s.templates.next assigned) :=
        hmade.step hassign hassigned
      have hsymbol : (s₂.modifyTemplate s.templates.next assigned).templateSymbol s.templates.next
          = s.symbols.next := by
        rw [templateSymbol, hget]
        exact templateSymbol_newTemplate s₁ s.symbols.next parameters _ _ {}
      refine hpath.step hdocument (.editDocument d _ fun _ =>
        .addDynamicTemplate _ _ _ (Table.mem_modify.mpr hmem) ?_ ?_ ?_ ?_ ?_ ?_ hfind)
      · show ((s₂.modifyTemplate s.templates.next assigned).template s.templates.next).log = _
        rw [hget, hfresh]
        rfl
      · exact hdeclared.unlistedTemplate
      · rw [show (Store.block _ (Store.document _ d).globals).frame = _ from
          h.globalFrame_eq hpath.grows hd]
        have hnested := (nested_newTemplate s₁ s.symbols.next parameters (some (s.globalFrame d))
          (s.document d).log {}).mono hassigned.grows
        show Nested _ (Store.template _ s.templates.next).block _
        rw [hget]
        exact hnested
      · show (Store.document _ d).Declares _ (Store.templateSymbol _ s.templates.next)
        rw [hsymbol]
        exact h.declares_declaredTemplate hd rfl hparameters {}
      · show ((s₂.modifyTemplate s.templates.next assigned).template s.templates.next).dynindex = _
        rw [hget]
        rfl
      · show (s₂.modifyTemplate s.templates.next assigned).name
          ((s₂.modifyTemplate s.templates.next assigned).templateSymbol s.templates.next) = name
        rw [hsymbol]
        exact h.name_declaredTemplate hd rfl hparameters {}

/-! ## Automata -/

/-- A symbol declared in the local frame of a template is in that frame. -/
theorem Sound.declares_declared (h : s.Sound) (ht : t ∈ s.templates) (x : Symbol) :
    Template.Declares (s.declared (s.localFrame t) x) (s.template t) s.symbols.next := by
  have hframe : s.localFrame t ∈ s.frames := (h.blocks _ (h.templates t ht).block).frame
  have hadded : (s.declared (s.localFrame t) x).frame (s.localFrame t)
      = (s.frame (s.localFrame t)).add s.symbols.next := Table.get_modify_self _ hframe
  show s.symbols.next ∈ ((s.declared (s.localFrame t) x).frame (s.localFrame t)).symbols
  rw [hadded]
  simp

theorem Sound.path_addLocation (h : s.Sound) {name : String} {invariant rate : Expression} {span : Span}
    (hinvariant : s.HasAll invariant.term.occurrences) (hrate : s.HasAll rate.term.occurrences)
    (hlog : P (.log (s.template t).log)) (hframe : P (.declare (s.localFrame t)))
    (htemplate : P (.template t .body)) :
    Path P s (s.addLocation t name invariant rate span).1 := by
  let x : Symbol :=
    { name, type := "location", span, subject := .location t (s.template t).locations.size }
  rcases s.declare_cases (s.localFrame t) x with heq | ⟨hnew, heq⟩ <;> rw [addLocation, heq]
  · exact path_reject _ span _ hlog
  · have hstands := stands_declared s (s.localFrame t) (x := x) rfl
    have hg := s.grows_declared (s.localFrame t) x
    refine (Path.single hframe (.declare _ x hnew)).step htemplate
      (.editTemplate t .body _ fun ht => .addLocation _ _ ?_ hstands rfl (h.declares_declared ht x))
    have hsymbol : (s.declared (s.localFrame t) x).HasAll [s.symbols.next] :=
      hasAll_cons.mpr ⟨hstands.mem, hasAll_nil _⟩
    exact (((hsymbol.append hsymbol).append (hinvariant.mono hg)).append (hrate.mono hg)).append
      (hasAll_nil _)

theorem Sound.path_addBranchpoint (h : s.Sound) {name : String} {span : Span}
    (hlog : P (.log (s.template t).log)) (hframe : P (.declare (s.localFrame t)))
    (htemplate : P (.template t .body)) :
    Path P s (s.addBranchpoint t name span).1 := by
  let x : Symbol :=
    { name, type := "branchpoint", span, subject := .branchpoint t (s.template t).branchpoints.size }
  rcases s.declare_cases (s.localFrame t) x with heq | ⟨hnew, heq⟩ <;> rw [addBranchpoint, heq]
  · exact path_reject _ span _ hlog
  · have hstands := stands_declared s (s.localFrame t) (x := x) rfl
    exact (Path.single hframe (.declare _ x hnew)).step htemplate
      (.editTemplate t .body _ fun ht => .addBranchpoint _ _ hstands rfl (h.declares_declared ht x))

/-- A node that is found for a symbol is one of the template. -/
theorem hasEndpoint_of_endpoint? {symbol : SymbolId} {e : Endpoint}
    (h : s.endpoint? t symbol = some e) : (s.template t).hasEndpoint e = true := by
  unfold endpoint? at h
  split at h
  · next owner index _ =>
    dsimp only at h
    split at h
    · next hcond =>
      obtain rfl := Option.some.inj h
      exact Arena.owns_handleAt.mpr hcond.2
    · exact absurd h (by simp)
  · next owner index _ =>
    dsimp only at h
    split at h
    · next hcond =>
      obtain rfl := Option.some.inj h
      exact Arena.owns_handleAt.mpr hcond.2
    · exact absurd h (by simp)
  · exact absurd h (by simp)

theorem path_setInitial {symbol : SymbolId} (hsymbol : symbol ∈ s.symbols)
    (hlog : P (.log (s.template t).log)) (htemplate : P (.template t .initial)) :
    Path P s (s.setInitial t symbol).1 := by
  unfold setInitial
  split
  · exact .single htemplate (.editTemplate t .initial _ fun _ => .setInitial _ symbol hsymbol)
  · exact path_reject _ _ _ hlog

theorem path_addEdge {source target : SymbolId} {control : Bool} {actname : String}
    (hlog : P (.log (s.template t).log)) (htemplate : P (.template t .body)) :
    Path P s (s.addEdge t source target control actname).1 := by
  unfold addEdge
  split
  · exact path_reject _ _ _ hlog
  · next start hstart =>
    split
    · exact path_reject _ _ _ hlog
    · next stop hstop =>
      refine .single htemplate
        (.editTemplate t .body _ fun _ => .addEdge _ _ (hasAll_nil s) ?_ ?_ rfl)
      · exact hasEndpoint_of_endpoint? hstart
      · exact hasEndpoint_of_endpoint? hstop

/-! ## Charts -/

theorem Sound.path_addInstanceLine (h : s.Sound) {name : String} {span : Span} (ht : t ∈ s.templates)
    (hlog : P (.log (s.template t).log)) (hframe : P (.declare (s.localFrame t)))
    (hinst : P (.inst (.ofParameters []))) (htemplate : P (.template t .body)) :
    Path P s (s.addInstanceLine t name span).1 := by
  let x : Symbol :=
    { name, type := "instance-line", span, subject := .line t (s.template t).lines.size }
  rcases s.declare_cases (s.localFrame t) x with heq | ⟨hnew, heq⟩ <;> rw [addInstanceLine, heq]
  · exact path_reject _ span _ hlog
  · let s₁ := s.declared (s.localFrame t) x
    let i : Instance := { symbol := s.symbols.next, template := t }
    have hstands : s₁.Stands s.symbols.next (.line t (s.template t).lines.size) :=
      stands_declared s (s.localFrame t) (x := x) rfl
    have hi : i.Sound s₁ := ⟨hasAll_cons.mpr ⟨hstands.mem, hasAll_nil _⟩, ht⟩
    have hg := s₁.grows_newInst i
    have hsymbol : ({ s₁ with insts := s₁.insts.push i } : Store).inst s.insts.next = i :=
      Table.get_push_next s.insts i
    refine ((Path.single hframe (.declare _ x hnew)).step hinst (.inst i hi)).step htemplate
      (.editTemplate t .body _ fun _ => .addLine _ _ (Table.next_mem_push _ _) rfl ?_ rfl ?_)
    · show Stands _ (Store.inst _ s.insts.next).symbol _
      rw [hsymbol]
      exact hstands.mono hg
    · show Template.Declares s₁ (s.template t) (Store.inst _ s.insts.next).symbol
      rw [hsymbol]
      exact h.declares_declared ht x

/-- The line that is found for a symbol is one of the chart. -/
theorem owns_of_lineHandle? {symbol : SymbolId} {handle : Handle}
    (h : s.lineHandle? t symbol = some handle) : (s.template t).lines.owns handle = true := by
  unfold lineHandle? at h
  split at h
  · dsimp only at h
    split at h
    · next hcond =>
      obtain rfl := Option.some.inj h
      exact Arena.owns_handleAt.mpr hcond.2
    · exact absurd h (by simp)
  · exact absurd h (by simp)

/-- The same holds of several lines, all of which have to be found. -/
theorem owns_of_lineHandles {symbols : List SymbolId} :
    ∀ {handles : List Handle}, s.lineHandles t symbols = .ok handles →
      ∀ handle ∈ handles, (s.template t).lines.owns handle = true := by
  induction symbols with
  | nil =>
    intro handles h
    obtain rfl := Except.ok.inj h
    exact fun handle hmem => absurd hmem List.not_mem_nil
  | cons symbol symbols ih =>
    intro handles h
    unfold lineHandles at h
    split at h
    · exact absurd h (by simp)
    · next first hfirst =>
      cases hrest : s.lineHandles t symbols with
      | error r =>
        rw [hrest] at h
        exact absurd h (by simp [Except.map])
      | ok rest =>
        rw [hrest] at h
        obtain rfl := Except.ok.inj h
        exact List.forall_mem_cons.mpr ⟨owns_of_lineHandle? hfirst, ih hrest⟩

theorem path_addMessage {source target : SymbolId} {location : Int} {prechart : Bool}
    {label : Expression} (hlabel : s.HasAll label.term.occurrences)
    (hlog : P (.log (s.template t).log)) (htemplate : P (.template t .body)) :
    Path P s (s.addMessage t source target location prechart label).1 := by
  unfold addMessage
  split
  · exact path_reject _ _ _ hlog
  · next start hstart =>
    split
    · exact path_reject _ _ _ hlog
    · next stop hstop =>
      exact .single htemplate (.editTemplate t .body _ fun _ => .addMessage _ _ hlabel
        (owns_of_lineHandle? hstart) (owns_of_lineHandle? hstop) rfl)

theorem path_addCondition {anchors : List SymbolId} {location : Int} {prechart hot : Bool}
    {label : Expression} (hlabel : s.HasAll label.term.occurrences)
    (hlog : P (.log (s.template t).log)) (htemplate : P (.template t .body)) :
    Path P s (s.addCondition t anchors location prechart hot label).1 := by
  unfold addCondition
  split
  · next handles hhandles =>
    exact .single htemplate (.editTemplate t .body _ fun _ => .addCondition _ _ hlabel
      (owns_of_lineHandles hhandles) rfl)
  · exact path_reject _ _ _ hlog

theorem path_addUpdate {anchor : SymbolId} {location : Int} {prechart : Bool} {label : Expression}
    (hlabel : s.HasAll label.term.occurrences) (hlog : P (.log (s.template t).log))
    (htemplate : P (.template t .body)) :
    Path P s (s.addUpdate t anchor location prechart label).1 := by
  unfold addUpdate
  split
  · next handle hhandle =>
    exact .single htemplate (.editTemplate t .body _ fun _ => .addUpdate _ _ hlabel
      (owns_of_lineHandle? hhandle) rfl)
  · exact path_reject _ _ _ hlog

/-! ## Restriction -/

/-- A block that is not there has nothing in it. -/
theorem Sound.hasAll_block (h : s.Sound) (b : BlockId) : s.HasAll (s.block b).symbols := by
  by_cases hb : b ∈ s.blocks
  · exact (h.blocks b hb).symbols
  · have hnone : s.blocks.get? b = none := Table.get?_eq_none_iff.mpr (Nat.le_of_not_lt hb)
    rw [block, Table.get, hnone]
    exact hasAll_nil s

/-- The same holds of the initialiser of a variable that is not there. -/
theorem Sound.hasAll_variableAt (h : s.Sound) (owner : VariableRef) :
    s.HasAll (s.variableAt owner).init.term.occurrences := by
  have hget : ∀ (vars : List Variable) (i : Nat), (∀ v ∈ vars, s.HasAll v.symbols) →
      s.HasAll (vars.getD i default).init.term.occurrences := by
    intro vars i hvars
    rw [List.getD_eq_getElem?_getD]
    cases hv : vars[i]? with
    | none => exact hasAll_nil s
    | some v => exact (Variable.hasAll_symbols.mp (hvars v (List.mem_of_getElem? hv))).2
  cases owner with
  | ofBlock b i => exact hget _ i (Block.hasAll_symbols.mp (h.hasAll_block b)).1
  | ofFunction f i =>
    refine hget _ i ?_
    rw [functionAt, List.getD_eq_getElem?_getD]
    cases hf : (s.block f.block).functions[f.index]? with
    | none => exact fun v hv => absurd hv List.not_mem_nil
    | some g =>
      have hg := (Block.hasAll_symbols.mp (h.hasAll_block f.block)).2.1 g (List.mem_of_getElem? hf)
      exact (Function.hasAll_symbols.mp hg).2.2.2.1

theorem Sound.hasAll_dependencies (h : s.Sound) (r : SymbolId) : s.HasAll (s.dependencies r) := by
  unfold dependencies
  split
  · intro q hq
    exact h.hasAll_variableAt _ q (List.mem_eraseDups.mp hq)
  · exact hasAll_nil s

theorem Sound.hasAll_restrictAll (h : s.Sound) (restricted stack : List SymbolId)
    (hrestricted : s.HasAll restricted) (hstack : s.HasAll stack) :
    s.HasAll (s.restrictAll restricted stack) := by
  fun_induction restrictAll s restricted stack with
  | case1 restricted => exact hrestricted
  | case2 restricted symbol stack _ ih => exact ih hrestricted (hasAll_cons.mp hstack).2
  | case3 restricted symbol stack _ ih =>
    have hsymbol := hasAll_cons.mp hstack
    refine ih (hrestricted.append (hasAll_cons.mpr ⟨hsymbol.1, hasAll_nil s⟩)) ?_
    refine HasAll.append (fun q hq => ?_) hsymbol.2
    exact h.hasAll_dependencies symbol q (List.mem_reverse.mp hq)

theorem modifyInst_congr {r : InstanceId} {f g : Instance → Instance}
    (hfg : r ∈ s.insts → f (s.inst r) = g (s.inst r)) : s.modifyInst r f = s.modifyInst r g := by
  rw [modifyInst, modifyInst, Table.modify_congr hfg]

theorem Sound.path_restrict (h : s.Sound) (ht : t ∈ s.templates) {symbol : SymbolId}
    (hsymbol : symbol ∈ s.symbols) (hinst : P (.restrict (s.template t).inst)) :
    Path P s (s.restrict t symbol) := by
  let restricted := (s.inst (s.template t).inst).binding.restricted
  have hinst' := (h.insts _ (h.templates t ht).inst).symbols
  unfold Instance.symbols at hinst'
  have hall : s.HasAll (s.restrictAll restricted [symbol]) :=
    h.hasAll_restrictAll restricted [symbol] (hasAll_append.mp hinst').2
      (hasAll_cons.mpr ⟨hsymbol, hasAll_nil s⟩)
  have heq : s.restrict t symbol = s.modifyInst (s.template t).inst fun i =>
      { i with binding := { i.binding with restricted := s.restrictAll restricted [symbol] } } :=
    modifyInst_congr fun _ => rfl
  rw [heq]
  exact .single hinst (.restrict (s.template t).inst _ hall)

end TimedNet.Store
