import TimedNet.Proofs.Binding.Restriction
import TimedNet.Proofs.Run.Templates

/-!
# `TimedNet.Proofs.Run.Documents` — the steps of operations on documents

* `Binding.hasAll_extend`: a step of instantiation mentions what it was given.
* `path_instantiate`, `path_bindLine`, `path_addProcess`: new instances.
* `path_setting`: everything else that is stored in a document.
* `path_openLog`, `path_openDocument`.
-/

namespace TimedNet

/-! ## What a step of instantiation mentions -/

theorem Instance.Sound.copy {s : Store} {i : Instance} (hi : i.Sound s) {symbol : SymbolId}
    (hsymbol : symbol ∈ s.symbols) : Instance.Sound s { i with symbol } :=
  ⟨Instance.hasAll_symbols.mpr ⟨hsymbol, (Instance.hasAll_symbols.mp hi.symbols).2⟩, hi.template⟩

namespace Store

variable {s : Store} {P : Write → Prop}

/-- **A step of instantiation mentions only what its base and what was given mention.** -/
theorem hasAll_extend {base : Instance} {symbol : SymbolId} {template : TemplateId}
    {parameters : List SymbolId} {arguments : List (Term SymbolId)} (hbase : s.HasAll base.symbols)
    (hsymbol : symbol ∈ s.symbols) (hparameters : s.HasAll parameters)
    (harguments : s.HasAll (arguments.flatMap Term.occurrences)) :
    s.HasAll ({ symbol, template, binding := base.binding.extend parameters arguments } :
      Instance).symbols := by
  obtain ⟨_, hold, hmapping, hrestricted⟩ := Instance.hasAll_symbols.mp hbase
  have hargument : ∀ {fresh : List SymbolId}, ∀ pair ∈ fresh.zip arguments,
      s.HasAll pair.2.occurrences := fun pair hpair =>
    hasAll_flatMap.mp harguments pair.2 (List.of_mem_zip hpair).2
  refine Instance.hasAll_symbols.mpr ⟨hsymbol, ?_, ?_, ?_⟩
  · -- New parameters, then those that stay open, those that were bound, and those bound now.
    have hfree : s.HasAll base.binding.unboundParameters := fun r hr => hold r (List.mem_of_mem_take hr)
    refine HasAll.append (HasAll.append (HasAll.append hparameters ?_) ?_) ?_
    · exact fun r hr => hfree r (List.mem_of_mem_drop hr)
    · exact fun r hr => hold r (List.mem_of_mem_drop hr)
    · exact fun r hr => hfree r (List.mem_of_mem_take hr)
  · intro pair hpair
    rcases Ordered.mem_of_mem_foldl_put hpair with hmem | hmem
    · exact hmapping pair hmem
    · refine ⟨?_, hargument pair hmem⟩
      exact hold _ (List.mem_of_mem_take (List.mem_of_mem_take (List.of_mem_zip hmem).1))
  · intro r hr
    rcases Binding.mem_passOn.mp hr with hmem | ⟨pair, hpair, _, hmem⟩
    · exact hrestricted r hmem
    · exact hargument pair (List.mem_of_mem_filter hpair) r hmem

/-! ## Instances -/

theorem bind_cases (s : Store) (base : InstanceId) (parameters : List SymbolId)
    (arguments : List (Term SymbolId)) :
    s.bind base parameters arguments
        = .error (ProblemKind.tooManyArguments.on (s.instName base))
      ∨ ∃ b, (s.inst base).binding.bind? parameters arguments = some b
        ∧ b = (s.inst base).binding.extend parameters arguments
        ∧ s.bind base parameters arguments = .ok b := by
  unfold bind
  cases hbind : (s.inst base).binding.bind? parameters arguments with
  | none => exact Or.inl rfl
  | some b => exact Or.inr ⟨b, rfl, (Binding.eq_extend_of_bind? hbind).2, rfl⟩

/-- What is not there is listed by no document. -/
theorem Sound.unlistedInst (h : s.Sound) : s.UnlistedInst s.insts.next := by
  intro d hd hmem
  rw [Document.listed, List.mem_append] at hmem
  rcases hmem with hmem | hmem
  · exact Table.next_not_mem _ ((h.documents d hd).instances _ hmem).1
  · exact Table.next_not_mem _ ((h.documents d hd).processes _ hmem).1

/-- **Instantiating takes three steps**: a symbol, an instance, and its place in a list. -/
theorem Sound.path_instantiate (h : s.Sound) {d : DocumentId} {name : String} {base : InstanceId}
    {parameters : List SymbolId} {arguments : List (Term SymbolId)} {span : Span}
    {enlist : InstanceId → Document → Document} (hbase : base ∈ s.insts)
    (hparameters : s.HasAll parameters) (harguments : s.HasAll (arguments.flatMap Term.occurrences))
    (henlist : ∀ (u : Store) (x : Document) (i : InstanceId), i ∈ u.insts →
      u.Stands (u.inst i).symbol (.inst i) → u.UnlistedInst i → x.Edit u (enlist i x))
    (hlog : P (.log (s.document d).log)) (hframe : P (.declare (s.globalFrame d)))
    (hinst : ∀ b ∈ (s.inst base).binding.bind? parameters arguments, P (.inst b))
    (hdocument : P (.document d)) :
    Path P s (s.instantiate d name base parameters arguments span enlist).1 := by
  unfold instantiate
  rcases s.bind_cases base parameters arguments with heq | ⟨b, hb, hextend, heq⟩ <;> rw [heq]
  · exact path_reject _ span _ hlog
  · let x : Symbol := { name, type := "instance", span, subject := .inst s.insts.next }
    dsimp only
    rcases s.declare_cases (s.globalFrame d) x with heq | ⟨hnew, heq⟩ <;> rw [heq]
    · exact path_reject _ span _ hlog
    · let s₁ := s.declared (s.globalFrame d) x
      let i : Instance :=
        { symbol := s.symbols.next, template := (s.inst base).template, binding := b }
      have hg : s.Grows s₁ := s.grows_declared (s.globalFrame d) x
      have hstands : s₁.Stands s.symbols.next (.inst s.insts.next) :=
        stands_declared s (s.globalFrame d) (x := x) rfl
      have hi : i.Sound s₁ := by
        refine ⟨?_, (h.insts base hbase).template⟩
        show s₁.HasAll ({ i with binding := b } : Instance).symbols
        rw [hextend]
        exact hasAll_extend ((h.insts base hbase).symbols.mono hg) hstands.mem (hparameters.mono hg)
          (harguments.mono hg)
      let s₂ : Store := { s₁ with insts := s₁.insts.push i }
      have hget : s₂.inst s.insts.next = i := Table.get_push_next s.insts i
      refine ((Path.single hframe (.declare _ x hnew)).step (hinst b hb) (.inst i hi)).step hdocument
        (.editDocument d _ fun _ => henlist s₂ _ _ (Table.next_mem_push _ _) ?_ ?_)
      · rw [hget]
        exact hstands.mono (s₁.grows_newInst i)
      · exact (h.declared (s.globalFrame d) x).unlistedInst

theorem getElem?_lineAt {t : TemplateId} {index : Nat} (hindex : index < (s.template t).lines.size) :
    (s.template t).lines.items[index]? = some (s.lineAt t index) := by
  rw [lineAt, List.getD_eq_getElem?_getD, List.getElem?_eq_getElem hindex]
  rfl

/-- The instance of a line is not that of a template, since its symbol stands for the line. -/
theorem Sound.lineInst_ne (h : s.Sound) {t : TemplateId} (ht : t ∈ s.templates) {index : Nat}
    (hindex : index < (s.template t).lines.size) :
    ∀ u ∈ s.templates, (s.template u).inst ≠ (s.lineAt t index).inst := by
  intro u hu heq
  have hline := ((h.templates t ht).lines index _ (getElem?_lineAt hindex)).2
  have hown := (h.templates u hu).own
  rw [heq] at hown
  exact absurd (hown.unique hline) (by simp)

theorem Sound.path_bindLine (h : s.Sound) {line base : InstanceId} {parameters : List SymbolId}
    {arguments : List (Term SymbolId)} (hline : ∀ u ∈ s.templates, (s.template u).inst ≠ line)
    (hmem : line ∈ s.insts) (hbase : base ∈ s.insts) (hparameters : s.HasAll parameters)
    (harguments : s.HasAll (arguments.flatMap Term.occurrences))
    (hbind : ∀ b ∈ (s.inst base).binding.bind? parameters arguments, P (.bind line b)) :
    Path P s (s.bindLine line base parameters arguments).1 := by
  unfold bindLine
  rcases s.bind_cases base parameters arguments with heq | ⟨b, hb, hextend, heq⟩ <;> rw [heq]
  · exact .refl
  · refine .single (hbind b hb) (.bind line _ b (h.insts base hbase).template ?_ hline)
    rw [hextend]
    exact hasAll_extend (h.insts base hbase).symbols
      (Instance.hasAll_symbols.mp (h.insts line hmem).symbols).1 hparameters harguments

/-- **A process is a copy of an instance under a symbol of its own.** -/
theorem Sound.path_addProcess (h : s.Sound) {d : DocumentId} {i : InstanceId} {span : Span}
    (hi : i ∈ s.insts) (hlog : P (.log (s.document d).log)) (hfresh : P .fresh)
    (hinst : P (.inst (s.inst i).binding)) (hdocument : P (.document d)) :
    Path P s (s.addProcess d i span).1 := by
  unfold addProcess
  dsimp only
  split
  · exact path_reject _ span _ hlog
  · let x : Symbol :=
      { name := s.instName i, type := processType (s.inst i).binding.isClosed, span,
        subject := .process s.insts.next }
    let s₁ := (s.newSymbol x).1
    let copy : Instance := { s.inst i with symbol := s.symbols.next }
    let s₂ : Store := { s₁ with insts := s₁.insts.push copy }
    have hg : s.Grows s₁ := s.grows_newSymbol x
    have hstands : s₁.Stands s.symbols.next (.process s.insts.next) :=
      ⟨Table.next_mem_push _ _, congrArg Symbol.subject (Table.get_push_next s.symbols x), rfl⟩
    have hcopy : copy.Sound s₁ := ((h.insts i hi).mono hg).copy hstands.mem
    have hget : s₂.inst s.insts.next = copy := Table.get_push_next s.insts copy
    have hsymbol : Path P s s₁ := .single hfresh (.symbols [x])
    refine (hsymbol.step hinst (.inst copy hcopy)).step hdocument
      (.editDocument d _ fun _ => .addProcess _ _ (Table.next_mem_push _ _) ?_ ?_)
    · show s₂.Stands (s₂.inst s.insts.next).symbol _
      rw [hget]
      exact hstands.mono (s₁.grows_newInst copy)
    · exact h.unlistedInst

theorem path_removeProcess {d : DocumentId} {i : InstanceId} (hdocument : P (.document d)) :
    Path P s (s.removeProcess d i).1 :=
  .single hdocument (.editDocument d _ fun _ => .removeProcess _ i)

/-! ## What else is stored in a document -/

theorem Document.hasAll_symbols {d : Document} : s.HasAll d.symbols ↔
    (∀ p ∈ d.chanPriorities, s.HasAll p.symbols) ∧ s.HasAll d.beforeUpdate.term.occurrences
      ∧ s.HasAll d.afterUpdate.term.occurrences := by
  unfold Document.symbols
  simp only [hasAll_append, hasAll_flatMap, and_assoc]

theorem Sound.path_setting (h : s.Sound) {d : DocumentId} {f : Document → Document}
    (hedit : s.HasAll (s.document d).symbols → (s.document d).Edit s (f (s.document d)))
    (hdocument : P (.document d)) : Path P s (s.modifyDocument d f) :=
  .single hdocument (.editDocument d f fun hd => hedit (h.documents d hd).symbols)

theorem Sound.path_markPriorities (h : s.Sound) {d : DocumentId} (hdocument : P (.document d)) :
    Path P s (s.markPriorities d) :=
  h.path_setting (fun hd => .settings _ _ _ _ _ _ _ _ _ _ _ _ _ _ hd) hdocument

theorem Sound.path_beginChanPriority (h : s.Sound) {d : DocumentId} {chan : Term SymbolId}
    (hchan : s.HasAll chan.occurrences) (hdocument : P (.document d)) :
    Path P s (s.beginChanPriority d chan) := by
  have hmark : Path P s (s.markPriorities d) := h.path_markPriorities hdocument
  refine hmark.trans ((hmark.sound h).path_setting (fun hd => ?_) hdocument)
  obtain ⟨hpriorities, hbefore, hafter⟩ := Document.hasAll_symbols.mp hd
  refine .settings _ _ _ _ _ _ _ _ _ _ _ _ _ _ ((HasAll.append ?_ hbefore).append hafter)
  refine hasAll_flatMap.mpr (List.forall_mem_append.mpr ⟨hpriorities, ?_⟩)
  exact List.forall_mem_singleton.mpr (hchan.append (hasAll_nil _))

theorem Sound.path_addChanPriority (h : s.Sound) {d : DocumentId} {separator : String}
    {chan : Term SymbolId} (hchan : s.HasAll chan.occurrences)
    (hlog : P (.log (s.document d).log)) (hdocument : P (.document d)) :
    Path P s (s.addChanPriority d separator chan).1 := by
  unfold addChanPriority
  dsimp only
  split
  · exact path_reject _ _ _ hlog
  · next last hlast =>
    refine h.path_setting (fun hd => ?_) hdocument
    obtain ⟨hpriorities, hbefore, hafter⟩ := Document.hasAll_symbols.mp hd
    refine .settings _ _ _ _ _ _ _ _ _ _ _ _ _ _ ((HasAll.append ?_ hbefore).append hafter)
    have hold := hpriorities last (List.mem_of_getLast? hlast)
    rw [ChanPriority.symbols, hasAll_append] at hold
    refine hasAll_flatMap.mpr (List.forall_mem_append.mpr ⟨?_, ?_⟩)
    · exact fun p hp => hpriorities p (List.dropLast_subset _ hp)
    · refine List.forall_mem_singleton.mpr (hold.1.append (hasAll_flatMap.mpr ?_))
      exact List.forall_mem_append.mpr
        ⟨hasAll_flatMap.mp hold.2, List.forall_mem_singleton.mpr hchan⟩

theorem Sound.path_setProcPriority (h : s.Sound) {d : DocumentId} {name : String} {priority : Int}
    (hdocument : P (.document d)) : Path P s (s.setProcPriority d name priority) := by
  have hmark : Path P s (s.markPriorities d) := h.path_markPriorities hdocument
  exact hmark.trans ((hmark.sound h).path_setting
    (fun hd => .settings _ _ _ _ _ _ _ _ _ _ _ _ _ _ hd) hdocument)

theorem Sound.path_addString (h : s.Sound) {d : DocumentId} {text : String}
    (hdocument : P (.document d)) : Path P s (s.addString d text) :=
  h.path_setting (fun hd => .settings _ _ _ _ _ _ _ _ _ _ _ _ _ _ hd) hdocument

theorem Sound.path_internString (h : s.Sound) {d : DocumentId} {text : String}
    (hdocument : P (.document d)) : Path P s (s.internString d text).1 := by
  rw [internString]
  split
  · exact .refl
  · exact h.path_addString hdocument

/-! ## New logs and documents -/

theorem path_lineTableOrNew (lines : Option LineTableId) (hfresh : P .fresh) :
    Path P s (s.lineTableOrNew lines).1 := by
  cases lines with
  | none => exact .single hfresh (.lineTable {})
  | some lines => exact .refl

theorem lineTableOrNew_mem {lines : Option LineTableId} (hlines : ∀ l ∈ lines, l ∈ s.lineTables) :
    (s.lineTableOrNew lines).2 ∈ (s.lineTableOrNew lines).1.lineTables := by
  cases lines with
  | none => exact Table.next_mem_push _ _
  | some lines => exact hlines lines rfl

theorem path_openLog {lines : Option LineTableId} (hlines : ∀ l ∈ lines, l ∈ s.lineTables)
    (hfresh : P .fresh) : Path P s (s.openLog lines).1 :=
  (path_lineTableOrNew lines hfresh).step hfresh (.log _ ⟨lineTableOrNew_mem hlines⟩)

theorem path_openDocument {lines : Option LineTableId} {log : Option LogId}
    (hlines : ∀ l ∈ lines, l ∈ s.lineTables) (hlog : ∀ l ∈ log, l ∈ s.logs) (hfresh : P .fresh) :
    Path P s (s.openDocument lines log).1 := by
  have hpath := path_lineTableOrNew (s := s) lines hfresh
  have hmem := lineTableOrNew_mem hlines
  cases log with
  | some log => exact hpath.step hfresh (.document _ log hmem (hpath.grows.logs log (hlog log rfl)).1)
  | none =>
    exact (hpath.step hfresh (.log _ ⟨hmem⟩)).step hfresh
      (.document _ _ hmem (Table.next_mem_push _ _))

end Store

end TimedNet
