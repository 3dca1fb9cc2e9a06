import TimedNet.Proofs.Scope.Edits

/-!
# `TimedNet.Proofs.Scope.Declarations` — declarations register what they declare

A declaration that succeeds brings its symbol into the frame of a block and then its entity into a list
of the block. One that fails does neither.

* `Enrolled.report`, `Enrolled.logged`: failing.
* `Enrolled.declareVariable`, `Enrolled.declareFunction`, `Enrolled.declareLocal`.
* `Enrolled.addVariable`, …, `Enrolled.addLocal`: the same with what fails in the log.
* `Enrolled.copyVariables`, `Enrolled.copyFunctions`: by induction on what is copied.
-/

namespace TimedNet

theorem Block.listed_addVariable (b : Block) (v : Variable) (ρ : Role) :
    ({ b with vars := b.vars ++ [v] } : Block).listed ρ
      = b.listed ρ ++ if Role.var = ρ then [v.symbol] else [] := by
  cases ρ <;> simp [listed]

theorem Block.listed_addFunction (b : Block) (f : Function) (ρ : Role) :
    ({ b with functions := b.functions ++ [f] } : Block).listed ρ
      = b.listed ρ ++ if Role.fn = ρ then [f.symbol] else [] := by
  cases ρ <;> simp [listed]

namespace Store

variable {s : Store}

/-! ## Failing -/

theorem Enrolled.report (hreg : s.Enrolled none) (h : s.Sound) (log : LogId) (span : Span)
    (p : Problem) (context : String) : (s.report log span p context).Enrolled none :=
  (path_report (P := Write.Quiet) log span p context trivial).enrolled h (fun _ => id) hreg

theorem Enrolled.logged {α : Type} {a : Attempt α} (hreg : a.1.Enrolled none) (h : a.1.Sound)
    (log : LogId) (span : Span) : (logged log span a).1.Enrolled none := by
  obtain ⟨t, outcome⟩ := a
  cases outcome with
  | ok _ => exact hreg
  | error p => exact hreg.report h log span p ""

/-! ## One declaration -/

theorem Enrolled.declareVariable (hreg : s.Enrolled none) (h : s.Sound) {block : BlockId}
    (hb : block ∈ s.blocks) (type name : String) (init : Expression) (span : Span) :
    (s.declareVariable block type name init span).1.Enrolled none := by
  let owner := VariableRef.ofBlock block (s.block block).vars.length
  let x : Symbol := { name, type, span, subject := .var owner }
  rcases s.declare_cases (s.block block).frame x with heq | ⟨hnew, heq⟩ <;>
    rw [Store.declareVariable, heq]
  · exact hreg
  · have hdeclared := hreg.declareIn h hb hnew (ρ := .var) rfl
    exact hdeclared.listInBlock (h.declared _ x).scopesApart (fun _ => rfl)
      (Block.listed_addVariable _ ⟨s.symbols.next, init⟩)

theorem Enrolled.declareFunction (hreg : s.Enrolled none) (h : s.Sound) {block : BlockId}
    (hb : block ∈ s.blocks) (type name : String) (span : Span) :
    (s.declareFunction block type name span).1.Enrolled none := by
  let owner : FunctionRef := ⟨block, (s.block block).functions.length⟩
  let x : Symbol := { name, type, span, subject := .fn owner }
  rcases s.declare_cases (s.block block).frame x with heq | ⟨hnew, heq⟩ <;>
    rw [Store.declareFunction, heq]
  · exact hreg
  · have hdeclared := hreg.declareIn h hb hnew (ρ := .fn) rfl
    exact hdeclared.listInBlock (h.declared _ x).scopesApart (fun _ => rfl)
      (Block.listed_addFunction _ { symbol := s.symbols.next })

/-- A symbol that stands for nothing, in any frame. -/
theorem Enrolled.declareSymbol (hreg : s.Enrolled none) (h : s.Sound) {r : FrameId} {x : Symbol}
    (hbare : x.subject.isBare = true) : (s.declare r x).1.Enrolled none := by
  rcases s.declare_cases r x with heq | ⟨hnew, heq⟩ <;> rw [heq]
  · exact hreg
  · exact hreg.declareBare h hnew hbare

/-- A local variable of a function, in a frame of no scope. -/
theorem Enrolled.declareLocal (hreg : s.Enrolled none) (h : s.Sound) {frame : FrameId}
    (helse : ∀ σ : Scope, s.Has σ.entity → (s.block (s.scopeBlock σ)).frame ≠ frame)
    (function : FunctionRef) (type name : String) (init : Expression) (span : Span) :
    (s.declareLocal function frame type name init span).1.Enrolled none := by
  let owner := VariableRef.ofFunction function (s.functionAt function).locals.length
  let x : Symbol := { name, type, span, subject := .var owner }
  rcases s.declare_cases frame x with heq | ⟨hnew, heq⟩ <;> rw [Store.declareLocal, heq]
  · exact hreg
  · exact (hreg.declareElsewhere h hnew helse).modifyFunction
      (h.declared frame x).scopesApart fun _ => rfl

/-- Another initialiser for a variable that is declared. -/
theorem Enrolled.setInitialiser (hreg : s.Enrolled none) (h : s.Sound) (owner : VariableRef)
    (init : Expression) : (s.setInitialiser owner init).Enrolled none := by
  cases owner with
  | ofBlock b i =>
    refine hreg.editBlock h.scopesApart (fun _ => rfl) fun ρ => ?_
    cases ρ with
    | var => exact map_modify_eq fun _ _ => rfl
    | _ => rfl
  | ofFunction f i => exact hreg.modifyFunction h.scopesApart fun _ => rfl

/-! ## Declarations of a document -/

theorem Enrolled.addVariable (hreg : s.Enrolled none) (h : s.Sound) {block : BlockId}
    (hb : block ∈ s.blocks) (document : DocumentId) (type name : String) {init : Expression}
    (hinit : s.HasAll init.term.occurrences) (span : Span) :
    (s.addVariable document block type name init span).1.Enrolled none := by
  have hdeclare : ∀ {u : Store}, u.Enrolled none → u.Sound → block ∈ u.blocks →
      u.HasAll init.term.occurrences → (Store.logged (s.document document).log span
        (u.declareVariable block type name init span)).1.Enrolled none := by
    intro u hu hsound hmem hall
    refine (hu.declareVariable hsound hmem type name init span).logged ?_ _ span
    exact (path_declareVariable (P := fun _ => True) hall trivial trivial).sound hsound
  rw [Store.addVariable]
  rcases s.warnShadowing_cases (s.document document).log block name span with heq | heq <;>
    rw [heq]
  · exact hdeclare hreg h hb hinit
  · exact hdeclare (hreg.report h _ span _ "")
      ((path_report (P := fun _ => True) _ span _ "" trivial).sound h) hb hinit

theorem Enrolled.addFunction (hreg : s.Enrolled none) (h : s.Sound) {block : BlockId}
    (hb : block ∈ s.blocks) (document : DocumentId) (type name : String) (span : Span) :
    (s.addFunction document block type name span).1.Enrolled none := by
  have hdeclare : Path (fun _ => True) s (s.declareFunction block type name span).1 :=
    path_declareFunction trivial trivial
  exact (hreg.declareFunction h hb type name span).logged (hdeclare.sound h) _ span

theorem Enrolled.addTypedef (hreg : s.Enrolled none) (h : s.Sound) (document : DocumentId)
    (block : BlockId) (name type : String) (span : Span) :
    (s.addTypedef document block name type span).1.Enrolled none := by
  have hdeclare : Path (fun _ => True) s (s.declareType block name type span).1 :=
    path_declareType trivial
  exact Enrolled.logged (hreg.declareSymbol h rfl) (hdeclare.sound h) _ span

theorem Enrolled.addLocal (hreg : s.Enrolled none) (h : s.Sound) {frame : FrameId}
    (helse : ∀ σ : Scope, s.Has σ.entity → (s.block (s.scopeBlock σ)).frame ≠ frame)
    (document : DocumentId) (function : FunctionRef) (type name : String) {init : Expression}
    (hinit : s.HasAll init.term.occurrences) (span : Span) :
    (s.addLocal document function frame type name init span).1.Enrolled none := by
  have hdeclare : Path (fun _ => True) s (s.declareLocal function frame type name init span).1 :=
    path_declareLocal hinit trivial trivial
  exact (hreg.declareLocal h helse function type name init span).logged (hdeclare.sound h) _ span

/-! ## Copying declarations between templates -/

/-- A loop that declares entries in a block, if each turn does. -/
theorem Enrolled.foldl {α : Type} {turn : Store → α → Store} {block : BlockId} {Q : Store → α → Prop}
    (hlater : ∀ {s s' : Store} {a : α}, s.Grows s' → Q s a → Q s' a)
    (hpath : ∀ {s : Store} {a : α}, block ∈ s.blocks → Q s a → Path (fun _ => True) s (turn s a))
    (hturn : ∀ {s : Store} {a : α}, s.Enrolled none → s.Sound → block ∈ s.blocks → Q s a →
      (turn s a).Enrolled none) (hreg : s.Enrolled none) (h : s.Sound) (hmem : block ∈ s.blocks)
    (as : List α) (has : ∀ a ∈ as, Q s a) : (as.foldl turn s).Enrolled none := by
  induction as generalizing s with
  | nil => exact hreg
  | cons a as ih =>
    obtain ⟨ha, has⟩ := List.forall_mem_cons.mp has
    have hfirst := hpath hmem ha
    apply ih (hturn hreg h hmem ha) (hfirst.sound h) (hfirst.grows.blocks block hmem).1
    intro x hx
    exact hlater hfirst.grows (has x hx)

theorem Enrolled.copyVariable (hreg : s.Enrolled none) (h : s.Sound) {block : BlockId}
    (hmem : block ∈ s.blocks) (log : LogId) {v : Variable} (hinit : s.HasAll v.init.term.occurrences) :
    (s.copyVariable log block v).Enrolled none := by
  let x := s.symbol v.symbol
  have hdeclare : Path (fun _ => True) s (s.declareVariable block x.type x.name v.init x.span).1 :=
    path_declareVariable hinit trivial trivial
  exact (hreg.declareVariable h hmem x.type x.name v.init x.span).logged (hdeclare.sound h) log x.span

/-- A new function that is filled keeps its symbol, and its local variables are in no frame. -/
theorem Enrolled.fillFunction (hreg : s.Enrolled none) (h : s.Sound) (f : Function)
    (target : FunctionRef) : (s.fillFunction f target).Enrolled none := by
  have hstep : s.Step .fresh { s with symbols := s.symbols.pushAll (s.localSymbols f target) } :=
    .symbols _
  exact (hstep.enrolled h trivial (fun _ => rfl) hreg).modifyFunction
    (hstep.sound h).scopesApart fun _ => rfl

theorem Enrolled.copyFunction (hreg : s.Enrolled none) (h : s.Sound) {block : BlockId}
    (hmem : block ∈ s.blocks) (log : LogId) (f : Function) : (s.copyFunction log block f).Enrolled none := by
  let x := s.symbol f.symbol
  have hdeclare : Path (fun _ => True) s (s.declareFunction block x.type x.name x.span).1 :=
    path_declareFunction trivial trivial
  have hdeclared := hreg.declareFunction h hmem x.type x.name x.span
  cases hout : s.declareFunction block x.type x.name x.span with
  | mk u outcome =>
    rw [hout] at hdeclare hdeclared
    cases outcome with
    | error p =>
      rw [copyFunction_of_error hout]
      exact hdeclared.report (hdeclare.sound h) log x.span p ""
    | ok r =>
      rw [copyFunction_of_ok hout]
      exact hdeclared.fillFunction (hdeclare.sound h) f r

section Copy

variable {source target : TemplateId} (hsource : source ∈ s.templates) (htarget : target ∈ s.templates)
include hsource htarget

theorem Enrolled.copyVariables (hreg : s.Enrolled none) (h : s.Sound) (document : DocumentId) :
    (s.copyVariables document source target).Enrolled none := by
  have hsymbols := (h.blocks _ (h.templates source hsource).block).symbols
  have hblock := (h.templates target htarget).block
  rw [copyVariables_eq_foldl]
  apply Enrolled.foldl (Q := fun s v => s.HasAll v.init.term.occurrences) _ _ _ hreg h hblock
  · intro v hv
    exact (Variable.hasAll_symbols.mp ((Block.hasAll_symbols.mp hsymbols).1 v hv)).2
  · exact fun hg hinit => hinit.mono hg
  · exact fun _ hinit => path_copyVariable hinit trivial trivial trivial
  · exact fun hreg h hmem hinit => hreg.copyVariable h hmem _ hinit

theorem Enrolled.copyFunctions (hreg : s.Enrolled none) (h : s.Sound) (document : DocumentId) :
    (s.copyFunctions document source target).Enrolled none := by
  have hsource := h.blocks _ (h.templates source hsource).block
  have hblock := (h.templates target htarget).block
  rw [copyFunctions_eq_foldl]
  apply Enrolled.foldl (Q := fun s f => s.HasAll f.symbols ∧ s.HasLocals f) _ _ _ hreg h hblock
  · intro f hf
    obtain ⟨i, hi⟩ := List.mem_iff_getElem?.mp hf
    exact ⟨(Block.hasAll_symbols.mp hsource.symbols).2.1 f hf, ⟨_, i⟩, hsource.locals i f hi⟩
  · exact fun hg hf => ⟨hf.1.mono hg, hf.2.mono hg⟩
  · exact fun hmem hf => path_copyFunction hf.1 hf.2 hmem trivial trivial trivial trivial
  · exact fun hreg h hmem _ => hreg.copyFunction h hmem _ _

end Copy

end Store

end TimedNet
