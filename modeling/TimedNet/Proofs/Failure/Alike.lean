import TimedNet.Proofs.Failure.Copying
import TimedNet.Store.Outcome

/-!
# `TimedNet.Proofs.Failure.Alike` — no operation depends on diagnostics

What is in the logs decides nothing. In two alike stores every operation can be carried out in both or in
neither, gives the same in both, and leaves two stores that are alike again.

* `Alike.declare`, `Alike.addVariable`, …: the operations one by one.
* `Alike.admissible_iff`, `Alike.step`: any operation.
* `Alike.run`: any number of operations.
-/

namespace TimedNet.Store

variable {s s' : Store}

/-! ## Declarations -/

theorem Alike.declare (h : s.Alike s') (r : FrameId) (x : Symbol) :
    AlikeAfter (s.declare r x) (s'.declare r x) := by
  obtain ⟨logs, hlogs, rfl⟩ := h.exists_logs
  unfold Store.declare declare?
  rw [lookup_withLogs, frame_withLogs]
  by_cases hname : (s.lookup (s.frame r) x.name).isSome
  · rw [if_pos hname, if_pos hname]
    exact ⟨alike_withLogs hlogs, rfl⟩
  · rw [if_neg hname, if_neg hname]
    exact ⟨alike_withLogs hlogs, rfl⟩

theorem Alike.modifyBlock (h : s.Alike s') (r : BlockId) (f : Block → Block) :
    (s.modifyBlock r f).Alike (s'.modifyBlock r f) := by
  obtain ⟨logs, hlogs, rfl⟩ := h.exists_logs
  exact alike_withLogs hlogs

theorem Alike.declareVariable (h : s.Alike s') (block : BlockId) (type name : String)
    (init : Expression) (span : Span) :
    AlikeAfter (s.declareVariable block type name init span)
      (s'.declareVariable block type name init span) := by
  obtain ⟨t, t', outcome, ht, heq, heq'⟩ := (h.declare (s.block block).frame
    { name, type, span, subject := .var (.ofBlock block (s.block block).vars.length) }).elim
  obtain ⟨logs, hlogs, rfl⟩ := h.exists_logs
  simp only [Store.declareVariable, block_withLogs, heq, heq']
  cases outcome with
  | error p => exact ⟨ht, rfl⟩
  | ok symbol => exact ⟨ht.modifyBlock block _, rfl⟩

theorem Alike.declareLocal (h : s.Alike s') (function : FunctionRef) (frame : FrameId)
    (type name : String) (init : Expression) (span : Span) :
    AlikeAfter (s.declareLocal function frame type name init span)
      (s'.declareLocal function frame type name init span) := by
  obtain ⟨t, t', outcome, ht, heq, heq'⟩ := (h.declare frame
    { name, type, span
      subject := .var (.ofFunction function (s.functionAt function).locals.length) }).elim
  obtain ⟨logs, hlogs, rfl⟩ := h.exists_logs
  simp only [Store.declareLocal, functionAt_withLogs, heq, heq']
  cases outcome with
  | error p => exact ⟨ht, rfl⟩
  | ok symbol => exact ⟨ht.modifyBlock function.block _, rfl⟩

theorem Alike.declareFunction (h : s.Alike s') (block : BlockId) (type name : String) (span : Span) :
    AlikeAfter (s.declareFunction block type name span)
      (s'.declareFunction block type name span) := by
  obtain ⟨t, t', outcome, ht, heq, heq'⟩ := (h.declare (s.block block).frame
    { name, type, span, subject := .fn ⟨block, (s.block block).functions.length⟩ }).elim
  obtain ⟨logs, hlogs, rfl⟩ := h.exists_logs
  simp only [Store.declareFunction, block_withLogs, heq, heq']
  cases outcome with
  | error p => exact ⟨ht, rfl⟩
  | ok symbol => exact ⟨ht.modifyBlock block _, rfl⟩

theorem Alike.declareType (h : s.Alike s') (block : BlockId) (name type : String) (span : Span) :
    AlikeAfter (s.declareType block name type span) (s'.declareType block name type span) := by
  have hdeclare := h.declare (s.block block).frame { name, type, span, subject := .typedef }
  obtain ⟨logs, hlogs, rfl⟩ := h.exists_logs
  exact hdeclare

/-- A name that is visible from around a block in one store is visible in the other. -/
theorem Alike.warnShadowing (h : s.Alike s') (log : LogId) (block : BlockId) (name : String)
    (span : Span) :
    (s.warnShadowing log block name span).Alike (s'.warnShadowing log block name span) := by
  have hreport := h.report log span (ProblemKind.shadowsAVariable.on name) ""
  obtain ⟨logs, hlogs, rfl⟩ := h.exists_logs
  simp only [Store.warnShadowing, frame_withLogs, block_withLogs, lookup_withLogs, resolve_withLogs]
  split
  · exact h
  · split
    · exact hreport
    · exact h

theorem Alike.addVariable (h : s.Alike s') (document : DocumentId) (block : BlockId)
    (type name : String) (init : Expression) (span : Span) :
    AlikeAfter (s.addVariable document block type name init span)
      (s'.addVariable document block type name init span) := by
  have hlogged := fun log => ((h.warnShadowing log block name span).declareVariable block type name
    init span).logged log span
  obtain ⟨logs, hlogs, rfl⟩ := h.exists_logs
  exact hlogged _

theorem Alike.addLocal (h : s.Alike s') (document : DocumentId) (function : FunctionRef)
    (frame : FrameId) (type name : String) (init : Expression) (span : Span) :
    AlikeAfter (s.addLocal document function frame type name init span)
      (s'.addLocal document function frame type name init span) := by
  have hlogged := fun log => (h.declareLocal function frame type name init span).logged log span
  obtain ⟨logs, hlogs, rfl⟩ := h.exists_logs
  exact hlogged _

theorem Alike.addFunction (h : s.Alike s') (document : DocumentId) (block : BlockId)
    (type name : String) (span : Span) :
    AlikeAfter (s.addFunction document block type name span)
      (s'.addFunction document block type name span) := by
  have hlogged := fun log => (h.declareFunction block type name span).logged log span
  obtain ⟨logs, hlogs, rfl⟩ := h.exists_logs
  exact hlogged _

theorem Alike.addTypedef (h : s.Alike s') (document : DocumentId) (block : BlockId)
    (name type : String) (span : Span) :
    AlikeAfter (s.addTypedef document block name type span)
      (s'.addTypedef document block name type span) := by
  have hlogged := fun log => (h.declareType block name type span).logged log span
  obtain ⟨logs, hlogs, rfl⟩ := h.exists_logs
  exact hlogged _

theorem Alike.fillFunction (h : s.Alike s') (f : Function) (target : FunctionRef) :
    (s.fillFunction f target).Alike (s'.fillFunction f target) := by
  obtain ⟨logs, hlogs, rfl⟩ := h.exists_logs
  exact alike_withLogs hlogs

theorem Alike.foldl {α : Type} {f g : Store → α → Store}
    (hf : ∀ {t t' : Store} (a : α), t.Alike t' → (f t a).Alike (g t' a)) (h : s.Alike s')
    (as : List α) : (as.foldl f s).Alike (as.foldl g s') := by
  induction as generalizing s s' with
  | nil => exact h
  | cons a as ih => exact ih (hf a h)

theorem Alike.copyVariables (h : s.Alike s') (document : DocumentId) (source target : TemplateId) :
    (s.copyVariables document source target).Alike (s'.copyVariables document source target) := by
  obtain ⟨logs, hlogs, rfl⟩ := h.exists_logs
  simp only [Store.copyVariables, block_withLogs, template_withLogs, document_withLogs]
  refine h.foldl (fun {t t'} v ht => ?_) _
  have hlogged := fun (x : Symbol) => ((ht.declareVariable (s.template target).block x.type x.name
    v.init x.span).logged (s.document document).log x.span).store
  obtain ⟨logs', hlogs', rfl⟩ := ht.exists_logs
  exact hlogged _

theorem Alike.copyFunctions (h : s.Alike s') (document : DocumentId) (source target : TemplateId) :
    (s.copyFunctions document source target).Alike (s'.copyFunctions document source target) := by
  obtain ⟨logs, hlogs, rfl⟩ := h.exists_logs
  simp only [Store.copyFunctions, block_withLogs, template_withLogs, document_withLogs]
  refine h.foldl (fun {t t'} f ht => ?_) _
  let x := t.symbol f.symbol
  obtain ⟨u, u', outcome, hu, heq, heq'⟩ := ((ht.declareFunction (s.template target).block x.type
    x.name x.span).logged (s.document document).log x.span).elim
  obtain ⟨logs', hlogs', rfl⟩ := ht.exists_logs
  simp only [symbol_withLogs, show t.symbol f.symbol = x from rfl, heq, heq']
  cases outcome with
  | ok g => exact hu.fillFunction f g
  | error p => exact hu

/-! ## Templates -/

theorem Alike.newTemplate (h : s.Alike s') (symbol : SymbolId) (parameters : List SymbolId)
    (globals : Option FrameId) (log : LogId) (style : Style) :
    AlikeAfter (s.newTemplate symbol parameters globals log style)
      (s'.newTemplate symbol parameters globals log style) := by
  obtain ⟨logs, hlogs, rfl⟩ := h.exists_logs
  exact ⟨alike_withLogs hlogs, rfl⟩

theorem Alike.modifyTemplate (h : s.Alike s') (r : TemplateId) (f : Template → Template) :
    (s.modifyTemplate r f).Alike (s'.modifyTemplate r f) := by
  obtain ⟨logs, hlogs, rfl⟩ := h.exists_logs
  exact alike_withLogs hlogs

theorem Alike.modifyDocument (h : s.Alike s') (r : DocumentId) (f : Document → Document) :
    (s.modifyDocument r f).Alike (s'.modifyDocument r f) := by
  obtain ⟨logs, hlogs, rfl⟩ := h.exists_logs
  exact alike_withLogs hlogs

theorem Alike.addTemplate (h : s.Alike s') (document : DocumentId) (name : String)
    (parameters : List SymbolId) (span : Span) (style : Style) :
    AlikeAfter (s.addTemplate document name parameters span style)
      (s'.addTemplate document name parameters span style) := by
  obtain ⟨t, t', outcome, ht, heq, heq'⟩ := (h.declare (s.globalFrame document)
    { name, type := templateType style.isTA, span }).elim
  obtain ⟨logs, hlogs, rfl⟩ := h.exists_logs
  simp only [Store.addTemplate, globalFrame_withLogs, document_withLogs, heq, heq']
  cases outcome with
  | error p => exact ht.reject _ span p
  | ok symbol =>
    obtain ⟨u, u', id, hu, hnew, hnew'⟩ := (ht.newTemplate symbol parameters
      (some (s.globalFrame document)) (s.document document).log style).elim
    simp only [hnew, hnew']
    exact ⟨hu.modifyDocument document _, rfl⟩

theorem Alike.addDynamicTemplate (h : s.Alike s') (document : DocumentId) (name : String)
    (parameters : List SymbolId) (span : Span) :
    AlikeAfter (s.addDynamicTemplate document name parameters span)
      (s'.addDynamicTemplate document name parameters span) := by
  obtain ⟨t, t', outcome, ht, heq, heq'⟩ := (h.declare (s.globalFrame document)
    { name, type := templateType true, span }).elim
  have hreject := fun log p => h.reject (α := TemplateId) log span p
  have hdefine := fun (id : TemplateId) => h.modifyTemplate id fun t => { t with isDefined := true }
  obtain ⟨logs, hlogs, rfl⟩ := h.exists_logs
  simp only [Store.addDynamicTemplate, findDynamicTemplate?_withLogs, globalFrame_withLogs,
    template_withLogs, document_withLogs, heq, heq']
  cases s.findDynamicTemplate? document name with
  | some id =>
    dsimp only
    by_cases hdefined : (s.template id).isDefined
    · simp only [hdefined, if_true]
      exact hreject _ _
    · simp only [hdefined]
      exact ⟨hdefine id, rfl⟩
  | none =>
    cases outcome with
    | error p => exact ht.reject _ span p
    | ok symbol =>
      obtain ⟨u, u', id, hu, hnew, hnew'⟩ := (ht.newTemplate symbol parameters
        (some (s.globalFrame document)) (s.document document).log {}).elim
      simp only [hnew, hnew']
      obtain ⟨logs', hlogs', rfl⟩ := hu.exists_logs
      exact ⟨alike_withLogs hlogs', rfl⟩

/-! ## The body of a template -/

theorem Alike.addLocation (h : s.Alike s') (t : TemplateId) (name : String)
    (invariant rate : Expression) (span : Span) :
    AlikeAfter (s.addLocation t name invariant rate span)
      (s'.addLocation t name invariant rate span) := by
  obtain ⟨u, u', outcome, hu, heq, heq'⟩ := (h.declare (s.localFrame t)
    { name, type := "location", span, subject := .location t (s.template t).locations.size }).elim
  obtain ⟨logs, hlogs, rfl⟩ := h.exists_logs
  simp only [Store.addLocation, localFrame_withLogs, template_withLogs, heq, heq']
  cases outcome with
  | error p =>
    obtain ⟨logs', hlogs', rfl⟩ := hu.exists_logs
    exact hu.reject _ span p
  | ok symbol => exact ⟨hu.modifyTemplate t _, rfl⟩

theorem Alike.addBranchpoint (h : s.Alike s') (t : TemplateId) (name : String) (span : Span) :
    AlikeAfter (s.addBranchpoint t name span) (s'.addBranchpoint t name span) := by
  obtain ⟨u, u', outcome, hu, heq, heq'⟩ := (h.declare (s.localFrame t)
    { name, type := "branchpoint", span
      subject := .branchpoint t (s.template t).branchpoints.size }).elim
  obtain ⟨logs, hlogs, rfl⟩ := h.exists_logs
  simp only [Store.addBranchpoint, localFrame_withLogs, template_withLogs, heq, heq']
  cases outcome with
  | error p =>
    obtain ⟨logs', hlogs', rfl⟩ := hu.exists_logs
    exact hu.reject _ span p
  | ok symbol => exact ⟨hu.modifyTemplate t _, rfl⟩

theorem Alike.addInstanceLine (h : s.Alike s') (t : TemplateId) (name : String) (span : Span) :
    AlikeAfter (s.addInstanceLine t name span) (s'.addInstanceLine t name span) := by
  obtain ⟨u, u', outcome, hu, heq, heq'⟩ := (h.declare (s.localFrame t)
    { name, type := "instance-line", span, subject := .line t (s.template t).lines.size }).elim
  obtain ⟨logs, hlogs, rfl⟩ := h.exists_logs
  simp only [Store.addInstanceLine, localFrame_withLogs, template_withLogs, heq, heq']
  obtain ⟨logs', hlogs', rfl⟩ := hu.exists_logs
  cases outcome with
  | error p => exact hu.reject _ span p
  | ok symbol => exact ⟨alike_withLogs hlogs', rfl⟩

theorem Alike.notALocation {α : Type} (h : s.Alike s') (t : TemplateId) (symbol : SymbolId) :
    AlikeAfter (s.notALocation t symbol : Attempt α) (s'.notALocation t symbol) := by
  have hreject := fun log span p => h.reject (α := α) log span p
  obtain ⟨logs, hlogs, rfl⟩ := h.exists_logs
  exact hreject _ _ _

theorem Alike.notALine {α : Type} (h : s.Alike s') (t : TemplateId) (symbol : SymbolId) :
    AlikeAfter (s.notALine t symbol : Attempt α) (s'.notALine t symbol) := by
  have hreject := fun log span p => h.reject (α := α) log span p
  obtain ⟨logs, hlogs, rfl⟩ := h.exists_logs
  exact hreject _ _ _

theorem Alike.setInitial (h : s.Alike s') (t : TemplateId) (symbol : SymbolId) :
    AlikeAfter (s.setInitial t symbol) (s'.setInitial t symbol) := by
  have hnode := h.notALocation (α := Nat) t symbol
  obtain ⟨logs, hlogs, rfl⟩ := h.exists_logs
  simp only [Store.setInitial, endpoint?_withLogs]
  cases s.endpoint? t symbol with
  | none => exact hnode
  | some e =>
    cases e with
    | location handle => exact ⟨h.modifyTemplate t _, rfl⟩
    | branchpoint handle => exact hnode

theorem Alike.addEdge (h : s.Alike s') (t : TemplateId) (source target : SymbolId) (control : Bool)
    (actname : String) :
    AlikeAfter (s.addEdge t source target control actname)
      (s'.addEdge t source target control actname) := by
  have hnode := fun symbol => h.notALocation (α := Nat) t symbol
  obtain ⟨logs, hlogs, rfl⟩ := h.exists_logs
  simp only [Store.addEdge, endpoint?_withLogs]
  cases s.endpoint? t source with
  | none => exact hnode source
  | some start =>
    cases s.endpoint? t target with
    | none => exact hnode target
    | some stop => exact ⟨h.modifyTemplate t _, rfl⟩

theorem Alike.addMessage (h : s.Alike s') (t : TemplateId) (source target : SymbolId)
    (location : Int) (prechart : Bool) (label : Expression) :
    AlikeAfter (s.addMessage t source target location prechart label)
      (s'.addMessage t source target location prechart label) := by
  have hline := fun symbol => h.notALine (α := Nat) t symbol
  obtain ⟨logs, hlogs, rfl⟩ := h.exists_logs
  simp only [Store.addMessage, lineHandle?_withLogs]
  cases s.lineHandle? t source with
  | none => exact hline source
  | some start =>
    cases s.lineHandle? t target with
    | none => exact hline target
    | some stop => exact ⟨h.modifyTemplate t _, rfl⟩

theorem Alike.addCondition (h : s.Alike s') (t : TemplateId) (anchors : List SymbolId)
    (location : Int) (prechart hot : Bool) (label : Expression) :
    AlikeAfter (s.addCondition t anchors location prechart hot label)
      (s'.addCondition t anchors location prechart hot label) := by
  have hline := fun symbol => h.notALine (α := Nat) t symbol
  obtain ⟨logs, hlogs, rfl⟩ := h.exists_logs
  simp only [Store.addCondition, lineHandles_withLogs]
  cases s.lineHandles t anchors with
  | error symbol => exact hline symbol
  | ok handles => exact ⟨h.modifyTemplate t _, rfl⟩

theorem Alike.addUpdate (h : s.Alike s') (t : TemplateId) (anchor : SymbolId) (location : Int)
    (prechart : Bool) (label : Expression) :
    AlikeAfter (s.addUpdate t anchor location prechart label)
      (s'.addUpdate t anchor location prechart label) := by
  have hline := fun symbol => h.notALine (α := Nat) t symbol
  obtain ⟨logs, hlogs, rfl⟩ := h.exists_logs
  simp only [Store.addUpdate, lineHandle?_withLogs]
  cases s.lineHandle? t anchor with
  | none => exact hline anchor
  | some handle => exact ⟨h.modifyTemplate t _, rfl⟩

theorem Alike.restrict (h : s.Alike s') (t : TemplateId) (symbol : SymbolId) :
    (s.restrict t symbol).Alike (s'.restrict t symbol) := by
  obtain ⟨logs, hlogs, rfl⟩ := h.exists_logs
  simp only [Store.restrict, restrictAll_withLogs]
  exact alike_withLogs hlogs

/-! ## Instances, processes and priorities -/

theorem Alike.instantiate (h : s.Alike s') (document : DocumentId) (name : String)
    (base : InstanceId) (parameters : List SymbolId) (arguments : List (Term SymbolId)) (span : Span)
    (enlist : InstanceId → Document → Document) :
    AlikeAfter (s.instantiate document name base parameters arguments span enlist)
      (s'.instantiate document name base parameters arguments span enlist) := by
  obtain ⟨u, u', outcome, hu, heq, heq'⟩ := (h.declare (s.globalFrame document)
    { name, type := "instance", span, subject := .inst s.insts.next }).elim
  have hreject := fun log p => h.reject (α := InstanceId) log span p
  obtain ⟨logs, hlogs, rfl⟩ := h.exists_logs
  simp only [Store.instantiate, bind_withLogs, document_withLogs, globalFrame_withLogs,
    insts_withLogs, heq, heq']
  cases s.bind base parameters arguments with
  | error p => exact hreject _ p
  | ok binding =>
    obtain ⟨logs', hlogs', rfl⟩ := hu.exists_logs
    cases outcome with
    | error p => exact hu.reject _ span p
    | ok symbol => exact ⟨alike_withLogs hlogs', rfl⟩

theorem Alike.bindLine (h : s.Alike s') (line base : InstanceId) (parameters : List SymbolId)
    (arguments : List (Term SymbolId)) :
    AlikeAfter (s.bindLine line base parameters arguments)
      (s'.bindLine line base parameters arguments) := by
  obtain ⟨logs, hlogs, rfl⟩ := h.exists_logs
  simp only [Store.bindLine, bind_withLogs]
  cases s.bind base parameters arguments with
  | error p => exact ⟨h, rfl⟩
  | ok binding => exact ⟨alike_withLogs hlogs, rfl⟩

theorem Alike.addProcess (h : s.Alike s') (document : DocumentId) (i : InstanceId) (span : Span) :
    AlikeAfter (s.addProcess document i span) (s'.addProcess document i span) := by
  have hreject := fun log p => h.reject (α := InstanceId) log span p
  obtain ⟨logs, hlogs, rfl⟩ := h.exists_logs
  simp only [Store.addProcess, inst_withLogs, document_withLogs, name_withLogs]
  cases (s.inst i).binding.unboundParameters.find? fun p =>
      (s.inst i).binding.restricted.contains p with
  | some p => exact hreject _ _
  | none => exact ⟨alike_withLogs hlogs, rfl⟩

theorem Alike.addChanPriority (h : s.Alike s') (document : DocumentId) (separator : String)
    (chan : Term SymbolId) :
    AlikeAfter (s.addChanPriority document separator chan)
      (s'.addChanPriority document separator chan) := by
  have hreject := fun log span p => h.reject (α := ChanPriority) log span p
  obtain ⟨logs, hlogs, rfl⟩ := h.exists_logs
  simp only [Store.addChanPriority, document_withLogs, name_withLogs]
  cases (s.document document).chanPriorities.getLast? with
  | none => exact hreject _ _ _
  | some last => exact ⟨h.modifyDocument document _, rfl⟩

theorem Alike.internString (h : s.Alike s') (document : DocumentId) (text : String) :
    AlikeAfter (s.internString document text) (s'.internString document text) := by
  obtain ⟨logs, hlogs, rfl⟩ := h.exists_logs
  simp only [Store.internString, document_withLogs]
  cases (s.document document).strings.idxOf? text with
  | none => exact ⟨h.modifyDocument document _, rfl⟩
  | some i => exact ⟨h, rfl⟩

/-! ## Every operation -/

/-- What can be carried out in one of two alike stores can be carried out in the other. -/
theorem Alike.admissible_iff (h : s.Alike s') (op : Operation) :
    op.Admissible s' ↔ op.Admissible s := by
  have hhas : ∀ e, s'.Has e ↔ s.Has e := by
    intro e
    cases e with
    | log r => exact h.logs.mem_iff
    | _ =>
      rw [h.same]
      exact Iff.rfl
  have hwellFormed : op.WellFormed s' ↔ op.WellFormed s := by
    rw [h.same]
    cases op <;> exact Iff.rfl
  have hsymbols : s'.symbols = s.symbols := by
    rw [h.same]
    rfl
  exact ⟨fun hop => ⟨fun e he => (hhas e).mp (hop.receivers e he),
      fun e he => (hhas e).mp (hop.others e he), hsymbols ▸ hop.symbols,
      hwellFormed.mp hop.wellFormed⟩,
    fun hop => ⟨fun e he => (hhas e).mpr (hop.receivers e he),
      fun e he => (hhas e).mpr (hop.others e he), hsymbols ▸ hop.symbols,
      hwellFormed.mpr hop.wellFormed⟩⟩

/-- **No operation depends on what is in the logs.** In alike stores it gives the same, and leaves alike
    stores. -/
theorem Alike.step (h : s.Alike s') (op : Operation) :
    (s.perform op).Alike (s'.perform op) ∧ s'.outcome op = s.outcome op := by
  have hattempt : ∀ {α : Type} {made : α → Outcome} {a b : Attempt α}, AlikeAfter a b →
      a.1.Alike b.1 ∧ Outcome.of made b.2 = Outcome.of made a.2 :=
    fun ha => ⟨ha.store, congrArg _ ha.given.symm⟩
  have hmade : ∀ {α : Type} (made : α → Outcome) {a b : Store × α}, AlikeAfter a b →
      a.1.Alike b.1 ∧ made b.2 = made a.2 :=
    fun made _ _ ha => ⟨ha.store, congrArg made ha.given.symm⟩
  cases op with
  -- Logs.
  | openLog lines => exact hmade (fun r => .entity (.log r)) (h.openLog lines)
  | copyLog log lines =>
    exact hmade (fun r => .entity (.log r)) (h.newLog ((h.logs.get log).withLineTable lines))
  | addError log span message context => exact ⟨h.addError log span message context, rfl⟩
  | addWarning log span message context => exact ⟨h.addWarning log span message context, rfl⟩
  | report log span problem context => exact ⟨h.report log span problem context, rfl⟩
  | clearErrors log => exact ⟨h.modifyLog log fun _ _ => Log.Within.clearErrors, rfl⟩
  | clearWarnings log => exact ⟨h.modifyLog log fun _ _ => Log.Within.clearWarnings, rfl⟩
  -- Documents and their parts.
  | openDocument lines log =>
    exact hmade (fun r => .entity (.document r)) (h.openDocument lines log)
  | copyDocument document => exact hmade (fun r => .entity (.document r)) (h.copyDocument document)
  | internString document text => exact hmade .index (h.internString document text)
  | addTemplate document name parameters span style =>
    exact hattempt (h.addTemplate document name parameters span style)
  | addDynamicTemplate document name parameters span =>
    exact hattempt (h.addDynamicTemplate document name parameters span)
  | addInstance document name base parameters arguments span
  | addLscInstance document name base parameters arguments span =>
    exact hattempt (h.instantiate document name base parameters arguments span _)
  | addProcess document inst span => exact hattempt (h.addProcess document inst span)
  | addChanPriority document separator chan =>
    exact hattempt (h.addChanPriority document separator chan)
  -- Declarations.
  | declareSymbol frame symbol => exact hattempt (h.declare frame symbol)
  | declareVariable block type name init span =>
    exact hattempt (h.declareVariable block type name init span)
  | declareLocal function frame type name init span =>
    exact hattempt (h.declareLocal function frame type name init span)
  | declareFunction block type name span =>
    exact hattempt (h.declareFunction block type name span)
  | declareType block name type span => exact hattempt (h.declareType block name type span)
  | addVariable document block type name init span =>
    exact hattempt (h.addVariable document block type name init span)
  | addLocal document function frame type name init span =>
    exact hattempt (h.addLocal document function frame type name init span)
  | addFunction document block type name span =>
    exact hattempt (h.addFunction document block type name span)
  | addTypedef document block name type span =>
    exact hattempt (h.addTypedef document block name type span)
  | setInitialiser owner init =>
    obtain ⟨logs, hlogs, rfl⟩ := h.exists_logs
    cases owner with
    | ofBlock block index => exact ⟨alike_withLogs hlogs, rfl⟩
    | ofFunction function index => exact ⟨alike_withLogs hlogs, rfl⟩
  | copyVariables document source target => exact ⟨h.copyVariables document source target, rfl⟩
  | copyFunctions document source target => exact ⟨h.copyFunctions document source target, rfl⟩
  -- The bodies of templates.
  | addLocation template name invariant rate span =>
    exact hattempt (h.addLocation template name invariant rate span)
  | addBranchpoint template name span => exact hattempt (h.addBranchpoint template name span)
  | setInitial template symbol => exact hattempt (h.setInitial template symbol)
  | addEdge template source target control actname =>
    exact hattempt (h.addEdge template source target control actname)
  | restrict template symbol => exact ⟨h.restrict template symbol, rfl⟩
  | addInstanceLine template name span => exact hattempt (h.addInstanceLine template name span)
  | bindLine template index base parameters arguments =>
    have hbind := fun line => h.bindLine line base parameters arguments
    obtain ⟨logs, hlogs, rfl⟩ := h.exists_logs
    exact hattempt (hbind _)
  | addMessage template source target location prechart label =>
    exact hattempt (h.addMessage template source target location prechart label)
  | addCondition template anchors location prechart hot label =>
    exact hattempt (h.addCondition template anchors location prechart hot label)
  | addUpdate template anchor location prechart label =>
    exact hattempt (h.addUpdate template anchor location prechart label)
  -- The others do not look at logs.
  | _ =>
    obtain ⟨logs, hlogs, rfl⟩ := h.exists_logs
    exact ⟨alike_withLogs hlogs, rfl⟩

/-- Any number of operations leave alike stores alike. -/
theorem Alike.run (h : s.Alike s') (ops : List Operation) :
    (ops.foldl perform s).Alike (ops.foldl perform s') :=
  h.foldl (fun op ht => (ht.step op).1) ops

end TimedNet.Store
