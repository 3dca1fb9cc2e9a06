import TimedNet.Proofs.Run.Declarations
import TimedNet.Store.Outcome

/-!
# `TimedNet.Proofs.Failure.Entries` — one entry for each failure

A call on a document or on a template that fails adds one error to the log, with the message of the
problem that it gives back, and writes nothing else. A call that succeeds adds no error. What is declared in
a frame or in a block without its document, and a line that becomes an instance, fail without an entry.

* `Store.SameErrors`: no log has another error.
* `Store.Unlogged`, `Store.Entered`: attempts that fail without an entry and with one.
* `entered_addVariable`, `entered_addTemplate`, …: the operations one by one.
* `Operation.sink?`, `Operation.HasNoLog`, `enters_perform`, `silent_perform`: any operation.
-/

namespace TimedNet

/-- The log to which an operation adds its failure. -/
def Operation.sink? (s : Store) : Operation → Option LogId
  | .addVariable document .. | .addLocal document .. | .addFunction document ..
  | .addTypedef document .. | .addTemplate document .. | .addDynamicTemplate document ..
  | .addInstance document .. | .addLscInstance document .. | .addProcess document ..
  | .addChanPriority document .. => some (s.document document).log
  | .addLocation template .. | .addBranchpoint template .. | .setInitial template _
  | .addEdge template .. | .addInstanceLine template .. | .addMessage template ..
  | .addCondition template .. | .addUpdate template .. => some (s.template template).log
  | _ => none

/-- The operation declares something in a frame or in a block without a document, or makes a line an
    instance. -/
def Operation.HasNoLog : Operation → Prop
  | .declareSymbol .. | .declareVariable .. | .declareLocal .. | .declareFunction ..
  | .declareType .. | .bindLine .. => True
  | _ => False

/-- What is given is a problem only if nothing was made. -/
theorem Outcome.error_of_failed {α : Type} {made : α → Outcome} {result : Except Problem α}
    {p : Problem} (h : Outcome.of made result = .failed p) (hmade : ∀ a, made a ≠ .failed p) :
    result = .error p := by
  cases result with
  | ok a => exact absurd h (hmade a)
  | error q => rw [Outcome.failed.inj h]

namespace Store

variable {s t u : Store}

/-! ## The same errors -/

/-- No log has another error than before. -/
def SameErrors (s t : Store) : Prop := ∀ log, (t.log log).errors = (s.log log).errors

theorem sameErrors_of_logs (h : t.logs = s.logs) : s.SameErrors t := by
  intro log
  unfold Store.log
  rw [h]

theorem SameErrors.trans (h : s.SameErrors t) (h' : t.SameErrors u) : s.SameErrors u :=
  fun log => (h' log).trans (h log)

/-- A change of a log that leaves its errors alone. -/
theorem sameErrors_modifyLog (r : LogId) {f : Log → Log} (hf : ∀ l, (f l).errors = l.errors) :
    s.SameErrors (s.modifyLog r f) := by
  intro log
  unfold Store.log modifyLog Table.get
  rw [Table.get?_modify]
  split
  · cases s.logs.get? log with
    | none => rfl
    | some l => exact hf l
  · rfl

theorem sameErrors_report (log : LogId) (span : Span) {p : Problem} (hp : p.severity = .warning)
    (context : String) : s.SameErrors (s.report log span p context) := by
  unfold report
  apply sameErrors_modifyLog
  intro l
  unfold Log.report
  rw [hp]
  rfl

/-- A problem that is an error becomes the last error of the log. -/
theorem errors_report {log : LogId} (hlog : log ∈ s.logs) (span : Span) {p : Problem}
    (hp : p.severity = .error) (context : String) :
    ((s.report log span p context).log log).errors
      = (s.log log).errors
        ++ [.locate (s.lineTable (s.log log).lineTable) span p.message context] := by
  unfold report modifyLog Store.log
  rw [Table.get_modify_self _ hlog]
  unfold Log.report
  rw [hp]
  rfl

/-! ## Attempts -/

section Attempts

variable {α : Type}

/-- An attempt that fails writes nothing, and one that succeeds adds no error. -/
structure Unlogged (s : Store) (a : Attempt α) : Prop where
  failed : ∀ p, a.2 = .error p → p.severity = .error ∧ a.1 = s
  succeeded : ∀ r, a.2 = .ok r → s.SameErrors a.1

/-- An attempt that fails adds its problem to the log and writes nothing else, and one that succeeds adds no
    error. -/
structure Entered (s : Store) (log : LogId) (a : Attempt α) : Prop where
  failed : ∀ p, a.2 = .error p → p.severity = .error ∧ ∃ span, a.1 = s.report log span p ""
  succeeded : ∀ r, a.2 = .ok r → s.SameErrors a.1

theorem unlogged_error {p : Problem} (hp : p.severity = .error) :
    s.Unlogged ((s, .error p) : Attempt α) := by
  refine ⟨fun q hq => ?_, nofun⟩
  obtain rfl := Except.error.inj hq
  exact ⟨hp, rfl⟩

theorem unlogged_ok (h : t.logs = s.logs) (r : α) : s.Unlogged (t, .ok r) :=
  ⟨nofun, fun _ _ => sameErrors_of_logs h⟩

theorem entered_reject (log : LogId) (span : Span) {p : Problem} (hp : p.severity = .error) :
    s.Entered log (s.reject log span p : Attempt α) := by
  refine ⟨fun q hq => ?_, nofun⟩
  obtain rfl := Except.error.inj hq
  exact ⟨hp, span, rfl⟩

theorem entered_ok {log : LogId} (h : t.logs = s.logs) (r : α) : s.Entered log (t, .ok r) :=
  ⟨nofun, fun _ _ => sameErrors_of_logs h⟩

/-- What fails without an entry has one when its failure is logged. -/
theorem Unlogged.logged {a : Attempt α} (h : s.Unlogged a) (log : LogId) (span : Span) :
    s.Entered log (logged log span a) := by
  obtain ⟨t, outcome⟩ := a
  cases outcome with
  | ok r => exact ⟨nofun, fun _ _ => h.succeeded r rfl⟩
  | error p =>
    obtain ⟨hp, rfl⟩ := h.failed p rfl
    exact entered_reject log span hp

end Attempts

/-! ## Declarations -/

/-- Declaring fails for a name that is taken, and changes nothing then. -/
theorem declare_error {r : FrameId} {x : Symbol} {p : Problem} (h : s.declare r x = (t, .error p)) :
    t = s ∧ p.severity = .error ∧ (s.lookup (s.frame r) x.name).isSome := by
  unfold declare declare? at h
  by_cases hname : (s.lookup (s.frame r) x.name).isSome
  · rw [if_pos hname] at h
    obtain ⟨rfl, hp⟩ := Prod.mk.inj h
    obtain rfl := Except.error.inj hp
    exact ⟨rfl, rfl, hname⟩
  · rw [if_neg hname] at h
    exact absurd (congrArg Prod.snd h) nofun

theorem logs_declare (s : Store) (r : FrameId) (x : Symbol) : (s.declare r x).1.logs = s.logs := by
  rcases s.declare_cases r x with heq | ⟨-, heq⟩ <;> rw [heq]
  rfl

theorem declare_logs {r : FrameId} {x : Symbol} {outcome : Except Problem SymbolId}
    (h : s.declare r x = (t, outcome)) : t.logs = s.logs := by
  have hlogs := s.logs_declare r x
  rw [h] at hlogs
  exact hlogs

theorem unlogged_declare (r : FrameId) (x : Symbol) : s.Unlogged (s.declare r x) := by
  cases heq : s.declare r x with
  | mk t outcome =>
    cases outcome with
    | error p =>
      obtain ⟨rfl, hp, -⟩ := declare_error heq
      exact unlogged_error hp
    | ok symbol => exact unlogged_ok (declare_logs heq) symbol

theorem unlogged_declareVariable (block : BlockId) (type name : String) (init : Expression)
    (span : Span) : s.Unlogged (s.declareVariable block type name init span) := by
  unfold declareVariable
  dsimp only
  split
  · next heq =>
    obtain ⟨rfl, hp, -⟩ := declare_error heq
    exact unlogged_error hp
  · next heq =>
    apply unlogged_ok
    exact (declare_logs heq :)

theorem unlogged_declareLocal (function : FunctionRef) (frame : FrameId) (type name : String)
    (init : Expression) (span : Span) :
    s.Unlogged (s.declareLocal function frame type name init span) := by
  unfold declareLocal
  dsimp only
  split
  · next heq =>
    obtain ⟨rfl, hp, -⟩ := declare_error heq
    exact unlogged_error hp
  · next heq =>
    apply unlogged_ok
    exact (declare_logs heq :)

theorem unlogged_declareFunction (block : BlockId) (type name : String) (span : Span) :
    s.Unlogged (s.declareFunction block type name span) := by
  unfold declareFunction
  dsimp only
  split
  · next heq =>
    obtain ⟨rfl, hp, -⟩ := declare_error heq
    exact unlogged_error hp
  · next heq =>
    apply unlogged_ok
    exact (declare_logs heq :)

theorem unlogged_declareType (block : BlockId) (name type : String) (span : Span) :
    s.Unlogged (s.declareType block name type span) := unlogged_declare _ _

/-- A name that is taken in the frame of a block hides nothing. -/
theorem warnShadowing_of_taken (log : LogId) {block : BlockId} {name : String} (span : Span)
    (h : (s.lookup (s.frame (s.block block).frame) name).isSome) :
    s.warnShadowing log block name span = s := by
  unfold warnShadowing
  dsimp only
  split
  · rfl
  · refine if_neg fun hcond => ?_
    rw [Bool.and_eq_true, Option.isNone_iff_eq_none] at hcond
    rw [hcond.1] at h
    exact absurd h Bool.false_ne_true

theorem lookup_isSome_of_declareVariable_error {block : BlockId} {type name : String}
    {init : Expression} {span : Span} {p : Problem}
    (h : (s.declareVariable block type name init span).2 = .error p) :
    (s.lookup (s.frame (s.block block).frame) name).isSome := by
  unfold declareVariable at h
  dsimp only at h
  split at h
  · next heq => exact (declare_error heq).2.2
  · exact absurd h nofun

/-- There is no warning for a variable that is not declared, and a warning is no error. -/
theorem entered_addVariable (document : DocumentId) (block : BlockId) (type name : String)
    (init : Expression) (span : Span) :
    s.Entered (s.document document).log (s.addVariable document block type name init span) := by
  unfold addVariable
  apply Unlogged.logged
  have hwarning := s.warnShadowing_cases (s.document document).log block name span
  refine ⟨fun p hp => ?_, fun r hr => ?_⟩
  · have htaken : (s.lookup (s.frame (s.block block).frame) name).isSome := by
      have hlookup := lookup_isSome_of_declareVariable_error hp
      rcases hwarning with heq | heq <;> rw [heq] at hlookup <;> exact hlookup
    rw [warnShadowing_of_taken (s.document document).log span htaken] at hp ⊢
    exact (unlogged_declareVariable block type name init span).failed p hp
  · have hwarned : s.SameErrors (s.warnShadowing (s.document document).log block name span) := by
      rcases hwarning with heq | heq <;> rw [heq]
      · exact sameErrors_of_logs rfl
      · exact sameErrors_report _ span rfl ""
    exact hwarned.trans ((unlogged_declareVariable block type name init span).succeeded r hr)

/-! ## Templates and instances -/

theorem entered_addTemplate (document : DocumentId) (name : String) (parameters : List SymbolId)
    (span : Span) (style : Style) :
    s.Entered (s.document document).log (s.addTemplate document name parameters span style) := by
  unfold addTemplate
  dsimp only
  split
  · next heq =>
    obtain ⟨rfl, hp, -⟩ := declare_error heq
    exact entered_reject _ span hp
  · next heq =>
    apply entered_ok
    exact (declare_logs heq :)

theorem entered_addDynamicTemplate (document : DocumentId) (name : String)
    (parameters : List SymbolId) (span : Span) :
    s.Entered (s.document document).log (s.addDynamicTemplate document name parameters span) := by
  unfold addDynamicTemplate
  dsimp only
  split
  · split
    · exact entered_reject _ span rfl
    · apply entered_ok
      rfl
  · split
    · next heq =>
      obtain ⟨rfl, hp, -⟩ := declare_error heq
      exact entered_reject _ span hp
    · next heq =>
      apply entered_ok
      exact (declare_logs heq :)

/-- Binding fails for one reason only. -/
theorem bind_error {base : InstanceId} {parameters : List SymbolId} {arguments : List (Term SymbolId)}
    {p : Problem} (h : s.bind base parameters arguments = .error p) : p.severity = .error := by
  unfold Store.bind at h
  split at h
  · exact absurd h nofun
  · obtain rfl := Except.error.inj h
    rfl

/-- Nothing is written before both checks. -/
theorem entered_instantiate (document : DocumentId) (name : String) (base : InstanceId)
    (parameters : List SymbolId) (arguments : List (Term SymbolId)) (span : Span)
    (enlist : InstanceId → Document → Document) :
    s.Entered (s.document document).log
      (s.instantiate document name base parameters arguments span enlist) := by
  unfold instantiate
  dsimp only
  split
  · next heq => exact entered_reject _ span (bind_error heq)
  · split
    · next heq =>
      obtain ⟨rfl, hp, -⟩ := declare_error heq
      exact entered_reject _ span hp
    · next heq =>
      apply entered_ok
      exact (declare_logs heq :)

/-- The failure of a line that becomes an instance is not logged. -/
theorem unlogged_bindLine (line base : InstanceId) (parameters : List SymbolId)
    (arguments : List (Term SymbolId)) :
    s.Unlogged (s.bindLine line base parameters arguments) := by
  unfold bindLine
  split
  · next heq => exact unlogged_error (bind_error heq)
  · apply unlogged_ok
    rfl

theorem entered_addProcess (document : DocumentId) (i : InstanceId) (span : Span) :
    s.Entered (s.document document).log (s.addProcess document i span) := by
  unfold addProcess
  dsimp only
  split
  · exact entered_reject _ span rfl
  · apply entered_ok
    rfl

theorem entered_addChanPriority (document : DocumentId) (separator : String)
    (chan : Term SymbolId) :
    s.Entered (s.document document).log (s.addChanPriority document separator chan) := by
  unfold addChanPriority
  dsimp only
  split
  · exact entered_reject _ _ rfl
  · apply entered_ok
    rfl

/-! ## The bodies of templates -/

section Bodies

variable (t : TemplateId)

theorem entered_addLocation (name : String) (invariant rate : Expression) (span : Span) :
    s.Entered (s.template t).log (s.addLocation t name invariant rate span) := by
  unfold addLocation
  dsimp only
  split
  · next heq =>
    obtain ⟨rfl, hp, -⟩ := declare_error heq
    exact entered_reject _ span hp
  · next heq =>
    apply entered_ok
    exact (declare_logs heq :)

theorem entered_addBranchpoint (name : String) (span : Span) :
    s.Entered (s.template t).log (s.addBranchpoint t name span) := by
  unfold addBranchpoint
  dsimp only
  split
  · next heq =>
    obtain ⟨rfl, hp, -⟩ := declare_error heq
    exact entered_reject _ span hp
  · next heq =>
    apply entered_ok
    exact (declare_logs heq :)

theorem entered_addInstanceLine (name : String) (span : Span) :
    s.Entered (s.template t).log (s.addInstanceLine t name span) := by
  unfold addInstanceLine
  dsimp only
  split
  · next heq =>
    obtain ⟨rfl, hp, -⟩ := declare_error heq
    exact entered_reject _ span hp
  · next heq =>
    apply entered_ok
    exact (declare_logs heq :)

theorem entered_setInitial (symbol : SymbolId) :
    s.Entered (s.template t).log (s.setInitial t symbol) := by
  unfold setInitial
  split
  · apply entered_ok
    rfl
  · exact entered_reject _ _ rfl

theorem entered_addEdge (source target : SymbolId) (control : Bool) (actname : String) :
    s.Entered (s.template t).log (s.addEdge t source target control actname) := by
  unfold addEdge
  split
  · exact entered_reject _ _ rfl
  · split
    · exact entered_reject _ _ rfl
    · apply entered_ok
      rfl

theorem entered_addMessage (source target : SymbolId) (location : Int) (prechart : Bool)
    (label : Expression) :
    s.Entered (s.template t).log (s.addMessage t source target location prechart label) := by
  unfold addMessage
  split
  · exact entered_reject _ _ rfl
  · split
    · exact entered_reject _ _ rfl
    · apply entered_ok
      rfl

theorem entered_addCondition (anchors : List SymbolId) (location : Int) (prechart hot : Bool)
    (label : Expression) :
    s.Entered (s.template t).log (s.addCondition t anchors location prechart hot label) := by
  unfold addCondition
  split
  · apply entered_ok
    rfl
  · exact entered_reject _ _ rfl

theorem entered_addUpdate (anchor : SymbolId) (location : Int) (prechart : Bool)
    (label : Expression) :
    s.Entered (s.template t).log (s.addUpdate t anchor location prechart label) := by
  unfold addUpdate
  split
  · apply entered_ok
    rfl
  · exact entered_reject _ _ rfl

end Bodies

/-! ## Every operation -/

/-- An operation that fails adds its problem to the log and writes nothing else, and one that succeeds adds
    no error. -/
structure Enters (s : Store) (log : LogId) (op : Operation) : Prop where
  failed : ∀ p, s.outcome op = .failed p →
    p.severity = .error ∧ ∃ span, s.perform op = s.report log span p ""
  succeeded : (∀ p, s.outcome op ≠ .failed p) → s.SameErrors (s.perform op)

/-- **An operation that has a log for its failures adds one error if it fails, and none if it succeeds.** -/
theorem enters_perform {op : Operation} {log : LogId} (h : op.sink? s = some log) :
    s.Enters log op := by
  have hattempt : ∀ {α : Type} {made : α → Outcome} {a : Attempt α} {log' : LogId},
      some log' = some log → s.Entered log' a → s.outcome op = .of made a.2 → s.perform op = a.1 →
      (∀ r p, made r ≠ .failed p) → s.Enters log op := by
    rintro α made a _ ⟨⟩ ha houtcome hperform hmade
    refine ⟨fun p hp => ?_, fun hp => ?_⟩ <;> rw [houtcome] at hp
    · rw [hperform]
      exact ha.failed p (Outcome.error_of_failed hp fun r => hmade r p)
    · rw [hperform]
      cases hresult : a.2 with
      | ok r => exact ha.succeeded r hresult
      | error p =>
        rw [hresult] at hp
        exact absurd rfl (hp p)
  cases op with
  | addVariable document block type name init span =>
    exact hattempt h (entered_addVariable document block type name init span) rfl rfl nofun
  | addLocal document function frame type name init span =>
    exact hattempt h ((unlogged_declareLocal function frame type name init span).logged _ span)
      rfl rfl nofun
  | addFunction document block type name span =>
    exact hattempt h ((unlogged_declareFunction block type name span).logged _ span) rfl rfl nofun
  | addTypedef document block name type span =>
    exact hattempt h ((unlogged_declareType block name type span).logged _ span) rfl rfl nofun
  | addTemplate document name parameters span style =>
    exact hattempt h (entered_addTemplate document name parameters span style) rfl rfl nofun
  | addDynamicTemplate document name parameters span =>
    exact hattempt h (entered_addDynamicTemplate document name parameters span) rfl rfl nofun
  | addInstance document name base parameters arguments span
  | addLscInstance document name base parameters arguments span =>
    exact hattempt h (entered_instantiate document name base parameters arguments span _)
      rfl rfl nofun
  | addProcess document inst span =>
    exact hattempt h (entered_addProcess document inst span) rfl rfl nofun
  | addChanPriority document separator chan =>
    exact hattempt h (entered_addChanPriority document separator chan) rfl rfl nofun
  | addLocation template name invariant rate span =>
    exact hattempt h (entered_addLocation template name invariant rate span) rfl rfl nofun
  | addBranchpoint template name span =>
    exact hattempt h (entered_addBranchpoint template name span) rfl rfl nofun
  | setInitial template symbol =>
    exact hattempt h (entered_setInitial template symbol) rfl rfl nofun
  | addEdge template source target control actname =>
    exact hattempt h (entered_addEdge template source target control actname) rfl rfl nofun
  | addInstanceLine template name span =>
    exact hattempt h (entered_addInstanceLine template name span) rfl rfl nofun
  | addMessage template source target location prechart label =>
    exact hattempt h (entered_addMessage template source target location prechart label) rfl rfl nofun
  | addCondition template anchors location prechart hot label =>
    exact hattempt h (entered_addCondition template anchors location prechart hot label)
      rfl rfl nofun
  | addUpdate template anchor location prechart label =>
    exact hattempt h (entered_addUpdate template anchor location prechart label) rfl rfl nofun
  -- The others have no log for their failures.
  | _ => exact absurd h nofun

/-- **Any other operation that fails is one of six kinds, and writes nothing.** -/
theorem silent_perform {op : Operation} {p : Problem} (hsink : op.sink? s = none)
    (h : s.outcome op = .failed p) : op.HasNoLog ∧ s.perform op = s := by
  have hattempt : ∀ {α : Type} {made : α → Outcome} {a : Attempt α}, s.Unlogged a →
      Outcome.of made a.2 = .failed p → (∀ r, made r ≠ .failed p) → a.1 = s :=
    fun ha hfailed hmade => (ha.failed p (Outcome.error_of_failed hfailed hmade)).2
  cases op with
  | declareSymbol frame symbol => exact ⟨trivial, hattempt (unlogged_declare frame symbol) h nofun⟩
  | declareVariable block type name init span =>
    exact ⟨trivial, hattempt (unlogged_declareVariable block type name init span) h nofun⟩
  | declareLocal function frame type name init span =>
    exact ⟨trivial, hattempt (unlogged_declareLocal function frame type name init span) h nofun⟩
  | declareFunction block type name span =>
    exact ⟨trivial, hattempt (unlogged_declareFunction block type name span) h nofun⟩
  | declareType block name type span =>
    exact ⟨trivial, hattempt (unlogged_declareType block name type span) h nofun⟩
  | bindLine template index base parameters arguments =>
    exact ⟨trivial, hattempt (unlogged_bindLine _ base parameters arguments) h nofun⟩
  -- The others have a log for their failures or do not fail.
  | _ => first | cases h | cases hsink

end Store

end TimedNet
