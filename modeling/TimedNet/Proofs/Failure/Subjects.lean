import TimedNet.Proofs.Failure.Trace
import TimedNet.Proofs.Source.Messages

/-!
# `TimedNet.Proofs.Failure.Subjects` — what a failed call says it failed on

A call fails on a name that is taken, on an instance with too few open parameters, on a parameter, on a
symbol that stands for nothing that is looked for, or on the text of a channel. This is said in the
problem that the call gives back and, with the message of the problem, in the log. The message has the
name or the text unchanged if no dollar sign in it starts a pattern, and only then.

* `Complaint`; `Store.taken?`, `Store.overfull?`, `Store.missing?`: what a call can be refused for.
* `Store.complaint?`: what it is refused for, read off the store and the call.
* `Store.Answers`: an attempt is refused for that, or succeeds; one lemma per attempt.
* `outcome_failed_iff`: any operation.
* `Store.NamesSubjects`; `Store.messages_name_subjects`; `Store.pattern_replaced`.
-/

namespace TimedNet

/-- A condition and the name or the text that it was found on. -/
structure Complaint where
  kind : ProblemKind
  subject : String
deriving DecidableEq, Repr

namespace Complaint

/-- The problem that says so. -/
def problem (c : Complaint) : Problem := c.kind.on c.subject

/-- The template of the condition with the name or the text as it stands. -/
def text (c : Complaint) : String :=
  String.ofList (c.kind.parts.1 ++ c.subject.toList ++ c.kind.parts.2)

/-- **The message says what was found exactly if this has no pattern in it.** -/
theorem message_eq_text_iff (c : Complaint) :
    c.problem.message = c.text ↔ Text.hasPattern c.subject.toList = false :=
  c.kind.onePlace.fill_verbatim_iff c.kind.inert.1 c.kind.inert.2 c.subject

end Complaint

namespace Store

variable {s : Store}

/-! ## What a call is refused for -/

/-- The name is taken in the frame. -/
def taken? (s : Store) (frame : FrameId) (name : String) : Option Complaint :=
  if (s.lookup (s.frame frame) name).isSome then some ⟨.duplicateDefinition, name⟩ else none

/-- The instance has fewer open parameters than there are arguments. -/
def overfull? (s : Store) (base : InstanceId) (arguments : List (Term SymbolId)) : Option Complaint :=
  if (s.inst base).binding.unbound < arguments.length then some ⟨.tooManyArguments, s.instName base⟩
  else none

/-- The first of the symbols that stands for nothing that is looked for. -/
def missing? {α : Type} (s : Store) (kind : ProblemKind) (stands? : SymbolId → Option α) :
    List SymbolId → Option Complaint
  | [] => none
  | x :: symbols =>
    match stands? x with
    | none => some ⟨kind, s.name x⟩
    | some _ => s.missing? kind stands? symbols

/-- The first of the symbols that stands for no location and no branchpoint of the template. -/
def unplaced? (s : Store) (t : TemplateId) (symbols : List SymbolId) : Option Complaint :=
  s.missing? .notALocation (s.endpoint? t) symbols

/-- The first of the symbols that stands for no line of the template. -/
def unlined? (s : Store) (t : TemplateId) (symbols : List SymbolId) : Option Complaint :=
  s.missing? .notAnInstanceLine (s.lineHandle? t) symbols

/-- The symbol stands for a location of the template. -/
def isLocation (s : Store) (t : TemplateId) (symbol : SymbolId) : Bool :=
  match s.endpoint? t symbol with
  | some (.location _) => true
  | _ => false

/-- The first thing that a call is refused for, if there is one. -/
def complaint? (s : Store) : Operation → Option Complaint
  | .declareSymbol frame symbol => s.taken? frame symbol.name
  | .declareVariable block _ name _ _ | .declareFunction block _ name _ | .declareType block name _ _
  | .addVariable _ block _ name _ _ | .addFunction _ block _ name _ | .addTypedef _ block name _ _ =>
    s.taken? (s.block block).frame name
  | .declareLocal _ frame _ name _ _ | .addLocal _ _ frame _ name _ _ => s.taken? frame name
  | .addTemplate document name .. => s.taken? (s.globalFrame document) name
  | .addDynamicTemplate document name .. =>
    match s.findDynamicTemplate? document name with
    | some t => if (s.template t).isDefined then some ⟨.duplicateDefinition, name⟩ else none
    | none => s.taken? (s.globalFrame document) name
  | .addInstance document name base _ arguments _ | .addLscInstance document name base _ arguments _ =>
    (s.overfull? base arguments).or (s.taken? (s.globalFrame document) name)
  | .bindLine _ _ base _ arguments => s.overfull? base arguments
  | .addProcess _ inst _ =>
    ((s.inst inst).binding.unboundParameters.find? fun p =>
      (s.inst inst).binding.restricted.contains p).map fun p => ⟨.freeRestrictedParameter, s.name p⟩
  | .addChanPriority document _ chan =>
    if (s.document document).chanPriorities.isEmpty then
      some ⟨.missingChanPriority, chan.render s.name⟩
    else none
  | .addLocation template name .. | .addBranchpoint template name _ | .addInstanceLine template name _ =>
    s.taken? (s.localFrame template) name
  | .setInitial template symbol =>
    if s.isLocation template symbol then none else some ⟨.notALocation, s.name symbol⟩
  | .addEdge template source target .. => s.unplaced? template [source, target]
  | .addMessage template source target .. => s.unlined? template [source, target]
  | .addCondition template anchors .. => s.unlined? template anchors
  | .addUpdate template anchor .. => s.unlined? template [anchor]
  | _ => none

/-! ## One attempt -/

/-- The attempt is refused for the complaint, or, if there is none, succeeds. -/
def Answers {α : Type} (a : Attempt α) : Option Complaint → Prop
  | some c => a.2 = .error c.problem
  | none => ∃ r, a.2 = .ok r

theorem Answers.failed_iff {α : Type} {a : Attempt α} {c? : Option Complaint} (ha : Answers a c?)
    {made : α → Outcome} {p : Problem} (hmade : ∀ r, made r ≠ .failed p) :
    Outcome.of made a.2 = .failed p ↔ ∃ c, c? = some c ∧ p = c.problem := by
  cases c? with
  | some c =>
    rw [show a.2 = .error c.problem from ha]
    constructor
    · intro hp
      exact ⟨c, rfl, (Outcome.failed.inj hp).symm⟩
    · rintro ⟨_, hc, rfl⟩
      rw [← Option.some.inj hc]
      rfl
  | none =>
    obtain ⟨r, hr⟩ := ha
    rw [hr]
    constructor
    · exact fun hp => absurd hp (hmade r)
    · rintro ⟨c, hc, -⟩
      exact absurd hc.symm (Option.some_ne_none c)

theorem Answers.logged {α : Type} {a : Attempt α} {c? : Option Complaint} (ha : Answers a c?) (log : LogId)
    (span : Span) : Answers (logged log span a) c? := by
  obtain ⟨t, outcome⟩ := a
  cases outcome <;> exact ha

theorem answers_declare (frame : FrameId) (x : Symbol) :
    Answers (s.declare frame x) (s.taken? frame x.name) := by
  unfold taken?
  split
  · next htaken =>
    rw [declare_of_taken htaken]
    rfl
  · next hfree =>
    rw [declare_of_free (by simpa using hfree)]
    exact ⟨_, rfl⟩

/-- What declares a symbol first and succeeds if this does is refused for the same. -/
theorem answers_of_declare {α : Type} {frame : FrameId} {x : Symbol} {a : Attempt α}
    (hfailed : ∀ p, s.declare frame x = (s, .error p) → a.2 = .error p)
    (hmade : ∀ r, s.declare frame x = (s.declared frame x, .ok r) → ∃ made, a.2 = .ok made) :
    Answers a (s.taken? frame x.name) := by
  unfold taken?
  split
  · next htaken => exact hfailed _ (declare_of_taken htaken)
  · next hfree => exact hmade _ (declare_of_free (by simpa using hfree))

theorem answers_declareVariable (block : BlockId) (type name : String) (init : Expression) (span : Span) :
    Answers (s.declareVariable block type name init span) (s.taken? (s.block block).frame name) := by
  let owner := VariableRef.ofBlock block (s.block block).vars.length
  refine answers_of_declare (x := { name, type, span, subject := .var owner }) (fun p hp => ?_)
    fun r hr => ?_
  · rw [declareVariable, hp]
  · rw [declareVariable, hr]
    exact ⟨_, rfl⟩

theorem answers_declareLocal (function : FunctionRef) (frame : FrameId) (type name : String)
    (init : Expression) (span : Span) :
    Answers (s.declareLocal function frame type name init span) (s.taken? frame name) := by
  let owner := VariableRef.ofFunction function (s.functionAt function).locals.length
  refine answers_of_declare (x := { name, type, span, subject := .var owner }) (fun p hp => ?_)
    fun r hr => ?_
  · rw [declareLocal, hp]
  · rw [declareLocal, hr]
    exact ⟨_, rfl⟩

theorem answers_declareFunction (block : BlockId) (type name : String) (span : Span) :
    Answers (s.declareFunction block type name span) (s.taken? (s.block block).frame name) := by
  let owner : FunctionRef := ⟨block, (s.block block).functions.length⟩
  refine answers_of_declare (x := { name, type, span, subject := .fn owner }) (fun p hp => ?_)
    fun r hr => ?_
  · rw [declareFunction, hp]
  · rw [declareFunction, hr]
    exact ⟨_, rfl⟩

/-- A warning is no reason to refuse. -/
theorem answers_addVariable (document : DocumentId) (block : BlockId) (type name : String)
    (init : Expression) (span : Span) :
    Answers (s.addVariable document block type name init span) (s.taken? (s.block block).frame name) := by
  refine Answers.logged ?_ _ span
  rcases s.warnShadowing_cases (s.document document).log block name span with heq | heq <;> rw [heq]
  · exact answers_declareVariable block type name init span
  · exact answers_declareVariable (s := s.report ..) block type name init span

theorem answers_addTemplate (document : DocumentId) (name : String) (parameters : List SymbolId)
    (span : Span) (style : Style) :
    Answers (s.addTemplate document name parameters span style)
      (s.taken? (s.globalFrame document) name) := by
  refine answers_of_declare (x := { name, type := templateType style.isTA, span }) (fun p hp => ?_)
    fun r hr => ?_
  · rw [addTemplate, hp]
    rfl
  · rw [addTemplate, hr]
    exact ⟨_, rfl⟩

theorem answers_addDynamicTemplate (document : DocumentId) (name : String) (parameters : List SymbolId)
    (span : Span) :
    Answers (s.addDynamicTemplate document name parameters span)
      (s.complaint? (.addDynamicTemplate document name parameters span)) := by
  unfold complaint? addDynamicTemplate
  dsimp only
  cases s.findDynamicTemplate? document name with
  | some t =>
    by_cases hdefined : (s.template t).isDefined = true
    · simp only [hdefined, if_true]
      rfl
    · simp only [hdefined]
      exact ⟨_, rfl⟩
  | none =>
    refine answers_of_declare (x := { name, type := templateType true, span }) (fun p hp => ?_)
      fun r hr => ?_
    · simp only [hp]
      rfl
    · simp only [hr]
      exact ⟨_, rfl⟩

/-- Binding is refused for the number of arguments. -/
theorem bind_eq (base : InstanceId) (parameters : List SymbolId) (arguments : List (Term SymbolId)) :
    match s.overfull? base arguments with
    | some c => s.bind base parameters arguments = .error c.problem
    | none => ∃ b, s.bind base parameters arguments = .ok b := by
  unfold overfull? Store.bind Binding.bind?
  by_cases hfit : arguments.length ≤ (s.inst base).binding.unbound
  · rw [if_neg (Nat.not_lt_of_le hfit), if_pos hfit]
    exact ⟨_, rfl⟩
  · rw [if_pos (Nat.lt_of_not_le hfit), if_neg hfit]
    rfl

theorem answers_instantiate (document : DocumentId) (name : String) (base : InstanceId)
    (parameters : List SymbolId) (arguments : List (Term SymbolId)) (span : Span)
    (enlist : InstanceId → Document → Document) :
    Answers (s.instantiate document name base parameters arguments span enlist)
      ((s.overfull? base arguments).or (s.taken? (s.globalFrame document) name)) := by
  have hbind := s.bind_eq base parameters arguments
  unfold instantiate
  cases hover : s.overfull? base arguments with
  | some c =>
    rw [hover] at hbind
    rw [hbind]
    rfl
  | none =>
    rw [hover] at hbind
    obtain ⟨b, hb⟩ := hbind
    rw [hb]
    refine answers_of_declare (x := { name, type := "instance", span, subject := .inst s.insts.next })
      (fun p hp => ?_) fun r hr => ?_
    · simp only [hp]
      rfl
    · simp only [hr]
      exact ⟨_, rfl⟩

theorem answers_bindLine (line base : InstanceId) (parameters : List SymbolId)
    (arguments : List (Term SymbolId)) :
    Answers (s.bindLine line base parameters arguments) (s.overfull? base arguments) := by
  have hbind := s.bind_eq base parameters arguments
  unfold bindLine
  cases hover : s.overfull? base arguments with
  | some c =>
    rw [hover] at hbind
    rw [hbind]
    rfl
  | none =>
    rw [hover] at hbind
    obtain ⟨b, hb⟩ := hbind
    rw [hb]
    exact ⟨_, rfl⟩

theorem answers_addProcess (document : DocumentId) (i : InstanceId) (span : Span) :
    Answers (s.addProcess document i span) (s.complaint? (.addProcess document i span)) := by
  unfold complaint? addProcess
  dsimp only
  cases (s.inst i).binding.unboundParameters.find? fun p => (s.inst i).binding.restricted.contains p with
  | some p => rfl
  | none => exact ⟨_, rfl⟩

theorem answers_addChanPriority (document : DocumentId) (separator : String) (chan : Term SymbolId) :
    Answers (s.addChanPriority document separator chan)
      (s.complaint? (.addChanPriority document separator chan)) := by
  unfold complaint? addChanPriority
  dsimp only
  cases hlast : (s.document document).chanPriorities.getLast? with
  | none =>
    rw [if_pos (List.isEmpty_iff.mpr (List.getLast?_eq_none_iff.mp hlast))]
    rfl
  | some last =>
    have hne : (s.document document).chanPriorities.isEmpty = false := by
      cases hlist : (s.document document).chanPriorities with
      | nil => simp [hlist] at hlast
      | cons => rfl
    rw [hne]
    exact ⟨_, rfl⟩

/-! ### The bodies of templates -/

section Bodies

variable (t : TemplateId)

section Missing

variable {α : Type} {kind : ProblemKind} {stands? : SymbolId → Option α} {x : SymbolId} {symbols : List SymbolId}

theorem missing?_cons_none (hx : stands? x = none) :
    s.missing? kind stands? (x :: symbols) = some ⟨kind, s.name x⟩ := by
  rw [missing?, hx]

theorem missing?_cons_some {a : α} (hx : stands? x = some a) :
    s.missing? kind stands? (x :: symbols) = s.missing? kind stands? symbols := by
  rw [missing?, hx]

end Missing

theorem answers_addLocation (name : String) (invariant rate : Expression) (span : Span) :
    Answers (s.addLocation t name invariant rate span) (s.taken? (s.localFrame t) name) := by
  let index := (s.template t).locations.size
  refine answers_of_declare (x := { name, type := "location", span, subject := .location t index })
    (fun p hp => ?_) fun r hr => ?_
  · rw [addLocation, hp]
    rfl
  · rw [addLocation, hr]
    exact ⟨_, rfl⟩

theorem answers_addBranchpoint (name : String) (span : Span) :
    Answers (s.addBranchpoint t name span) (s.taken? (s.localFrame t) name) := by
  let index := (s.template t).branchpoints.size
  refine answers_of_declare (x := { name, type := "branchpoint", span, subject := .branchpoint t index })
    (fun p hp => ?_) fun r hr => ?_
  · rw [addBranchpoint, hp]
    rfl
  · rw [addBranchpoint, hr]
    exact ⟨_, rfl⟩

theorem answers_addInstanceLine (name : String) (span : Span) :
    Answers (s.addInstanceLine t name span) (s.taken? (s.localFrame t) name) := by
  let index := (s.template t).lines.size
  refine answers_of_declare (x := { name, type := "instance-line", span, subject := .line t index })
    (fun p hp => ?_) fun r hr => ?_
  · rw [addInstanceLine, hp]
    rfl
  · rw [addInstanceLine, hr]
    exact ⟨_, rfl⟩

theorem answers_setInitial (symbol : SymbolId) :
    Answers (s.setInitial t symbol) (s.complaint? (.setInitial t symbol)) := by
  unfold complaint? setInitial isLocation
  dsimp only
  cases s.endpoint? t symbol with
  | none => rfl
  | some e =>
    cases e with
    | location handle => exact ⟨_, rfl⟩
    | branchpoint handle => rfl

theorem answers_addEdge (source target : SymbolId) (control : Bool) (actname : String) :
    Answers (s.addEdge t source target control actname) (s.unplaced? t [source, target]) := by
  unfold unplaced? addEdge
  cases hsource : s.endpoint? t source with
  | none =>
    rw [missing?_cons_none hsource]
    rfl
  | some start =>
    rw [missing?_cons_some hsource]
    cases htarget : s.endpoint? t target with
    | none =>
      rw [missing?_cons_none htarget]
      rfl
    | some stop =>
      rw [missing?_cons_some htarget]
      exact ⟨_, rfl⟩

theorem answers_addMessage (source target : SymbolId) (location : Int) (prechart : Bool)
    (label : Expression) :
    Answers (s.addMessage t source target location prechart label) (s.unlined? t [source, target]) := by
  unfold unlined? addMessage
  cases hsource : s.lineHandle? t source with
  | none =>
    rw [missing?_cons_none hsource]
    rfl
  | some start =>
    rw [missing?_cons_some hsource]
    cases htarget : s.lineHandle? t target with
    | none =>
      rw [missing?_cons_none htarget]
      rfl
    | some stop =>
      rw [missing?_cons_some htarget]
      exact ⟨_, rfl⟩

/-- The lines of several symbols are found unless one of the symbols stands for none. -/
theorem lineHandles_eq (symbols : List SymbolId) :
    (∃ handles, s.lineHandles t symbols = .ok handles ∧ s.unlined? t symbols = none)
      ∨ ∃ x, s.lineHandles t symbols = .error x
        ∧ s.unlined? t symbols = some ⟨.notAnInstanceLine, s.name x⟩ := by
  unfold unlined?
  induction symbols with
  | nil => exact Or.inl ⟨[], rfl, rfl⟩
  | cons x symbols ih =>
    cases hx : s.lineHandle? t x with
    | none =>
      refine Or.inr ⟨x, ?_, missing?_cons_none hx⟩
      rw [lineHandles, hx]
    | some handle =>
      rw [missing?_cons_some hx, lineHandles, hx]
      rcases ih with ⟨handles, hhandles, hnone⟩ | ⟨y, hy, hsome⟩
      · rw [hhandles]
        exact Or.inl ⟨_, rfl, hnone⟩
      · rw [hy]
        exact Or.inr ⟨y, rfl, hsome⟩

theorem answers_addCondition (anchors : List SymbolId) (location : Int) (prechart hot : Bool)
    (label : Expression) :
    Answers (s.addCondition t anchors location prechart hot label) (s.unlined? t anchors) := by
  unfold addCondition
  rcases s.lineHandles_eq t anchors with ⟨handles, hhandles, hnone⟩ | ⟨x, hx, hsome⟩
  · rw [hhandles, hnone]
    exact ⟨_, rfl⟩
  · rw [hx, hsome]
    rfl

theorem answers_addUpdate (anchor : SymbolId) (location : Int) (prechart : Bool) (label : Expression) :
    Answers (s.addUpdate t anchor location prechart label) (s.unlined? t [anchor]) := by
  unfold unlined? addUpdate
  cases hanchor : s.lineHandle? t anchor with
  | none =>
    rw [missing?_cons_none hanchor]
    rfl
  | some handle =>
    rw [missing?_cons_some hanchor]
    exact ⟨_, rfl⟩

end Bodies

/-! ## Every operation -/

/-- **A call fails exactly if there is something to refuse it for, and this is what it gives back.** -/
theorem outcome_failed_iff {op : Operation} {p : Problem} :
    s.outcome op = .failed p ↔ ∃ c, s.complaint? op = some c ∧ p = c.problem := by
  cases op with
  | declareSymbol frame symbol => exact (answers_declare frame symbol).failed_iff nofun
  | declareVariable block type name init span =>
    exact (answers_declareVariable block type name init span).failed_iff nofun
  | declareLocal function frame type name init span =>
    exact (answers_declareLocal function frame type name init span).failed_iff nofun
  | declareFunction block type name span =>
    exact (answers_declareFunction block type name span).failed_iff nofun
  | declareType block name type span =>
    exact (answers_declare (s.block block).frame { name, type, span, subject := .typedef }).failed_iff nofun
  | addVariable document block type name init span =>
    exact (answers_addVariable document block type name init span).failed_iff nofun
  | addLocal document function frame type name init span =>
    exact ((answers_declareLocal function frame type name init span).logged _ span).failed_iff nofun
  | addFunction document block type name span =>
    exact ((answers_declareFunction block type name span).logged _ span).failed_iff nofun
  | addTypedef document block name type span =>
    exact ((answers_declare (s.block block).frame
      { name, type, span, subject := .typedef }).logged _ span).failed_iff nofun
  | addTemplate document name parameters span style =>
    exact (answers_addTemplate document name parameters span style).failed_iff nofun
  | addDynamicTemplate document name parameters span =>
    exact (answers_addDynamicTemplate document name parameters span).failed_iff nofun
  | addInstance document name base parameters arguments span
  | addLscInstance document name base parameters arguments span =>
    exact (answers_instantiate document name base parameters arguments span _).failed_iff nofun
  | bindLine template index base parameters arguments =>
    exact (answers_bindLine _ base parameters arguments).failed_iff nofun
  | addProcess document inst span => exact (answers_addProcess document inst span).failed_iff nofun
  | addChanPriority document separator chan =>
    exact (answers_addChanPriority document separator chan).failed_iff nofun
  | addLocation template name invariant rate span =>
    exact (answers_addLocation template name invariant rate span).failed_iff nofun
  | addBranchpoint template name span => exact (answers_addBranchpoint template name span).failed_iff nofun
  | setInitial template symbol => exact (answers_setInitial template symbol).failed_iff nofun
  | addEdge template source target control actname =>
    exact (answers_addEdge template source target control actname).failed_iff nofun
  | addInstanceLine template name span =>
    exact (answers_addInstanceLine template name span).failed_iff nofun
  | addMessage template source target location prechart label =>
    exact (answers_addMessage template source target location prechart label).failed_iff nofun
  | addCondition template anchors location prechart hot label =>
    exact (answers_addCondition template anchors location prechart hot label).failed_iff nofun
  | addUpdate template anchor location prechart label =>
    exact (answers_addUpdate template anchor location prechart label).failed_iff nofun
  -- The others do not fail, and there is nothing to refuse them for.
  | _ =>
    refine ⟨nofun, ?_⟩
    rintro ⟨c, hc, -⟩
    exact absurd hc.symm (Option.some_ne_none c)

/-! ## Reachable documents -/

/-- What messages say. A message of a template with one placeholder is the parts of the template with what
    becomes of the subject between them, and this is the subject if it has no pattern in it; so two such
    subjects give two messages. The templates of the named conditions have one placeholder, and every other
    subject is changed in them. A call fails exactly if there is something to refuse it for, and gives this
    back. If it is made on the document or on one of its templates, then the error that is added to the log
    has the message that says so, and in this what was found stands unchanged exactly if it has no pattern in
    it. -/
structure NamesSubjects (s : Store) (d : DocumentId) : Prop where
  filled : ∀ p : Problem, ∀ before after, Text.OnePlace p.template before after →
    p.message = String.ofList (before ++ Text.expand before after p.subject.toList ++ after)
      ∧ (Text.hasPattern p.subject.toList = false →
        p.message = String.ofList (before ++ p.subject.toList ++ after))
  distinct : ∀ p q : Problem, ∀ before after, Text.OnePlace p.template before after →
    q.template = p.template → Text.hasPattern p.subject.toList = false →
    Text.hasPattern q.subject.toList = false → p.message = q.message → p.subject = q.subject
  kinds : ∀ k : ProblemKind, Text.OnePlace k.template k.parts.1 k.parts.2
    ∧ ∀ subject : String,
      (k.on subject).message = String.ofList (k.parts.1 ++ subject.toList ++ k.parts.2)
        ↔ Text.hasPattern subject.toList = false
  refused : ∀ op p, s.outcome op = .failed p ↔ ∃ c, s.complaint? op = some c ∧ p = c.problem
  recorded : ∀ op c, op.sink? s = some (s.document d).log → s.complaint? op = some c →
    ∃ e : Diagnostic, ((s.perform op).log (s.document d).log).errors
        = (s.log (s.document d).log).errors ++ [e]
      ∧ e.message = c.problem.message
      ∧ (e.message = c.text ↔ Text.hasPattern c.subject.toList = false)

/-- **What a call fails on is in the message as it stands unless it has a pattern in it.** -/
theorem messages_name_subjects (hrun : Run (fun _ _ => True) {} s) {d : DocumentId}
    (hd : d ∈ s.documents) : s.NamesSubjects d where
  filled p _ _ hplace := ⟨hplace.fill_eq p.subject, hplace.fill_verbatim⟩
  distinct p q _ _ hplace htemplate hp hq heq := by
    refine hplace.fill_injective hp hq (heq.trans ?_)
    rw [Problem.message, htemplate]
  kinds k := ⟨k.onePlace, k.onePlace.fill_verbatim_iff k.inert.1 k.inert.2⟩
  refused _ _ := outcome_failed_iff
  recorded op c hsink hc := by
    have hlog := ((hrun.sound sound_empty).documents d hd).log
    have hfailed : s.outcome op = .failed c.problem := outcome_failed_iff.mpr ⟨c, hc, rfl⟩
    obtain ⟨hseverity, span, heq⟩ := (enters_perform hsink).failed _ hfailed
    rw [heq]
    exact ⟨_, errors_report hlog span hseverity "", rfl, c.message_eq_text_iff⟩

/-- A document without channel priorities. -/
def unordered : Store := ({} : Store).perform (.openDocument none none)

/-- A channel that is written as a text is put behind the last one, but there is none. -/
def behindLast (chan : String) : Operation := .addChanPriority ⟨0⟩ "<" (.constant 0 (.text chan) {})

/-- The text of the channel has a dollar sign in it that starts no pattern. -/
theorem messages_name_subjects_dollar : Run (fun _ _ => True) {} unordered
    ∧ unordered.complaint? (behindLast "$1") = some ⟨.missingChanPriority, "\"$1\""⟩
    ∧ Text.hasPattern "\"$1\"".toList = false
    ∧ ∃ e : Diagnostic, ((unordered.perform (behindLast "$1")).log ⟨0⟩).errors = [e]
      ∧ e.message = "$No_channel_priority_to_extend_with \"$1\"" := by
  have hperforms : ({} : Store).Performs (fun _ _ => True) [.openDocument none none] := by decide
  have hrun : Run (fun _ _ => True) {} unordered := Run.refl.performs hperforms
  have hd : (⟨0⟩ : DocumentId) ∈ unordered.documents := by decide
  have hcomplaint : unordered.complaint? (behindLast "$1") = some ⟨.missingChanPriority, "\"$1\""⟩ := by
    rfl
  obtain ⟨e, herrors, -, hverbatim⟩ :=
    (messages_name_subjects hrun hd).recorded (behindLast "$1") _ rfl hcomplaint
  have hpattern : Text.hasPattern "\"$1\"".toList = false := by decide
  exact ⟨hrun, hcomplaint, hpattern, e, herrors, (hverbatim.mpr hpattern).trans (by decide +kernel)⟩

/-- If it starts a pattern, then another text is in the log, and another channel gives the same. So messages
    do not have every subject in them, nor do different subjects always give different ones. -/
theorem pattern_replaced : Run (fun _ _ => True) {} unordered
    ∧ unordered.complaint? (behindLast "$$") = some ⟨.missingChanPriority, "\"$$\""⟩
    ∧ (unordered.perform (behindLast "$$")).messages ⟨0⟩ = ["$No_channel_priority_to_extend_with \"$\""]
    ∧ (unordered.perform (behindLast "$")).messages ⟨0⟩ = ["$No_channel_priority_to_extend_with \"$\""]
    ∧ ¬ (∀ (k : ProblemKind) (subject : String),
      (k.on subject).message = String.ofList (k.parts.1 ++ subject.toList ++ k.parts.2))
    ∧ ¬ ∀ (k : ProblemKind) (subject other : String),
      (k.on subject).message = (k.on other).message → subject = other := by
  have hperforms : ({} : Store).Performs (fun _ _ => True) [.openDocument none none] := by decide
  have hsame : (ProblemKind.notALocation.on "$$").message = (ProblemKind.notALocation.on "$").message := by
    decide +kernel
  have hchanged : (ProblemKind.notALocation.on "$$").message
      ≠ String.ofList (ProblemKind.notALocation.parts.1 ++ "$$".toList
        ++ ProblemKind.notALocation.parts.2) := by
    decide +kernel
  exact ⟨Run.refl.performs hperforms, by rfl, by decide +kernel, by decide +kernel,
    fun hverbatim => hchanged (hverbatim .notALocation "$$"),
    fun hdistinct => absurd (hdistinct .notALocation "$$" "$" hsame) (by decide)⟩

end Store

end TimedNet
