import TimedNet.Proofs.Run.Preservation

/-!
# `TimedNet.Proofs.Run.Writes` — what each operation can write

The labels of the steps that an operation can take are read off the operation and the store before it.
Whether all of the steps are taken depends on whether the operation succeeds.

* `Operation.writes`.
* `path_reject`, `path_logged`: failing takes one step at most, a log entry.
* `declare_cases`: declaring takes one step or fails.
-/

namespace TimedNet

/-- What an operation can write. -/
def Operation.writes (s : Store) : Operation → List Write
  | .newSymbol _ | .newFrame _ | .newBlock _ | .newLineTable _ | .openLog _ | .copyLog ..
  | .openDocument .. => [.fresh]
  | .newRegions _ | .setRegion .. | .newCut _ | .addToCut .. | .eraseFromCut .. | .newQuery _
  | .setQuery .. | .newArena .. | .pushToArena .. => [.aside]
  | .extendFrame frame symbols => [.extend frame symbols]
  | .declareSymbol frame _ => [.declare frame]
  | .newTemplate symbol parameters .. => [.newTemplate symbol parameters]
  | .copyInst inst _ => [.inst (s.inst inst).binding]
  | .extendParameters inst symbols => [.parameters inst symbols]
  | .addLine lines _ => [.lineTable lines]
  | .addError log .. | .addWarning log .. | .report log .. | .clearErrors log
  | .clearWarnings log => [.log log]
  | .copyDocument document => [.copy document]
  | .addTemplate document _ parameters .. =>
    [.log (s.document document).log, .declare (s.globalFrame document),
      .newTemplate s.symbols.next parameters, .document document]
  | .addDynamicTemplate document name parameters _ =>
    [.log (s.document document).log, .declare (s.globalFrame document),
      .newTemplate s.symbols.next parameters, .template s.templates.next .definition,
      .document document]
      ++ (s.findDynamicTemplate? document name).toList.map fun t => .template t .definition
  | .addInstance document _ base parameters arguments _
  | .addLscInstance document _ base parameters arguments _ =>
    [.log (s.document document).log, .declare (s.globalFrame document), .document document]
      ++ ((s.inst base).binding.bind? parameters arguments).toList.map .inst
  | .addProcess document inst _ =>
    [.log (s.document document).log, .fresh, .inst (s.inst inst).binding, .document document]
  | .removeProcess document _ | .beginChanPriority document _ | .setProcPriority document ..
  | .recordFeature document _ | .setOptions document _ | .addQuery document _
  | .addLibrary document _ | .addString document _ | .internString document _
  | .assignDocument document .. => [.document document]
  | .addChanPriority document .. => [.log (s.document document).log, .document document]
  | .declareVariable block .. | .declareFunction block .. =>
    [.declare (s.block block).frame, .block block]
  | .declareType block .. => [.declare (s.block block).frame]
  | .declareLocal function frame .. => [.declare frame, .block function.block]
  | .addVariable document block .. | .addFunction document block .. =>
    [.log (s.document document).log, .declare (s.block block).frame, .block block]
  | .addTypedef document block .. =>
    [.log (s.document document).log, .declare (s.block block).frame]
  | .addLocal document function frame .. =>
    [.log (s.document document).log, .declare frame, .block function.block]
  | .addProgress block _ | .addGantt block _ | .newIODecl block | .setIODecl block .. => [.block block]
  | .setBody function _ | .addEffects function .. => [.block function.block]
  | .setInitialiser owner _ => [.block owner.block]
  | .copyVariables document _ target | .copyFunctions document _ target =>
    [.log (s.document document).log, .declare (s.localFrame target), .fresh,
      .block (s.template target).block]
  | .assignTemplate template .. => [.template template .marks]
  | .addDynamicEval template _ | .assignLocation template .. | .assignEdge template ..
  | .extendEdge template .. => [.template template .body]
  | .addLocation template .. | .addBranchpoint template .. =>
    [.log (s.template template).log, .declare (s.localFrame template), .template template .body]
  | .setInitial template _ => [.log (s.template template).log, .template template .initial]
  | .addEdge template .. | .addMessage template .. | .addCondition template ..
  | .addUpdate template .. => [.log (s.template template).log, .template template .body]
  | .restrict template _ => [.restrict (s.template template).inst]
  | .addInstanceLine template .. =>
    [.log (s.template template).log, .declare (s.localFrame template), .inst (.ofParameters []),
      .template template .body]
  | .bindLine template index base parameters arguments =>
    ((s.inst base).binding.bind? parameters arguments).toList.map
      (.bind (s.lineAt template index).inst)

namespace Store

variable {s : Store} {P : Write → Prop}

/-! ## Failing -/

theorem path_report (log : LogId) (span : Span) (p : Problem) (context : String) (hlog : P (.log log)) :
    Path P s (s.report log span p context) := by
  refine .single hlog (.editLog log _ fun l => ?_)
  unfold Log.report
  cases p.severity with
  | error => exact ⟨rfl⟩
  | warning => exact ⟨rfl⟩

theorem path_reject {α : Type} (log : LogId) (span : Span) (p : Problem) (hlog : P (.log log)) :
    Path P s (s.reject log span p : Attempt α).1 :=
  path_report log span p "" hlog

theorem path_logged {α : Type} {a : Attempt α} (log : LogId) (span : Span) (hlog : P (.log log))
    (h : Path P s a.1) : Path P s (logged log span a).1 := by
  obtain ⟨s', outcome⟩ := a
  cases outcome with
  | ok _ => exact h
  | error p => exact h.trans (path_reject log span p hlog)

/-! ## Declaring -/

theorem declare_of_taken {r : FrameId} {x : Symbol} (h : (s.lookup (s.frame r) x.name).isSome = true) :
    s.declare r x = (s, .error (ProblemKind.duplicateDefinition.on x.name)) := by
  rw [declare, declare?, if_pos h]

theorem declare_of_free {r : FrameId} {x : Symbol} (h : s.lookup (s.frame r) x.name = none) :
    s.declare r x = (s.declared r x, .ok s.symbols.next) := by
  rw [declare, declare?, if_neg (by simp [h])]
  rfl

/-- Declaring a symbol fails and changes nothing, or the next symbol comes to the end of the frame. -/
theorem declare_cases (s : Store) (r : FrameId) (x : Symbol) :
    s.declare r x = (s, .error (ProblemKind.duplicateDefinition.on x.name))
      ∨ s.lookup (s.frame r) x.name = none
        ∧ s.declare r x = (s.declared r x, .ok s.symbols.next) := by
  cases h : s.lookup (s.frame r) x.name with
  | some y => exact Or.inl (declare_of_taken (by simp [h]))
  | none => exact Or.inr ⟨rfl, declare_of_free h⟩

theorem path_declare (r : FrameId) (x : Symbol) (hframe : P (.declare r)) :
    Path P s (s.declare r x).1 := by
  rcases s.declare_cases r x with heq | ⟨hnew, heq⟩ <;> rw [heq]
  · exact .refl
  · exact .single hframe (.declare r x hnew)

theorem next_mem_declared (s : Store) (r : FrameId) (x : Symbol) :
    s.symbols.next ∈ (s.declared r x).symbols :=
  Table.next_mem_push _ _

/-- The declared symbol stands for what was declared. -/
theorem stands_declared (s : Store) (r : FrameId) {x : Symbol} (hreal : x.subject.isBare = false) :
    (s.declared r x).Stands s.symbols.next x.subject where
  mem := s.next_mem_declared r x
  subject := congrArg Symbol.subject (Table.get_push_next s.symbols x)
  real := hreal

end Store

end TimedNet
