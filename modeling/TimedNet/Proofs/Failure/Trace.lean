import TimedNet.Proofs.Failure.Entries
import TimedNet.Proofs.Separation.Footprint

/-!
# `TimedNet.Proofs.Failure.Trace` — the log of a document tells which calls failed

A program may carry out all its calls first and look at the log of the document once, afterwards. The
errors in the log are then those of the calls that failed on the document and on its templates, in order, if
nothing else writes errors. A call that fails without an entry cannot be told in this way; the one on a
part of a document is the call that makes a line an instance.

* `Operation.editsErrors?`: operations that write errors other than for a failure of their own.
* `Store.entry?`, `Store.failures`: the problems for which the calls with a log for failures fail.
* `Sound.messages_perform`, `Sound.messages_foldl`: one operation, and any number of them.
* `Store.LogsFailures`, `failures_logged`: the log of a reachable document.
* `failed_bindLine_not_logged`: a failure that is not there.
-/

namespace TimedNet

/-- The log whose errors an operation writes for another reason than its own failure. -/
def Operation.editsErrors? (s : Store) : Operation → Option LogId
  | .addError log .. | .clearErrors log => some log
  | .report log _ p _ => if p.severity = .error then some log else none
  | .copyVariables document .. | .copyFunctions document .. => some (s.document document).log
  | _ => none

/-- The operation does not write the errors of the log but for its own failure. -/
def Operation.LeavesErrors (log : LogId) (s : Store) (op : Operation) : Prop :=
  op.editsErrors? s ≠ some log

instance (log : LogId) (s : Store) (op : Operation) : Decidable (op.LeavesErrors log s) :=
  inferInstanceAs (Decidable (_ ≠ _))

namespace Store

variable {s : Store} {log : LogId}

/-- The messages of the errors in a log. -/
def messages (s : Store) (log : LogId) : List String := (s.log log).errors.map Diagnostic.message

/-- The problem for which an operation fails that has this log for its failures. -/
def entry? (s : Store) (log : LogId) (op : Operation) : Option Problem :=
  match s.outcome op with
  | .failed p => if op.sink? s = some log then some p else none
  | _ => none

/-- The problems for which such operations fail, one after the other. -/
def failures (s : Store) (log : LogId) : List Operation → List Problem
  | [] => []
  | op :: ops => (s.entry? log op).toList ++ (s.perform op).failures log ops

theorem entry?_eq_some_iff {op : Operation} {p : Problem} :
    s.entry? log op = some p ↔ op.sink? s = some log ∧ s.outcome op = .failed p := by
  unfold entry?
  cases s.outcome op with
  | failed q =>
    by_cases hsink : op.sink? s = some log
    · simp [hsink]
    · simp [hsink]
  | _ => simp

theorem hasErrors_iff : (s.log log).hasErrors = true ↔ s.messages log ≠ [] := by
  unfold Log.hasErrors messages
  cases (s.log log).errors with
  | nil => simp
  | cons e es => simp

/-! ## One operation -/

/-- An operation that writes to a log has the log for its failures, or writes errors for another reason, or
    leaves all errors alone. -/
theorem sink_or_edits_of_mem_writes {op : Operation} (h : .log log ∈ op.writes s) :
    op.sink? s = some log ∨ op.editsErrors? s = some log ∨ s.SameErrors (s.perform op) := by
  cases op with
  | addWarning | clearWarnings =>
    right
    right
    exact sameErrors_modifyLog _ fun _ => rfl
  | report target span p context =>
    obtain rfl : log = target := by simpa [Operation.writes] using h
    right
    cases hp : p.severity with
    | error => exact Or.inl (if_pos hp)
    | warning => exact Or.inr (sameErrors_report log span hp context)
  | addError | clearErrors | copyVariables | copyFunctions =>
    right
    left
    simpa [Operation.writes, Operation.editsErrors?, eq_comm] using h
  | _ => simp_all [Operation.writes, Operation.sink?]

/-- **What an operation adds to the errors of a log is the message of its failure**, if the log is the one
    for its failures and it fails. -/
theorem Sound.messages_perform (h : s.Sound) {op : Operation} (hop : op.Admissible s)
    (hleaves : op.LeavesErrors log s) (hlog : log ∈ s.logs) :
    (s.perform op).messages log
      = s.messages log ++ (s.entry? log op).toList.map Problem.message := by
  cases hentry : s.entry? log op with
  | some p =>
    obtain ⟨hsink, hfailed⟩ := entry?_eq_some_iff.mp hentry
    obtain ⟨hp, span, heq⟩ := (enters_perform hsink).failed p hfailed
    unfold messages
    rw [heq, errors_report hlog span hp, List.map_append]
    rfl
  | none =>
    have hsucceeded : op.sink? s = some log → ∀ p, s.outcome op ≠ .failed p := by
      intro hsink p hp
      rw [entry?_eq_some_iff.mpr ⟨hsink, hp⟩] at hentry
      exact absurd hentry nofun
    have herrors : ((s.perform op).log log).errors = (s.log log).errors := by
      by_cases hwrites : .log log ∈ op.writes s
      · rcases sink_or_edits_of_mem_writes hwrites with hsink | hedits | hsame
        · exact (enters_perform hsink).succeeded (hsucceeded hsink) log
        · exact absurd hedits hleaves
        · exact hsame log
      · have hsame : (s.perform op).log log = s.log log := by
          refine (h.path_perform hop).same (e := .log log) hlog fun w hw htarget => hwrites ?_
          obtain rfl : w = .log log := by cases w <;> simp_all [Write.targets]
          exact hw
        rw [hsame]
    unfold messages
    rw [herrors]
    exact (List.append_nil _).symm

/-! ## Any number of operations -/

/-- **The errors of a log are those from before and the failures since.** -/
theorem Sound.messages_foldl (h : s.Sound) {ops : List Operation}
    (hops : s.Performs (Operation.LeavesErrors log) ops) (hlog : log ∈ s.logs) :
    (ops.foldl perform s).messages log
      = s.messages log ++ (s.failures log ops).map Problem.message := by
  induction ops generalizing s with
  | nil => exact (List.append_nil _).symm
  | cons op ops ih =>
    obtain ⟨hop, hleaves, hrest⟩ := hops
    have hlog' : log ∈ (s.perform op).logs := ((h.path_perform hop).grows.logs log hlog).1
    rw [List.foldl_cons, ih ((h.path_perform hop).sound h) hrest hlog', h.messages_perform hop hleaves hlog,
      List.append_assoc, ← List.map_append]
    rfl

/-- A failure is one of a call, in the store in which the call is made. -/
theorem mem_failures_iff {ops : List Operation} {p : Problem} : p ∈ s.failures log ops
    ↔ ∃ before op after, ops = before ++ op :: after
      ∧ op.sink? (before.foldl perform s) = some log
      ∧ (before.foldl perform s).outcome op = .failed p := by
  induction ops generalizing s with
  | nil => simp [failures]
  | cons op ops ih =>
    unfold failures
    rw [List.mem_append, Option.mem_toList, ih]
    constructor
    · rintro (hentry | ⟨before, next, after, rfl, hcall⟩)
      · exact ⟨[], op, ops, rfl, entry?_eq_some_iff.mp hentry⟩
      · exact ⟨op :: before, next, after, rfl, hcall⟩
    · rintro ⟨before, next, after, heq, hcall⟩
      cases before with
      | nil =>
        obtain ⟨rfl, rfl⟩ := List.cons.inj heq
        exact Or.inl (entry?_eq_some_iff.mpr hcall)
      | cons first before =>
        obtain ⟨rfl, rfl⟩ := List.cons.inj heq
        exact Or.inr ⟨before, next, after, rfl, hcall⟩

theorem failures_ne_nil_iff {ops : List Operation} : s.failures log ops ≠ []
    ↔ ∃ before op after p, ops = before ++ op :: after
      ∧ op.sink? (before.foldl perform s) = some log
      ∧ (before.foldl perform s).outcome op = .failed p := by
  constructor
  · intro hne
    obtain ⟨p, hp⟩ := List.exists_mem_of_ne_nil _ hne
    obtain ⟨before, op, after, hcall⟩ := mem_failures_iff.mp hp
    exact ⟨before, op, after, p, hcall⟩
  · rintro ⟨before, op, after, p, hcall⟩
    exact List.ne_nil_of_mem (mem_failures_iff.mpr ⟨before, op, after, hcall⟩)

/-! ## Reachable documents -/

/-- What the log of a document tells. Its templates have the same log. A call that has the log for its
    failures adds one error if it fails, with the message of the problem that it gives back, and none if it
    succeeds. Of the other calls only those fail that declare without a document or make a line an instance,
    and they change nothing then. After any operations that do not write errors themselves, the errors are
    those from before and then those of the failed calls, in order; and there are any if there were any, or
    if a call failed. -/
structure LogsFailures (s : Store) (d : DocumentId) : Prop where
  templates : ∀ t ∈ (s.document d).templates ++ (s.document d).dynamicTemplates,
    (s.template t).log = (s.document d).log
  failed : ∀ op p, op.sink? s = some (s.document d).log → s.outcome op = .failed p →
    ∃ span, ((s.perform op).log (s.document d).log).errors
      = (s.log (s.document d).log).errors
        ++ [.locate (s.lineTable (s.log (s.document d).log).lineTable) span p.message ""]
  succeeded : ∀ op, op.sink? s = some (s.document d).log → (∀ p, s.outcome op ≠ .failed p) →
    ((s.perform op).log (s.document d).log).errors = (s.log (s.document d).log).errors
  unlogged : ∀ op p, op.sink? s = none → s.outcome op = .failed p → op.HasNoLog ∧ s.perform op = s
  afterwards : ∀ ops, s.Performs (Operation.LeavesErrors (s.document d).log) ops →
    ((ops.foldl perform s).document d).log = (s.document d).log
      ∧ (ops.foldl perform s).messages (s.document d).log
        = s.messages (s.document d).log
          ++ (s.failures (s.document d).log ops).map Problem.message
      ∧ (((ops.foldl perform s).log (s.document d).log).hasErrors = true
        ↔ (s.log (s.document d).log).hasErrors = true
          ∨ ∃ before op after p, ops = before ++ op :: after
            ∧ op.sink? (before.foldl perform s) = some (s.document d).log
            ∧ (before.foldl perform s).outcome op = .failed p)

/-- **Every failure of a call that has a log is found there afterwards, and nothing else is.** -/
theorem failures_logged (hrun : Run (fun _ _ => True) {} s) {d : DocumentId}
    (hd : d ∈ s.documents) : s.LogsFailures d := by
  have h := hrun.sound sound_empty
  have hdocument := h.documents d hd
  refine ⟨fun t ht => (hdocument.templates t ht).2, fun op p hsink hp => ?_, fun op hsink hp => ?_,
    fun op p hsink hp => silent_perform hsink hp, fun ops hops => ?_⟩
  · obtain ⟨hseverity, span, heq⟩ := (enters_perform hsink).failed p hp
    rw [heq]
    exact ⟨span, errors_report hdocument.log span hseverity ""⟩
  · exact (enters_perform hsink).succeeded hp _
  · have hlater : Run (Operation.LeavesErrors (s.document d).log) s (ops.foldl perform s) :=
      Run.refl.performs hops
    have hmessages := h.messages_foldl hops hdocument.log
    refine ⟨((hlater.grows h).documents d hd).2.log, hmessages, ?_⟩
    rw [hasErrors_iff, hasErrors_iff, hmessages, ← failures_ne_nil_iff, ne_eq,
      List.append_eq_nil_iff, List.map_eq_nil_iff, not_and_or]

/-- Four calls fail and a name is hidden. Of the failures, that of the call for a line is not in the log. -/
theorem failures_logged_four_calls : ∃ s : Store, Run (fun _ _ => True) {} s ∧ s.LogsFailures ⟨0⟩
    ∧ ∃ ops : List Operation, s.Performs (Operation.LeavesErrors (s.document ⟨0⟩).log) ops
      ∧ (ops.foldl perform s).messages (s.document ⟨0⟩).log
        = ["$Duplicate_definition_of T", "T $is_not_an_instance_line",
          "$No_channel_priority_to_extend_with "]
      ∧ ((ops.foldl perform s).log (s.document ⟨0⟩).log).warnings.length = 1 := by
  let start : List Operation :=
    [.openDocument none none, .addTemplate ⟨0⟩ "T" [] {} {}, .addInstanceLine ⟨0⟩ "L" {}]
  let ops : List Operation :=
    [.addVariable ⟨0⟩ ⟨0⟩ "int" "T" .empty {}, .addVariable ⟨0⟩ ⟨1⟩ "int" "T" .empty {},
      .addMessage ⟨0⟩ ⟨1⟩ ⟨0⟩ 2 true .empty, .bindLine ⟨0⟩ 0 ⟨0⟩ [] [.empty],
      .addLocation ⟨0⟩ "A" .empty .empty {}, .addChanPriority ⟨0⟩ "<" .empty]
  have hperforms : ({} : Store).Performs (fun _ _ => True) start := by decide
  have hrun : Run (fun _ _ => True) {} (start.foldl perform {}) := Run.refl.performs hperforms
  exact ⟨start.foldl perform {}, hrun, failures_logged hrun (by decide), ops, by decide +kernel,
    by decide +kernel, by decide +kernel⟩

/-- **The failure of a call that makes a line an instance is not logged.** With one argument too many for a
    template without parameters the call fails, and the log of the document has no error afterwards. -/
theorem failed_bindLine_not_logged : ∃ s : Store, Run (fun _ _ => True) {} s
    ∧ (s.log (s.document ⟨0⟩).log).hasErrors = false
    ∧ Operation.Admissible s (.bindLine ⟨0⟩ 0 ⟨0⟩ [] [.constant 0 (.boolean true) {}])
    ∧ s.outcome (.bindLine ⟨0⟩ 0 ⟨0⟩ [] [.constant 0 (.boolean true) {}])
      = .failed (ProblemKind.tooManyArguments.on "T")
    ∧ ((s.perform (.bindLine ⟨0⟩ 0 ⟨0⟩ [] [.constant 0 (.boolean true) {}])).log
        (s.document ⟨0⟩).log).hasErrors = false := by
  let ops : List Operation :=
    [.openDocument none none, .addTemplate ⟨0⟩ "T" [] {} {}, .addInstanceLine ⟨0⟩ "L" {}]
  have hperforms : ({} : Store).Performs (fun _ _ => True) ops := by decide
  exact ⟨ops.foldl perform {}, Run.refl.performs hperforms, by decide, by decide, by rfl, by decide⟩

end Store

end TimedNet
