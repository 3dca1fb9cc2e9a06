import TimedNet.Proofs.Failure.Alike
import TimedNet.Proofs.Failure.Entries

/-!
# `TimedNet.Proofs.Failure.Atomic` — a failed call is as if it had not been made

Every operation that can fail looks at all it needs before it writes anything. So what a failed one leaves
is the store as it was, with one log entry at most, and a program that goes on cannot tell it from a store
in which the call was not made, except by what is in the logs.

* `Store.Reported`: the store as it was, or with one more entry in a log.
* `reported_perform`: what a failed operation leaves.
* `failed_call_is_invisible`: that, and what can be told afterwards.
-/

namespace TimedNet

namespace Store

variable {s : Store}

/-- The store as it was, or with one more entry in a log. -/
inductive Reported (s : Store) : Store → Prop where
  | silently : Reported s s
  | entry (log : LogId) (span : Span) (p : Problem) : Reported s (s.report log span p "")

theorem Reported.alike {s' : Store} (h : s.Reported s') : s.Alike s' := by
  cases h with
  | silently => exact .refl s
  | entry log span p => exact alike_report s log span p ""

/-- **A failed operation writes nothing but a log entry.** -/
theorem reported_perform {op : Operation} {p : Problem} (h : s.outcome op = .failed p) :
    s.Reported (s.perform op) := by
  cases hsink : op.sink? s with
  | none =>
    rw [(silent_perform hsink h).2]
    exact .silently
  | some log =>
    obtain ⟨-, span, heq⟩ := (enters_perform hsink).failed p h
    rw [heq]
    exact .entry log span p

/-- **A failed call is as if it had not been made.** It leaves the store as it was, with one more log entry
    at most. Whatever a program does afterwards, the store is the same as without the call, apart from
    additional log entries; the same operations can be carried out, and each of them gives the same. -/
theorem failed_call_is_invisible {op : Operation} {p : Problem} (h : s.outcome op = .failed p) :
    s.Reported (s.perform op) ∧ ∀ later : List Operation,
      (later.foldl perform s).Alike (later.foldl perform (s.perform op))
        ∧ ∀ next : Operation,
          (next.Admissible (later.foldl perform (s.perform op))
              ↔ next.Admissible (later.foldl perform s))
            ∧ (later.foldl perform (s.perform op)).outcome next
              = (later.foldl perform s).outcome next := by
  have hreported := reported_perform h
  refine ⟨hreported, fun later => ?_⟩
  have halike := hreported.alike.run later
  exact ⟨halike, fun next => ⟨halike.admissible_iff next, (halike.step next).2⟩⟩

/-- A condition over a line and a symbol that stands for no line, which is noticed late. The chart has no
    prechart afterwards, and the next condition gets the first number, as it would have. -/
theorem failed_call_is_invisible_late_anchor : ∃ s : Store, Run (fun _ _ => True) {} s
    ∧ s.outcome (.addCondition ⟨0⟩ [⟨1⟩, ⟨0⟩] 4 true true .empty)
      = .failed (ProblemKind.notAnInstanceLine.on "T")
    ∧ s.Reported (s.perform (.addCondition ⟨0⟩ [⟨1⟩, ⟨0⟩] 4 true true .empty))
    ∧ ((s.perform (.addCondition ⟨0⟩ [⟨1⟩, ⟨0⟩] 4 true true .empty)).log ⟨0⟩).errors.length = 1
    ∧ ((s.perform (.addCondition ⟨0⟩ [⟨1⟩, ⟨0⟩] 4 true true .empty)).template ⟨0⟩).hasPrechart = false
    ∧ s.outcome (.addCondition ⟨0⟩ [⟨1⟩] 4 true true .empty) = .index 0
    ∧ (s.perform (.addCondition ⟨0⟩ [⟨1⟩, ⟨0⟩] 4 true true .empty)).outcome
        (.addCondition ⟨0⟩ [⟨1⟩] 4 true true .empty)
      = s.outcome (.addCondition ⟨0⟩ [⟨1⟩] 4 true true .empty) := by
  let ops : List Operation :=
    [.openDocument none none, .addTemplate ⟨0⟩ "T" [] {} {}, .addInstanceLine ⟨0⟩ "A" {}]
  have hperforms : ({} : Store).Performs (fun _ _ => True) ops := by decide
  have hfailed : (ops.foldl perform {}).outcome (.addCondition ⟨0⟩ [⟨1⟩, ⟨0⟩] 4 true true .empty)
      = .failed (ProblemKind.notAnInstanceLine.on "T") := by rfl
  have hinvisible := failed_call_is_invisible hfailed
  exact ⟨ops.foldl perform {}, Run.refl.performs hperforms, hfailed, hinvisible.1, by decide,
    by decide, by rfl, ((hinvisible.2 []).2 (.addCondition ⟨0⟩ [⟨1⟩] 4 true true .empty)).2⟩

end Store

end TimedNet
