import TimedNet.Proofs.Binding.Restriction
import TimedNet.Proofs.Run.Layout

/-!
# `TimedNet.Proofs.Run.Processes` — which instances can become processes

A process may leave parameters open, but none on which a restricted position of its template depends.
The store refuses a process by what is marked as restricted in its instance, which every step of
instantiation has computed from the one before. This module shows that the refusal is exact: it looks
through any number of intermediate instances.

* `Store.Instantiates`, `Store.Lineage`: the instances that are made from a template step by step.
* `Lineage.restricts`: what they restrict.
* `addProcess_cases`, `process_of_lineage`: which of them become processes.
-/

namespace TimedNet

open Relation

namespace Store

variable {s s' : Store}

/-! ## Instances made step by step -/

/-- A step of instantiation of `base` that succeeds with the instance `i`: a named instance, one that a
    chart refers to, or that of a line, which is bound anew. -/
inductive Instantiates (s : Store) (base : InstanceId) (parameters : List SymbolId)
    (arguments : List (Term SymbolId)) : Store → InstanceId → Prop where
  | named {d : DocumentId} {name : String} {span : Span} {s' : Store} {i : InstanceId}
      (h : s.addInstance d name base parameters arguments span = (s', .ok i)) :
      Instantiates s base parameters arguments s' i
  | inChart {d : DocumentId} {name : String} {span : Span} {s' : Store} {i : InstanceId}
      (h : s.addLscInstance d name base parameters arguments span = (s', .ok i)) :
      Instantiates s base parameters arguments s' i
  | line {s' : Store} {i : InstanceId} (hi : i ∈ s.insts)
      (h : s.bindLine i base parameters arguments = (s', .ok i)) :
      Instantiates s base parameters arguments s' i

theorem Instantiates.binding {base i : InstanceId} {parameters : List SymbolId}
    {arguments : List (Term SymbolId)} (h : s.Instantiates base parameters arguments s' i) :
    arguments.length ≤ (s.inst base).binding.unbound
      ∧ (s'.inst i).binding = (s.inst base).binding.extend parameters arguments := by
  cases h with
  | named h => exact binding_instantiate h
  | inChart h => exact binding_instantiate h
  | line hi h => exact binding_bindLine hi h

/-- The instances that come from the template `t` of the store `start` by successful steps of
    instantiation, with the stores in which they are. Between two steps anything may happen to the
    store, as long as the instance keeps its binding. -/
inductive Lineage (start : Store) (t : TemplateId) : Store → InstanceId → Prop where
  | template : Lineage start t start (start.template t).inst
  | later {s s' : Store} {i : InstanceId} (h : Lineage start t s i)
      (hsame : (s'.inst i).binding = (s.inst i).binding) : Lineage start t s' i
  | step {s s' : Store} {base i : InstanceId} {parameters : List SymbolId}
      {arguments : List (Term SymbolId)} (h : Lineage start t s base)
      (hfollows : (s.inst base).binding.Follows parameters arguments)
      (hmade : s.Instantiates base parameters arguments s' i) : Lineage start t s' i

/-- **Every instance of a lineage restricts what the template restricts, what this leads to, and nothing
    else.** -/
theorem Lineage.restricts {start : Store} {t : TemplateId} {i : InstanceId}
    (hmapping : (start.inst (start.template t).inst).binding.mapping = [])
    (hdistinct : (start.inst (start.template t).inst).binding.parameters.Nodup)
    (h : Lineage start t s i) :
    Binding.Restricts (start.inst (start.template t).inst).binding.restricted (s.inst i).binding := by
  induction h with
  | template => exact Binding.restricts_of_mapping hmapping hdistinct
  | later _ hsame ih =>
    rw [hsame]
    exact ih
  | step _ hfollows hmade ih =>
    rw [hmade.binding.2]
    exact ih.extend hfollows

/-! ## Processes -/

/-- **An instance becomes a process exactly when none of its open parameters is restricted**, and the
    process has its binding. -/
theorem addProcess_cases (s : Store) (d : DocumentId) (i : InstanceId) (span : Span) :
    ((∃ s' p, s.addProcess d i span = (s', .ok p))
      ↔ ∀ p ∈ (s.inst i).binding.unboundParameters, p ∉ (s.inst i).binding.restricted)
    ∧ ∀ s' p, s.addProcess d i span = (s', .ok p) → (s'.inst p).binding = (s.inst i).binding := by
  unfold addProcess
  dsimp only
  cases hfind : (s.inst i).binding.unboundParameters.find?
      fun p => (s.inst i).binding.restricted.contains p with
  | some p =>
    have hrestricted : p ∈ (s.inst i).binding.restricted := by simpa using List.find?_some hfind
    refine ⟨⟨?_, fun hfree => absurd hrestricted (hfree p (List.mem_of_find?_eq_some hfind))⟩, ?_⟩
    · rintro ⟨s', q, heq⟩
      exact absurd (congrArg Prod.snd heq) (by simp [reject])
    · intro s' q heq
      exact absurd (congrArg Prod.snd heq) (by simp [reject])
  | none =>
    refine ⟨⟨fun _ p hp => ?_, fun _ => ⟨_, _, rfl⟩⟩, ?_⟩
    · simpa using List.find?_eq_none.mp hfind p hp
    · intro s' q heq
      obtain ⟨rfl, hq⟩ := Prod.mk.inj heq
      obtain rfl := Except.ok.inj hq
      show ((s.insts.push { s.inst i with symbol := s.symbols.next }).get s.insts.next).binding = _
      rw [Table.get_push_next]

/-- **The refusal of processes is exact.** For a template with distinct parameters in a reachable store
    and an instance that comes from it by any number of steps: the instance becomes a process exactly
    when the symbols that the template restricted at the first step lead to none of its open
    parameters. No process that was made has an open parameter to which they lead. -/
theorem process_of_lineage {condition : Store → Operation → Prop} {start : Store}
    (hrun : Run condition {} start) {t : TemplateId} (ht : t ∈ start.templates)
    (hdistinct : (start.inst (start.template t).inst).binding.parameters.Nodup) {i : InstanceId}
    (h : Lineage start t s i) (d : DocumentId) (span : Span) :
    ((∃ s' p, s.addProcess d i span = (s', .ok p)) ↔
      ∀ q ∈ (s.inst i).binding.unboundParameters,
        ¬ ∃ r ∈ (start.inst (start.template t).inst).binding.restricted,
          ReflTransGen (s.inst i).binding.Leads r q)
    ∧ ∀ s' p, s.addProcess d i span = (s', .ok p) →
      ∀ q ∈ (s'.inst p).binding.unboundParameters,
        ¬ ∃ r ∈ (start.inst (start.template t).inst).binding.restricted,
          ReflTransGen (s'.inst p).binding.Leads r q := by
  -- Nothing is bound in the own instance of a template, whatever was done to it.
  have hrestricts := h.restricts ((hrun.sound sound_empty).own t ht).mapping hdistinct
  obtain ⟨hok, hbinding⟩ := s.addProcess_cases d i span
  have hiff : (∃ s' p, s.addProcess d i span = (s', .ok p)) ↔
      ∀ q ∈ (s.inst i).binding.unboundParameters,
        ¬ ∃ r ∈ (start.inst (start.template t).inst).binding.restricted,
          ReflTransGen (s.inst i).binding.Leads r q := by
    rw [hok]
    refine forall₂_congr fun q hq => not_congr ?_
    exact hrestricts.mem_restricted_iff (List.mem_of_mem_take hq)
  refine ⟨hiff, fun s' p hmade => ?_⟩
  rw [hbinding s' p hmade]
  exact hiff.mp ⟨s', p, hmade⟩

/-- A symbol that depends on nothing is restricted alone. -/
theorem restrict_of_dependencies {t : TemplateId} {r : SymbolId} (hnone : s.dependencies r = [])
    (hnew : r ∉ (s.inst (s.template t).inst).binding.restricted) :
    s.restrict t r = s.modifyInst (s.template t).inst fun i =>
      { i with binding := { i.binding with restricted := i.binding.restricted ++ [r] } } := by
  refine modifyInst_congr fun _ => ?_
  simp [restrictAll, hnone, hnew]

/-- The operations that make a template with two parameters, and the symbols of two more. -/
def twoParameters : List Operation :=
  let parameter : Symbol := { name := "p", type := "int", subject := .parameter }
  [.newSymbol parameter, .newSymbol parameter, .newSymbol parameter, .newSymbol parameter,
    .openDocument none none, .addTemplate ⟨0⟩ "T" [⟨0⟩, ⟨1⟩] {} {}]

/-- The store that they lead to, with the first parameter of the template restricted. -/
def firstRestricted : Store :=
  (twoParameters.foldl perform {}).modifyInst ⟨0⟩ fun i =>
    { i with binding := { i.binding with restricted := i.binding.restricted ++ [⟨0⟩] } }

theorem run_firstRestricted : Run (fun _ _ => True) {} firstRestricted := by
  have hperforms : ({} : Store).Performs (fun _ _ => True) twoParameters := by decide
  have hrun : Run (fun _ _ => True) {} ((twoParameters.foldl perform {}).restrict ⟨0⟩ ⟨0⟩) :=
    (Run.refl.performs hperforms).step (.restrict ⟨0⟩ ⟨0⟩) (by decide) trivial
  rw [restrict_of_dependencies (by decide) (by decide)] at hrun
  exact hrun

/-- The instance of the template that binds its first parameter to a new one. -/
def firstBound : Store :=
  (firstRestricted.addInstance ⟨0⟩ "I" ⟨0⟩ [⟨2⟩] [.identifier ⟨2⟩ {}] {}).1

/-- The further instance that binds this to another new one. -/
def secondBound : Store :=
  (firstBound.addInstance ⟨0⟩ "J" ⟨1⟩ [⟨3⟩] [.identifier ⟨3⟩ {}] {}).1

/-- The restricted parameter depends, through both instances, on the one that is left open: the second
    instance is refused as a process. -/
theorem process_of_lineage_refused :
    Run (fun _ _ => True) {} firstRestricted ∧ Lineage firstRestricted ⟨0⟩ secondBound ⟨2⟩
      ∧ (secondBound.inst ⟨2⟩).binding.unboundParameters = [⟨3⟩, ⟨1⟩]
      ∧ ¬ ∃ s' p, secondBound.addProcess ⟨0⟩ ⟨2⟩ {} = (s', .ok p) := by
  have hmade : firstRestricted.addInstance ⟨0⟩ "I" ⟨0⟩ [⟨2⟩] [.identifier ⟨2⟩ {}] {}
      = (firstBound, .ok ⟨1⟩) := Prod.ext rfl (by rfl)
  have htemplate : Lineage firstRestricted ⟨0⟩ firstRestricted ⟨0⟩ := .template
  have hfirst : Lineage firstRestricted ⟨0⟩ firstBound ⟨1⟩ :=
    .step htemplate ⟨by decide, by decide, by decide, by decide⟩ (.named hmade)
  have hfurther : firstBound.addInstance ⟨0⟩ "J" ⟨1⟩ [⟨3⟩] [.identifier ⟨3⟩ {}] {}
      = (secondBound, .ok ⟨2⟩) := Prod.ext rfl (by rfl)
  have hsecond : Lineage firstRestricted ⟨0⟩ secondBound ⟨2⟩ :=
    .step hfirst ⟨by decide, by decide, by decide, by decide⟩ (.named hfurther)
  have hway : ReflTransGen (secondBound.inst ⟨2⟩).binding.Leads ⟨0⟩ ⟨3⟩ :=
    .tail (b := ⟨2⟩) (.single ⟨.identifier ⟨2⟩ {}, rfl, by decide⟩) ⟨.identifier ⟨3⟩ {}, rfl, by decide⟩
  refine ⟨run_firstRestricted, hsecond, by decide, fun haccepted => ?_⟩
  have hexact :=
    (process_of_lineage run_firstRestricted (by decide) (by decide) hsecond ⟨0⟩ {}).1
  exact hexact.mp haccepted ⟨3⟩ (by decide) ⟨⟨0⟩, by decide, hway⟩

end Store

end TimedNet
