import Mathlib.Algebra.GroupWithZero.Nat
import TimedNet.Expression.Substitution
import TimedNet.Proofs.Binding.Layout

/-!
# `TimedNet.Proofs.Binding.Flattening` — one flat mapping for a chain of steps

A chain of partial instantiations ends in one flat mapping. Its arguments were given at different
steps and mention parameters that later steps bind, so the mapping has to be followed until no bound
parameter is left. This module shows that following it comes to an end and gives what the steps give
when they are carried out one after the other.

* `Chain`: the chains of successful steps from a binding with nothing bound.
* `Chain.wellLaidOut`, `Chain.mapping_eq`, `Chain.acyclic`: what a chain keeps.
* `Acyclic.wellFounded_replaces`: following an acyclic mapping comes to an end.
* `Chain.stepwise_argument`: the steps send a parameter where they send its argument.
* `Chain.flattening`: the four facts together.
-/

namespace TimedNet.Binding

open Term Relation

universe u

variable {σ : Type u}

/-! ## Acyclic mappings -/

/-- An argument mentions neither its own parameter nor one that stands earlier. -/
structure Acyclic (mapping : List (σ × Term σ)) : Prop where
  own : ∀ entry ∈ mapping, entry.1 ∉ entry.2.occurrences
  earlier : mapping.Pairwise fun entry later => entry.1 ∉ later.2.occurrences

theorem Acyclic.tail {entry : σ × Term σ} {mapping : List (σ × Term σ)}
    (h : Acyclic (entry :: mapping)) : Acyclic mapping :=
  ⟨fun e he => h.own e (List.mem_cons_of_mem _ he), (List.pairwise_cons.mp h.earlier).2⟩

section Weight

variable [BEq σ] [LawfulBEq σ]

/-- How many replacements a symbol takes: one for itself and those of the symbols its argument
    mentions, which stand later. -/
def weight : List (σ × Term σ) → σ → Nat
  | [], _ => 0
  | (p, a) :: mapping, s =>
    if p == s then 1 + (a.occurrences.map (weight mapping)).sum else weight mapping s

/-- In an acyclic mapping the weight of a parameter is one more than that of its argument. -/
theorem Acyclic.weight_eq {mapping : List (σ × Term σ)} (h : Acyclic mapping) {s : σ} {a : Term σ}
    (hs : Ordered.get? mapping s = some a) :
    weight mapping s = 1 + (a.occurrences.map (weight mapping)).sum := by
  induction mapping with
  | nil => exact absurd hs (by simp [Ordered.get?])
  | cons entry mapping ih =>
    obtain ⟨p, b⟩ := entry
    -- No argument of the mapping mentions the first parameter, so its entry adds no weight to them.
    have hskip : ∀ c : Term σ, p ∉ c.occurrences →
        c.occurrences.map (weight ((p, b) :: mapping)) = c.occurrences.map (weight mapping) := by
      intro c hc
      apply List.map_congr_left
      intro x hx
      rw [weight, if_neg]
      intro hpx
      exact hc (eq_of_beq hpx ▸ hx)
    rw [Ordered.get?_cons] at hs
    by_cases hp : (p == s) = true
    · rw [if_pos hp] at hs
      have hb : b = a := Option.some.inj hs
      rw [← hb, hskip b (h.own (p, b) List.mem_cons_self), weight, if_pos hp]
    · rw [if_neg hp] at hs
      have hmem : (s, a) ∈ mapping := Ordered.mem_of_get?_eq_some hs
      have hpa : p ∉ a.occurrences := (List.pairwise_cons.mp h.earlier).1 (s, a) hmem
      rw [hskip a hpa, weight, if_neg hp]
      exact ih h.tail hs

/-- **Following an acyclic mapping comes to an end**, in whatever order symbols are replaced: every
    replacement takes one from the sum of the weights. -/
theorem Acyclic.wellFounded_replaces {mapping : List (σ × Term σ)} (h : Acyclic mapping) :
    WellFounded fun u t : Term σ => Replaces (Ordered.get? mapping) t u := by
  let measure (t : Term σ) : Nat := (t.occurrences.map (weight mapping)).sum
  have hlower : ∀ u t : Term σ, Replaces (Ordered.get? mapping) t u → measure u < measure t := by
    intro u t hstep
    obtain ⟨s, a, before, after, hs, ht, hu⟩ := hstep.occurrences_eq
    show (u.occurrences.map (weight mapping)).sum < (t.occurrences.map (weight mapping)).sum
    rw [ht, hu]
    simp only [List.map_append, List.map_cons, List.sum_append, List.sum_cons]
    rw [h.weight_eq hs]
    omega
  exact Subrelation.wf (fun {u t} => hlower u t) (InvImage.wf measure Nat.lt_wfRel.wf)

/-- A parameter that an argument mentions stands later than the parameter of the argument. -/
theorem Acyclic.idxOf_lt {mapping : List (σ × Term σ)} (h : Acyclic mapping) {p : σ} {a : Term σ}
    (hp : (p, a) ∈ mapping) {s : σ} (hs : s ∈ a.occurrences) :
    (mapping.map Prod.fst).idxOf p < (mapping.map Prod.fst).idxOf s := by
  induction mapping with
  | nil => exact absurd hp (by simp)
  | cons entry mapping ih =>
    have hfirst : ¬ (entry.1 == s) = true := by
      intro he
      rw [← eq_of_beq he] at hs
      rcases List.mem_cons.mp hp with rfl | htail
      · exact h.own _ List.mem_cons_self hs
      · exact (List.pairwise_cons.mp h.earlier).1 _ htail hs
    rw [List.map_cons, List.idxOf_cons, List.idxOf_cons, cond_eq_ite, cond_eq_ite, if_neg hfirst]
    by_cases hpe : (entry.1 == p) = true
    · rw [if_pos hpe]
      exact Nat.succ_pos _
    · rw [if_neg hpe]
      have htail : (p, a) ∈ mapping := by
        rcases List.mem_cons.mp hp with rfl | htail
        · exact absurd (beq_self_eq_true p) hpe
        · exact htail
      exact Nat.succ_lt_succ (ih h.tail htail)

end Weight

/-! ## Chains -/

section Chain

variable [BEq σ]

/-- The bindings reached from open parameters by successful steps, with what each step bound. A step
    opens distinct symbols that are no parameters yet and that no argument given earlier mentions; its
    arguments mention only parameters that are open after it. -/
inductive Chain (start : List σ) : List (List (σ × Term σ)) → Binding σ → Prop where
  | start : Chain start [] (ofParameters start)
  | step {steps : List (List (σ × Term σ))} {base b : Binding σ} {params : List σ}
      {args : List (Term σ)} (h : Chain start steps base) (hbind : base.bind? params args = some b)
      (hdistinct : params.Nodup) (hnew : ∀ p ∈ params, p ∉ base.parameters)
      (hunused : ∀ p ∈ params, ∀ entry ∈ base.mapping, p ∉ entry.2.occurrences)
      (hmention : ∀ a ∈ args, ∀ s ∈ a.occurrences, s ∈ b.parameters → s ∈ b.unboundParameters) :
      Chain start (steps ++ [base.assignments args]) b

/-- The term after the steps of a chain, one after the other. -/
def stepwise (steps : List (List (σ × Term σ))) (t : Term σ) : Term σ :=
  t.substEach (steps.map Ordered.get?)

variable [LawfulBEq σ] {start : List σ} {steps : List (List (σ × Term σ))} {b : Binding σ}

/-- Every binding of a chain is well laid out. -/
theorem Chain.wellLaidOut (hstart : start.Nodup) (h : Chain start steps b) : b.WellLaidOut := by
  induction h with
  | start => exact wellLaidOut_ofParameters hstart
  | step _ hbind hdistinct hnew _ _ ih =>
    obtain ⟨hargs, rfl⟩ := eq_extend_of_bind? hbind
    exact wellLaidOut_extend ih hargs hdistinct hnew

/-- The flat mapping is what the steps bound, in their order. -/
theorem Chain.mapping_eq (hstart : start.Nodup) (h : Chain start steps b) :
    b.mapping = steps.flatten := by
  induction h with
  | start => rfl
  | @step steps base b params args hbase hbind _ _ _ _ ih =>
    obtain ⟨hargs, rfl⟩ := eq_extend_of_bind? hbind
    rw [(hbase.wellLaidOut hstart).mapping_extend params args, ih, List.flatten_append,
      List.flatten_singleton]

omit [LawfulBEq σ] in
/-- No argument of a step mentions a parameter that is bound after it. -/
theorem Chain.not_mem_occurrences {base : Binding σ} {params : List σ} {args : List (Term σ)}
    (hafter : (base.extend params args).WellLaidOut)
    (hmention : ∀ a ∈ args, ∀ s ∈ a.occurrences, s ∈ (base.extend params args).parameters →
      s ∈ (base.extend params args).unboundParameters)
    {a : Term σ} (ha : a ∈ args) {s : σ}
    (hs : s ∈ (base.extend params args).boundParameters) : s ∉ a.occurrences := by
  intro hmem
  have hparameter : s ∈ (base.extend params args).parameters := List.mem_of_mem_drop hs
  exact hafter.placed.not_mem_bound (hmention a ha s hmem hparameter) hs

/-- **A bound parameter that an argument of a chain mentions stands later than its parameter.** -/
theorem Chain.acyclic (hstart : start.Nodup) (h : Chain start steps b) : Acyclic b.mapping := by
  induction h with
  | start => exact ⟨by intro entry hentry; exact absurd hentry (by simp [ofParameters]), .nil⟩
  | @step steps base b params args hbase hbind hdistinct hnew hunused hmention ih =>
    have hlaid := hbase.wellLaidOut hstart
    have hafter := (hbase.step hbind hdistinct hnew hunused hmention).wellLaidOut hstart
    obtain ⟨hargs, rfl⟩ := eq_extend_of_bind? hbind
    -- A parameter that is bound after the step does not occur in its arguments.
    have hbound : ∀ entry ∈ (base.extend params args).mapping, ∀ later ∈ base.assignments args,
        entry.1 ∉ later.2.occurrences := by
      intro entry hentry later hlater
      refine Chain.not_mem_occurrences hafter hmention (argument_mem_of_mem_assignments hlater) ?_
      rw [hafter.bound]
      exact List.mem_map_of_mem hentry
    have hmapping := hlaid.mapping_extend params args
    rw [hmapping] at hbound ⊢
    constructor
    · intro entry hentry
      rcases List.mem_append.mp hentry with hold | hadded
      · exact ih.own entry hold
      · exact hbound entry hentry entry hadded
    · rw [List.pairwise_append]
      refine ⟨ih.earlier, ?_, ?_⟩
      · apply List.pairwise_of_forall_mem_list
        intro entry hentry later hlater
        exact hbound entry (List.mem_append_right _ hentry) later hlater
      · intro entry hentry later hlater
        exact hbound entry (List.mem_append_left _ hentry) later hlater

/-- The arguments of an entry of the flat mapping, looked up. -/
theorem Chain.argument?_eq_some_iff (hstart : start.Nodup) (h : Chain start steps b) {p : σ}
    {a : Term σ} : b.argument? p = some a ↔ (p, a) ∈ b.mapping :=
  (h.wellLaidOut hstart).argument?_eq_some_iff

/-- No step has an argument for a symbol that is not bound. -/
theorem Chain.get?_eq_none (hstart : start.Nodup) (h : Chain start steps b) {s : σ}
    (hs : s ∉ b.boundParameters) :
    ∀ argument ∈ steps.map Ordered.get?, argument s = none := by
  intro argument hargument
  obtain ⟨entries, hentries, rfl⟩ := List.mem_map.mp hargument
  rw [Ordered.get?_eq_none_iff]
  intro hkey
  obtain ⟨entry, hentry, rfl⟩ := List.mem_map.mp hkey
  apply hs
  rw [(h.wellLaidOut hstart).bound, h.mapping_eq hstart]
  exact List.mem_map_of_mem (List.mem_flatten.mpr ⟨entries, hentries, hentry⟩)

/-- The steps of a chain leave a term alone that mentions nothing bound. -/
theorem Chain.stepwise_eq_self (hstart : start.Nodup) (h : Chain start steps b) {t : Term σ}
    (ht : ∀ s ∈ t.occurrences, s ∉ b.boundParameters) : stepwise steps t = t := by
  apply substEach_eq_self
  intro argument hargument s hs
  exact h.get?_eq_none hstart (ht s hs) argument hargument

/-- A step sends a parameter that it binds to its argument. -/
theorem Placed.get?_assignments {base : Binding σ} (h : base.Placed) {args : List (Term σ)} {p : σ}
    {a : Term σ} (hp : (p, a) ∈ base.assignments args) :
    Ordered.get? (base.assignments args) p = some a := by
  rw [Ordered.get?_eq_some_iff]
  · exact hp
  · rw [keys_assignments]
    exact h.nodup_fresh args

/-- **The steps, carried out one after the other, send a bound parameter where they send its
    argument.** -/
theorem Chain.stepwise_argument (hstart : start.Nodup) (h : Chain start steps b) :
    ∀ p a span, b.argument? p = some a →
      stepwise steps (.identifier p span) = stepwise steps a := by
  induction h with
  | start => intro p a span ha; exact absurd ha (by simp [argument?, ofParameters, Ordered.get?])
  | @step steps base b params args hbase hbind hdistinct hnew hunused hmention ih =>
    intro p a span ha
    have hlaid := hbase.wellLaidOut hstart
    have hchain := hbase.step hbind hdistinct hnew hunused hmention
    have hafter := hchain.wellLaidOut hstart
    rw [hchain.argument?_eq_some_iff hstart] at ha
    obtain ⟨hargs, rfl⟩ := eq_extend_of_bind? hbind
    rw [hlaid.mapping_extend params args] at ha
    rcases List.mem_append.mp ha with hold | hadded
    · -- An entry of an earlier step: the earlier steps have made the two equal already.
      have hequal := ih p a span ((hbase.argument?_eq_some_iff hstart).mpr hold)
      show substEach _ _ = substEach _ _
      rw [List.map_append, substEach_append, substEach_append]
      exact congrArg _ hequal
    · -- An entry of this step: the earlier steps do not touch the parameter, and no step touches the
      -- argument, which mentions nothing that is bound.
      have hargument : stepwise (steps ++ [base.assignments args]) a = a :=
        hchain.stepwise_eq_self hstart fun s hs hbound =>
          Chain.not_mem_occurrences hafter hmention (argument_mem_of_mem_assignments hadded) hbound hs
      have hearlier : stepwise steps (.identifier p span) = .identifier p span := by
        refine hbase.stepwise_eq_self hstart fun s hs => ?_
        obtain rfl : s = p := by simpa [occurrences] using hs
        exact hlaid.placed.not_mem_bound (List.mem_of_mem_take (key_mem_of_mem_assignments hadded))
      rw [hargument]
      show substEach _ _ = _
      rw [List.map_append, substEach_append]
      show (substEach [Ordered.get? (base.assignments args)] (stepwise steps _)) = a
      rw [hearlier]
      show subst _ _ = a
      rw [subst, hlaid.placed.get?_assignments hadded]
      rfl

/-- Nothing that is left after the mapping was followed to the end is a bound parameter. -/
theorem WellLaidOut.not_mem_bound_of_resolved (hlaid : b.WellLaidOut) {t : Term σ}
    (ht : Resolved b.argument? t) {s : σ} (hs : s ∈ t.occurrences) : s ∉ b.boundParameters := by
  rw [hlaid.bound, ← Ordered.get?_eq_none_iff]
  exact ht s hs

/-- **A chain of partial instantiations keeps its meaning in one flat mapping.** For the parameters of
    the start, following the mapping comes to an end whatever is replaced first, since a bound
    parameter that an argument mentions stands later among the bound parameters; the result is what
    the steps give one after the other; and the parameters it mentions are open. -/
theorem Chain.flattening (hstart : start.Nodup) (h : Chain start steps b) :
    (∀ p a, b.argument? p = some a → ∀ s ∈ a.occurrences, s ∈ b.boundParameters →
      b.boundParameters.idxOf p < b.boundParameters.idxOf s)
    ∧ (WellFounded fun u t : Term σ => Replaces b.argument? t u)
    ∧ ∀ p ∈ start, ∀ span,
        (∃ u, ReflTransGen (Replaces b.argument?) (.identifier p span) u
          ∧ Resolved b.argument? u)
        ∧ (∀ u, ReflTransGen (Replaces b.argument?) (.identifier p span) u →
          Resolved b.argument? u → u = stepwise steps (.identifier p span))
        ∧ (∀ s ∈ (stepwise steps (.identifier p span)).occurrences,
          s ∈ b.parameters → s ∈ b.unboundParameters)
        ∧ (b.isClosed → ∀ s ∈ (stepwise steps (.identifier p span)).occurrences,
          s ∉ b.parameters) := by
  have hlaid := h.wellLaidOut hstart
  have hacyclic := h.acyclic hstart
  have hwf : WellFounded fun u t : Term σ => Replaces b.argument? t u :=
    hacyclic.wellFounded_replaces
  -- Every way to the end leads to the term that the steps give.
  have hresult : ∀ p span u, ReflTransGen (Replaces b.argument?) (.identifier p span) u →
      Resolved b.argument? u → u = stepwise steps (.identifier p span) := by
    intro p span u hway hu
    have hsame : stepwise steps (.identifier p span) = stepwise steps u :=
      substEach_eq_of_reflTransGen (h.stepwise_argument hstart) hway
    have hdone : stepwise steps u = u :=
      h.stepwise_eq_self hstart fun s hs => hlaid.not_mem_bound_of_resolved hu hs
    rw [hsame, hdone]
  have hresolved : ∀ p span, Resolved b.argument? (stepwise steps (.identifier p span)) := by
    intro p span
    obtain ⟨u, hway, hu⟩ := exists_resolved hwf (.identifier p span)
    rw [← hresult p span u hway hu]
    exact hu
  have hopen : ∀ p span, ∀ s ∈ (stepwise steps (.identifier p span)).occurrences,
      s ∈ b.parameters → s ∈ b.unboundParameters := by
    intro p span s hs hparameter
    rw [← unbound_append_bound, List.mem_append] at hparameter
    rcases hparameter with hunbound | hbound
    · exact hunbound
    · exact absurd hbound (hlaid.not_mem_bound_of_resolved (hresolved p span) hs)
  refine ⟨?_, hwf, fun p _ span =>
    ⟨exists_resolved hwf _, hresult p span, hopen p span, ?_⟩⟩
  · intro p a ha s hs _
    rw [hlaid.bound]
    exact hacyclic.idxOf_lt (Ordered.mem_of_get?_eq_some ha) hs
  · intro hclosed s hs hparameter
    have hnone : b.unboundParameters = [] := by
      rw [unboundParameters, eq_of_beq (show (b.unbound == 0) = true from hclosed), List.take_zero]
    have hmem := hopen p span s hs hparameter
    rw [hnone] at hmem
    exact absurd hmem List.not_mem_nil

end Chain

/-- The first of two parameters is bound to a sum of the second one and a new one; then both get a
    symbol that is no parameter. However the sum is resolved, it is the sum of these symbols. -/
theorem flattening_two_steps :
    ∃ (steps : List (List (Nat × Term Nat))) (b : Binding Nat),
      [0, 1].Nodup ∧ Chain [0, 1] steps b ∧ b.isClosed
      ∧ stepwise steps (.identifier 0 {}) = .compound "+" [.identifier 7 {}, .identifier 8 {}] {}
      ∧ ∀ u, ReflTransGen (Replaces b.argument?) (.identifier 0 {}) u → Resolved b.argument? u →
        u = .compound "+" [.identifier 7 {}, .identifier 8 {}] {} := by
  let sum : Term Nat := .compound "+" [.identifier 2 {}, .identifier 1 {}] {}
  let first := (ofParameters [0, 1]).extend [2] [sum]
  let second := first.extend [] [.identifier 7 {}, .identifier 8 {}]
  have hfirst : Chain [0, 1] [[(0, sum)]] first := by
    have hbind : (ofParameters [0, 1]).bind? [2] [sum] = some first := rfl
    refine .step .start hbind (by decide) (by decide) ?_ ?_
    · intro p _ entry hentry
      exact absurd hentry (by simp [ofParameters])
    · decide
  have hsecond : Chain [0, 1] [[(0, sum)], [(2, .identifier 7 {}), (1, .identifier 8 {})]]
      second := by
    have hbind : first.bind? [] [.identifier 7 {}, .identifier 8 {}] = some second := rfl
    refine .step hfirst hbind (by decide) (by decide) ?_ ?_
    · intro p hp
      exact absurd hp List.not_mem_nil
    · decide
  refine ⟨_, second, by decide, hsecond, rfl, rfl, ?_⟩
  intro u hway hu
  exact (Chain.flattening (by decide) hsecond).2.2 0 (by decide) {} |>.2.1 u hway hu

end TimedNet.Binding
