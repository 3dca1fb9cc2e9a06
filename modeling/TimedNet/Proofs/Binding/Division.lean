import TimedNet.Proofs.Binding.Restriction

/-!
# `TimedNet.Proofs.Binding.Division` — arguments given at once or in several steps

Every step lays the parameters out again and decides anew which of them are its own. Giving the same
arguments in several steps leads to the same layout all the same. What is restricted depends on the
own parameters, of which an earlier step still has more: it may restrict more than one step would, and
it restricts the same when the earlier arguments stay clear of what is opened and bound later.

* `SameLayout`: everything but the restricted symbols is equal.
* `WellLaidOut.bind?_append_isSome_iff`, `WellLaidOut.reproduces_append`: two steps.
* `bindInSteps?`, `Clear`: any number of steps.
* `bind_in_steps`: the comparison of the two ways.
-/

namespace TimedNet.Binding

universe u

variable {σ : Type u}

/-- Everything but the restricted symbols is equal, down to the order of parameters and arguments. -/
structure SameLayout (b c : Binding σ) : Prop where
  parameters : b.parameters = c.parameters
  mapping : b.mapping = c.mapping
  unbound : b.unbound = c.unbound
  argumentCount : b.argumentCount = c.argumentCount

/-- How a binding reached in steps compares with the one reached at once: the layout is the same, what
    is restricted is the same when the arguments are clear, and it is at least as much when no
    parameter is opened. -/
structure Reproduces (params : List σ) (clear : Prop) (stepwise once : Binding σ) : Prop where
  layout : stepwise.SameLayout once
  restricted : clear → stepwise.restricted = once.restricted
  atLeast : params = [] → ∀ s ∈ once.restricted, s ∈ stepwise.restricted

theorem Reproduces.refl (params : List σ) (clear : Prop) (b : Binding σ) :
    Reproduces params clear b b :=
  ⟨⟨rfl, rfl, rfl, rfl⟩, fun _ => rfl, fun _ _ hs => hs⟩

theorem Reproduces.trans {params : List σ} {clear clear' : Prop} {b c d : Binding σ}
    (h : Reproduces params clear b c) (h' : Reproduces params clear' c d) :
    Reproduces params (clear' ∧ clear) b d where
  layout :=
    { parameters := h.layout.parameters.trans h'.layout.parameters
      mapping := h.layout.mapping.trans h'.layout.mapping
      unbound := h.layout.unbound.trans h'.layout.unbound
      argumentCount := h.layout.argumentCount.trans h'.layout.argumentCount }
  restricted := fun hclear => (h.restricted hclear.2).trans (h'.restricted hclear.1)
  atLeast := fun hnone s hs => h.atLeast hnone s (h'.atLeast hnone s hs)

/-! ## Two steps -/

variable [BEq σ]

theorem remaining_append (base : Binding σ) (xs ys : List (Term σ)) :
    base.remaining (xs ++ ys) = (base.extend [] xs).remaining ys := by
  rw [remaining, remaining, unboundParameters_extend, remaining, List.nil_append, List.drop_drop,
    List.length_append]

theorem fresh_append (base : Binding σ) (xs ys : List (Term σ)) :
    base.fresh (xs ++ ys) = base.fresh xs ++ (base.extend [] xs).fresh ys := by
  rw [fresh, fresh, fresh, unboundParameters_extend, remaining, List.nil_append, List.length_append,
    List.take_add]

theorem WellLaidOut.assignments_append {base : Binding σ} (h : base.WellLaidOut)
    {xs ys : List (Term σ)} (hxs : xs.length ≤ base.unbound) :
    base.assignments (xs ++ ys) = base.assignments xs ++ (base.extend [] xs).assignments ys := by
  rw [assignments, fresh_append, List.zip_append (h.length_fresh hxs)]
  rfl

theorem WellLaidOut.bind?_append_isSome_iff {base : Binding σ} (h : base.WellLaidOut)
    (params : List σ) (xs ys : List (Term σ)) :
    (base.bind? params (xs ++ ys)).isSome
      ↔ ∃ b, base.bind? [] xs = some b ∧ (b.bind? params ys).isSome := by
  rw [bind?_isSome_iff, List.length_append]
  constructor
  · intro hargs
    refine ⟨base.extend [] xs, if_pos (by omega), ?_⟩
    rw [bind?_isSome_iff, h.unbound_extend_eq]
    simp only [List.length_nil]
    omega
  · rintro ⟨b, hb, hys⟩
    obtain ⟨hxs, rfl⟩ := eq_extend_of_bind? hb
    rw [bind?_isSome_iff, h.unbound_extend_eq] at hys
    simp only [List.length_nil] at hys
    omega

variable [LawfulBEq σ]

/-- **Two steps lead to the layout of one step with all their arguments.** -/
theorem WellLaidOut.sameLayout_extend {base : Binding σ} (h : base.WellLaidOut) (params : List σ)
    {xs ys : List (Term σ)} (hargs : (xs ++ ys).length ≤ base.unbound) :
    ((base.extend [] xs).extend params ys).SameLayout (base.extend params (xs ++ ys)) := by
  rw [List.length_append] at hargs
  have hxs : xs.length ≤ base.unbound := by omega
  have hfirst := wellLaidOut_extend h hxs List.nodup_nil (by simp)
  refine ⟨?_, ?_, ?_, ?_⟩
  · rw [parameters_extend, parameters_extend, remaining_append, fresh_append, boundParameters_extend]
    simp only [List.append_assoc]
  · rw [hfirst.mapping_extend, h.mapping_extend, h.mapping_extend, h.assignments_append hxs,
      List.append_assoc]
  · rw [unbound_extend, unbound_extend, remaining_append]
  · show base.argumentCount + xs.length + ys.length = base.argumentCount + (xs ++ ys).length
    rw [List.length_append, Nat.add_assoc]

/-- **One step with the arguments of two restricts the same**, when no argument of the first step
    mentions a parameter that the second one opens or binds. -/
theorem WellLaidOut.restricted_extend_append {base : Binding σ} (h : base.WellLaidOut)
    {params : List σ} {xs ys : List (Term σ)} (hxs : xs.length ≤ base.unbound)
    (hclear : ∀ a ∈ xs, ∀ s ∈ a.occurrences,
      s ∉ params ∧ s ∉ (base.extend [] xs).fresh ys) :
    ((base.extend [] xs).extend params ys).restricted
      = (base.extend params (xs ++ ys)).restricted := by
  have hremaining : (base.extend [] xs).fresh ys ++ (base.extend [] xs).remaining ys
      = base.remaining xs := by
    rw [fresh, remaining, List.take_append_drop, unboundParameters_extend, List.nil_append]
  -- For the arguments of the first step it makes no difference what the own parameters are.
  have hown : (base.extend [] xs).restricted
      = passOn (params ++ base.remaining (xs ++ ys)) base.restricted
          ((base.assignments xs).filter fun entry => base.restricted.contains entry.1) := by
    rw [restricted_extend]
    refine passOn_congr fun entry hentry => exists_congr fun o => and_congr_right fun ho => ?_
    have hentry := argument_mem_of_mem_assignments (List.mem_of_mem_filter hentry)
    have hnot := hclear entry.2 hentry o ho
    rw [List.nil_append, ← hremaining, remaining_append]
    simp only [List.mem_append, hnot.1, hnot.2, false_or]
  -- And the first step restricts nothing that the second one binds.
  have hkeys : ((base.extend [] xs).assignments ys).filter
        (fun entry => (base.extend [] xs).restricted.contains entry.1)
      = ((base.extend [] xs).assignments ys).filter
          fun entry => base.restricted.contains entry.1 := by
    refine List.filter_congr fun entry hentry => ?_
    rw [Bool.eq_iff_iff, List.contains_iff_mem, List.contains_iff_mem, mem_restricted_extend,
      or_iff_left]
    rintro ⟨earlier, hearlier, _, _, hmention⟩
    exact (hclear _ (argument_mem_of_mem_assignments hearlier) _ hmention).2
      (key_mem_of_mem_assignments hentry)
  rw [restricted_extend (base.extend [] xs), restricted_extend base params, h.assignments_append hxs,
    List.filter_append, passOn_append, hkeys, hown, remaining_append]

/-- Two steps that open nothing restrict at least what one step restricts: what is an own parameter of
    the one step is one of the first step too. -/
theorem WellLaidOut.mem_restricted_of_append {base : Binding σ} (h : base.WellLaidOut)
    {xs ys : List (Term σ)} (hxs : xs.length ≤ base.unbound) {s : σ}
    (hs : s ∈ (base.extend [] (xs ++ ys)).restricted) :
    s ∈ ((base.extend [] xs).extend [] ys).restricted := by
  have hkeep : ∀ r ∈ base.restricted, r ∈ (base.extend [] xs).restricted :=
    fun r hr => mem_restricted_extend.mpr (Or.inl hr)
  have hopen : (base.extend [] (xs ++ ys)).unboundParameters
      = ((base.extend [] xs).extend [] ys).unboundParameters := by
    rw [unboundParameters_extend, unboundParameters_extend, remaining_append]
  rcases mem_restricted_extend.mp hs with hold | ⟨entry, hentry, hkey, ⟨o, ho, hown⟩, hmention⟩
  · exact mem_restricted_extend.mpr (Or.inl (hkeep s hold))
  · rw [h.assignments_append hxs, List.mem_append] at hentry
    rw [hopen] at hown
    rcases hentry with hfirst | hsecond
    · refine mem_restricted_extend.mpr (Or.inl (mem_restricted_extend.mpr (Or.inr ?_)))
      refine ⟨entry, hfirst, hkey, ⟨o, ho, ?_⟩, hmention⟩
      rw [unboundParameters_extend] at hown
      exact List.mem_of_mem_drop hown
    · exact mem_restricted_extend.mpr
        (Or.inr ⟨entry, hsecond, hkeep _ hkey, ⟨o, ho, hown⟩, hmention⟩)

/-! ## Any number of steps -/

/-- The arguments are given in several steps, the last of which opens the new parameters. -/
def bindInSteps? (params : List σ) (last : List (Term σ)) :
    Binding σ → List (List (Term σ)) → Option (Binding σ)
  | base, [] => base.bind? params last
  | base, part :: parts => (base.bind? [] part).bind fun b => bindInSteps? params last b parts

/-- No argument of a step mentions what is opened at the end or what a later step binds. -/
def Clear (params : List σ) (last : List (Term σ)) : Binding σ → List (List (Term σ)) → Prop
  | _, [] => True
  | base, part :: parts =>
    (∀ a ∈ part, ∀ s ∈ a.occurrences,
      s ∉ params ∧ s ∉ (base.extend [] part).fresh (parts.flatten ++ last))
    ∧ Clear params last (base.extend [] part) parts

/-- Two steps reproduce the one step with all their arguments. -/
theorem WellLaidOut.reproduces_append {base b once twice : Binding σ} (h : base.WellLaidOut)
    {params : List σ} {xs ys : List (Term σ)} (hb : base.bind? [] xs = some b)
    (htwice : b.bind? params ys = some twice) (honce : base.bind? params (xs ++ ys) = some once) :
    Reproduces params (∀ a ∈ xs, ∀ s ∈ a.occurrences, s ∉ params ∧ s ∉ b.fresh ys) twice once := by
  obtain ⟨hxs, rfl⟩ := eq_extend_of_bind? hb
  obtain ⟨_, rfl⟩ := eq_extend_of_bind? htwice
  obtain ⟨hargs, rfl⟩ := eq_extend_of_bind? honce
  refine ⟨h.sameLayout_extend params hargs, h.restricted_extend_append hxs, ?_⟩
  rintro rfl s hs
  exact h.mem_restricted_of_append hxs hs

theorem WellLaidOut.bindInSteps?_isSome_iff {base : Binding σ} (h : base.WellLaidOut)
    (params : List σ) (parts : List (List (Term σ))) (last : List (Term σ)) :
    (bindInSteps? params last base parts).isSome
      ↔ (base.bind? params (parts.flatten ++ last)).isSome := by
  induction parts generalizing base with
  | nil => rfl
  | cons part parts ih =>
    rw [List.flatten_cons, List.append_assoc, h.bind?_append_isSome_iff, bindInSteps?,
      Option.isSome_bind]
    cases hb : base.bind? [] part with
    | none => simp
    | some b =>
      obtain ⟨hpart, rfl⟩ := eq_extend_of_bind? hb
      have hfirst := wellLaidOut_extend h hpart List.nodup_nil (by simp)
      simp [ih hfirst]

/-- **Giving the arguments in steps reproduces giving them at once.** By induction on the steps: the
    first one and all the others make two. -/
theorem WellLaidOut.reproduces_bindInSteps {base once stepwise : Binding σ} (h : base.WellLaidOut)
    {params : List σ} {parts : List (List (Term σ))} {last : List (Term σ)}
    (hstepwise : bindInSteps? params last base parts = some stepwise)
    (honce : base.bind? params (parts.flatten ++ last) = some once) :
    Reproduces params (Clear params last base parts) stepwise once := by
  induction parts generalizing base once with
  | nil =>
    obtain rfl : stepwise = once := Option.some.inj (hstepwise.symm.trans honce)
    exact .refl ..
  | cons part parts ih =>
    obtain ⟨b, hb, hrest⟩ := Option.bind_eq_some_iff.mp hstepwise
    obtain ⟨hpart, rfl⟩ := eq_extend_of_bind? hb
    have hfirst := wellLaidOut_extend h hpart List.nodup_nil (by simp)
    rw [List.flatten_cons, List.append_assoc] at honce
    have hsome := (hfirst.bindInSteps?_isSome_iff params parts last).mp (by rw [hrest]; rfl)
    obtain ⟨twice, htwice⟩ := Option.isSome_iff_exists.mp hsome
    exact (ih hfirst hrest htwice).trans (h.reproduces_append hb htwice honce)

/-- **Arguments given in steps and at once.** Two steps succeed exactly when one step with all their
    arguments does, and reproduce it: the layout is the same; what is restricted is the same when no
    argument of the first step mentions a parameter that the second one opens or binds, and includes
    what the one step restricts when nothing is opened. The same holds for every division of the
    arguments into consecutive steps. -/
theorem bind_in_steps {base : Binding σ} (h : base.WellLaidOut) (params : List σ) :
    (∀ xs ys : List (Term σ),
      ((base.bind? params (xs ++ ys)).isSome
        ↔ ∃ b, base.bind? [] xs = some b ∧ (b.bind? params ys).isSome)
      ∧ ∀ b once twice, base.bind? [] xs = some b → b.bind? params ys = some twice →
        base.bind? params (xs ++ ys) = some once →
        Reproduces params (∀ a ∈ xs, ∀ s ∈ a.occurrences, s ∉ params ∧ s ∉ b.fresh ys) twice once)
    ∧ ∀ (parts : List (List (Term σ))) (last : List (Term σ)),
      ((base.bind? params (parts.flatten ++ last)).isSome
        ↔ (bindInSteps? params last base parts).isSome)
      ∧ ∀ once stepwise, bindInSteps? params last base parts = some stepwise →
        base.bind? params (parts.flatten ++ last) = some once →
        Reproduces params (Clear params last base parts) stepwise once := by
  refine ⟨fun xs ys => ⟨h.bind?_append_isSome_iff params xs ys, ?_⟩,
    fun parts last => ⟨(h.bindInSteps?_isSome_iff params parts last).symm, ?_⟩⟩
  · intro b once twice hb htwice honce
    exact h.reproduces_append hb htwice honce
  · intro once stepwise hstepwise honce
    exact h.reproduces_bindInSteps hstepwise honce

/-- A binding with three open parameters, of which the first is restricted. When its argument mentions
    the second one, which gets an argument later, two steps restrict the second and one step does
    not. -/
theorem bind_in_steps_restricts_more : ∃ base once twice : Binding Nat, base.WellLaidOut
    ∧ base.bind? [] [.identifier 1 {}, .identifier 7 {}] = some once
    ∧ bindInSteps? [] [.identifier 7 {}] base [[.identifier 1 {}]] = some twice
    ∧ twice.SameLayout once ∧ once.restricted = [0] ∧ twice.restricted = [0, 1] := by
  let base : Binding Nat := { ofParameters [0, 1, 2] with restricted := [0] }
  let once := base.extend [] [.identifier 1 {}, .identifier 7 {}]
  let twice := (base.extend [] [.identifier 1 {}]).extend [] [.identifier 7 {}]
  have hbase : base.WellLaidOut := (wellLaidOut_ofParameters (by decide)).restrict [0]
  have honce : base.bind? [] [.identifier 1 {}, .identifier 7 {}] = some once := rfl
  have htwice : bindInSteps? [] [.identifier 7 {}] base [[.identifier 1 {}]] = some twice := rfl
  exact ⟨base, once, twice, hbase, honce, htwice,
    (((bind_in_steps hbase []).2 _ _).2 once twice htwice honce).layout, rfl, rfl⟩

end TimedNet.Binding
