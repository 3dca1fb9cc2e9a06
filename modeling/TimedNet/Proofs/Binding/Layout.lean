import Mathlib.Data.List.Nodup
import TimedNet.Binding

/-!
# `TimedNet.Proofs.Binding.Layout` — how a binding lays out its parameters

What is open and what is bound is kept three times: as a split of the list of parameters, as the keys
of the mapping, and as two counters. `WellLaidOut` says that the three agree. `Placed` says less:
parameters that were added by hand may stand among the bound ones without an argument.

* `Placed`, `placed_extend`: what has an argument is bound, also after a step that opens new parameters.
* `wellLaidOut_extend`: a step that opens new parameters keeps the layout.
* `wellLaidOut_extend_iff`: no other step does.
* `WellLaidOut.map`: an injective renaming of the symbols keeps it too.
-/

namespace TimedNet.Binding

universe u v

variable {σ : Type u} {τ : Type v}

/-- No parameter stands twice; the open ones come first and have no argument; the bound ones follow in
    the order in which they got their arguments; both counters are right. -/
structure WellLaidOut (b : Binding σ) : Prop where
  distinct : b.parameters.Nodup
  open_free : ∀ p ∈ b.unboundParameters, p ∉ b.mapping.map Prod.fst
  bound : b.boundParameters = b.mapping.map Prod.fst
  size : b.unbound + b.mapping.length = b.parameters.length
  count : b.argumentCount = b.mapping.length

theorem unbound_append_bound (b : Binding σ) :
    b.unboundParameters ++ b.boundParameters = b.parameters :=
  List.take_append_drop _ _

theorem WellLaidOut.length_unboundParameters {b : Binding σ} (h : b.WellLaidOut) :
    b.unboundParameters.length = b.unbound := by
  have hsize := h.size
  rw [unboundParameters, List.length_take]
  omega

/-- A symbol with an argument is a bound parameter. -/
theorem WellLaidOut.mem_bound_iff {b : Binding σ} (h : b.WellLaidOut) {p : σ} :
    p ∈ b.boundParameters ↔ p ∈ b.mapping.map Prod.fst := by
  rw [h.bound]

/-- No parameter stands twice, and what has an argument has one and is a bound parameter. -/
structure Placed (b : Binding σ) : Prop where
  distinct : b.parameters.Nodup
  keys : (b.mapping.map Prod.fst).Nodup
  bound : ∀ p ∈ b.mapping.map Prod.fst, p ∈ b.boundParameters

theorem WellLaidOut.placed {b : Binding σ} (h : b.WellLaidOut) : b.Placed where
  distinct := h.distinct
  keys := by
    rw [← h.bound]
    exact h.distinct.sublist (List.drop_sublist _ _)
  bound := fun _ hp => h.mem_bound_iff.mpr hp

/-- Where nothing has an argument, the parameters need only be distinct. -/
theorem placed_of_mapping {b : Binding σ} (hmapping : b.mapping = []) (h : b.parameters.Nodup) :
    b.Placed where
  distinct := h
  keys := by simp [hmapping]
  bound := by simp [hmapping]

theorem Placed.key_mem_parameters {b : Binding σ} (h : b.Placed) {p : σ}
    (hp : p ∈ b.mapping.map Prod.fst) : p ∈ b.parameters :=
  List.mem_of_mem_drop (h.bound p hp)

theorem WellLaidOut.key_mem_parameters {b : Binding σ} (h : b.WellLaidOut) {p : σ}
    (hp : p ∈ b.mapping.map Prod.fst) : p ∈ b.parameters :=
  h.placed.key_mem_parameters hp

/-- What is open is not bound: the two are parts of one list without repetition. -/
theorem Placed.not_mem_bound {b : Binding σ} (h : b.Placed) {p : σ} (hp : p ∈ b.unboundParameters) :
    p ∉ b.boundParameters := by
  have hdistinct := h.distinct
  rw [← unbound_append_bound, List.nodup_append] at hdistinct
  exact fun hbound => hdistinct.2.2 p hp p hbound rfl

/-- The arguments are found in the mapping. -/
theorem Placed.argument?_eq_some_iff [BEq σ] [LawfulBEq σ] {b : Binding σ} (h : b.Placed)
    {p : σ} {a : Term σ} : b.argument? p = some a ↔ (p, a) ∈ b.mapping :=
  Ordered.get?_eq_some_iff h.keys

theorem WellLaidOut.argument?_eq_some_iff [BEq σ] [LawfulBEq σ] {b : Binding σ} (h : b.WellLaidOut)
    {p : σ} {a : Term σ} : b.argument? p = some a ↔ (p, a) ∈ b.mapping :=
  h.placed.argument?_eq_some_iff

/-- A binding with nothing bound is well laid out when its parameters are distinct. -/
theorem wellLaidOut_ofParameters {parameters : List σ} (h : parameters.Nodup) :
    (ofParameters parameters).WellLaidOut where
  distinct := h
  open_free := by intro p _; simp [ofParameters]
  bound := by simp [ofParameters, boundParameters]
  size := by simp [ofParameters]
  count := rfl

/-! ## One step of instantiation -/

section Extend

variable [BEq σ]

/-- The open parameters that a step with these arguments binds. -/
def fresh (base : Binding σ) (args : List (Term σ)) : List σ :=
  base.unboundParameters.take args.length

/-- The open parameters that a step with these arguments leaves open. -/
def remaining (base : Binding σ) (args : List (Term σ)) : List σ :=
  base.unboundParameters.drop args.length

/-- What a step with these arguments binds, and to what. -/
def assignments (base : Binding σ) (args : List (Term σ)) : List (σ × Term σ) :=
  (base.fresh args).zip args

omit [BEq σ] in
theorem argument_mem_of_mem_assignments {base : Binding σ} {args : List (Term σ)}
    {entry : σ × Term σ} (h : entry ∈ base.assignments args) : entry.2 ∈ args :=
  (List.of_mem_zip (show (entry.1, entry.2) ∈ _ from h)).2

omit [BEq σ] in
theorem key_mem_of_mem_assignments {base : Binding σ} {args : List (Term σ)}
    {entry : σ × Term σ} (h : entry ∈ base.assignments args) : entry.1 ∈ base.fresh args :=
  (List.of_mem_zip (show (entry.1, entry.2) ∈ _ from h)).1

theorem parameters_extend (base : Binding σ) (params : List σ) (args : List (Term σ)) :
    (base.extend params args).parameters
      = params ++ base.remaining args ++ base.boundParameters ++ base.fresh args := rfl

theorem unbound_extend (base : Binding σ) (params : List σ) (args : List (Term σ)) :
    (base.extend params args).unbound = (params ++ base.remaining args).length := rfl

theorem unboundParameters_extend (base : Binding σ) (params : List σ) (args : List (Term σ)) :
    (base.extend params args).unboundParameters = params ++ base.remaining args := by
  rw [unboundParameters, parameters_extend, unbound_extend, List.append_assoc,
    List.take_left]

theorem boundParameters_extend (base : Binding σ) (params : List σ) (args : List (Term σ)) :
    (base.extend params args).boundParameters = base.boundParameters ++ base.fresh args := by
  rw [boundParameters, parameters_extend, unbound_extend, List.append_assoc, List.drop_left]

/-- The parameters of a step, in another order, are the new ones and those of the base. -/
theorem parameters_extend_perm (base : Binding σ) (params : List σ) (args : List (Term σ)) :
    (base.extend params args).parameters.Perm (params ++ base.parameters) := by
  rw [parameters_extend, ← unbound_append_bound base, List.append_assoc, List.append_assoc]
  refine List.Perm.append_left params ?_
  have hsplit : base.fresh args ++ base.remaining args = base.unboundParameters :=
    List.take_append_drop _ _
  rw [← hsplit, List.append_assoc]
  calc base.remaining args ++ (base.boundParameters ++ base.fresh args)
      _ = (base.remaining args ++ base.boundParameters) ++ base.fresh args := by
        rw [List.append_assoc]
      _ |>.Perm (base.fresh args ++ (base.remaining args ++ base.boundParameters)) :=
        List.perm_append_comm

theorem mem_parameters_extend {base : Binding σ} {params : List σ} {args : List (Term σ)} {p : σ} :
    p ∈ (base.extend params args).parameters ↔ p ∈ params ∨ p ∈ base.parameters := by
  rw [(parameters_extend_perm base params args).mem_iff, List.mem_append]

omit [BEq σ] in
/-- A step with too many arguments apart, every argument finds a parameter. -/
theorem WellLaidOut.length_fresh {base : Binding σ} (h : base.WellLaidOut) {args : List (Term σ)}
    (hargs : args.length ≤ base.unbound) : (base.fresh args).length = args.length := by
  rw [fresh, List.length_take, h.length_unboundParameters]
  omega

omit [BEq σ] in
theorem keys_assignments (base : Binding σ) (args : List (Term σ)) :
    (base.assignments args).map Prod.fst = base.fresh args := by
  rw [assignments, List.map_fst_zip]
  exact List.length_take_le _ _

/-- A step opens its own parameters and closes one for each argument. -/
theorem WellLaidOut.unbound_extend_eq {base : Binding σ} (h : base.WellLaidOut) (params : List σ)
    (args : List (Term σ)) :
    (base.extend params args).unbound = params.length + (base.unbound - args.length) := by
  rw [unbound_extend, List.length_append, remaining, List.length_drop, h.length_unboundParameters]

variable [LawfulBEq σ]

omit [BEq σ] [LawfulBEq σ] in
theorem Placed.nodup_fresh {base : Binding σ} (h : base.Placed) (args : List (Term σ)) :
    (base.fresh args).Nodup :=
  h.distinct.sublist ((List.take_sublist _ _).trans (List.take_sublist _ _))

omit [BEq σ] [LawfulBEq σ] in
/-- What a step binds has no argument before. -/
theorem Placed.fresh_free {base : Binding σ} (h : base.Placed) {args : List (Term σ)} {p : σ}
    (hp : p ∈ base.fresh args) : p ∉ base.mapping.map Prod.fst := fun hkey =>
  h.not_mem_bound (List.mem_of_mem_take hp) (h.bound p hkey)

/-- A step puts its own arguments after those that were bound before. -/
theorem Placed.mapping_extend {base : Binding σ} (h : base.Placed) (params : List σ)
    (args : List (Term σ)) :
    (base.extend params args).mapping = base.mapping ++ base.assignments args := by
  show (base.assignments args).foldl (fun map pair => Ordered.put map pair.1 pair.2) base.mapping
    = _
  apply Ordered.foldl_put_eq_append
  · rw [keys_assignments]
    exact h.nodup_fresh args
  · exact fun entry hentry => h.fresh_free (key_mem_of_mem_assignments hentry)

theorem WellLaidOut.mapping_extend {base : Binding σ} (h : base.WellLaidOut) (params : List σ)
    (args : List (Term σ)) :
    (base.extend params args).mapping = base.mapping ++ base.assignments args :=
  h.placed.mapping_extend params args

theorem Placed.keys_extend {base : Binding σ} (h : base.Placed) (params : List σ)
    (args : List (Term σ)) : (base.extend params args).mapping.map Prod.fst
      = base.mapping.map Prod.fst ++ base.fresh args := by
  rw [h.mapping_extend, List.map_append, keys_assignments]

omit [LawfulBEq σ] in
theorem nodup_parameters_extend {base : Binding σ} (h : base.parameters.Nodup) {params : List σ}
    (args : List (Term σ)) (hparams : params.Nodup) (hnew : ∀ p ∈ params, p ∉ base.parameters) :
    (base.extend params args).parameters.Nodup := by
  rw [(parameters_extend_perm base params args).nodup_iff, List.nodup_append]
  exact ⟨hparams, h, fun p hp q hq hpq => hnew p hp (hpq ▸ hq)⟩

/-- A step that opens new parameters binds what has an argument and nothing that is open. -/
theorem placed_extend {base : Binding σ} (h : base.Placed) {params : List σ} (args : List (Term σ))
    (hparams : params.Nodup) (hnew : ∀ p ∈ params, p ∉ base.parameters) :
    (base.extend params args).Placed where
  distinct := nodup_parameters_extend h.distinct args hparams hnew
  keys := by
    rw [h.keys_extend, List.nodup_append]
    exact ⟨h.keys, h.nodup_fresh args, fun p hp q hq hpq => h.fresh_free hq (hpq ▸ hp)⟩
  bound := by
    intro p hp
    rw [h.keys_extend, List.mem_append] at hp
    rw [boundParameters_extend, List.mem_append]
    exact hp.imp_left (h.bound p)

/-- **A step that opens new parameters keeps the layout.** -/
theorem wellLaidOut_extend {base : Binding σ} (h : base.WellLaidOut) {params : List σ}
    {args : List (Term σ)} (hargs : args.length ≤ base.unbound) (hparams : params.Nodup)
    (hnew : ∀ p ∈ params, p ∉ base.parameters) : (base.extend params args).WellLaidOut := by
  have hkeys := h.placed.keys_extend params args
  have hplaced := placed_extend h.placed args hparams hnew
  have hbound : (base.extend params args).boundParameters
      = (base.extend params args).mapping.map Prod.fst := by
    rw [boundParameters_extend, hkeys, h.bound]
  refine ⟨hplaced.distinct, fun p hp hkey => hplaced.not_mem_bound hp (hbound ▸ hkey), hbound, ?_, ?_⟩
  · have hsize := h.size
    have hlength := (parameters_extend_perm base params args).length_eq
    rw [List.length_append] at hlength
    rw [hlength, h.unbound_extend_eq, h.mapping_extend, List.length_append,
      assignments, List.length_zip, h.length_fresh hargs]
    omega
  · rw [h.mapping_extend, List.length_append, assignments, List.length_zip,
      h.length_fresh hargs, Nat.min_self]
    exact congrArg (· + args.length) h.count

/-- **The layout is kept by the steps that open new parameters and by no other.** -/
theorem wellLaidOut_extend_iff {base : Binding σ} (h : base.WellLaidOut) {params : List σ}
    {args : List (Term σ)} (hargs : args.length ≤ base.unbound) :
    (base.extend params args).WellLaidOut
      ↔ params.Nodup ∧ ∀ p ∈ params, p ∉ base.parameters := by
  constructor
  · intro hafter
    have hnodup := hafter.distinct
    rw [(parameters_extend_perm base params args).nodup_iff, List.nodup_append] at hnodup
    exact ⟨hnodup.1, fun p hp hq => hnodup.2.2 p hp p hq rfl⟩
  · intro hparams
    exact wellLaidOut_extend h hargs hparams.1 hparams.2

end Extend

/-! ## Renaming and restriction -/

/-- The layout does not depend on what is restricted. -/
theorem WellLaidOut.restrict {b : Binding σ} (h : b.WellLaidOut) (restricted : List σ) :
    ({ b with restricted } : Binding σ).WellLaidOut :=
  ⟨h.distinct, h.open_free, h.bound, h.size, h.count⟩

/-- **A renaming that tells the parameters apart keeps the layout**, whatever it makes of the arguments
    and of what is restricted. -/
theorem WellLaidOut.map {b : Binding σ} (h : b.WellLaidOut) {f : σ → τ} {g : Term σ → Term τ}
    {restricted : List τ} (hf : ∀ p ∈ b.parameters, ∀ q ∈ b.parameters, f p = f q → p = q) :
    WellLaidOut
      { parameters := b.parameters.map f
        mapping := b.mapping.map fun pair => (f pair.1, g pair.2)
        argumentCount := b.argumentCount
        unbound := b.unbound
        restricted } := by
  have hkeys : (b.mapping.map fun pair => (f pair.1, g pair.2)).map Prod.fst
      = (b.mapping.map Prod.fst).map f := by
    rw [List.map_map, List.map_map]
    rfl
  refine ⟨List.Nodup.map_on hf h.distinct, ?_, ?_, ?_, ?_⟩
  · intro p hp hkey
    rw [hkeys] at hkey
    have hp' : p ∈ (b.parameters.map f).take b.unbound := hp
    rw [← List.map_take] at hp'
    obtain ⟨q, hq, rfl⟩ := List.mem_map.mp hp'
    obtain ⟨r, hr, heq⟩ := List.mem_map.mp hkey
    obtain rfl := hf r (h.key_mem_parameters hr) q (List.mem_of_mem_take hq) heq
    exact h.open_free r hq hr
  · show (b.parameters.map f).drop b.unbound = _
    rw [← List.map_drop, hkeys, ← h.bound]
    rfl
  · rw [List.length_map, List.length_map]
    exact h.size
  · rw [List.length_map]
    exact h.count

end TimedNet.Binding
