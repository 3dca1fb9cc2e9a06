import Mathlib.Logic.Relation
import TimedNet.Proofs.Binding.Layout

/-!
# `TimedNet.Proofs.Binding.Restriction` — which parameters a chain of steps restricts

A step looks at one argument at a time: a restricted parameter that the step binds restricts the
symbols of its argument, provided that the argument mentions a parameter of the new binding. What it
is for is a property of the whole chain: a parameter that a restricted one depends on, through any
number of arguments, is to be restricted too. This module shows that the steps get there, and that
they restrict nothing else that is still open.

* `mem_passOn`, `mem_restricted_extend`: what one step restricts.
* `Restricts`: what is restricted is what the restricted symbols of the start lead to.
* `Restricts.extend`: a step keeps it.
* `Restricts.mem_restricted_iff`: an open parameter is restricted exactly when it is led to.
-/

namespace TimedNet.Binding

open Relation

universe u

variable {σ : Type u} [BEq σ]

/-! ## What one step restricts -/

theorem passOn_append (own restricted : List σ) (bound more : List (σ × Term σ)) :
    passOn own restricted (bound ++ more) = passOn own (passOn own restricted bound) more :=
  List.foldl_append

theorem passOn_cons (own restricted : List σ) (entry : σ × Term σ) (bound : List (σ × Term σ)) :
    passOn own restricted (entry :: bound) = passOn own
      (if entry.2.symbols.any own.contains then Ordered.union restricted entry.2.symbols
        else restricted) bound := rfl

variable [LawfulBEq σ]

theorem any_symbols_iff {own : List σ} {t : Term σ} :
    t.symbols.any own.contains = true ↔ ∃ s ∈ t.occurrences, s ∈ own := by
  simp [Term.symbols]

/-- **A restriction is passed on to the symbols of the arguments that mention an own parameter.** -/
theorem mem_passOn {own restricted : List σ} {bound : List (σ × Term σ)} {s : σ} :
    s ∈ passOn own restricted bound ↔ s ∈ restricted ∨ ∃ entry ∈ bound,
      (∃ o ∈ entry.2.occurrences, o ∈ own) ∧ s ∈ entry.2.occurrences := by
  induction bound generalizing restricted with
  | nil => simp [passOn]
  | cons entry bound ih =>
    rw [passOn_cons, ih]
    simp only [List.mem_cons, exists_eq_or_imp, ← or_assoc]
    refine or_congr_left ?_
    by_cases hown : entry.2.symbols.any own.contains = true
    · rw [if_pos hown, Ordered.mem_union, Term.symbols, List.mem_eraseDups,
        and_iff_right (any_symbols_iff.mp hown)]
    · rw [if_neg hown, or_iff_left]
      exact fun h => hown (any_symbols_iff.mpr h.1)

/-- Two lists of own parameters that the same arguments mention restrict the same. -/
theorem passOn_congr {own other restricted : List σ} {bound : List (σ × Term σ)}
    (h : ∀ entry ∈ bound,
      (∃ o ∈ entry.2.occurrences, o ∈ own) ↔ ∃ o ∈ entry.2.occurrences, o ∈ other) :
    passOn own restricted bound = passOn other restricted bound := by
  induction bound generalizing restricted with
  | nil => rfl
  | cons entry bound ih =>
    rw [List.forall_mem_cons] at h
    have hsame : entry.2.symbols.any own.contains = entry.2.symbols.any other.contains := by
      rw [Bool.eq_iff_iff, any_symbols_iff, any_symbols_iff]
      exact h.1
    rw [passOn_cons, passOn_cons, hsame]
    exact ih h.2

omit [LawfulBEq σ] in
theorem restricted_extend (base : Binding σ) (params : List σ) (args : List (Term σ)) :
    (base.extend params args).restricted = passOn (params ++ base.remaining args) base.restricted
      ((base.assignments args).filter fun entry => base.restricted.contains entry.1) := rfl

/-- A symbol is restricted after a step when it was before, or when the step binds a restricted
    parameter to an argument that mentions it next to a parameter that is open afterwards. -/
theorem mem_restricted_extend {base : Binding σ} {params : List σ} {args : List (Term σ)} {s : σ} :
    s ∈ (base.extend params args).restricted ↔ s ∈ base.restricted
      ∨ ∃ entry ∈ base.assignments args, entry.1 ∈ base.restricted
        ∧ (∃ o ∈ entry.2.occurrences, o ∈ (base.extend params args).unboundParameters)
        ∧ s ∈ entry.2.occurrences := by
  rw [restricted_extend, mem_passOn, unboundParameters_extend]
  simp only [List.mem_filter, List.contains_iff_mem, and_assoc]

/-! ## What a chain of steps restricts -/

omit [LawfulBEq σ] in
/-- The argument of the first symbol mentions the second. -/
def Leads (b : Binding σ) (x y : σ) : Prop := ∃ a, b.argument? x = some a ∧ y ∈ a.symbols

/-- What is restricted, when the start of the chain restricts `start`: these symbols, nothing but what
    they lead to, and of the parameters all that a restricted one leads to. -/
structure Restricts (start : List σ) (b : Binding σ) : Prop where
  placed : b.Placed
  kept : ∀ s ∈ start, s ∈ b.restricted
  led : ∀ s ∈ b.restricted, ∃ r ∈ start, ReflTransGen b.Leads r s
  closed : ∀ entry ∈ b.mapping, entry.1 ∈ b.restricted →
    ∀ s ∈ entry.2.occurrences, s ∈ b.parameters → s ∈ b.restricted

omit [LawfulBEq σ] in
/-- Where nothing is bound yet, nothing leads anywhere. -/
theorem restricts_of_mapping {b : Binding σ} (hmapping : b.mapping = []) (h : b.parameters.Nodup) :
    Restricts b.restricted b where
  placed := placed_of_mapping hmapping h
  kept := fun _ hs => hs
  led := fun s hs => ⟨s, hs, .refl⟩
  closed := by intro entry hentry; exact absurd hentry (by simp [hmapping])

theorem Placed.leads_iff {b : Binding σ} (h : b.Placed) {x y : σ} :
    b.Leads x y ↔ ∃ a, (x, a) ∈ b.mapping ∧ y ∈ a.occurrences := by
  simp only [Leads, h.argument?_eq_some_iff, Term.symbols, List.mem_eraseDups]

/-- **The parameters that a restricted symbol leads to are restricted.** -/
theorem Restricts.mem_of_leads {start : List σ} {b : Binding σ} (h : Restricts start b) {r s : σ}
    (hr : r ∈ start) (hway : ReflTransGen b.Leads r s) (hs : s ∈ b.parameters) :
    s ∈ b.restricted := by
  induction hway with
  | refl => exact h.kept _ hr
  | tail _ hlast ih =>
    obtain ⟨a, hentry, hmention⟩ := h.placed.leads_iff.mp hlast
    -- What has an argument is a parameter, so the way so far ended at a restricted one.
    have hparameter := h.placed.key_mem_parameters (List.mem_map_of_mem hentry)
    exact h.closed _ hentry (ih hparameter) _ hmention hs

/-- **A parameter is restricted exactly when a symbol that the start restricts leads to it.** -/
theorem Restricts.mem_restricted_iff {start : List σ} {b : Binding σ} (h : Restricts start b) {p : σ}
    (hp : p ∈ b.parameters) : p ∈ b.restricted ↔ ∃ r ∈ start, ReflTransGen b.Leads r p := by
  constructor
  · exact h.led p
  · rintro ⟨r, hr, hway⟩
    exact h.mem_of_leads hr hway hp

/-- What a step of a chain opens and mentions: distinct symbols that are neither parameters of the base
    nor mentioned by its arguments; and of the parameters only those that are open after the step. -/
structure Follows (base : Binding σ) (params : List σ) (args : List (Term σ)) : Prop where
  distinct : params.Nodup
  new : ∀ p ∈ params, p ∉ base.parameters
  unused : ∀ p ∈ params, ∀ entry ∈ base.mapping, p ∉ entry.2.occurrences
  own : ∀ a ∈ args, ∀ s ∈ a.occurrences, s ∈ (base.extend params args).parameters →
    s ∈ (base.extend params args).unboundParameters

omit [LawfulBEq σ] in
/-- An argument of a step mentions no parameter that is bound after it. -/
theorem Follows.not_mem_occurrences {base : Binding σ} {params : List σ} {args : List (Term σ)}
    (h : base.Follows params args) (hafter : (base.extend params args).Placed) {a : Term σ}
    (ha : a ∈ args) {s : σ} (hs : s ∈ (base.extend params args).boundParameters) :
    s ∉ a.occurrences := by
  intro hmention
  exact hafter.not_mem_bound (h.own a ha s hmention (List.mem_of_mem_drop hs)) hs

/-- A bound parameter that is restricted after a step was restricted before it: what a step newly
    restricts is mentioned by one of its arguments. -/
theorem Follows.mem_restricted_of_bound {base : Binding σ} {params : List σ} {args : List (Term σ)}
    (h : base.Follows params args) (hafter : (base.extend params args).Placed) {s : σ}
    (hs : s ∈ (base.extend params args).boundParameters)
    (hrestricted : s ∈ (base.extend params args).restricted) : s ∈ base.restricted := by
  rcases mem_restricted_extend.mp hrestricted with hold | ⟨entry, hentry, _, _, hmention⟩
  · exact hold
  · exact absurd hmention
      (h.not_mem_occurrences hafter (argument_mem_of_mem_assignments hentry) hs)

/-- **A step of a chain restricts what its restricted parameters lead to, and nothing else.** -/
theorem Restricts.extend {start : List σ} {base : Binding σ} (h : Restricts start base)
    {params : List σ} {args : List (Term σ)} (hstep : base.Follows params args) :
    Restricts start (base.extend params args) := by
  have hafter := placed_extend h.placed args hstep.distinct hstep.new
  have hmapping := h.placed.mapping_extend params args
  have hways : ∀ {r s}, ReflTransGen base.Leads r s →
      ReflTransGen (base.extend params args).Leads r s := by
    intro r s hway
    refine ReflTransGen.mono (fun x y hxy => ?_) r s hway
    obtain ⟨a, hentry, hmention⟩ := h.placed.leads_iff.mp hxy
    rw [hafter.leads_iff, hmapping]
    exact ⟨a, List.mem_append_left _ hentry, hmention⟩
  refine ⟨hafter, ?kept, ?led, ?closed⟩
  case kept => exact fun s hs => mem_restricted_extend.mpr (Or.inl (h.kept s hs))
  case led =>
    intro s hs
    rcases mem_restricted_extend.mp hs with hold | ⟨entry, hentry, hkey, _, hmention⟩
    · obtain ⟨r, hr, hway⟩ := h.led s hold
      exact ⟨r, hr, hways hway⟩
    · -- The step binds a restricted parameter, to which there is a way, to what mentions the symbol.
      obtain ⟨r, hr, hway⟩ := h.led entry.1 hkey
      refine ⟨r, hr, (hways hway).tail ?_⟩
      rw [hafter.leads_iff, hmapping]
      exact ⟨entry.2, List.mem_append_right _ hentry, hmention⟩
  case closed =>
    intro entry hentry hkey s hmention hparameter
    have hbound := hafter.bound entry.1 (List.mem_map_of_mem hentry)
    have hkey := hstep.mem_restricted_of_bound hafter hbound hkey
    rw [hmapping, List.mem_append] at hentry
    rcases hentry with hold | hadded
    · -- An argument given earlier mentions no parameter that the step opens.
      rcases mem_parameters_extend.mp hparameter with hnew | hparameter
      · exact absurd hmention (hstep.unused s hnew entry hold)
      · exact mem_restricted_extend.mpr (Or.inl (h.closed entry hold hkey s hmention hparameter))
    · -- The symbol itself is the own parameter for which the restriction is passed on.
      have hown := hstep.own _ (argument_mem_of_mem_assignments hadded) s hmention hparameter
      exact mem_restricted_extend.mpr
        (Or.inr ⟨entry, hadded, hkey, ⟨s, hmention, hown⟩, hmention⟩)

end TimedNet.Binding
