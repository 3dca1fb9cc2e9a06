import Mathlib.Logic.Relation
import TimedNet.Expression.Term

/-!
# `TimedNet.Expression.Substitution` — arguments in place of symbols

An assignment gives some symbols an argument. It can be carried out in two ways: in one pass, all
symbols at once and the arguments themselves untouched (`Term.subst`), or symbol by symbol, as long as
any symbol with an argument is left (`Term.Replaces`).

## Contents
- `Term.subst`: one pass; `occurrences_subst`, `subst_eq_self`.
- `Term.substEach`: one pass after another; `substEach_compound`, `substEach_eq_self`.
- `Term.Replaces`: one symbol replaced by its argument, anywhere in a term.
- `Term.Resolved`: no symbol with an argument is left; `resolved_or_replaces`.
- `Replaces.substEach_eq`: passes that send a symbol and its argument to the same term do not see a
  replacement.
-/

namespace TimedNet.Term

universe u

variable {σ : Type u}

/-! ## One pass -/

mutual

/-- The term with its argument in place of every symbol that has one. -/
def subst (argument : σ → Option (Term σ)) : Term σ → Term σ
  | .empty => .empty
  | .constant mark value span => .constant mark value span
  | .identifier symbol span => (argument symbol).getD (.identifier symbol span)
  | .compound operator operands span => .compound operator (substAll argument operands) span

/-- Several terms with their arguments in place of the symbols that have one. -/
def substAll (argument : σ → Option (Term σ)) : List (Term σ) → List (Term σ)
  | [] => []
  | t :: ts => subst argument t :: substAll argument ts

end

/-- The symbols that come in place of a symbol. -/
def replacement (argument : σ → Option (Term σ)) (s : σ) : List σ :=
  match argument s with
  | some a => a.occurrences
  | none => [s]

mutual

/-- What a pass leaves mentions, symbol by symbol, what comes in place of the symbols. -/
theorem occurrences_subst (argument : σ → Option (Term σ)) :
    ∀ t : Term σ, (t.subst argument).occurrences = t.occurrences.flatMap (replacement argument)
  | .empty => rfl
  | .constant .. => rfl
  | .identifier symbol span => by
    rw [subst, occurrences, List.flatMap_singleton, replacement]
    cases argument symbol with
    | some a => rfl
    | none => rfl
  | .compound _ operands _ => by rw [subst, occurrences, occurrences, occurrencesAll_substAll]

theorem occurrencesAll_substAll (argument : σ → Option (Term σ)) :
    ∀ ts : List (Term σ),
      occurrencesAll (substAll argument ts) = (occurrencesAll ts).flatMap (replacement argument)
  | [] => rfl
  | t :: ts => by
    rw [substAll, occurrencesAll, occurrencesAll, List.flatMap_append, occurrences_subst argument t,
      occurrencesAll_substAll argument ts]

end

mutual

/-- A pass leaves a term alone that mentions no symbol with an argument. -/
theorem subst_eq_self {argument : σ → Option (Term σ)} :
    ∀ {t : Term σ}, (∀ s ∈ t.occurrences, argument s = none) → t.subst argument = t
  | .empty, _ => rfl
  | .constant .., _ => rfl
  | .identifier symbol span, h => by
    rw [subst, h symbol (by simp [occurrences])]
    rfl
  | .compound operator operands span, h => by
    have hoperands : substAll argument operands = operands := substAll_eq_self h
    rw [subst, hoperands]

theorem substAll_eq_self {argument : σ → Option (Term σ)} :
    ∀ {ts : List (Term σ)}, (∀ s ∈ occurrencesAll ts, argument s = none) →
      substAll argument ts = ts
  | [], _ => rfl
  | t :: ts, h => by
    rw [substAll, subst_eq_self fun s hs => h s (List.mem_append_left _ hs),
      substAll_eq_self fun s hs => h s (List.mem_append_right _ hs)]

end

theorem substAll_eq_map (argument : σ → Option (Term σ)) (ts : List (Term σ)) :
    substAll argument ts = ts.map (subst argument) := by
  induction ts with
  | nil => rfl
  | cons t ts ih => rw [substAll, ih, List.map_cons]

/-! ## One pass after another -/

/-- The term after several passes, the first one first. -/
def substEach (passes : List (σ → Option (Term σ))) (t : Term σ) : Term σ :=
  passes.foldl (fun t argument => t.subst argument) t

theorem substEach_append (earlier later : List (σ → Option (Term σ))) (t : Term σ) :
    t.substEach (earlier ++ later) = (t.substEach earlier).substEach later :=
  List.foldl_append

theorem substEach_compound (passes : List (σ → Option (Term σ))) (operator : String)
    (operands : List (Term σ)) (span : Span) :
    (compound operator operands span).substEach passes
      = .compound operator (operands.map (substEach passes)) span := by
  induction passes generalizing operands with
  | nil =>
    show compound operator operands span = .compound operator (operands.map fun t => t) span
    rw [List.map_id']
  | cons pass passes ih =>
    show ((compound operator operands span).subst pass).substEach passes = _
    rw [subst, ih, substAll_eq_map, List.map_map]
    rfl

/-- Passes leave a term alone when it mentions no symbol that has an argument in one of them. -/
theorem substEach_eq_self {passes : List (σ → Option (Term σ))} {t : Term σ}
    (h : ∀ argument ∈ passes, ∀ s ∈ t.occurrences, argument s = none) : t.substEach passes = t := by
  induction passes with
  | nil => rfl
  | cons pass passes ih =>
    show (t.subst pass).substEach passes = t
    rw [subst_eq_self (h pass List.mem_cons_self)]
    exact ih fun argument hmem => h argument (List.mem_cons_of_mem _ hmem)

/-! ## Symbol by symbol -/

/-- One symbol of a term is replaced by its argument. -/
inductive Replaces (argument : σ → Option (Term σ)) : Term σ → Term σ → Prop where
  | here {s : σ} {a : Term σ} (span : Span) (h : argument s = some a) :
      Replaces argument (.identifier s span) a
  | inside {t u : Term σ} (operator : String) (before after : List (Term σ)) (span : Span)
      (h : Replaces argument t u) :
      Replaces argument (.compound operator (before ++ t :: after) span)
        (.compound operator (before ++ u :: after) span)

/-- No symbol with an argument is left. -/
def Resolved (argument : σ → Option (Term σ)) (t : Term σ) : Prop :=
  ∀ s ∈ t.occurrences, argument s = none

theorem occurrencesAll_append (ts us : List (Term σ)) :
    occurrencesAll (ts ++ us) = occurrencesAll ts ++ occurrencesAll us := by
  induction ts with
  | nil => rfl
  | cons t ts ih => rw [List.cons_append, occurrencesAll, occurrencesAll, ih, List.append_assoc]

/-- A replacement takes one occurrence of a symbol out and puts those of its argument in. -/
theorem Replaces.occurrences_eq {argument : σ → Option (Term σ)} {t u : Term σ}
    (h : Replaces argument t u) :
    ∃ (s : σ) (a : Term σ) (before after : List σ), argument s = some a ∧
      t.occurrences = before ++ s :: after ∧ u.occurrences = before ++ a.occurrences ++ after := by
  induction h with
  | @here s a span h =>
    refine ⟨s, a, [], [], h, rfl, ?_⟩
    rw [List.nil_append, List.append_nil]
  | inside operator before after span _ ih =>
    obtain ⟨s, a, left, right, hs, ht, hu⟩ := ih
    refine ⟨s, a, occurrencesAll before ++ left, right ++ occurrencesAll after, hs, ?_, ?_⟩
    · rw [occurrences, occurrencesAll_append, occurrencesAll, ht]
      simp only [List.append_assoc, List.cons_append]
    · rw [occurrences, occurrencesAll_append, occurrencesAll, hu]
      simp only [List.append_assoc]

mutual

/-- Where a symbol has an argument, a replacement is possible. -/
theorem exists_replaces {argument : σ → Option (Term σ)} {s : σ} {a : Term σ}
    (hs : argument s = some a) :
    ∀ t : Term σ, s ∈ t.occurrences → ∃ u, Replaces argument t u
  | .empty, h => absurd h (by simp [occurrences])
  | .constant .., h => absurd h (by simp [occurrences])
  | .identifier symbol span, h => by
    have hsymbol : s = symbol := by simpa [occurrences] using h
    exact ⟨a, .here span (hsymbol ▸ hs)⟩
  | .compound operator operands span, h => by
    obtain ⟨before, t, after, u, rfl, hu⟩ := exists_replaces_operand hs operands h
    exact ⟨_, .inside operator before after span hu⟩

theorem exists_replaces_operand {argument : σ → Option (Term σ)} {s : σ} {a : Term σ}
    (hs : argument s = some a) :
    ∀ ts : List (Term σ), s ∈ occurrencesAll ts →
      ∃ before t after u, ts = before ++ t :: after ∧ Replaces argument t u
  | [], h => absurd h (by simp [occurrencesAll])
  | t :: ts, h => by
    rcases List.mem_append.mp h with hhead | htail
    · obtain ⟨u, hu⟩ := exists_replaces hs t hhead
      exact ⟨[], t, ts, u, rfl, hu⟩
    · obtain ⟨before, t', after, u, rfl, hu⟩ := exists_replaces_operand hs ts htail
      exact ⟨t :: before, t', after, u, rfl, hu⟩

end

/-- Either nothing is left to replace or a replacement is possible. -/
theorem resolved_or_replaces (argument : σ → Option (Term σ)) (t : Term σ) :
    Resolved argument t ∨ ∃ u, Replaces argument t u := by
  by_cases h : Resolved argument t
  · exact Or.inl h
  · refine Or.inr ?_
    obtain ⟨s, hs⟩ := Classical.not_forall.mp h
    obtain ⟨hs, hne⟩ := Classical.not_imp.mp hs
    obtain ⟨a, ha⟩ := Option.ne_none_iff_exists'.mp hne
    exact exists_replaces ha t hs

/-- When replacement comes to an end on every way, every term can be resolved. -/
theorem exists_resolved {argument : σ → Option (Term σ)}
    (hwf : WellFounded fun u t : Term σ => Replaces argument t u) (t : Term σ) :
    ∃ u, Relation.ReflTransGen (Replaces argument) t u ∧ Resolved argument u := by
  induction t using hwf.induction with
  | _ t ih =>
    rcases resolved_or_replaces argument t with hdone | ⟨u, hu⟩
    · exact ⟨t, .refl, hdone⟩
    · obtain ⟨v, huv, hv⟩ := ih u hu
      exact ⟨v, .head hu huv, hv⟩

/-- Passes that send every symbol where they send its argument do not see a replacement. -/
theorem Replaces.substEach_eq {argument : σ → Option (Term σ)}
    {passes : List (σ → Option (Term σ))}
    (hpasses : ∀ s a span, argument s = some a →
      (identifier s span).substEach passes = a.substEach passes)
    {t u : Term σ} (h : Replaces argument t u) : t.substEach passes = u.substEach passes := by
  induction h with
  | @here s a span h => exact hpasses s a span h
  | inside operator before after span _ ih =>
    rw [substEach_compound, substEach_compound, List.map_append, List.map_append, List.map_cons,
      List.map_cons, ih]

theorem substEach_eq_of_reflTransGen {argument : σ → Option (Term σ)}
    {passes : List (σ → Option (Term σ))}
    (hpasses : ∀ s a span, argument s = some a →
      (identifier s span).substEach passes = a.substEach passes)
    {t u : Term σ} (h : Relation.ReflTransGen (Replaces argument) t u) :
    t.substEach passes = u.substEach passes := by
  induction h with
  | refl => rfl
  | tail _ hstep ih => rw [ih, hstep.substEach_eq hpasses]

end TimedNet.Term
