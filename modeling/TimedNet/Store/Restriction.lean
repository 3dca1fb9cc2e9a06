import TimedNet.Store.Basic

/-!
# `TimedNet.Store.Restriction` — parameters that a process may not leave open

A symbol that is restricted in a template restricts what its initial value depends on, and so on.
The initialisers may refer to each other in any way, in circles too.

## Contents
- `dependencies`: the symbols in the initialiser of what a symbol stands for.
- `restrictAll`: depth-first search along dependencies; it ends because each step either restricts a
  symbol of the store that was not restricted or makes the stack shorter.
- `restrict`: the search from one symbol, for a template.
-/

namespace TimedNet.Store

/-- The symbols on which the initial value of what a symbol stands for depends. -/
def dependencies (s : Store) (symbol : SymbolId) : List SymbolId :=
  match (s.symbol symbol).subject with
  | .var owner => (s.variableAt owner).init.term.symbols
  | _ => []

theorem dependencies_of_size_le {s : Store} {symbol : SymbolId}
    (h : s.symbols.size ≤ symbol.index) : s.dependencies symbol = [] := by
  have hnone : s.symbols.get? symbol = none := Table.get?_eq_none_iff.mpr h
  have hsym : s.symbol symbol = default := by simp [Store.symbol, Table.get, hnone]
  rw [dependencies, hsym]
  rfl

/-! ## A measure for the search -/

/-- Fewer members satisfy the stronger of two conditions when one satisfies only the weaker. -/
theorem countP_lt_countP {α : Type} {p q : α → Bool} {l : List α}
    (himp : ∀ b ∈ l, p b = true → q b = true) {a : α} (ha : a ∈ l) (hq : q a = true)
    (hp : p a = false) : l.countP p < l.countP q := by
  induction l with
  | nil => exact absurd ha (by simp)
  | cons b l ih =>
    have htail : ∀ c ∈ l, p c = true → q c = true := fun c hc => himp c (List.mem_cons_of_mem _ hc)
    rw [List.countP_cons, List.countP_cons]
    rcases List.mem_cons.mp ha with rfl | ha
    · have := List.countP_mono_left htail
      simp only [hq, hp, if_true]
      simp
      omega
    · have := ih htail ha
      have hb := himp b List.mem_cons_self
      cases hpb : p b
      · simp
        omega
      · simp [hb hpb]
        omega

/-- How many symbols of the store are not in a set. -/
def missing (s : Store) (set : List SymbolId) : Nat :=
  (List.range s.symbols.size).countP fun i => !set.contains ⟨i⟩

theorem missing_append_lt {s : Store} {set : List SymbolId} {symbol : SymbolId}
    (hnew : symbol ∉ set) (h : symbol.index < s.symbols.size) :
    s.missing (set ++ [symbol]) < s.missing set := by
  refine countP_lt_countP (a := symbol.index) ?_ (List.mem_range.mpr h) ?_ ?_
  · intro i _ hi
    simp at hi ⊢
    exact hi.1
  · simpa using hnew
  · simp

theorem missing_append_le {s : Store} {set : List SymbolId} {symbol : SymbolId} :
    s.missing (set ++ [symbol]) ≤ s.missing set := by
  refine List.countP_mono_left ?_
  intro i _ hi
  simp at hi ⊢
  exact hi.1

/-! ## The search -/

/-- The set of restricted symbols after those of a stack were restricted, and with each symbol, as
    soon as it is taken from the stack, those that its initial value depends on. -/
def restrictAll (s : Store) (restricted : List SymbolId) (stack : List SymbolId) : List SymbolId :=
  match stack with
  | [] => restricted
  | symbol :: stack =>
    if symbol ∈ restricted then s.restrictAll restricted stack
    else s.restrictAll (restricted ++ [symbol]) ((s.dependencies symbol).reverse ++ stack)
termination_by (s.missing restricted, stack.length)
decreasing_by
  · -- Nothing new is restricted and the stack gets shorter.
    exact Prod.Lex.right _ (Nat.lt_succ_self _)
  · next hnew =>
    by_cases h : symbol.index < s.symbols.size
    · exact Prod.Lex.left _ _ (missing_append_lt hnew h)
    · -- A symbol outside the store has no dependencies, so the stack gets shorter here too.
      have hdep := dependencies_of_size_le (Nat.le_of_not_lt h)
      rw [hdep]
      rcases Nat.lt_or_eq_of_le (@missing_append_le s restricted symbol) with hlt | heq
      · exact Prod.Lex.left _ _ hlt
      · rw [heq]
        exact Prod.Lex.right _ (Nat.lt_succ_self _)

/-- Restricts a symbol in a template, with all that its initial value depends on. -/
def restrict (s : Store) (t : TemplateId) (symbol : SymbolId) : Store :=
  s.modifyInst (s.template t).inst fun i =>
    { i with binding := { i.binding with
        restricted := s.restrictAll i.binding.restricted [symbol] } }

end TimedNet.Store
