import TimedNet.Proofs.Expression.Canonical

/-!
# `TimedNet.Proofs.Expression.Equality` — equality of terms is a congruence

Terms are parts of each other and are shared: one object can be an operand at two places of a term, or stand
in two terms. A comparison may stop where it meets one object on both sides. It may always do so, for an
object is equal to itself even when there is a NaN in it; and it must do so at a NaN, which by its value is
equal to nothing. So the answer does not depend on what else is shared, and equality is told by canonical forms
alone (`Term.equal_iff`).

## Contents
- `Term.node?`: the node of a term at the end of a path.
- `Term.Sharing`, `Term.equalSharing`: a comparison that stops at shared objects; `equalSharing_eq`.
- `Term.Congruence`, `equal_congruence`: the laws of equality.
-/

namespace TimedNet.Term

universe u v

variable {σ : Type u} {τ : Type v}

/-! ## Shared objects -/

/-- The node that is reached when one goes down from a term to the operands of the given numbers. -/
def node? : List Nat → Term σ → Option (Term σ)
  | [], t => some t
  | i :: path, t => t.operands[i]?.bind (node? path)

theorem node?_cons {f : String} {ts : List (Term σ)} {p : Span} {i : Nat} {t : Term σ}
    (ht : ts[i]? = some t) (path : List Nat) : (compound f ts p).node? (i :: path) = t.node? path := by
  simp only [node?, operands, ht, Option.bind_some]

/-- What `same` can be when it tells of every path whether it leads to one object in both terms: an object
    is one tree wherever it stands, and a constant that has the mark and the value of another is that
    constant. -/
structure Sharing (same : List Nat → Bool) (t u : Term σ) : Prop where
  node_eq : ∀ path, same path = true → t.node? path = u.node? path
  constant : ∀ path mark value p q, t.node? path = some (.constant mark value p) →
    u.node? path = some (.constant mark value q) → same path = true

theorem Sharing.operand {same : List Nat → Bool} {f g : String} {ts us : List (Term σ)} {p q : Span}
    (h : Sharing same (.compound f ts p) (.compound g us q)) {i : Nat} {t u : Term σ}
    (ht : ts[i]? = some t) (hu : us[i]? = some u) : Sharing (fun path => same (i :: path)) t u := by
  constructor
  · intro path hsame
    rw [← node?_cons ht, ← node?_cons hu]
    exact h.node_eq (i :: path) hsame
  · intro path mark value p' q' hvalue hvalue'
    rw [← node?_cons ht] at hvalue
    rw [← node?_cons hu] at hvalue'
    exact h.constant (i :: path) mark value p' q' hvalue hvalue'

mutual

/-- Equality of trees by a comparison that looks no further where it meets one object on both sides. Apart
    from that, constants are compared by their values. -/
def equalSharing [BEq σ] (same : List Nat → Bool) : Term σ → Term σ → Bool
  | .empty, .empty => true
  | .constant _ v _, .constant _ w _ => same [] || v.equal w
  | .identifier s _, .identifier r _ => same [] || s == r
  | .compound f ts _, .compound g us _ =>
    same [] || f == g && equalSharingAll (fun i path => same (i :: path)) ts us
  | _, _ => same []

/-- Equality of lists of trees; the objects shared are told for every position. -/
def equalSharingAll [BEq σ] (same : Nat → List Nat → Bool) : List (Term σ) → List (Term σ) → Bool
  | [], [] => true
  | t :: ts, u :: us => equalSharing (same 0) t u && equalSharingAll (fun i => same (i + 1)) ts us
  | _, _ => false

end

theorem equal_self [BEq σ] [LawfulBEq σ] (t : Term σ) : t.equal t = true := (equal_iff t t).mpr rfl

/-- Terms that are one object are one tree. -/
theorem Sharing.same_eq_false {same : List Nat → Bool} {t u : Term σ} (h : Sharing same t u)
    (hne : t ≠ u) : same [] = false := by
  apply Bool.eq_false_iff.mpr
  intro hsame
  exact hne (Option.some.inj (h.node_eq [] hsame))

mutual

/-- **It does not matter where a comparison stops at shared objects.** -/
theorem equalSharing_eq [BEq σ] [LawfulBEq σ] : ∀ (t u : Term σ) {same : List Nat → Bool},
    Sharing same t u → t.equalSharing same u = t.equal u
  | .empty, u, same, h => by
    cases u with
    | empty => rfl
    | _ => exact h.same_eq_false (by simp)
  | .constant m v p, u, same, h => by
    cases u with
    | constant n w q =>
      simp only [equalSharing, equal]
      by_cases hone : m = n ∧ v = w
      · -- The comparison of values fails for a NaN, and only the shared object saves the answer.
        obtain ⟨rfl, rfl⟩ := hone
        simp [h.constant [] m v p q rfl rfl]
      · have hne : (.constant m v p : Term σ) ≠ .constant n w q := by
          intro heq
          obtain ⟨hmark, hvalue, -⟩ := constant.inj heq
          exact hone ⟨hmark, hvalue⟩
        rw [h.same_eq_false hne]
        simp [hone]
    | _ => exact h.same_eq_false (by simp)
  | .identifier s p, u, same, h => by
    cases u with
    | identifier r q =>
      simp only [equalSharing, equal]
      by_cases hone : s = r
      · simp [hone]
      · rw [h.same_eq_false (by simp [hone])]
        simp
    | _ => exact h.same_eq_false (by simp)
  | .compound f ts p, u, same, h => by
    cases u with
    | compound g us q =>
      have hoperands := equalSharingAll_eq ts us fun i t u ht hu => h.operand ht hu
      cases hsame : same [] with
      | true =>
        have htree : compound f ts p = compound g us q := Option.some.inj (h.node_eq [] hsame)
        rw [← htree, equal_self, equalSharing, hsame, Bool.true_or]
      | false => simp only [equalSharing, equal, hsame, hoperands, Bool.false_or]
    | _ => exact h.same_eq_false (by simp)

theorem equalSharingAll_eq [BEq σ] [LawfulBEq σ] : ∀ (ts us : List (Term σ))
    {same : Nat → List Nat → Bool},
    (∀ i t u, ts[i]? = some t → us[i]? = some u → Sharing (same i) t u) →
      equalSharingAll same ts us = equalAll ts us
  | [], us, same, _ => by cases us <;> rfl
  | t :: ts, us, same, h => by
    cases us with
    | nil => rfl
    | cons u us =>
      have hhead := equalSharing_eq t u (h 0 t u rfl rfl)
      have htail := equalSharingAll_eq ts us fun i t u ht hu => h (i + 1) t u ht hu
      rw [equalSharingAll, equalAll, hhead, htail]

end

/-! ## The theorem -/

theorem equal_compound [BEq σ] [LawfulBEq σ] {t u : Term σ} (h : t.equal u = true) (operator : String)
    (before after : List (Term σ)) (p q : Span) :
    (compound operator (before ++ t :: after) p).equal (.compound operator (before ++ u :: after) q)
      = true := by
  have hoperand : t.canonical = u.canonical := (equal_iff t u).mp h
  apply (equal_iff _ _).mpr
  simp only [canonical, canonicalAll_eq_map, List.map_append, List.map_cons, hoperand]

/-- The laws of equality, for symbols of type `σ` that are renamed to symbols of type `τ`.

    Equality is an equivalence, whatever the terms share and whichever NaNs and zeros are in them. It looks
    neither at spans nor at which objects are shared. Equal terms have the same text and the same symbols, and
    stay equal as operands and when their symbols are renamed. A renaming that sends no symbol of one term to
    where it sends another symbol of the other makes no two terms equal that were not. -/
structure Congruence (σ : Type u) (τ : Type v) [DecidableEq σ] [DecidableEq τ] : Prop where
  equivalence : Equivalence fun t u : Term σ => t.equal u = true
  shared : ∀ (t u : Term σ) (same : List Nat → Bool), Sharing same t u →
    t.equalSharing same u = t.equal u
  unplaced : ∀ t t' u u' : Term σ, t.unplaced = t'.unplaced → u.unplaced = u'.unplaced →
    t.equal u = t'.equal u'
  render : ∀ t u : Term σ, t.equal u = true → ∀ name : σ → String, t.render name = u.render name
  symbols : ∀ t u : Term σ, t.equal u = true → t.symbols = u.symbols
  operand : ∀ t u : Term σ, t.equal u = true → ∀ operator before after p q,
    (compound operator (before ++ t :: after) p).equal (.compound operator (before ++ u :: after) q) = true
  map : ∀ t u : Term σ, t.equal u = true → ∀ f : σ → τ, (t.map f).equal (u.map f) = true
  of_map : ∀ (t u : Term σ) (f : σ → τ), (∀ s ∈ t.symbols, ∀ r ∈ u.symbols, f s = f r → s = r) →
    (t.map f).equal (u.map f) = true → t.equal u = true

/-- **Equality of terms is a congruence.** -/
theorem equal_congruence [DecidableEq σ] [DecidableEq τ] : Congruence σ τ where
  equivalence :=
    { refl := equal_self
      symm := fun {t u} h => by
        rw [equal_iff] at h ⊢
        exact h.symm
      trans := fun {t u v} h h' => by
        rw [equal_iff] at h h' ⊢
        exact h.trans h' }
  shared t u same := equalSharing_eq t u
  unplaced t t' u u' ht hu := by
    apply equal_congr
    · rw [← canonical_unplaced t, ht, canonical_unplaced]
    · rw [← canonical_unplaced u, hu, canonical_unplaced]
  render t u h name := by rw [← render_canonical, (equal_iff t u).mp h, render_canonical]
  symbols t u h := by rw [← symbols_canonical, (equal_iff t u).mp h, symbols_canonical]
  operand t u h := equal_compound h
  map t u h f := by rw [equal_iff, canonical_map, canonical_map, (equal_iff t u).mp h]
  of_map t u f hf h := by
    rw [equal_iff, canonical_map, canonical_map] at h
    apply (equal_iff t u).mpr
    refine eq_of_map_eq (fun s hs r hr => ?_) h
    rw [occurrences_canonical] at hs hr
    exact hf s (List.mem_eraseDups.mpr hs) r (List.mem_eraseDups.mpr hr)

/-- A call with a symbol, the NaN of mark `1` and a zero as operands. -/
def nanCall (mark : Nat) (zero : Binary64) (span : Span) : Term Nat :=
  .compound "f" [.identifier 7 span, .constant 1 (.number ⟨0x7FF8000000000000⟩) {},
    .constant mark (.number zero) span] span

/-- Two calls share a NaN and have different zeros and spans. They are equal, though a comparison that did
    not see that the NaN is one object would deny it; and they stay equal when the symbol is renamed. -/
theorem equal_congruence_shared_nan :
    let t := nanCall 2 ⟨0⟩ ⟨2, 3⟩
    let u := nanCall 3 ⟨0x8000000000000000⟩ ⟨4, 5⟩
    Sharing (fun path => path == [1]) t u ∧ t.equalSharing (fun path => path == [1]) u = true
      ∧ t.equalSharing (fun _ => false) u = false ∧ t.render toString = u.render toString
      ∧ (t.map fun n => n + 1).equal (u.map fun n => n + 1) = true := by
  have hlaws := equal_congruence (σ := Nat) (τ := Nat)
  have hequal : (nanCall 2 ⟨0⟩ ⟨2, 3⟩).equal (nanCall 3 ⟨0x8000000000000000⟩ ⟨4, 5⟩) = true := by decide
  have hsharing : Sharing (fun path => path == [1]) (nanCall 2 ⟨0⟩ ⟨2, 3⟩)
      (nanCall 3 ⟨0x8000000000000000⟩ ⟨4, 5⟩) := by
    constructor
    · intro path h
      rw [beq_iff_eq.mp h]
      rfl
    · intro path mark value p q ht hu
      match path with
      | [] => simp [node?, nanCall] at ht
      | 0 :: path => cases path <;> simp [node?, nanCall, operands] at ht
      | [1] => rfl
      | 1 :: _ :: path => simp [node?, nanCall, operands] at ht
      | [2] =>
        simp only [node?, nanCall, operands, List.getElem?_cons_succ, List.getElem?_cons_zero,
          Option.bind_some, Option.some.injEq, constant.injEq] at ht hu
        exact absurd (ht.1.trans hu.1.symm) (by decide)
      | 2 :: _ :: path => simp [node?, nanCall, operands] at ht
      | (_ + 3) :: path => simp [node?, nanCall, operands] at ht
  exact ⟨hsharing, (hlaws.shared _ _ _ hsharing).trans hequal, by decide,
    hlaws.render _ _ hequal toString, hlaws.map _ _ hequal _⟩

end TimedNet.Term
