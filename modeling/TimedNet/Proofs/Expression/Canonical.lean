import TimedNet.Expression.Term

/-!
# `TimedNet.Proofs.Expression.Canonical` — equal terms have one canonical form

Equality of terms walks over two trees at once. It looks through spans, it takes the two zeros for one
number, and for it a NaN is equal to no constant but the very one that it is. All this can be said of one
tree at a time: a term has a canonical form, and two terms are equal exactly when their canonical forms are
the same tree. What holds of equality then follows from what the canonical form keeps, by one induction over
one tree for each law.

## Contents
- `Constant.visible`: the mark and the value of a constant, as far as equality looks.
- `Term.canonical`, `Term.equal_iff`.
- `Term.unplaced`, `canonical_unplaced`: the term without its spans has the same canonical form.
- `render_canonical`, `symbols_canonical`, `canonical_map`: text, symbols and renaming.
- `eq_of_map_eq`: a renaming that takes different symbols apart takes different terms apart.
-/

namespace TimedNet

/-! ## Constants -/

namespace Constant

variable {v w : Constant} {m n : Nat}

/-- The mark and the value of a constant, as far as equality looks: only a NaN is told apart from
    others by its mark. -/
def visible (m : Nat) (v : Constant) : Nat × Constant :=
  if v.isNaN then (m, v) else (0, v.canonical)

theorem isNaN_visible (m : Nat) (v : Constant) : (v.visible m).2.isNaN = v.isNaN := by
  unfold visible
  by_cases h : v.isNaN = true
  · rw [if_pos h]
  · rw [if_neg h, isNaN_canonical]

theorem render_visible (m : Nat) (v : Constant) : (v.visible m).2.render = v.render := by
  unfold visible
  by_cases h : v.isNaN = true
  · rw [if_pos h]
  · rw [if_neg h, render_canonical]

/-- Constants of equal value look the same, and so does a constant to itself; no other two do. -/
theorem visible_eq_iff :
    v.visible m = w.visible n ↔ v.equal w = true ∨ m = n ∧ v = w := by
  constructor
  · intro h
    have hnan : w.isNaN = v.isNaN := by rw [← isNaN_visible n, ← h, isNaN_visible]
    unfold visible at h
    rw [hnan] at h
    by_cases hv : v.isNaN = true
    · rw [if_pos hv, if_pos hv] at h
      exact Or.inr (Prod.mk.inj h)
    · rw [if_neg hv, if_neg hv] at h
      exact Or.inl (equal_iff.mpr ⟨Bool.eq_false_iff.mpr hv, (Prod.mk.inj h).2⟩)
  · rintro (h | ⟨rfl, rfl⟩)
    · obtain ⟨hv, heq⟩ := equal_iff.mp h
      have hw : w.isNaN = false := by rw [← isNaN_canonical, ← heq, isNaN_canonical, hv]
      simp [visible, hv, hw, heq]
    · rfl

end Constant

/-! ## Terms -/

namespace Term

universe u v

variable {σ : Type u} {τ : Type v}

mutual

/-- The term that stands for all terms equal to it. -/
def canonical : Term σ → Term σ
  | .empty => .empty
  | .constant mark value _ => .constant (value.visible mark).1 (value.visible mark).2 {}
  | .identifier symbol _ => .identifier symbol {}
  | .compound operator operands _ => .compound operator (canonicalAll operands) {}

/-- The terms that stand for several terms. -/
def canonicalAll : List (Term σ) → List (Term σ)
  | [] => []
  | t :: ts => canonical t :: canonicalAll ts

end

theorem canonicalAll_eq_map (ts : List (Term σ)) : canonicalAll ts = ts.map canonical := by
  induction ts with
  | nil => rfl
  | cons t ts ih => rw [canonicalAll, ih, List.map_cons]

mutual

/-- **Two terms are equal exactly when they have one canonical form.** -/
theorem equal_iff [BEq σ] [LawfulBEq σ] :
    ∀ t u : Term σ, t.equal u = true ↔ t.canonical = u.canonical
  | .empty, u => by cases u <;> simp [equal, canonical]
  | .constant m v p, u => by
    cases u with
    | constant n w q =>
      have hvisible := Constant.visible_eq_iff (v := v) (w := w) (m := m) (n := n)
      simp only [equal, canonical, Bool.or_eq_true, Bool.and_eq_true, beq_iff_eq, constant.injEq,
        and_true, ← hvisible, Prod.ext_iff]
    | _ => simp [equal, canonical]
  | .identifier s p, u => by cases u <;> simp [equal, canonical]
  | .compound f ts p, u => by
    cases u with
    | compound g us q => simp [equal, canonical, equalAll_iff ts us]
    | _ => simp [equal, canonical]

theorem equalAll_iff [BEq σ] [LawfulBEq σ] :
    ∀ ts us : List (Term σ), equalAll ts us = true ↔ canonicalAll ts = canonicalAll us
  | [], us => by cases us <;> simp [equalAll, canonicalAll]
  | t :: ts, us => by
    cases us with
    | nil => simp [equalAll, canonicalAll]
    | cons u us => simp [equalAll, canonicalAll, equal_iff t u, equalAll_iff ts us]

end

/-- Terms with the same canonical forms have the same equal terms. -/
theorem equal_congr [BEq σ] [LawfulBEq σ] {t t' u u' : Term σ} (ht : t.canonical = t'.canonical)
    (hu : u.canonical = u'.canonical) : t.equal u = t'.equal u' := by
  rw [Bool.eq_iff_iff, equal_iff, equal_iff, ht, hu]

/-! ### Spans -/

mutual

/-- The term without its spans. -/
def unplaced : Term σ → Term σ
  | .empty => .empty
  | .constant mark value _ => .constant mark value {}
  | .identifier symbol _ => .identifier symbol {}
  | .compound operator operands _ => .compound operator (unplacedAll operands) {}

/-- Several terms without their spans. -/
def unplacedAll : List (Term σ) → List (Term σ)
  | [] => []
  | t :: ts => unplaced t :: unplacedAll ts

end

mutual

theorem canonical_unplaced : ∀ t : Term σ, t.unplaced.canonical = t.canonical
  | .empty => rfl
  | .constant .. => rfl
  | .identifier .. => rfl
  | .compound _ operands _ => by simp only [unplaced, canonical, canonicalAll_unplacedAll operands]

theorem canonicalAll_unplacedAll : ∀ ts : List (Term σ), canonicalAll (unplacedAll ts) = canonicalAll ts
  | [] => rfl
  | t :: ts => by
    simp only [unplacedAll, canonicalAll, canonical_unplaced t, canonicalAll_unplacedAll ts]

end

/-! ### Text and symbols -/

mutual

theorem render_canonical (name : σ → String) : ∀ t : Term σ, t.canonical.render name = t.render name
  | .empty => rfl
  | .constant mark value _ => value.render_visible mark
  | .identifier .. => rfl
  | .compound _ operands _ => by simp only [canonical, render, renderAll_canonicalAll name operands]

theorem renderAll_canonicalAll (name : σ → String) :
    ∀ ts : List (Term σ), renderAll name (canonicalAll ts) = renderAll name ts
  | [] => rfl
  | t :: ts => by
    simp only [canonicalAll, renderAll, render_canonical name t, renderAll_canonicalAll name ts]

end

mutual

theorem occurrences_canonical : ∀ t : Term σ, t.canonical.occurrences = t.occurrences
  | .empty => rfl
  | .constant .. => rfl
  | .identifier .. => rfl
  | .compound _ operands _ => by
    simp only [canonical, occurrences, occurrencesAll_canonicalAll operands]

theorem occurrencesAll_canonicalAll :
    ∀ ts : List (Term σ), occurrencesAll (canonicalAll ts) = occurrencesAll ts
  | [] => rfl
  | t :: ts => by
    simp only [canonicalAll, occurrencesAll, occurrences_canonical t, occurrencesAll_canonicalAll ts]

end

theorem symbols_canonical [BEq σ] (t : Term σ) : t.canonical.symbols = t.symbols := by
  rw [symbols, symbols, occurrences_canonical]

/-! ### Renaming -/

mutual

theorem canonical_map (f : σ → τ) : ∀ t : Term σ, (t.map f).canonical = t.canonical.map f
  | .empty => rfl
  | .constant .. => rfl
  | .identifier .. => rfl
  | .compound _ operands _ => by simp only [map, canonical, canonicalAll_mapAll f operands]

theorem canonicalAll_mapAll (f : σ → τ) :
    ∀ ts : List (Term σ), canonicalAll (mapAll f ts) = mapAll f (canonicalAll ts)
  | [] => rfl
  | t :: ts => by simp only [mapAll, canonicalAll, canonical_map f t, canonicalAll_mapAll f ts]

end

mutual

/-- A renaming that sends no symbol of one term to where it sends another symbol of the other term
    tells the two terms apart. -/
theorem eq_of_map_eq {f : σ → τ} : ∀ {t u : Term σ},
    (∀ s ∈ t.occurrences, ∀ r ∈ u.occurrences, f s = f r → s = r) → t.map f = u.map f → t = u
  | .empty, u, _, h => by cases u <;> simp_all [map]
  | .constant .., u, _, h => by cases u <;> simp_all [map]
  | .identifier s p, u, hf, h => by
    cases u with
    | identifier r q =>
      simp only [map, identifier.injEq] at h
      rw [hf s List.mem_cons_self r List.mem_cons_self h.1, h.2]
    | _ => simp [map] at h
  | .compound g ts p, u, hf, h => by
    cases u with
    | compound k us q =>
      simp only [map, compound.injEq] at h
      have hoperands : ts = us := eq_of_mapAll_eq hf h.2.1
      rw [h.1, hoperands, h.2.2]
    | _ => simp [map] at h

theorem eq_of_mapAll_eq {f : σ → τ} : ∀ {ts us : List (Term σ)},
    (∀ s ∈ occurrencesAll ts, ∀ r ∈ occurrencesAll us, f s = f r → s = r) →
      mapAll f ts = mapAll f us → ts = us
  | [], us, _, h => by cases us <;> simp_all [mapAll]
  | t :: ts, us, hf, h => by
    cases us with
    | nil => simp [mapAll] at h
    | cons u us =>
      simp only [mapAll, List.cons.injEq] at h
      have hhead : t = u := eq_of_map_eq (fun s hs r hr =>
        hf s (List.mem_append_left _ hs) r (List.mem_append_left _ hr)) h.1
      have htail : ts = us := eq_of_mapAll_eq (fun s hs r hr =>
        hf s (List.mem_append_right _ hs) r (List.mem_append_right _ hr)) h.2
      rw [hhead, htail]

end

end Term

end TimedNet
