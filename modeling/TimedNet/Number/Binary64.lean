/-!
# `TimedNet.Number.Binary64` — numbers of 64-bit binary floating point

Numeric constants are kept by their bits: a sign, eleven bits of exponent and fifty-two of
fraction. What the model needs of them is to read them as exact values and to compare them.

## Contents
- `Binary64`: the bits; `Binary64.isNaN`, `Binary64.isZero`, `Binary64.isInfinite`.
- `Binary64.ofDecimal`, `Binary64.special?`: numbers from decimals and from words.
- `Binary64.magnitude`: a finite number without its sign as `m * 2 ^ q`.
- `Binary64.equal`: numeric equality, under which the zeros agree and no NaN equals anything.
- `Binary64.canonical`, `equal_iff`: one number for all that are equal to it.
-/

namespace TimedNet

/-- A floating-point number, by its bits. -/
structure Binary64 where
  bits : UInt64
deriving DecidableEq, Repr, Inhabited

/-- The exact value `mantissa * 2 ^ exponent` of a finite number without its sign. -/
structure Magnitude where
  mantissa : Nat
  exponent : Int
  /-- The number below is half as far away as the number above. -/
  narrowBelow : Bool
deriving DecidableEq, Repr

namespace Binary64

/-- The number nearest to `mantissa / 10 ^ places`. -/
def ofDecimal (mantissa : Int) (places : Nat) : Binary64 :=
  let x := Float.ofScientific mantissa.natAbs true places
  ⟨(if mantissa < 0 then -x else x).toBits⟩

/-- The numbers that have no digits of their own. -/
def special? : String → Option Binary64
  | "NaN" => some ⟨0x7FF8000000000000⟩
  | "Infinity" => some ⟨0x7FF0000000000000⟩
  | "-Infinity" => some ⟨0xFFF0000000000000⟩
  | "-0" => some ⟨0x8000000000000000⟩
  | _ => none

/-- Whether the sign bit is set. -/
def negative (x : Binary64) : Bool := x.bits >>> 63 == 1

/-- The bits of the exponent. -/
def exponentBits (x : Binary64) : Nat := ((x.bits >>> 52) &&& 0x7FF).toNat

/-- The bits of the fraction. -/
def fractionBits (x : Binary64) : Nat := (x.bits &&& 0xFFFFFFFFFFFFF).toNat

/-- Whether it is not a number. -/
def isNaN (x : Binary64) : Bool := x.exponentBits == 0x7FF && x.fractionBits != 0

/-- Whether it is one of the infinities. -/
def isInfinite (x : Binary64) : Bool := x.exponentBits == 0x7FF && x.fractionBits == 0

/-- Whether it is one of the two zeros. -/
def isZero (x : Binary64) : Bool := x.exponentBits == 0 && x.fractionBits == 0

/-- The value of a finite number without its sign. -/
def magnitude (x : Binary64) : Magnitude :=
  if x.exponentBits == 0 then ⟨x.fractionBits, -1074, false⟩
  else ⟨0x10000000000000 + x.fractionBits, (x.exponentBits : Int) - 1075,
    x.fractionBits == 0 && decide (1 < x.exponentBits)⟩

/-- Numeric equality: a NaN equals nothing, and the two zeros are equal. -/
def equal (x y : Binary64) : Bool :=
  !x.isNaN && !y.isNaN && (x == y || x.isZero && y.isZero)

/-! ## Numeric equality -/

section

variable {x y : Binary64}

/-- The number that stands for all numbers equal to it: there is one for the two zeros. -/
def canonical (x : Binary64) : Binary64 := if x.isZero then ⟨0⟩ else x

theorem isNaN_of_isZero (h : x.isZero = true) : x.isNaN = false := by
  simp only [isZero, Bool.and_eq_true, beq_iff_eq] at h
  simp [isNaN, h.1]

theorem isNaN_canonical (x : Binary64) : x.canonical.isNaN = x.isNaN := by
  unfold canonical
  by_cases h : x.isZero = true
  · rw [if_pos h, isNaN_of_isZero h]
    decide
  · rw [if_neg h]

theorem isZero_canonical (x : Binary64) : x.canonical.isZero = x.isZero := by
  unfold canonical
  by_cases h : x.isZero = true
  · rw [if_pos h, h]
    decide
  · rw [if_neg h]

/-- Two numbers are equal when they are numbers at all and have one canonical form. -/
theorem equal_iff : x.equal y = true ↔ x.isNaN = false ∧ x.canonical = y.canonical := by
  simp only [equal, Bool.and_eq_true, Bool.or_eq_true, Bool.not_eq_true', beq_iff_eq]
  constructor
  · rintro ⟨⟨hx, -⟩, rfl | ⟨hx0, hy0⟩⟩
    · exact ⟨hx, rfl⟩
    · exact ⟨hx, by rw [canonical, canonical, if_pos hx0, if_pos hy0]⟩
  · rintro ⟨hx, heq⟩
    have hy : y.isNaN = false := by rw [← isNaN_canonical, ← heq, isNaN_canonical, hx]
    refine ⟨⟨hx, hy⟩, ?_⟩
    have hzero : x.isZero = y.isZero := by rw [← isZero_canonical, heq, isZero_canonical]
    by_cases h : x.isZero = true
    · exact Or.inr ⟨h, hzero ▸ h⟩
    · rw [canonical, canonical, if_neg h, if_neg (hzero ▸ h)] at heq
      exact Or.inl heq

end

end Binary64

end TimedNet
