import TimedNet.Number.Shortest

/-!
# `TimedNet.Number.Text` — how numbers are written

A number is written with the fewest digits that read back. When its leading digit stands for a
power of ten from -6 to 20 it is written positionally, otherwise with one digit before the point
and a signed exponent. Zero has no sign.

## Contents
- `Decimal.layout`: a decimal as text; `Binary64.text`: a number as text; `text_canonical`.
-/

namespace TimedNet

/-- A decimal as text: positional from `10 ^ -6` up to `10 ^ 20`, scientific elsewhere. -/
def Decimal.layout (d : Decimal) : String :=
  let ds := Nat.toDigits 10 d.digits
  let point : Int := d.exponent + ds.length
  let text (cs : List Char) : String := String.ofList cs
  if ds.length ≤ point ∧ point ≤ 21 then
    text (ds ++ List.replicate (point - ds.length).toNat '0')
  else if 0 < point ∧ point ≤ 21 then
    text (ds.take point.toNat ++ '.' :: ds.drop point.toNat)
  else if -6 < point ∧ point ≤ 0 then
    text ('0' :: '.' :: List.replicate (-point).toNat '0' ++ ds)
  else
    let power := point - 1
    let fraction := if ds.length = 1 then [] else '.' :: ds.drop 1
    let sign := if power < 0 then '-' else '+'
    text (ds.take 1 ++ fraction ++ 'e' :: sign :: Nat.toDigits 10 power.natAbs)

/-- A number as text. -/
def Binary64.text (x : Binary64) : String :=
  if x.isNaN then "NaN"
  else if x.isZero then "0"
  else
    let sign := if x.negative then "-" else ""
    if x.isInfinite then sign ++ "Infinity" else sign ++ x.magnitude.shortest.layout

/-- Equal numbers are written alike, for a zero is written without its sign. -/
theorem Binary64.text_canonical (x : Binary64) : x.canonical.text = x.text := by
  unfold canonical
  by_cases h : x.isZero = true
  · rw [if_pos h]
    calc
      (⟨0⟩ : Binary64).text = "0" := by decide
      _ = x.text := by simp [text, isNaN_of_isZero h, h]
  · rw [if_neg h]

example : (Binary64.mk (1e21 : Float).toBits).text = "1e+21" := by decide +kernel
example : (Binary64.mk (1e20 : Float).toBits).text = "100000000000000000000" := by decide +kernel
example : (Binary64.mk (0.000001 : Float).toBits).text = "0.000001" := by decide +kernel
example : (Binary64.mk 1).text = "5e-324" := by decide +kernel

end TimedNet
