import TimedNet.Number.Binary64

/-!
# `TimedNet.Number.Shortest` — the fewest decimal digits that read back

The reals that round to a binary number form an interval around it, from halfway to the number
below to halfway to the number above; the ends belong to it exactly when the mantissa is even. A
decimal in the interval reads back as the number. The digits chosen are those of the coarsest
decimal grid that has a point in the interval; of two such points the closer, and of two equally
close ones the even.

## Contents
- `Decimal`: digits and a power of ten.
- `wholePower`, `compareScaled`: powers and comparisons without fractions.
- `Magnitude.readsBack`: whether a decimal lies in the interval.
- `Magnitude.scale`: the power of ten just above the value.
- `Magnitude.shortest`: the decimal chosen.
-/

namespace TimedNet

/-- The value `digits * 10 ^ exponent`. -/
structure Decimal where
  digits : Nat
  exponent : Int
deriving DecidableEq, Repr

/-- The power `base ^ e`, or one when `e` is negative. Two numbers with powers in them are compared
    without fractions when a negative power of one becomes a whole power of the other. -/
def wholePower (base : Nat) (e : Int) : Nat := Nat.pow base e.toNat

/-- Compares `a * 10 ^ i` with `n * 2 ^ j`, exactly. -/
def compareScaled (a : Nat) (i : Int) (n : Nat) (j : Int) : Ordering :=
  compare (a * wholePower 10 i * wholePower 2 (-j)) (n * wholePower 2 j * wholePower 10 (-i))

/-- How many decimal digits a number has. -/
def decimalLength (n : Nat) : Nat := (Nat.toDigits 10 n).length

namespace Magnitude

/-- Whether the decimal lies among the reals that round to this value. -/
def readsBack (x : Magnitude) (d : Decimal) : Bool :=
  -- The ends of the interval, in quarters of the last place of the mantissa.
  let below := if x.narrowBelow then 4 * x.mantissa - 1 else 4 * x.mantissa - 2
  let above := 4 * x.mantissa + 2
  let closed := x.mantissa % 2 == 0
  let low := compareScaled d.digits d.exponent below (x.exponent - 2)
  let high := compareScaled d.digits d.exponent above (x.exponent - 2)
  (low == .gt || closed && low == .eq) && (high == .lt || closed && high == .eq)

/-- The least `k` for which the value, which is not zero, is below `10 ^ k`. -/
def scale (x : Magnitude) : Int :=
  let num := x.mantissa * wholePower 2 x.exponent
  let den := wholePower 2 (-x.exponent)
  if den ≤ num then decimalLength (num / den)
  else 1 - (decimalLength ((den - 1) / num) : Int)

/-- The value divided by `10 ^ e`, rounded down. -/
def floorAt (x : Magnitude) (e : Int) : Nat :=
  (x.mantissa * wholePower 2 x.exponent * wholePower 10 (-e))
    / (wholePower 10 e * wholePower 2 (-x.exponent))

/-- The point nearest to the value, an even one between two equally near, among those points of the
    grid `10 ^ e` next to the value that read back. -/
def nearestAt (x : Magnitude) (e : Int) : Option Decimal :=
  let low : Decimal := ⟨x.floorAt e, e⟩
  let high : Decimal := ⟨x.floorAt e + 1, e⟩
  match x.readsBack low, x.readsBack high with
  | true, false => some low
  | false, true => some high
  | false, false => none
  | true, true =>
    match compareScaled (2 * low.digits + 1) e (2 * x.mantissa) x.exponent with
    | .gt => some low
    | .lt => some high
    | .eq => some (if low.digits % 2 == 0 then low else high)

end Magnitude

/-- The decimal without zeros at the end of its digits, dropping at most `bound` of them. -/
def Decimal.strip (d : Decimal) : Nat → Decimal
  | 0 => d
  | bound + 1 =>
    if d.digits % 10 == 0 && d.digits != 0 then
      Decimal.strip ⟨d.digits / 10, d.exponent + 1⟩ bound
    else d

/-- The decimal with the fewest digits that reads back as the value, which is not zero. Seventeen
    digits are always enough. -/
def Magnitude.shortest (x : Magnitude) : Decimal :=
  let found := (List.range 17).findSome? fun (i : Nat) => x.nearestAt (x.scale - (i + 1 : Nat))
  (found.getD ⟨x.floorAt (x.scale - 17), x.scale - 17⟩).strip 18

end TimedNet
