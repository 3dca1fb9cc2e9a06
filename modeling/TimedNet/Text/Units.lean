/-!
# `TimedNet.Text.Units` — text measured and ordered in 16-bit units

Lengths and orders that leave this library count 16-bit units: a character up to U+FFFF is one
unit, any other is a surrogate pair. The order differs from the one by code point exactly where a
pair, which starts with a unit from D800 to DBFF, meets a character from U+E000 on.

## Contents
- `Text.units`: the units of a text; `Text.unitCount`: how many; `Text.unitsLt`: their order.
-/

namespace TimedNet.Text

/-- The one or two units of a character. -/
def charUnits (c : Char) : List Nat :=
  if c.toNat < 0x10000 then [c.toNat]
  else [0xD800 + (c.toNat - 0x10000) / 0x400, 0xDC00 + (c.toNat - 0x10000) % 0x400]

/-- The units of a text. -/
def units (s : String) : List Nat := s.toList.flatMap charUnits

/-- The length of a text in units. -/
def unitCount (s : String) : Nat :=
  s.toList.foldl (fun n c => if c.toNat < 0x10000 then n + 1 else n + 2) 0

/-- Whether `a` comes before `b` in the order of their units. -/
def unitsLt (a b : String) : Bool := decide (units a < units b)

end TimedNet.Text
