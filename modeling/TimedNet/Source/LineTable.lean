import TimedNet.Source.Span

/-!
# `TimedNet.Source.LineTable` — from offsets to lines

The table lists where the lines of the parts of a document start, so that an offset can be reported
as a line of the part where the user wrote it. Lines may be registered in any order; the table
stays sorted by offset, and lines at one offset keep their order of arrival.

## Contents
- `LineInfo`, `LineTable`.
- `LineTable.upperBound`: binary search for the first line that starts after an offset.
- `LineTable.insert`, `LineTable.find`.
- `upperBound_le`: the search stays inside the table.
-/

namespace TimedNet

/-- The start of a line: its offset in the whole text, its offset in its part, its number, and the
    part. -/
structure LineInfo where
  position : Int
  offset : Int
  line : Int
  path : String
deriving DecidableEq, Repr, Inhabited

/-- Line starts, sorted by position. -/
structure LineTable where
  entries : Array LineInfo := #[]
deriving DecidableEq, Repr, Inhabited

namespace LineTable

/-- How many lines are registered. -/
def size (t : LineTable) : Nat := t.entries.size

/-- The first index from `lo` up to `hi` whose line starts after `q`, or `hi`, when all lines before
    `lo` start at `q` or before it and all from `hi` on start after it. -/
def searchAfter (entries : Array LineInfo) (q : Int) (lo hi : Nat) (bound : hi ≤ entries.size) :
    Nat :=
  if range : lo < hi then
    -- Lines up to the middle one start at `q` or before it, or lines from there on start after it.
    if entries[(lo + hi) / 2].position ≤ q then searchAfter entries q ((lo + hi) / 2 + 1) hi bound
    else searchAfter entries q lo ((lo + hi) / 2) (by omega)
  else lo
termination_by hi - lo

/-- The first index whose line starts after `q`. -/
def upperBound (t : LineTable) (q : Int) : Nat :=
  searchAfter t.entries q 0 t.entries.size (Nat.le_refl _)

theorem searchAfter_le (entries : Array LineInfo) (q : Int) (lo hi : Nat)
    (bound : hi ≤ entries.size) (h : lo ≤ hi) : searchAfter entries q lo hi bound ≤ hi := by
  fun_induction searchAfter entries q lo hi bound with
  | case1 lo hi _ range _ ih => exact ih (by omega)
  | case2 lo hi _ range _ ih => exact Nat.le_trans (ih (by omega)) (by omega)
  | case3 lo hi _ range => exact h

theorem upperBound_le (t : LineTable) (q : Int) : t.upperBound q ≤ t.entries.size :=
  searchAfter_le _ _ _ _ _ (Nat.zero_le _)

/-- Registers a line. One that starts at the last line or after it goes to the end, as do all of a
    text read in order; any other is put after those that start at its position or before it. -/
def insert (t : LineTable) (e : LineInfo) : LineTable :=
  match t.entries.back? with
  | none => ⟨t.entries.push e⟩
  | some last =>
    if last.position ≤ e.position then ⟨t.entries.push e⟩
    else ⟨t.entries.insertIdx (t.upperBound e.position) e (t.upperBound_le e.position)⟩

/-- The last line that starts at `q` or before it. -/
def find (t : LineTable) (q : Int) : Option LineInfo :=
  match t.upperBound q with
  | 0 => none
  | i + 1 => t.entries[i]?

end LineTable

end TimedNet
