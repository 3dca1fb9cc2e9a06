/-!
# `TimedNet.Arena` — append-only arenas with checked handles

Locations, branchpoints and instance lines are referred to from elsewhere in their template by a
handle: the number of the arena that holds the entry and the entry's position in it. An arena only
grows, so a handle keeps its meaning, and a handle of another arena, for instance one of a copied
template, is refused instead of reaching an unrelated entry.

## Contents
- `Handle`, `Arena`, `Arena.Fault`.
- `Arena.push`, `Arena.handle`, `Arena.get`, `Arena.owns`, `Arena.rebase`.
- `owns_iff`: a handle is owned exactly when it dereferences.
-/

namespace TimedNet

universe u

/-- A place in an arena. Any pair of whole numbers is a handle; which ones lead somewhere is checked. -/
structure Handle where
  arena : Int
  /-- The position of the entry. Entries stand at whole positions only, so fractions and infinities are
      left out. -/
  index : Int
deriving DecidableEq, Repr, Inhabited

/-- Entries in order of arrival, under a number of its own; the label names what they are. -/
structure Arena (α : Type u) where
  id : Nat
  label : String
  items : List α := []
deriving Repr

namespace Arena

variable {α : Type u}

instance : Inhabited (Arena α) := ⟨0, "", []⟩

/-- Why a handle was refused. -/
inductive Fault where
  /-- No entry stands at that position. -/
  | outOfRange (label : String) (index : Int)
  /-- The handle belongs to the arena `owner`, not to arena `arena`. -/
  | foreign (owner : Int) (label : String) (arena : Nat)
deriving DecidableEq, Repr

/-- The text of a fault. -/
def Fault.message : Fault → String
  | .outOfRange label index => s!"No {label} at index {index}"
  | .foreign owner label arena => s!"Handle into arena {owner} used on {label} arena {arena}"

/-- How many entries there are. -/
def size (a : Arena α) : Nat := a.items.length

/-- The arena with one more entry. -/
def push (a : Arena α) (item : α) : Arena α := { a with items := a.items ++ [item] }

/-- The handle of position `i`, whether an entry stands there yet or not. -/
def handleAt (a : Arena α) (i : Nat) : Handle := ⟨a.id, i⟩

/-- The entry at a plain position. -/
def at? (a : Arena α) : Int → Option α
  | .ofNat i => a.items[i]?
  | .negSucc _ => none

/-- The handle of the entry at a position. Any whole number may be asked for; fractions, which lie between
    two entries, are left out. -/
def handle (a : Arena α) (index : Int) : Except Fault Handle :=
  if 0 ≤ index ∧ index < a.size then .ok ⟨a.id, index⟩ else .error (.outOfRange a.label index)

/-- Whether the handle is one of this arena's and an entry stands there. -/
def owns (a : Arena α) (h : Handle) : Bool :=
  h.arena = a.id && 0 ≤ h.index && h.index < a.size

/-- The entry behind a handle. Whose handle it is counts first, where it points second. -/
def get (a : Arena α) (h : Handle) : Except Fault α :=
  if h.arena = a.id then
    match a.at? h.index with
    | some item => .ok item
    | none => .error (.outOfRange a.label h.index)
  else .error (.foreign h.arena a.label a.id)

/-- The position of the first entry that `p` accepts. -/
def findIdx? (a : Arena α) (p : α → Bool) : Option Nat := a.items.findIdx? p

/-- The handle of this arena at the position of a handle of another, such as the arena that this
    one was copied from. -/
def rebase (a : Arena α) (h : Handle) : Except Fault Handle := a.handle h.index

/-! ## What the operations do to the entries -/

@[simp] theorem items_push (a : Arena α) (item : α) : (a.push item).items = a.items ++ [item] := rfl

@[simp] theorem id_push (a : Arena α) (item : α) : (a.push item).id = a.id := rfl

@[simp] theorem label_push (a : Arena α) (item : α) : (a.push item).label = a.label := rfl

@[simp] theorem size_push (a : Arena α) (item : α) : (a.push item).size = a.size + 1 := by
  simp [size]

theorem at?_isSome_iff {a : Arena α} {index : Int} :
    (a.at? index).isSome ↔ 0 ≤ index ∧ index < a.size := by
  cases index with
  | ofNat i => simp [at?, size]
  | negSucc i => simp [at?]

/-- An arena owns exactly the handles that it dereferences. -/
theorem owns_iff {a : Arena α} {h : Handle} : a.owns h = true ↔ ∃ item, a.get h = .ok item := by
  unfold owns get
  by_cases hid : h.arena = a.id
  · have hs := @at?_isSome_iff α a h.index
    cases hat : a.at? h.index with
    | none => simp [hat] at hs; simpa [hid] using hs
    | some item => simp [hat] at hs; simpa [hid] using hs
  · simp [hid]

end Arena

end TimedNet
