import TimedNet.Expression.Constant
import TimedNet.Source.Span

/-!
# `TimedNet.Expression.Term` — the trees behind guards, labels and arguments

What a term means is not known here. The model prints terms, compares them, asks which symbols they
mention, and renames those symbols. The type of the symbols is a parameter.

## Contents
- `Term`, `Term.kind`, `Term.span`.
- `Term.nest`: a term below several levels of one operator.
- `Term.walk`: the nodes, a node before its operands and operands from left to right.
- `Term.occurrences`, `Term.symbols`, `Term.references`: the symbols mentioned.
- `Term.equal`: equality that looks through spans.
- `Term.map`: the term with its symbols renamed; `map_id`, `map_map`, `occurrences_map`.
- `Term.render`: the term as text.
-/

namespace TimedNet

universe u v w

/-- A tree over symbols of type `σ`. A constant carries a mark that tells apart two constants that
    were written at different places: a NaN equals no constant but itself. -/
inductive Term (σ : Type u) where
  | empty
  | constant (mark : Nat) (value : Constant) (span : Span)
  | identifier (symbol : σ) (span : Span)
  | compound (operator : String) (operands : List (Term σ)) (span : Span)
deriving Repr

/-- The four shapes of a term. -/
inductive TermKind where
  | empty | constant | identifier | compound
deriving DecidableEq, Repr

/-- The word for a shape. -/
def TermKind.word : TermKind → String
  | .empty => "empty"
  | .constant => "constant"
  | .identifier => "identifier"
  | .compound => "compound"

namespace Term

variable {σ : Type u} {τ : Type v} {ρ : Type w}

instance : Inhabited (Term σ) := ⟨.empty⟩

/-- The shape of a term. -/
def kind : Term σ → TermKind
  | .empty => .empty
  | .constant .. => .constant
  | .identifier .. => .identifier
  | .compound .. => .compound

/-- Where a term was written. -/
def span : Term σ → Span
  | .empty => {}
  | .constant _ _ span => span
  | .identifier _ span => span
  | .compound _ _ span => span

/-- The operator of a compound term; no other term has one. -/
def operator : Term σ → String
  | .compound operator _ _ => operator
  | _ => ""

/-- The operands of a compound term; no other term has any. -/
def operands : Term σ → List (Term σ)
  | .compound _ operands _ => operands
  | _ => []

/-- Whether there is nothing. -/
def isEmpty : Term σ → Bool
  | .empty => true
  | _ => false

/-- The term as the first operand of a compound term, that one as the first operand of another, and
    so on for a number of levels that all have the same operator, further operands and span. -/
def nest (t : Term σ) (operator : String) (more : List (Term σ)) (span : Span) : Nat → Term σ
  | 0 => t
  | n + 1 => .compound operator (t.nest operator more span n :: more) span

/-! ## Nodes and symbols -/

mutual

/-- The nodes of a term, a node before its operands. -/
def walk : Term σ → List (Term σ)
  | .compound operator operands span => .compound operator operands span :: walkAll operands
  | t => [t]

/-- The nodes of several terms, from left to right. -/
def walkAll : List (Term σ) → List (Term σ)
  | [] => []
  | t :: ts => walk t ++ walkAll ts

end

mutual

/-- The symbol at every identifier, in the order of the nodes. -/
def occurrences : Term σ → List σ
  | .identifier symbol _ => [symbol]
  | .compound _ operands _ => occurrencesAll operands
  | _ => []

/-- The symbols at the identifiers of several terms. -/
def occurrencesAll : List (Term σ) → List σ
  | [] => []
  | t :: ts => occurrences t ++ occurrencesAll ts

end

/-- The symbols mentioned, each once, in the order of their first occurrences. -/
def symbols [BEq σ] (t : Term σ) : List σ := t.occurrences.eraseDups

/-- Whether a symbol is mentioned. -/
def references [BEq σ] (t : Term σ) (s : σ) : Bool := t.symbols.contains s

/-! ## Equality -/

mutual

/-- Equality of trees: spans do not count, and a constant equals those of equal value and the very
    constant that it is. -/
def equal [BEq σ] : Term σ → Term σ → Bool
  | .empty, .empty => true
  | .constant m v _, .constant n w _ => v.equal w || m == n && v == w
  | .identifier s _, .identifier t _ => s == t
  | .compound f ts _, .compound g us _ => f == g && equalAll ts us
  | _, _ => false

/-- Equality of lists of trees, position by position. -/
def equalAll [BEq σ] : List (Term σ) → List (Term σ) → Bool
  | [], [] => true
  | t :: ts, u :: us => equal t u && equalAll ts us
  | _, _ => false

end

/-! ## Renaming -/

mutual

/-- The term with every symbol passed through `f`. -/
def map (f : σ → τ) : Term σ → Term τ
  | .empty => .empty
  | .constant mark value span => .constant mark value span
  | .identifier symbol span => .identifier (f symbol) span
  | .compound operator operands span => .compound operator (mapAll f operands) span

/-- Several terms with every symbol passed through `f`. -/
def mapAll (f : σ → τ) : List (Term σ) → List (Term τ)
  | [] => []
  | t :: ts => map f t :: mapAll f ts

end

mutual

theorem map_id : ∀ t : Term σ, t.map id = t
  | .empty => rfl
  | .constant .. => rfl
  | .identifier .. => rfl
  | .compound _ operands _ => by rw [map, mapAll_id operands]

theorem mapAll_id : ∀ ts : List (Term σ), mapAll id ts = ts
  | [] => rfl
  | t :: ts => by rw [mapAll, map_id t, mapAll_id ts]

end

mutual

theorem map_map (f : σ → τ) (g : τ → ρ) : ∀ t : Term σ, (t.map f).map g = t.map (g ∘ f)
  | .empty => rfl
  | .constant .. => rfl
  | .identifier .. => rfl
  | .compound _ operands _ => by simp only [map, mapAll_mapAll f g operands]

theorem mapAll_mapAll (f : σ → τ) (g : τ → ρ) :
    ∀ ts : List (Term σ), mapAll g (mapAll f ts) = mapAll (g ∘ f) ts
  | [] => rfl
  | t :: ts => by simp only [mapAll, map_map f g t, mapAll_mapAll f g ts]

end

mutual

theorem occurrences_map (f : σ → τ) : ∀ t : Term σ, (t.map f).occurrences = t.occurrences.map f
  | .empty => rfl
  | .constant .. => rfl
  | .identifier .. => rfl
  | .compound _ operands _ => by simp only [map, occurrences, occurrencesAll_mapAll f operands]

theorem occurrencesAll_mapAll (f : σ → τ) :
    ∀ ts : List (Term σ), occurrencesAll (mapAll f ts) = (occurrencesAll ts).map f
  | [] => rfl
  | t :: ts => by
    simp only [mapAll, occurrencesAll, occurrences_map f t, occurrencesAll_mapAll f ts,
      List.map_append]

end

/-! ## Text -/

mutual

/-- The term as text, given the names of its symbols: two operands stand on the sides of their
    operator, one stands after it, and any other number stands in a call. -/
def render (name : σ → String) : Term σ → String
  | .empty => ""
  | .constant _ value _ => value.render
  | .identifier symbol _ => name symbol
  | .compound operator operands _ =>
    match renderAll name operands with
    | [left, right] => left ++ " " ++ operator ++ " " ++ right
    | [operand] => operator ++ operand
    | texts => operator ++ "(" ++ String.intercalate ", " texts ++ ")"

/-- Several terms as texts. -/
def renderAll (name : σ → String) : List (Term σ) → List String
  | [] => []
  | t :: ts => render name t :: renderAll name ts

end

end Term

end TimedNet
