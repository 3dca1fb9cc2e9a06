import TimedNet.Expression.Term
import TimedNet.Ordered

/-!
# `TimedNet.Binding` — parameters bound step by step

A binding has the parameters that are still open first and the bound ones after them. Binding a
binding does not nest: each step merges into one flat binding. With parameters `p0, p1` and the
arguments `a`, then `b`:

    [p0, p1 |]      nothing bound
    [p1 | p0]       p0 -> a
    [| p0, p1]      p0 -> a, p1 -> b

Some parameters are restricted: a process may not leave them open. When a restricted parameter is
bound to an argument that mentions a parameter of the new binding, the restriction passes on to all
symbols of the argument; an argument of constants and globals restricts nothing.

## Contents
- `Binding`, `Binding.ofParameters`, `Binding.unboundParameters`, `Binding.boundParameters`.
- `Binding.bind?`: one step, refused when there are more arguments than open parameters.
- `bind?_isSome_iff`: exactly when a step is possible.
-/

namespace TimedNet

universe u

/-- Parameters with what is known about them. -/
structure Binding (σ : Type u) where
  /-- The open parameters, then the bound ones in the order in which they were bound. -/
  parameters : List σ
  mapping : List (σ × Term σ) := []
  argumentCount : Nat := 0
  /-- How many parameters are open. -/
  unbound : Nat := parameters.length
  restricted : List σ := []
deriving Repr

namespace Binding

variable {σ : Type u}

instance : Inhabited (Binding σ) := ⟨{ parameters := [] }⟩

/-- The binding in which all parameters are open. -/
def ofParameters (parameters : List σ) : Binding σ := { parameters }

/-- The open parameters. -/
def unboundParameters (b : Binding σ) : List σ := b.parameters.take b.unbound

/-- The bound parameters. -/
def boundParameters (b : Binding σ) : List σ := b.parameters.drop b.unbound

/-- Whether nothing is open. -/
def isClosed (b : Binding σ) : Bool := b.unbound == 0

variable [BEq σ]

/-- The argument bound to a parameter. -/
def argument? (b : Binding σ) (p : σ) : Option (Term σ) := Ordered.get? b.mapping p

/-- The restricted symbols after the pairs `bound` of restricted parameters and arguments have
    passed their restriction on, where `own` are the parameters of the new binding. -/
def passOn (own : List σ) (restricted : List σ) (bound : List (σ × Term σ)) : List σ :=
  bound.foldl (fun set pair =>
    let mentioned := pair.2.symbols
    if mentioned.any own.contains then Ordered.union set mentioned else set) restricted

/-- The binding after `args` were bound, from left to right, to the first open parameters and
    `params` were opened in front of the rest. -/
def extend (base : Binding σ) (params : List σ) (args : List (Term σ)) : Binding σ :=
  let free := base.unboundParameters
  let fresh := free.take args.length
  -- What is open afterwards: the new parameters, then the open ones that got no argument.
  let own := params ++ free.drop args.length
  let bound := fresh.zip args
  { parameters := own ++ base.boundParameters ++ fresh
    mapping := bound.foldl (fun map pair => Ordered.put map pair.1 pair.2) base.mapping
    argumentCount := base.argumentCount + args.length
    unbound := own.length
    restricted := passOn own base.restricted
      (bound.filter fun pair => base.restricted.contains pair.1) }

/-- One step of instantiation: `args` are bound and `params` opened. There may not be more arguments
    than open parameters. -/
def bind? (base : Binding σ) (params : List σ) (args : List (Term σ)) : Option (Binding σ) :=
  if args.length ≤ base.unbound then some (base.extend params args) else none

theorem bind?_isSome_iff {base : Binding σ} {params : List σ} {args : List (Term σ)} :
    (base.bind? params args).isSome ↔ args.length ≤ base.unbound := by
  unfold bind?
  split <;> simp_all

theorem eq_extend_of_bind? {base b : Binding σ} {params : List σ} {args : List (Term σ)}
    (h : base.bind? params args = some b) :
    args.length ≤ base.unbound ∧ b = base.extend params args := by
  unfold bind? at h
  split at h
  · next hle => exact ⟨hle, by simpa using h.symm⟩
  · exact absurd h (by simp)

end Binding

end TimedNet
