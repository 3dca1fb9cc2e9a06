import TimedNet.Expression.Object
import TimedNet.Proofs.Expression.Equality
import TimedNet.Proofs.FirstOccurrences

/-!
# `TimedNet.Proofs.Expression.Renaming` — what renaming does to an expression and to its symbols

A renaming need not keep symbols apart. It keeps the tree: a walk over the renamed expression visits the images
of the nodes in the same order. The symbols of an expression are what such a walk collects, so those of the
renamed expression are the images of the symbols of the expression, less the repetitions that the renaming
has brought in.

## Contents
- `Term.symbol?`, `occurrences_eq_filterMap`, `symbols_eq_foldl`: the symbols as what a walk collects.
- `walk_map`, `render_map`, `symbols_map`, `references_map_iff`: walk, text and symbols of a renamed term.
- `Expression.FollowsRenaming`, `renamed_functorial`: renaming of expressions.
-/

namespace TimedNet

universe u v

namespace Term

variable {σ : Type u} {τ : Type v}

/-! ## What a walk collects -/

/-- The symbol of an identifier; no other node has one. -/
def symbol? : Term σ → Option σ
  | .identifier symbol _ => some symbol
  | _ => none

mutual

theorem occurrences_eq_filterMap : ∀ t : Term σ, t.occurrences = t.walk.filterMap symbol?
  | .empty => rfl
  | .constant .. => rfl
  | .identifier .. => rfl
  | .compound _ operands _ => by
    rw [occurrences, walk, List.filterMap_cons_none rfl, occurrencesAll_eq_filterMap operands]

theorem occurrencesAll_eq_filterMap :
    ∀ ts : List (Term σ), occurrencesAll ts = (walkAll ts).filterMap symbol?
  | [] => rfl
  | t :: ts => by
    rw [occurrencesAll, walkAll, List.filterMap_append, occurrences_eq_filterMap t,
      occurrencesAll_eq_filterMap ts]

end

section

variable [BEq σ] [LawfulBEq σ] [BEq τ] [LawfulBEq τ]

/-- What a walk has collected when it leaves a node. -/
def collectAt (out : List σ) (t : Term σ) : List σ :=
  match t.symbol? with
  | some s => Ordered.insert out s
  | none => out

/-- **The symbols of a term are what a walk collects.** -/
theorem symbols_eq_foldl (t : Term σ) : t.symbols = t.walk.foldl collectAt [] := by
  rw [symbols, eraseDups_eq_union, Ordered.union, occurrences_eq_filterMap, List.foldl_filterMap]
  rfl

/-- **The symbols of a term stand in the order in which a walk meets them first.** -/
theorem firstOccurrences_symbols (t : Term σ) :
    FirstOccurrences (t.walk.filterMap symbol?) t.symbols := by
  rw [symbols, occurrences_eq_filterMap]
  exact firstOccurrences_eraseDups _

theorem references_eq_true_iff {t : Term σ} {s : σ} : t.references s = true ↔ s ∈ t.symbols :=
  List.contains_iff_mem

/-! ## What renaming does -/

/-- **The symbols of a renamed term** are the images of the symbols, each once. -/
theorem symbols_map (f : σ → τ) (t : Term σ) : (t.map f).symbols = (t.symbols.map f).eraseDups := by
  rw [symbols, symbols, occurrences_map, eraseDups_map_eraseDups]

theorem references_map_iff {f : σ → τ} {t : Term σ} {s : τ} :
    (t.map f).references s = true ↔ ∃ r, t.references r = true ∧ f r = s := by
  simp only [references_eq_true_iff, symbols_map, List.mem_eraseDups, List.mem_map]

end

mutual

/-- **A walk over a renamed term** visits the renamed nodes in the same order. -/
theorem walk_map (f : σ → τ) : ∀ t : Term σ, (t.map f).walk = t.walk.map (map f)
  | .empty => rfl
  | .constant .. => rfl
  | .identifier .. => rfl
  | .compound _ operands _ => by simp only [map, walk, walkAll_mapAll f operands, List.map_cons]

theorem walkAll_mapAll (f : σ → τ) :
    ∀ ts : List (Term σ), walkAll (mapAll f ts) = (walkAll ts).map (map f)
  | [] => rfl
  | t :: ts => by
    simp only [mapAll, walkAll, walk_map f t, walkAll_mapAll f ts, List.map_append]

end

mutual

/-- A renaming that keeps the names of the symbols of a term keeps its text. -/
theorem render_map {f : σ → τ} {name : σ → String} {name' : τ → String} : ∀ t : Term σ,
    (∀ s ∈ t.occurrences, name' (f s) = name s) → (t.map f).render name' = t.render name
  | .empty, _ => rfl
  | .constant .., _ => rfl
  | .identifier s _, h => h s List.mem_cons_self
  | .compound _ operands _, h => by simp only [map, render, renderAll_mapAll operands h]

theorem renderAll_mapAll {f : σ → τ} {name : σ → String} {name' : τ → String} : ∀ ts : List (Term σ),
    (∀ s ∈ occurrencesAll ts, name' (f s) = name s) →
      renderAll name' (mapAll f ts) = renderAll name ts
  | [], _ => rfl
  | t :: ts, h => by
    have hhead := render_map t fun s hs => h s (List.mem_append_left _ hs)
    have htail := renderAll_mapAll ts fun s hs => h s (List.mem_append_right _ hs)
    simp only [mapAll, renderAll, hhead, htail]

end

end Term

namespace Expression

/-- What is left of an expression when its symbols have been passed through `f`.

    A walk visits the images of the nodes in the same order. The symbols are the images of the symbols, each
    once; they are what a walk over the renamed expression collects, in the order in which it meets them
    first, and they are the symbols that the renamed expression mentions. A renaming that keeps names keeps
    the text. -/
structure FollowsRenaming (f : SymbolId → SymbolId) (e e' : Expression) : Prop where
  walk : e'.term.walk = e.term.walk.map (Term.map f)
  symbols : e'.term.symbols = (e.term.symbols.map f).eraseDups
  collected : e'.term.symbols = e'.term.walk.foldl Term.collectAt []
  firsts : FirstOccurrences (e'.term.walk.filterMap Term.symbol?) e'.term.symbols
  nodup : e'.term.symbols.Nodup
  references : ∀ s, e'.term.references s = true ↔ ∃ r, e.term.references r = true ∧ f r = s
  render : ∀ name : SymbolId → String, (∀ s ∈ e.term.symbols, name (f s) = name s) →
    e'.term.render name = e.term.render name

theorem followsRenaming (f : SymbolId → SymbolId) (e : Expression) (i : ExpressionId) :
    FollowsRenaming f e (e.renamed f i) where
  walk := by rw [term_renamed, Term.walk_map]
  symbols := by rw [term_renamed, Term.symbols_map]
  collected := Term.symbols_eq_foldl _
  firsts := Term.firstOccurrences_symbols _
  nodup := (Term.firstOccurrences_symbols _).nodup
  references s := by rw [term_renamed, Term.references_map_iff]
  render name h := by
    rw [term_renamed]
    exact Term.render_map e.term fun s hs => h s (List.mem_eraseDups.mpr hs)

/-- **Renaming is functorial, and the symbols follow it.** Two renamings one after the other make the tree
    that their composition makes, with the same constants, operators and spans; renaming every symbol to
    itself gives back the tree, NaNs and all. -/
theorem renamed_functorial (e : Expression) (f g : SymbolId → SymbolId) (i j k : ExpressionId) :
    FollowsRenaming f e (e.renamed f i)
    ∧ ((e.renamed f i).renamed g j).term = (e.renamed (fun s => g (f s)) k).term
    ∧ (e.renamed (fun s => s) i).term = e.term
    ∧ (e.renamed (fun s => s) i).term.equal e.term = true := by
  have hsame : (e.renamed (fun s => s) i).term = e.term := by
    rw [term_renamed]
    exact Term.map_id e.term
  refine ⟨followsRenaming f e i, ?_, hsame, ?_⟩
  · rw [term_renamed, term_renamed, term_renamed, Term.map_map]
    rfl
  · rw [hsame]
    exact Term.equal_self e.term

/-- A call with two symbols, the first of them twice, and a NaN. -/
def twoSymbols : Expression :=
  .built 5 (.compound "f" [.identifier ⟨0⟩ ⟨2, 2⟩, .constant 1 (.number ⟨0x7FF8000000000000⟩) ⟨4, 6⟩,
    .compound "-" [.identifier ⟨1⟩ ⟨9, 9⟩] ⟨8, 9⟩, .identifier ⟨0⟩ ⟨11, 11⟩] ⟨0, 12⟩)

/-- When both symbols of a call become a third one of the same name, one symbol and the text are left. -/
theorem renamed_functorial_merged :
    let e' := twoSymbols.renamed (fun _ => ⟨2⟩) (.built 6)
    let name : SymbolId → String := fun s => if s.index < 3 then "x" else "y"
    twoSymbols.term.symbols = [⟨0⟩, ⟨1⟩] ∧ e'.term.symbols = [⟨2⟩]
      ∧ e'.term.walk.map Term.span = [⟨0, 12⟩, ⟨2, 2⟩, ⟨4, 6⟩, ⟨8, 9⟩, ⟨9, 9⟩, ⟨11, 11⟩]
      ∧ e'.term.render name = twoSymbols.term.render name
      ∧ (e'.renamed (fun s => ⟨s.index + 5⟩) (.built 7)).term
        = (twoSymbols.renamed (fun _ => ⟨7⟩) (.built 8)).term := by
  intro e' name
  obtain ⟨hfollows, hcompose, -, -⟩ := renamed_functorial twoSymbols (fun _ => ⟨2⟩)
    (fun s => ⟨s.index + 5⟩) (.built 6) (.built 7) (.built 8)
  have hsymbols : twoSymbols.term.symbols = [⟨0⟩, ⟨1⟩] := by decide
  refine ⟨hsymbols, ?_, ?_, hfollows.render name ?_, hcompose⟩
  · rw [hfollows.symbols, hsymbols]
    decide
  · rw [hfollows.walk]
    decide
  · rw [hsymbols]
    decide

end Expression

end TimedNet
