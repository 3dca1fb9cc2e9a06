import TimedNet.Proofs.Transfer.Entries

/-!
# `TimedNet.Proofs.Transfer.Functions` — copied functions have local variables of their own

A copied function is the original with its local variables renamed to new ones, in the initialisers and in the
body. The sets of what it writes and reads are taken over as they are, so a local variable of the original in
one of them stays there: it is the one link from the copy back to the original.

* `RenamedBy`: a function with its local variables renamed; `RenamedBy.map_eq_iff` and
  `RenamedBy.mem_symbols_iff`: what is left of the original.
* `renamedBy_fillFunction`: the new function is the old one renamed.
* `Entries.functions`, `copied_copyFunction`: one turn of the loop.
* `copyFunctions_renamed`: what a call of `copyFunctions` does, for any two templates.
-/

namespace TimedNet

namespace Store

/-- From one store to another, the function `g` at a place is `f` with its local variables renamed by `ρ`,
    which leads to new symbols of the same name, type and place in the text and leaves all other symbols alone.
    The sets of what the function writes and reads are not renamed. -/
structure RenamedBy (s s' : Store) (r : FunctionRef) (ρ : SymbolId → SymbolId) (f g : Function) :
    Prop where
  fresh : ∀ v ∈ f.locals, ρ v.symbol ∉ s.symbols ∧ ρ v.symbol ∈ s'.symbols
  fixed : ∀ x, (∀ v ∈ f.locals, v.symbol ≠ x) → ρ x = x
  injective : ∀ x ∈ s.symbols, ∀ y ∈ s.symbols, ρ x = ρ y → x = y
  symbols : ∀ j v, f.locals[j]? = some v →
    s'.symbol (ρ v.symbol) = { s.symbol v.symbol with subject := .var (.ofFunction r j) }
  locals : g.locals = f.locals.mapIdx fun j v =>
    ⟨ρ v.symbol, v.init.renamed ρ (.madeFor (.initialiser (.ofFunction r j)))⟩
  body : g.body = f.body.map (Term.map ρ)
  changes : g.changes = f.changes
  depends : g.depends = f.depends

variable {s s' s'' : Store} {r : FunctionRef} {ρ : SymbolId → SymbolId} {f g : Function}

theorem local_mem (hf : s.HasAll f.symbols) {v : Variable} (hv : v ∈ f.locals) : v.symbol ∈ s.symbols :=
  (Variable.hasAll_symbols.mp ((Function.hasAll_symbols.mp hf).2.2.2.1 v hv)).1

/-! ## What is left of the original -/

namespace RenamedBy

variable (h : s.RenamedBy s' r ρ f g) (hf : s.HasAll f.symbols)
include h hf

/-- Nothing is renamed to a local variable of the original. -/
theorem apply_ne {v : Variable} (hv : v ∈ f.locals) (x : SymbolId) : ρ x ≠ v.symbol := by
  intro heq
  by_cases hx : ∃ w ∈ f.locals, w.symbol = x
  · obtain ⟨w, hw, rfl⟩ := hx
    refine (h.fresh w hw).1 ?_
    rw [heq]
    exact local_mem hf hv
  · have hfixed : ρ x = x := h.fixed x fun w hw heq' => hx ⟨w, hw, heq'⟩
    exact hx ⟨v, hv, heq.symm.trans hfixed⟩

/-- Symbols stay what they are under the renaming just when no local variable is among them. -/
theorem map_eq_iff {xs : List SymbolId} : xs.map ρ = xs ↔ ∀ v ∈ f.locals, v.symbol ∉ xs := by
  constructor
  · intro hmap v hv hmem
    rw [← hmap] at hmem
    obtain ⟨x, -, hx⟩ := List.mem_map.mp hmem
    exact h.apply_ne hf hv x hx
  · intro hnone
    refine (List.map_congr_left fun x hx => ?_).trans (List.map_id xs)
    apply h.fixed x
    intro v hv heq
    exact hnone v hv (heq ▸ hx)

/-- **A local variable of the original is mentioned by the copy** just when it is in one of the two sets. -/
theorem mem_symbols_iff (hsymbol : g.symbol ∉ s.symbols) {v : Variable} (hv : v ∈ f.locals) :
    v.symbol ∈ g.symbols ↔ v.symbol ∈ f.changes ∨ v.symbol ∈ f.depends := by
  have hown : v.symbol ≠ g.symbol := by
    intro heq
    apply hsymbol
    rw [← heq]
    exact local_mem hf hv
  have hlocals : v.symbol ∉ g.locals.flatMap Variable.symbols := by
    rw [h.locals]
    intro hmem
    obtain ⟨w, hw, hmem⟩ := List.mem_flatMap.mp hmem
    obtain ⟨j, w, -, rfl⟩ := mem_mapIdx_iff.mp hw
    rw [Variable.symbols, Expression.term_renamed, Term.occurrences_map] at hmem
    rcases List.mem_cons.mp hmem with heq | hinit
    · exact h.apply_ne hf hv _ heq.symm
    · obtain ⟨x, -, hx⟩ := List.mem_map.mp hinit
      exact h.apply_ne hf hv x hx
  have hbody : v.symbol ∉ g.body.toList.flatMap Term.occurrences := by
    rw [h.body]
    cases f.body with
    | none => exact List.not_mem_nil
    | some body =>
      intro hmem
      simp only [Option.map_some, Option.toList_some, List.flatMap_singleton,
        Term.occurrences_map] at hmem
      obtain ⟨x, -, hx⟩ := List.mem_map.mp hmem
      exact h.apply_ne hf hv x hx
  unfold Function.symbols
  simp only [h.changes, h.depends, List.cons_append, List.mem_cons, List.mem_append, hown, hlocals,
    hbody, false_or, or_false]

end RenamedBy

/-! ## Earlier and later stores -/

theorem KeepsSymbols.hasLocals (h : s.KeepsSymbols s') (hf : s.HasLocals f) : s'.HasLocals f := by
  obtain ⟨q, hq⟩ := hf
  refine ⟨q, ?_⟩
  intro j v hv
  obtain ⟨hmem, hsubject, hreal⟩ := hq j v hv
  exact ⟨(h _ hmem).1, by rw [(h _ hmem).2, hsubject], hreal⟩

theorem RenamedBy.later (h : s.RenamedBy s' r ρ f g) (hkeeps : s'.KeepsSymbols s'') :
    s.RenamedBy s'' r ρ f g where
  fresh v hv := ⟨(h.fresh v hv).1, (hkeeps _ (h.fresh v hv).2).1⟩
  fixed := h.fixed
  injective := h.injective
  symbols j v hv :=
    ((hkeeps _ (h.fresh v (List.mem_of_getElem? hv)).2).2).trans (h.symbols j v hv)
  locals := h.locals
  body := h.body
  changes := h.changes
  depends := h.depends

theorem RenamedBy.earlier (h : s'.RenamedBy s'' r ρ f g) (hkeeps : s.KeepsSymbols s')
    (hf : s.HasAll f.symbols) : s.RenamedBy s'' r ρ f g where
  fresh v hv := ⟨fun hmem => (h.fresh v hv).1 (hkeeps _ hmem).1, (h.fresh v hv).2⟩
  fixed := h.fixed
  injective x hx y hy := h.injective x (hkeeps x hx).1 y (hkeeps y hy).1
  symbols j v hv := by
    rw [h.symbols j v hv, (hkeeps _ (local_mem hf (List.mem_of_getElem? hv))).2]
  locals := h.locals
  body := h.body
  changes := h.changes
  depends := h.depends

/-! ## The new function -/

/-- **The new function is the old one renamed.** -/
theorem renamedBy_fillFunction (hf : s.HasLocals f) (r : FunctionRef) (g : Function) :
    s.RenamedBy (s.fillFunction f r) r (s.localRelocation f) f (s.filled f r g) where
  fresh v hv := by
    have hmem : v.symbol ∈ (s.localRelocation f).sources := List.mem_map_of_mem hv
    refine ⟨fun hold => Relocation.ne_apply_of_mem (t := s.symbols) rfl hold hmem rfl, ?_⟩
    exact Relocation.mem_pushAll_apply rfl (s.length_localSymbols f r) hmem
  fixed x hx := by
    apply Relocation.apply_of_not_mem
    intro hmem
    obtain ⟨v, hv, heq⟩ := List.mem_map.mp hmem
    exact hx v hv heq
  injective x hx y hy := Relocation.apply_injective hx hy
  symbols j v hv := hf.get_localSymbols r hv
  locals := rfl
  body := rfl
  changes := rfl
  depends := rfl

end Store

open Store

/-- The functions of a block. A copy has the local variables renamed. -/
def Entries.functions : Entries Function where
  list b := b.functions
  without b := { b with functions := [] }
  symbol f := f.symbol
  place b i := .fn ⟨b, i⟩
  Proper s f := s.HasAll f.symbols ∧ s.HasLocals f
  Filled s s' b i f g := ∃ ρ, s.RenamedBy s' ⟨b, i⟩ ρ f g
  symbol_mem hf := (Function.hasAll_symbols.mp hf.1).1
  proper_later hkeeps hf := ⟨hkeeps.hasAll hf.1, hkeeps.hasLocals hf.2⟩
  filled_later hkeeps := fun ⟨ρ, h⟩ => ⟨ρ, h.later hkeeps⟩
  filled_earlier hkeeps hf := fun ⟨ρ, h⟩ => ⟨ρ, h.earlier hkeeps hf.1⟩

namespace Store

variable {s : Store} {b : BlockId} {l : LogId} {f : Function}

/-! ## One turn -/

theorem modify_concat_length {α : Type} (l : List α) (a : α) (φ : α → α) :
    (l ++ [a]).modify l.length φ = l ++ [φ a] := by
  induction l with
  | nil => rfl
  | cons b l ih => rw [List.cons_append, List.length_cons, List.modify_succ_cons, ih, List.cons_append]

/-- The function that was added to a block last, when it is filled. -/
theorem block_fillFunction {c : Block} {g : Function} (hb : b ∈ s.blocks)
    (hlast : s.block b = { c with functions := c.functions ++ [g] }) (f : Function) :
    (s.fillFunction f ⟨b, c.functions.length⟩).block b
      = { c with functions := c.functions ++ [s.filled f ⟨b, c.functions.length⟩ g] } := by
  have hmodified : (s.fillFunction f ⟨b, c.functions.length⟩).block b = { s.block b with
      functions := (s.block b).functions.modify c.functions.length
        (s.filled f ⟨b, c.functions.length⟩) } :=
    Table.get_modify_self (t := s.blocks) _ hb
  rw [hmodified, hlast]
  show ({ c with functions := (c.functions ++ [g]).modify c.functions.length _ } : Block) = _
  rw [modify_concat_length]

/-- **One turn copies one function**, or logs that its name is taken. -/
theorem copied_copyFunction (hready : Entries.Ready s b l) (hf : Entries.functions.Proper s f) :
    Entries.functions.Copied s (s.copyFunction l b f) b l [f] := by
  let r : FunctionRef := ⟨b, (s.block b).functions.length⟩
  let x : Symbol := { s.symbol f.symbol with subject := .fn r }
  cases hfree : Entries.functions.free s b f with
  | false =>
    have htaken : (s.lookup (s.frame (s.block b).frame) x.name).isSome = true :=
      Entries.lookup_isSome_of_free_eq_false hfree
    have hturn : s.copyFunction l b f = s.report l (s.symbol f.symbol).span
        (ProblemKind.duplicateDefinition.on (s.name f.symbol)) "" := by
      apply copyFunction_of_error
      rw [declareFunction, declare_of_taken htaken]
      rfl
    rw [hturn]
    exact Entries.copied_of_taken hfree hready.log
  | true =>
    have hlookup : s.lookup (s.frame (s.block b).frame) x.name = none :=
      Entries.lookup_eq_none_of_free hfree
    let grown : Block → Block := fun c =>
      { c with functions := c.functions ++ [{ symbol := s.symbols.next }] }
    let t : Store := (s.declared (s.block b).frame x).modifyBlock b grown
    have hturn : s.copyFunction l b f = t.fillFunction f r := by
      apply copyFunction_of_ok
      rw [declareFunction, declare_of_free hlookup]
    have hdeclared : s.KeepsSymbols t :=
      fun y hy => ⟨Table.mem_push_of_mem _ hy, Table.get_push_of_mem _ hy⟩
    have hfilled : t.KeepsSymbols (t.fillFunction f r) :=
      fun y hy => ⟨Table.mem_pushAll_of_mem _ hy, Table.get_pushAll_of_mem _ hy⟩
    have hnew : s.symbols.next ∈ t.symbols := Table.next_mem_push _ _
    let g : Function := t.filled f r { symbol := s.symbols.next }
    have hgrown : t.block b = grown (s.block b) := Table.get_modify_self grown hready.block
    have hblock : (t.fillFunction f r).block b
        = { s.block b with functions := (s.block b).functions ++ [g] } :=
      block_fillFunction (Table.mem_modify.mpr hready.block) hgrown f
    have hrenamed : t.RenamedBy (t.fillFunction f r) r (t.localRelocation f) f g :=
      t.renamedBy_fillFunction (hdeclared.hasLocals hf.2) r _
    rw [hturn]
    refine Entries.copied_of_free (c := g) hready hfree ?_ (hdeclared.trans hfilled) rfl ?_ ?_ ?_ ?_ rfl
    · refine ⟨Table.next_not_mem _, (hfilled _ hnew).1, ?_, _, hrenamed.earlier hdeclared hf.1⟩
      exact (hfilled _ hnew).2.trans (Table.get_push_next _ _)
    · intro c
      refine ⟨Table.mem_modify.trans Table.mem_modify, ?_⟩
      intro hc
      exact (Table.get_modify_of_ne (t := t.blocks) _ hc.symm).trans (Table.get_modify_of_ne _ hc.symm)
    · rw [hblock]
    · rw [hblock]
      rfl
    · rw [hblock]
      rfl

/-! ## Calls -/

variable {d : DocumentId} {source target : TemplateId}

/-- A call copies the functions of one block into another. -/
theorem Sound.copied_copyFunctions (h : s.Sound) (hdeclared : ∀ b ∈ s.blocks, s.Declared b)
    (hd : d ∈ s.documents) (hsource : source ∈ s.templates) (htarget : target ∈ s.templates) :
    Entries.functions.Copied s (s.copyFunctions d source target) (s.template target).block
        (s.document d).log (s.block (s.template source).block).functions
      ∧ Live (copyFunction (s.document d).log (s.template target).block)
        (fun t => (t.block (s.template source).block).functions) 0 s (s.copyFunctions d source target) := by
  have hblock := (h.templates source hsource).block
  rw [copyFunctions_eq_foldl]
  refine Entries.copied_block (ρ := .fn) (fun _ => rfl) (fun hready hf => copied_copyFunction hready hf)
    (h.ready hd htarget) (fun f hf => ?_) (hdeclared _ hblock)
  obtain ⟨i, hi⟩ := List.mem_iff_getElem?.mp hf
  have hsymbols := (Block.hasAll_symbols.mp (h.blocks _ hblock).symbols).2.1 f hf
  exact ⟨hsymbols, _, (h.blocks _ hblock).locals i f hi⟩

/-- **Copied functions are renamed, but for two sets.** For every store that a program reaches, every
    document, and any two templates or twice the same: the functions of the source whose names are not in the
    frame of the target are copied to the end of the target, in order, and for each of the others an error is
    logged; nothing else happens, and all functions that were there stay what they are. A copy is the function
    with its local variables renamed to new ones. The sets of what it writes and reads are those of the
    original; they are renamed as well just when no local variable is in them, and that is also when the copy
    mentions no local variable of the original. -/
theorem copyFunctions_renamed {condition : Store → Operation → Prop} (hrun : Run condition {} s)
    (hd : d ∈ s.documents) (hsource : source ∈ s.templates) (htarget : target ∈ s.templates) :
    Entries.functions.Copied s (s.copyFunctions d source target) (s.template target).block
        (s.document d).log (s.block (s.template source).block).functions
      ∧ (∀ u, Live (copyFunction (s.document d).log (s.template target).block)
          (fun t => (t.block (s.template source).block).functions) 0 s u
          ↔ u = s.copyFunctions d source target)
      ∧ (∀ f ∈ (s.block (s.template source).block).functions,
        Entries.functions.free s (s.template target).block f = true →
        ∃ i g ρ, ((s.copyFunctions d source target).block (s.template target).block).functions[i]? = some g
          ∧ Entries.functions.Copy s (s.copyFunctions d source target) (s.template target).block i f g
          ∧ s.RenamedBy (s.copyFunctions d source target) ⟨(s.template target).block, i⟩ ρ f g
          ∧ (g.changes = f.changes.map ρ ↔ ∀ v ∈ f.locals, v.symbol ∉ f.changes)
          ∧ (g.depends = f.depends.map ρ ↔ ∀ v ∈ f.locals, v.symbol ∉ f.depends)
          ∧ ∀ v ∈ f.locals, v.symbol ∈ g.symbols ↔ v.symbol ∈ f.changes ∨ v.symbol ∈ f.depends)
      ∧ ∀ b, (s.block b).functions <+: ((s.copyFunctions d source target).block b).functions := by
  have h := hrun.sound sound_empty
  obtain ⟨hcopied, hlive⟩ := h.copied_copyFunctions hrun.declared hd hsource htarget
  refine ⟨hcopied, fun _ => hlive.iff_eq, ?_, ?_⟩
  · intro f hf hfree
    obtain ⟨i, g, hget, hcopy⟩ := hcopied.exists_copy hf hfree
    obtain ⟨ρ, hrenamed⟩ := hcopy.filled
    have hblock := (h.templates source hsource).block
    have hsymbols := (Block.hasAll_symbols.mp (h.blocks _ hblock).symbols).2.1 f hf
    refine ⟨i, g, ρ, hget, hcopy, hrenamed, ?_, ?_, ?_⟩
    · rw [hrenamed.changes, eq_comm]
      exact hrenamed.map_eq_iff hsymbols
    · rw [hrenamed.depends, eq_comm]
      exact hrenamed.map_eq_iff hsymbols
    · intro v hv
      exact hrenamed.mem_symbols_iff hsymbols hcopy.fresh hv
  · intro b
    by_cases hb : b = (s.template target).block
    · rw [hb]
      exact hcopied.prefix_list
    · have hsame := (hcopied.confined.blocks b).2 hb
      exact ⟨[], by rw [hsame, List.append_nil]⟩

/-- A template with two functions, and one that has the name of one of them already. The local variables of
    the other function are initialised with each other, and it writes what is given. -/
def localsLinked (written : List SymbolId) : List Operation :=
  [.openDocument none none, .addTemplate ⟨0⟩ "A" [] {} {}, .addTemplate ⟨0⟩ "B" [] {} {},
    .addVariable ⟨0⟩ ⟨0⟩ "int" "g" .empty {}, .addFunction ⟨0⟩ ⟨1⟩ "int" "f" ⟨1, 2⟩,
    .addFunction ⟨0⟩ ⟨1⟩ "int" "h" ⟨3, 4⟩, .addTypedef ⟨0⟩ ⟨2⟩ "h" "int" {},
    .newFrame { parent := some ⟨1⟩ }, .addLocal ⟨0⟩ ⟨⟨1⟩, 0⟩ ⟨5⟩ "int" "i" .empty ⟨5, 6⟩,
    .addLocal ⟨0⟩ ⟨⟨1⟩, 0⟩ ⟨5⟩ "int" "j" ⟨.built 0, .identifier ⟨6⟩ {}⟩ ⟨7, 8⟩,
    .setInitialiser (.ofFunction ⟨⟨1⟩, 0⟩ 0) ⟨.built 1, .identifier ⟨7⟩ {}⟩,
    .setBody ⟨⟨1⟩, 0⟩ (some (.compound "+" [.identifier ⟨6⟩ {}, .identifier ⟨2⟩ {}] {})),
    .addEffects ⟨⟨1⟩, 0⟩ written []]

/-- The store with these templates. -/
def linkedStore (written : List SymbolId) : Store := (localsLinked written).foldl perform {}

/-- The symbols of the local variables of the functions of a block, and all symbols in these functions. -/
def functionSymbols (s : Store) (b : BlockId) : List (List SymbolId × List SymbolId) :=
  (s.block b).functions.map fun f => (f.locals.map fun v => v.symbol, f.symbols)

/-- One of the functions is copied. It writes a variable of the document, so that the copy mentions no local
    variable of the original. -/
theorem copyFunctions_renamed_locals_linked : Run (fun _ _ => True) {} (linkedStore [⟨2⟩])
    ∧ Entries.functions.Copied (linkedStore [⟨2⟩]) ((linkedStore [⟨2⟩]).copyFunctions ⟨0⟩ ⟨0⟩ ⟨1⟩) ⟨2⟩ ⟨0⟩
      ((linkedStore [⟨2⟩]).block ⟨1⟩).functions
    ∧ functionSymbols (linkedStore [⟨2⟩]) ⟨1⟩
      = [([⟨6⟩, ⟨7⟩], [⟨3⟩, ⟨2⟩, ⟨6⟩, ⟨7⟩, ⟨7⟩, ⟨6⟩, ⟨6⟩, ⟨2⟩]), ([], [⟨4⟩])]
    ∧ functionSymbols ((linkedStore [⟨2⟩]).copyFunctions ⟨0⟩ ⟨0⟩ ⟨1⟩) ⟨2⟩
      = [([⟨9⟩, ⟨10⟩], [⟨8⟩, ⟨2⟩, ⟨9⟩, ⟨10⟩, ⟨10⟩, ⟨9⟩, ⟨9⟩, ⟨2⟩])]
    ∧ ((linkedStore [⟨2⟩]).copyFunctions ⟨0⟩ ⟨0⟩ ⟨1⟩).symbol ⟨10⟩
      = ⟨"j", "int", ⟨7, 8⟩, .var (.ofFunction ⟨⟨2⟩, 0⟩ 1)⟩
    ∧ (((linkedStore [⟨2⟩]).copyFunctions ⟨0⟩ ⟨0⟩ ⟨1⟩).log ⟨0⟩).errors.map
      (fun e => (e.message, e.span.start)) = [("$Duplicate_definition_of h", 3)] := by
  have hperforms : ({} : Store).Performs (fun _ _ => True) (localsLinked [⟨2⟩]) := by decide +kernel
  have hrun : Run (fun _ _ => True) {} (linkedStore [⟨2⟩]) := Run.refl.performs hperforms
  have hd : (⟨0⟩ : DocumentId) ∈ (linkedStore [⟨2⟩]).documents := by decide +kernel
  have hsource : (⟨0⟩ : TemplateId) ∈ (linkedStore [⟨2⟩]).templates := by decide +kernel
  have htarget : (⟨1⟩ : TemplateId) ∈ (linkedStore [⟨2⟩]).templates := by decide +kernel
  have hrenamed := copyFunctions_renamed hrun hd hsource htarget
  rw [show ((linkedStore [⟨2⟩]).template ⟨0⟩).block = ⟨1⟩ by decide +kernel,
    show ((linkedStore [⟨2⟩]).template ⟨1⟩).block = ⟨2⟩ by decide +kernel,
    show ((linkedStore [⟨2⟩]).document ⟨0⟩).log = ⟨0⟩ by decide +kernel] at hrenamed
  exact ⟨hrun, hrenamed.1, by decide +kernel, by decide +kernel, by decide +kernel, by decide +kernel⟩

/-- If the function writes a local variable of its own, then the copy still mentions that variable, and does
    not mention the new one in its place. -/
theorem copied_function_names_original : Run (fun _ _ => True) {} (linkedStore [⟨6⟩])
    ∧ functionSymbols (linkedStore [⟨6⟩]) ⟨1⟩
      = [([⟨6⟩, ⟨7⟩], [⟨3⟩, ⟨6⟩, ⟨6⟩, ⟨7⟩, ⟨7⟩, ⟨6⟩, ⟨6⟩, ⟨2⟩]), ([], [⟨4⟩])]
    ∧ (((linkedStore [⟨6⟩]).copyFunctions ⟨0⟩ ⟨0⟩ ⟨1⟩).block ⟨2⟩).functions.map
      (fun g => (g.changes, g.locals.map fun v => v.symbol)) = [([⟨6⟩], [⟨9⟩, ⟨10⟩])]
    ∧ ¬ ∀ f ∈ ((linkedStore [⟨6⟩]).block ⟨1⟩).functions, ∀ v ∈ f.locals,
      ∀ g ∈ (((linkedStore [⟨6⟩]).copyFunctions ⟨0⟩ ⟨0⟩ ⟨1⟩).block ⟨2⟩).functions, v.symbol ∉ g.symbols := by
  have hperforms : ({} : Store).Performs (fun _ _ => True) (localsLinked [⟨6⟩]) := by decide +kernel
  exact ⟨Run.refl.performs hperforms, by decide +kernel, by decide +kernel, by decide +kernel⟩

end Store

end TimedNet
