import TimedNet.Proofs.Copy.Owners
import TimedNet.Proofs.FirstOccurrences
import TimedNet.Store.Copy

/-!
# `TimedNet.Proofs.Copy.Walking` — parts of the walk that copies a document

What the walk has made of the symbols depends on two things only: which symbols it has met, in their order,
and which entities it has copied. A part of the walk meets some symbols, copies some entities and gives an
answer; the rest of the store it may change too. `Walks` says so of one part, and there is one rule for each
way to put parts together, so that what a part does is read off its text.

* `Met`, `Met.Fits`: what was met so far, as a beginning of all that will be met.
* `Copying.met`: the state of the walk; `Walks`: what a part does to it.
* `Walks.pure`, `Walks.bind`, `Walks.store`, `Walks.change`, `Walks.make`, `Walks.loop`, `Walks.mapM`,
  `Walks.zipIdx`.
* `walks_symbol`, `walks_rebind`: the two parts that see the symbols.
-/

namespace TimedNet

open Store

/-- The symbols that were met, in order, and the claims of the entities that were copied, the last one
    first. -/
structure Met where
  symbols : List SymbolId := []
  claims : List (SymbolId × Subject) := []

namespace Met

/-- What was met after more symbols and with more entities. -/
def after (m : Met) (rs : List SymbolId) (cs : List (SymbolId × Subject)) : Met :=
  { symbols := Ordered.union m.symbols rs, claims := cs.reverse ++ m.claims }

theorem after_after (m : Met) (rs rs' : List SymbolId) (cs cs' : List (SymbolId × Subject)) :
    (m.after rs cs).after rs' cs' = m.after (rs ++ rs') (cs ++ cs') := by
  simp [after, Ordered.union_append]

/-- What was met is a beginning of what the relocations have a place for, and entities were copied with
    symbols that had been met. -/
structure Fits (s : Store) (ρ : Relocations) (m : Met) : Prop where
  base : ρ.symbols.base = s.symbols.size
  distinct : ρ.symbols.sources.Nodup
  hasAll : s.HasAll ρ.symbols.sources
  begins : m.symbols <+: ρ.symbols.sources
  known : ∀ c ∈ m.claims, c.1 ∈ m.symbols

variable {s : Store} {ρ : Relocations}

theorem Fits.subset_after {m : Met} (rs : List SymbolId) (cs : List (SymbolId × Subject)) :
    m.symbols ⊆ (m.after rs cs).symbols := fun _ hr =>
  Ordered.mem_union.mpr (Or.inl hr)

theorem Fits.subset_symbols_after {m : Met} (rs : List SymbolId) (cs : List (SymbolId × Subject)) :
    rs ⊆ (m.after rs cs).symbols := fun _ hr =>
  Ordered.mem_union.mpr (Or.inr hr)

/-- What was met in between fits too. -/
theorem Fits.between {m : Met} (hm : m.Fits s ρ) {rs rs' : List SymbolId}
    {cs cs' : List (SymbolId × Subject)} (hcs : ∀ c ∈ cs, c.1 ∈ m.symbols ∨ c.1 ∈ rs)
    (hafter : (m.after (rs ++ rs') (cs ++ cs')).Fits s ρ) : (m.after rs cs).Fits s ρ where
  base := hm.base
  distinct := hm.distinct
  hasAll := hm.hasAll
  begins := by
    obtain ⟨more, hmore, -, -⟩ := Ordered.exists_union_eq (m.after rs cs).symbols rs'
    refine List.IsPrefix.trans ⟨more, ?_⟩ hafter.begins
    rw [← hmore, ← after_after]
    rfl
  known := by
    intro c hc
    rcases List.mem_append.mp hc with hc | hc
    · exact Ordered.mem_union.mpr (hcs c (List.mem_reverse.mp hc))
    · exact subset_after rs cs (hm.known c hc)

end Met

/-- The walk when these symbols and claims have been met and the rest is as given. -/
def Copying.met (c : Copying) (s : Store) (ρ : Relocations) (m : Met) : Copying :=
  { c with
    store := { c.store with
      symbols := s.symbols.pushAll (m.symbols.map (s.copiedSymbol m.claims)) }
    symbols := m.symbols.map fun r => (r, ρ.symbols r) }

/-- A part of the walk that leads from `c` to `c'`, the symbols apart. Once the symbols `known` have been
    met it answers `a`, meets `rs`, and copies the entities with the claims `cs`. -/
structure Walks (s : Store) (ρ : Relocations) (c : Copying) (known : List SymbolId) {α : Type}
    (x : CopyM α) (a : α) (rs : List SymbolId) (cs : List (SymbolId × Subject)) (c' : Copying) :
    Prop where
  claims : ∀ claim ∈ cs, claim.1 ∈ known ∨ claim.1 ∈ rs
  run : ∀ m : Met, m.Fits s ρ → known ⊆ m.symbols → (m.after rs cs).Fits s ρ →
    x (c.met s ρ m) = (a, c'.met s ρ (m.after rs cs))

/-- The two stores differ at most in symbols, logs and the like. -/
structure Store.SameParts (u v : Store) : Prop where
  frames : u.frames = v.frames
  blocks : u.blocks = v.blocks
  insts : u.insts = v.insts
  templates : u.templates = v.templates
  documents : u.documents = v.documents

section SameParts

variable {u v : Store} (h : u.SameParts v)
include h

theorem Store.SameParts.frame_eq (r : FrameId) : u.frame r = v.frame r :=
  congrArg (fun t => t.get r) h.frames

theorem Store.SameParts.block_eq (r : BlockId) : u.block r = v.block r :=
  congrArg (fun t => t.get r) h.blocks

theorem Store.SameParts.inst_eq (r : InstanceId) : u.inst r = v.inst r :=
  congrArg (fun t => t.get r) h.insts

theorem Store.SameParts.template_eq (r : TemplateId) : u.template r = v.template r :=
  congrArg (fun t => t.get r) h.templates

theorem Store.SameParts.document_eq (r : DocumentId) : u.document r = v.document r :=
  congrArg (fun t => t.get r) h.documents

end SameParts

/-- A function that does not see the positions. -/
theorem map_zipIdx_fst {α β : Type} (g : α → β) (l : List α) :
    (l.zipIdx.map fun p => g p.1) = l.map g := by
  rw [show (fun p : α × Nat => g p.1) = g ∘ Prod.fst from rfl, ← List.map_map, List.zipIdx_map_fst]

theorem flatMap_zipIdx_fst {α β : Type} (g : α → List β) (l : List α) :
    (l.zipIdx.flatMap fun p => g p.1) = l.flatMap g := by
  rw [List.flatMap_def, map_zipIdx_fst, List.flatMap_def]

@[simp] theorem mapIdx_fst {α β : Type} (g : α → β) (l : List α) : (l.mapIdx fun _ a => g a) = l.map g := by
  rw [List.mapIdx_eq_zipIdx_map, map_zipIdx_fst]

@[simp] theorem flatten_mapIdx_singleton {α β : Type} (f : Nat → α → β) (l : List α) :
    (l.mapIdx fun i a => [f i a]).flatten = l.mapIdx f := by
  rw [List.mapIdx_eq_zipIdx_map, List.mapIdx_eq_zipIdx_map, ← List.flatMap_def, ← List.map_eq_flatMap]

namespace Walks

variable {s : Store} {ρ : Relocations} {c c' c'' : Copying} {known : List SymbolId} {α β : Type}
  {rs rs' : List SymbolId} {cs cs' : List (SymbolId × Subject)}

/-! ## Putting parts together -/

protected theorem pure (a : α) : Walks s ρ c known (pure a) a [] [] c :=
  ⟨fun _ h => absurd h List.not_mem_nil, fun _ _ _ _ => rfl⟩

protected theorem bind {x : CopyM α} {f : α → CopyM β} {a : α} {b : β}
    (hx : Walks s ρ c known x a rs cs c') (hf : Walks s ρ c' (known ++ rs) (f a) b rs' cs' c'') :
    Walks s ρ c known (x >>= f) b (rs ++ rs') (cs ++ cs') c'' where
  claims := by
    have hclaims := hf.claims
    intro claim hclaim
    rcases List.mem_append.mp hclaim with h | h
    · exact (hx.claims claim h).imp_right (List.mem_append_left _)
    · rcases hclaims claim h with h | h
      · exact (List.mem_append.mp h).imp_right (List.mem_append_left _)
      · exact Or.inr (List.mem_append_right _ h)
  run := by
    intro m hm hknown hafter
    have hmiddle : (m.after rs cs).Fits s ρ :=
      hm.between (fun claim h => (hx.claims claim h).imp_left (@hknown _)) hafter
    rw [← Met.after_after] at hafter ⊢
    have hknown' : known ++ rs ⊆ (m.after rs cs).symbols := by
      intro r hr
      rcases List.mem_append.mp hr with hr | hr
      · exact Met.Fits.subset_after rs cs (hknown hr)
      · exact Met.Fits.subset_symbols_after rs cs hr
    show f (x (c.met s ρ m)).1 (x (c.met s ρ m)).2 = _
    rw [hx.run m hm hknown hmiddle]
    exact hf.run _ hmiddle hknown' hafter

/-- The same part, described in other words. -/
theorem congr {x : CopyM α} {a a' : α} (h : Walks s ρ c known x a rs cs c') (ha : a = a')
    (hrs : rs = rs') (hcs : cs = cs') (hc : c' = c'') : Walks s ρ c known x a' rs' cs' c'' := by
  rw [← ha, ← hrs, ← hcs, ← hc]
  exact h

/-! ## Parts that do not see the symbols -/

/-- A part that looks at the store. -/
theorem store {f : Store → CopyM β} {b : β}
    (h : ∀ m : Met, m.Fits s ρ → known ⊆ m.symbols →
      Walks s ρ c known (f (c.met s ρ m).store) b rs cs c')
    (hcs : ∀ claim ∈ cs, claim.1 ∈ known ∨ claim.1 ∈ rs) :
    Walks s ρ c known (CopyM.store >>= f) b rs cs c' where
  claims := hcs
  run := fun m hm hknown hafter => (h m hm hknown).run m hm hknown hafter

/-- A part that looks at the store, but not at its symbols. -/
theorem look {f : Store → CopyM β} {b : β}
    (h : ∀ u : Store, u.SameParts c.store → Walks s ρ c known (f u) b rs cs c') :
    Walks s ρ c known (CopyM.store >>= f) b rs cs c' :=
  store (fun _ _ _ => h _ ⟨rfl, rfl, rfl, rfl, rfl⟩) (h _ ⟨rfl, rfl, rfl, rfl, rfl⟩).claims

/-- A change of what is not a symbol. -/
theorem change {f : Store → Store} {u : Store}
    (hf : ∀ u symbols, f { u with symbols } = { f u with symbols }) (hu : f c.store = u) :
    Walks s ρ c known (CopyM.change f) () [] [] { c with store := u } where
  claims := fun _ h => absurd h List.not_mem_nil
  run := by
    intro m _ _ _
    show ((), { c.met s ρ m with store := f (c.met s ρ m).store }) = _
    rw [show f (c.met s ρ m).store = _ from hf c.store _, hu]
    rfl

/-- Something new that is not a symbol. -/
theorem make {f : Store → Store × α}
    (hf : ∀ u symbols, f { u with symbols } = ({ (f u).1 with symbols }, (f u).2)) :
    Walks s ρ c known (CopyM.make f) (f c.store).2 [] [] { c with store := (f c.store).1 } where
  claims := fun _ h => absurd h List.not_mem_nil
  run := by
    intro m _ _ _
    show ((f (c.met s ρ m).store).2, { c.met s ρ m with store := (f (c.met s ρ m).store).1 }) = _
    rw [show f (c.met s ρ m).store = _ from hf c.store _]
    rfl

/-- A template that is entered as copied. -/
theorem enter (t new : TemplateId) :
    Walks s ρ c known (modify fun c => { c with templates := Ordered.put c.templates t new }) () [] []
      { c with templates := Ordered.put c.templates t new } :=
  ⟨fun _ h => absurd h List.not_mem_nil, fun _ _ _ _ => rfl⟩

/-! ## One part for each member of a list -/

/-- What is left to do when the first members have had their parts. -/
theorem loop_from {f : α → CopyM β} {g : α → β} {meets : α → List SymbolId}
    {makes : α → List (SymbolId × Subject)} (st : List α → Copying) {l : List α}
    (h : ∀ known done a todo, l = done ++ a :: todo →
      Walks s ρ (st done) known (f a) (g a) (meets a) (makes a) (st (done ++ [a])))
    {done todo : List α} (hl : l = done ++ todo) :
    Walks s ρ (st done) known (todo.mapM f) (todo.map g) (todo.flatMap meets) (todo.flatMap makes)
      (st l) := by
  induction todo generalizing done known with
  | nil => exact .congr (.pure []) rfl rfl rfl (by rw [hl, List.append_nil])
  | cons a todo ih =>
    have hrest : l = (done ++ [a]) ++ todo := by rw [hl, List.append_assoc, List.singleton_append]
    rw [List.mapM_cons]
    refine .congr (.bind (h known done a todo hl) (.bind (ih hrest) (.pure _))) rfl ?_ ?_ rfl
    · rw [List.append_nil, List.flatMap_cons]
    · rw [List.append_nil, List.flatMap_cons]

/-- **A loop**, in which every turn begins where the one before it ended. -/
theorem loop {f : α → CopyM β} {g : α → β} {meets : α → List SymbolId}
    {makes : α → List (SymbolId × Subject)} (st : List α → Copying) {l : List α}
    (h : ∀ known done a todo, l = done ++ a :: todo →
      Walks s ρ (st done) known (f a) (g a) (meets a) (makes a) (st (done ++ [a]))) :
    Walks s ρ (st []) known (l.mapM f) (l.map g) (l.flatMap meets) (l.flatMap makes) (st l) :=
  loop_from st h rfl

/-- What is left to do of a loop that meets nothing. -/
theorem forM_from {f : α → CopyM PUnit} (st : List α → Copying) {l : List α}
    (h : ∀ known done a todo, l = done ++ a :: todo →
      Walks s ρ (st done) known (f a) ⟨⟩ [] [] (st (done ++ [a])))
    {done todo : List α} (hl : l = done ++ todo) :
    Walks s ρ (st done) known (todo.forM f) ⟨⟩ [] [] (st l) := by
  induction todo generalizing done known with
  | nil => exact .congr (.pure _) rfl rfl rfl (by rw [hl, List.append_nil])
  | cons a todo ih =>
    have hrest : l = (done ++ [a]) ++ todo := by rw [hl, List.append_assoc, List.singleton_append]
    exact .congr (.bind (h known done a todo hl) (ih hrest)) rfl rfl rfl rfl

/-- A loop that meets nothing. -/
theorem forM {f : α → CopyM PUnit} (st : List α → Copying) {l : List α}
    (h : ∀ known done a todo, l = done ++ a :: todo →
      Walks s ρ (st done) known (f a) ⟨⟩ [] [] (st (done ++ [a]))) :
    Walks s ρ (st []) known (l.forM f) ⟨⟩ [] [] (st l) :=
  forM_from st h rfl

theorem mapM {f : α → CopyM β} {g : α → β} {meets : α → List SymbolId}
    {makes : α → List (SymbolId × Subject)} {l : List α}
    (h : ∀ known, ∀ a ∈ l, Walks s ρ c known (f a) (g a) (meets a) (makes a) c) :
    Walks s ρ c known (l.mapM f) (l.map g) (l.flatMap meets) (l.flatMap makes) c :=
  loop (fun _ => c) fun known _ a _ hl =>
    h known a (hl ▸ List.mem_append_right _ List.mem_cons_self)

/-- One part for each member, which is told its position. -/
theorem zipIdx {f : α × Nat → CopyM β} {g : Nat → α → β} {meets : α → List SymbolId}
    {makes : Nat → α → List (SymbolId × Subject)} {l : List α}
    (h : ∀ known i, ∀ a ∈ l, Walks s ρ c known (f (a, i)) (g i a) (meets a) (makes i a) c) :
    Walks s ρ c known (l.zipIdx.mapM f) (l.mapIdx g) (l.flatMap meets) (l.mapIdx makes).flatten c := by
  have hwalks : ∀ known, ∀ p ∈ l.zipIdx,
      Walks s ρ c known (f p) (g p.2 p.1) (meets p.1) (makes p.2 p.1) c := fun known p hp =>
    h known p.2 p.1 (List.fst_mem_of_mem_zipIdx hp)
  refine .congr (.mapM hwalks) ?_ ?_ ?_ rfl
  · exact List.mapIdx_eq_zipIdx_map.symm
  · exact flatMap_zipIdx_fst meets l
  · rw [List.flatMap_def, List.mapIdx_eq_zipIdx_map]

/-- What may or may not be there. -/
theorem option {f : α → CopyM β} {g : α → β} {meets : α → List SymbolId}
    (h : ∀ a, Walks s ρ c known (f a) (g a) (meets a) [] c) (o : Option α) :
    Walks s ρ c known (o.mapM f) (o.map g) (o.toList.flatMap meets) [] c := by
  cases o with
  | none => exact .pure none
  | some a =>
    have hwalks : Walks s ρ c known (f a >>= fun b => pure (some b)) (some (g a)) (meets a ++ []) [] c :=
      .bind (h a) (.pure _)
    exact hwalks.congr rfl (by simp) rfl rfl

end Walks

/-! ## Symbols -/

section Symbols

variable {s : Store} {ρ : Relocations} {c : Copying} {known : List SymbolId}

theorem Store.copiedSymbol_cons (s : Store) (claim : SymbolId × Subject)
    (claims : List (SymbolId × Subject)) (r : SymbolId) :
    s.copiedSymbol (claim :: claims) r
      = if r = claim.1 then { s.copiedSymbol claims r with subject := claim.2 }
        else s.copiedSymbol claims r := by
  obtain ⟨q, o⟩ := claim
  rw [copiedSymbol, Ordered.get?_cons]
  by_cases hq : r = q
  · subst hq
    simp [copiedSymbol]
  · simp [copiedSymbol, hq, Ne.symm hq]

/-- A symbol that has no claim is copied as it is. -/
theorem Store.copiedSymbol_of_unclaimed {claims : List (SymbolId × Subject)} {r : SymbolId}
    (hr : ∀ claim ∈ claims, claim.1 ≠ r) : s.copiedSymbol claims r = s.symbol r := by
  have hnone : Ordered.get? claims r = none := by
    rw [Ordered.get?_eq_none_iff]
    rintro hkey
    obtain ⟨claim, hclaim, heq⟩ := List.mem_map.mp hkey
    exact hr claim hclaim heq
  rw [copiedSymbol, hnone]
  rfl

/-- What happens when a symbol is met. -/
theorem CopyM.symbol_eq (r : SymbolId) (c : Copying) : CopyM.symbol r c
    = match Ordered.get? c.symbols r with
      | some copy => (copy, c)
      | none => (c.store.symbols.next,
          { c with
            store := (c.store.newSymbol (c.store.symbol r)).1
            symbols := Ordered.put c.symbols r c.store.symbols.next }) := by
  unfold CopyM.symbol
  show (match Ordered.get? c.symbols r with
    | some copy => (pure copy : CopyM SymbolId)
    | none => _) c = _
  generalize Ordered.get? c.symbols r = found
  cases found <;> rfl

/-- **The copy of a symbol**, made now or before. -/
theorem walks_symbol (r : SymbolId) :
    Walks s ρ c known (CopyM.symbol r) (ρ.symbols r) [r] [] c where
  claims := fun _ h => absurd h List.not_mem_nil
  run := by
    intro m hm _ hafter
    have hsymbols : (m.after [r] []).symbols = Ordered.insert m.symbols r := rfl
    have hget : Ordered.get? (c.met s ρ m).symbols r
        = if m.symbols.contains r then some (ρ.symbols r) else none := Ordered.get?_map_pair _ _ _
    have hbegins := hafter.begins
    rw [hsymbols] at hbegins
    rw [CopyM.symbol_eq, hget]
    by_cases hr : m.symbols.contains r = true
    · have hsame : m.after [r] [] = m := by
        rw [Met.after, show Ordered.union m.symbols [r] = m.symbols from if_pos hr]
        rfl
      rw [if_pos hr, hsame]
    · have hnew : r ∉ m.symbols := fun hmem => hr (List.contains_iff_mem.mpr hmem)
      have hadd : Ordered.insert m.symbols r = m.symbols ++ [r] := if_neg hr
      rw [hadd] at hbegins
      have hmem : r ∈ s.symbols :=
        hm.hasAll r (hbegins.subset (List.mem_append_right _ (List.mem_singleton_self r)))
      have hread : (c.met s ρ m).store.symbol r = s.symbol r := Table.get_pushAll_of_mem _ hmem
      have hnext : (c.met s ρ m).store.symbols.next = ρ.symbols r :=
        Relocation.next_pushAll_map hm.base hm.distinct hbegins
      have hcopied : s.copiedSymbol m.claims r = s.symbol r :=
        copiedSymbol_of_unclaimed fun claim hclaim heq => hnew (heq ▸ hm.known claim hclaim)
      have hput : Ordered.put (c.met s ρ m).symbols r (ρ.symbols r)
          = (m.symbols ++ [r]).map fun r => (r, ρ.symbols r) := by
        rw [Ordered.put_of_not_mem, List.map_append]
        · rfl
        · intro hkey
          obtain ⟨entry, hentry, rfl⟩ := List.mem_map.mp hkey
          obtain ⟨q, hq, rfl⟩ := List.mem_map.mp hentry
          exact hnew hq
      have hpush : (c.met s ρ m).store.symbols.push (s.symbol r)
          = s.symbols.pushAll ((m.symbols ++ [r]).map (s.copiedSymbol m.claims)) := by
        rw [List.map_append, List.map_singleton, hcopied]
        exact Table.push_pushAll _ _ _
      have hafter_eq : m.after [r] [] = { m with symbols := m.symbols ++ [r] } := by
        rw [← hadd]
        rfl
      rw [if_neg hr, hafter_eq]
      show ((c.met s ρ m).store.symbols.next, { c.met s ρ m with
        store := { (c.met s ρ m).store with
          symbols := (c.met s ρ m).store.symbols.push ((c.met s ρ m).store.symbol r) }
        symbols := Ordered.put (c.met s ρ m).symbols r (c.met s ρ m).store.symbols.next }) = _
      rw [hread, hnext, hput, hpush]
      rfl

/-- The copies of the symbols after one of them was made to stand for something. -/
theorem Met.Fits.rebind {m : Met} (hm : m.Fits s ρ) {r : SymbolId} (hr : r ∈ m.symbols) (o : Subject) :
    (s.symbols.pushAll (m.symbols.map (s.copiedSymbol m.claims))).modify (ρ.symbols r)
        (fun x => { x with subject := o })
      = s.symbols.pushAll (m.symbols.map (s.copiedSymbol ((r, o) :: m.claims))) := by
  rw [Relocation.modify_pushAll_map hm.base hm.distinct hm.begins hr]
  congr 2
  funext q
  rw [copiedSymbol_cons]

/-- **A copied symbol that is made to stand for a copied entity.** -/
theorem walks_rebind {r : SymbolId} (hr : r ∈ known) (o : Subject) :
    Walks s ρ c known (CopyM.rebind (ρ.symbols r) o) () [] [(r, o)] c where
  claims := fun claim h => Or.inl (List.mem_singleton.mp h ▸ hr)
  run := by
    intro m hm hknown _
    show ((), { c.met s ρ m with
      store := { (c.met s ρ m).store with
        symbols := (s.symbols.pushAll (m.symbols.map (s.copiedSymbol m.claims))).modify (ρ.symbols r)
          fun x => { x with subject := o } } }) = _
    rw [hm.rebind (hknown hr)]
    rfl

/-- Several symbols. -/
theorem walks_symbolList (l : List SymbolId) :
    Walks s ρ c known (CopyM.symbolList l) (ρ.symbolList l) l [] c := by
  refine .congr (.mapM fun _ r _ => walks_symbol r) rfl ?_ ?_ rfl
  · simp
  · simp

end Symbols

end TimedNet
