import TimedNet.Proofs.Scope.Declared

/-!
# `TimedNet.Proofs.Transfer.Entries` — copying what one block declares into another

Variables and functions are copied alike: a loop declares an entry of the same name, type and place in the
other block for each of them and gives it the contents of the original, or logs that the name is taken. This
module says what such a loop leaves behind, given what one turn does, for any kind of entries. The names of
the originals are different, so a turn does not take a name that a later one needs.

* `Store.Confined`: where the two stores of a call may differ.
* `Entries`: a kind of entries; `Entries.Copy`: one entry and its copy.
* `Entries.Copied`: some entries in turn, with the names that are taken in the log; `Copied.append`.
* `copied_foldl`: the loop, by induction on what it copies.
* `Live`, `live_foldl`: a loop that reads the list again at every turn.
* `copied_block`: copying what a block declares, which has different names.
-/

namespace TimedNet.Store

/-! ## What is left alone -/

/-- The symbols that are there stay what they are. -/
def KeepsSymbols (s s' : Store) : Prop := ∀ x ∈ s.symbols, x ∈ s'.symbols ∧ s'.symbol x = s.symbol x

/-- The stores differ in a block and its frame, in the errors of a log, and in symbols that are new. -/
structure Confined (s s' : Store) (b : BlockId) (l : LogId) : Prop where
  symbols : s.KeepsSymbols s'
  frames : ∀ q, (q ∈ s'.frames ↔ q ∈ s.frames)
    ∧ (q ≠ (s.block b).frame → s'.frame q = s.frame q)
  parent : (s'.frame (s.block b).frame).parent = (s.frame (s.block b).frame).parent
  blocks : ∀ c, (c ∈ s'.blocks ↔ c ∈ s.blocks) ∧ (c ≠ b → s'.block c = s.block c)
  frame : (s'.block b).frame = (s.block b).frame
  logs : ∀ m, (m ∈ s'.logs ↔ m ∈ s.logs) ∧ (m ≠ l → s'.log m = s.log m)
  lineTable : (s'.log l).lineTable = (s.log l).lineTable
  warnings : (s'.log l).warnings = (s.log l).warnings
  rest : s' = { s with symbols := s'.symbols, frames := s'.frames, blocks := s'.blocks, logs := s'.logs }

variable {s s₁ s₂ : Store} {b : BlockId} {l : LogId}

theorem KeepsSymbols.refl (s : Store) : s.KeepsSymbols s := fun _ hx => ⟨hx, rfl⟩

theorem KeepsSymbols.trans (h : s.KeepsSymbols s₁) (h' : s₁.KeepsSymbols s₂) : s.KeepsSymbols s₂ := by
  intro x hx
  obtain ⟨hmem, hsymbol⟩ := h x hx
  obtain ⟨hmem', hsymbol'⟩ := h' x hmem
  exact ⟨hmem', hsymbol'.trans hsymbol⟩

theorem KeepsSymbols.hasAll (h : s.KeepsSymbols s₁) {xs : List SymbolId} (hxs : s.HasAll xs) :
    s₁.HasAll xs :=
  fun x hx => (h x (hxs x hx)).1

theorem KeepsSymbols.name_eq (h : s.KeepsSymbols s₁) {x : SymbolId} (hx : x ∈ s.symbols) :
    s₁.name x = s.name x :=
  congrArg Symbol.name (h x hx).2

namespace Confined

theorem refl (s : Store) (b : BlockId) (l : LogId) : s.Confined s b l :=
  ⟨.refl s, fun _ => ⟨Iff.rfl, fun _ => rfl⟩, rfl, fun _ => ⟨Iff.rfl, fun _ => rfl⟩, rfl,
    fun _ => ⟨Iff.rfl, fun _ => rfl⟩, rfl, rfl, rfl⟩

theorem trans (h : s.Confined s₁ b l) (h' : s₁.Confined s₂ b l) : s.Confined s₂ b l where
  symbols := h.symbols.trans h'.symbols
  frames q := by
    refine ⟨(h'.frames q).1.trans (h.frames q).1, ?_⟩
    intro hq
    rw [(h'.frames q).2 (h.frame ▸ hq), (h.frames q).2 hq]
  parent := by
    have hparent := h'.parent
    rw [h.frame] at hparent
    exact hparent.trans h.parent
  blocks c := by
    refine ⟨(h'.blocks c).1.trans (h.blocks c).1, ?_⟩
    intro hc
    rw [(h'.blocks c).2 hc, (h.blocks c).2 hc]
  frame := h'.frame.trans h.frame
  logs m := by
    refine ⟨(h'.logs m).1.trans (h.logs m).1, ?_⟩
    intro hm
    rw [(h'.logs m).2 hm, (h.logs m).2 hm]
  lineTable := h'.lineTable.trans h.lineTable
  warnings := h'.warnings.trans h.warnings
  rest := by
    refine h'.rest.trans ?_
    exact congrArg (fun t : Store => { t with symbols := s₂.symbols, frames := s₂.frames,
                                              blocks := s₂.blocks, logs := s₂.logs }) h.rest

theorem lineTables_eq (h : s.Confined s₁ b l) : s₁.lineTables = s.lineTables := by
  rw [h.rest]

end Confined

/-- The entry in a log for a name that is taken, at the place of the symbol that has it. -/
def duplicate (s : Store) (l : LogId) (x : SymbolId) : Diagnostic :=
  .locate (s.lineTable (s.log l).lineTable) (s.symbol x).span
    (ProblemKind.duplicateDefinition.on (s.name x)).message ""

theorem Confined.duplicate_eq (h : s.Confined s₁ b l) {x : SymbolId} (hx : x ∈ s.symbols) :
    s₁.duplicate l x = s.duplicate l x := by
  rw [duplicate, duplicate, h.lineTable, (h.symbols x hx).2, h.symbols.name_eq hx, Store.lineTable,
    h.lineTables_eq]
  rfl

/-- A logged error is confined to the log. -/
theorem confined_report (s : Store) (b : BlockId) (l : LogId) (span : Span) {p : Problem}
    (hp : p.severity = .error) (context : String) : s.Confined (s.report l span p context) b l := by
  have hlog : ∀ m, m ≠ l → (s.report l span p context).log m = s.log m :=
    fun m hm => Table.get_modify_of_ne _ hm.symm
  have hsame : ((s.report l span p context).log l).lineTable = (s.log l).lineTable
      ∧ ((s.report l span p context).log l).warnings = (s.log l).warnings := by
    by_cases hl : l ∈ s.logs
    · have hreported : (s.report l span p context).log l = (s.log l).report _ span p context :=
        Table.get_modify_self (t := s.logs) _ hl
      rw [hreported, Log.report, hp]
      exact ⟨rfl, rfl⟩
    · have hnone : s.logs.get? l = none := Table.get?_eq_none_iff.mpr (Nat.le_of_not_lt hl)
      have hmissing : (s.report l span p context).log l = s.log l := by
        refine Table.get_eq_of_get? ?_
        show (s.logs.modify l _).get? l = _
        rw [Table.get?_modify, if_pos rfl, hnone]
        rfl
      rw [hmissing]
      exact ⟨rfl, rfl⟩
  exact { Confined.refl s b l with logs := fun m => ⟨Table.mem_modify, hlog m⟩, lineTable := hsame.1,
                                   warnings := hsame.2, rest := rfl }

end Store

/-! ## Entries of a block -/

open Store

/-- A kind of entries that a block lists and that can be copied into another block. What is known of an entry
    and of a copy stays true as long as symbols stay what they are. -/
structure Entries (α : Type) where
  list : Block → List α
  /-- The block without the entries. -/
  without : Block → Block
  symbol : α → SymbolId
  /-- What the symbol of an entry stands for. -/
  place : BlockId → Nat → Subject
  /-- What an entry mentions exists. -/
  Proper : Store → α → Prop
  /-- From one store to another, the entry at a place of a block got the contents of an entry. -/
  Filled : Store → Store → BlockId → Nat → α → α → Prop
  symbol_mem : ∀ {s a}, Proper s a → symbol a ∈ s.symbols
  proper_later : ∀ {s s' a}, s.KeepsSymbols s' → Proper s a → Proper s' a
  filled_later : ∀ {s s' s'' b i a c}, s'.KeepsSymbols s'' → Filled s s' b i a c →
    Filled s s'' b i a c
  filled_earlier : ∀ {s s' s'' b i a c}, s.KeepsSymbols s' → Proper s a → Filled s' s'' b i a c →
    Filled s s'' b i a c

namespace Entries

variable {α : Type} (E : Entries α)

/-- The name of an entry is free in the frame of a block. -/
def free (s : Store) (b : BlockId) (a : α) : Bool :=
  (s.lookup (s.frame (s.block b).frame) (s.name (E.symbol a))).isNone

/-- From one store to another, an entry `c` was made at a place of a block: its symbol is new, has the name,
    type and place in the text that the symbol of `a` has, and stands for the entry; and the entry got the
    contents of `a`. -/
structure Copy (s s' : Store) (b : BlockId) (i : Nat) (a c : α) : Prop where
  fresh : E.symbol c ∉ s.symbols
  mem : E.symbol c ∈ s'.symbols
  symbol : s'.symbol (E.symbol c) = { s.symbol (E.symbol a) with subject := E.place b i }
  filled : E.Filled s s' b i a c

/-- From one store to another, those of the entries `as` whose names were free in the frame of a block were
    copied to the end of the block, in order, and their symbols to the end of the frame; for each of the
    others an error came into a log, in order. Nothing else happened. -/
structure Copied (s s' : Store) (b : BlockId) (l : LogId) (as : List α) : Prop where
  confined : s.Confined s' b l
  without : E.without (s'.block b) = E.without (s.block b)
  copies : ∃ copies : List α, E.list (s'.block b) = E.list (s.block b) ++ copies
    ∧ (s'.frame (s.block b).frame).symbols
      = (s.frame (s.block b).frame).symbols ++ copies.map E.symbol
    ∧ copies.length = (as.filter (E.free s b)).length
    ∧ ∀ i a c, (as.filter (E.free s b))[i]? = some a → copies[i]? = some c →
      E.Copy s s' b ((E.list (s.block b)).length + i) a c
  errors : (s'.log l).errors = (s.log l).errors
    ++ (as.filter fun a => !E.free s b a).map fun a => s.duplicate l (E.symbol a)

variable {E} {s s₁ s₂ : Store} {b : BlockId} {l : LogId} {as bs : List α} {a c : α}

theorem free_eq_true_iff : E.free s b a = true ↔
    ∀ q ∈ (s.frame (s.block b).frame).symbols, s.name q ≠ s.name (E.symbol a) := by
  simp [free, lookup]

theorem lookup_isSome_of_free_eq_false (h : E.free s b a = false) :
    (s.lookup (s.frame (s.block b).frame) (s.name (E.symbol a))).isSome = true := by
  rw [← Option.not_isNone]
  exact congrArg (!·) h

theorem lookup_eq_none_of_free (h : E.free s b a = true) :
    s.lookup (s.frame (s.block b).frame) (s.name (E.symbol a)) = none :=
  Option.isNone_iff_eq_none.mp h

theorem Copy.later {i : Nat} (h : E.Copy s s₁ b i a c) (hkeeps : s₁.KeepsSymbols s₂) :
    E.Copy s s₂ b i a c where
  fresh := h.fresh
  mem := (hkeeps _ h.mem).1
  symbol := (hkeeps _ h.mem).2.trans h.symbol
  filled := E.filled_later hkeeps h.filled

theorem Copy.earlier {i : Nat} (h : E.Copy s₁ s₂ b i a c) (hkeeps : s.KeepsSymbols s₁)
    (ha : E.Proper s a) : E.Copy s s₂ b i a c where
  fresh hmem := h.fresh (hkeeps _ hmem).1
  mem := h.mem
  symbol := by rw [h.symbol, (hkeeps _ (E.symbol_mem ha)).2]
  filled := E.filled_earlier hkeeps ha h.filled

theorem Copied.nil (E : Entries α) (s : Store) (b : BlockId) (l : LogId) : E.Copied s s b l [] where
  confined := .refl s b l
  without := rfl
  copies := ⟨[], by simp, by simp, rfl, fun _ _ _ h => absurd h (by simp)⟩
  errors := by simp

/-- **Copying in two parts.** What is free for the second part afterwards has to be what was free before. -/
theorem Copied.append (h : E.Copied s s₁ b l as) (h' : E.Copied s₁ s₂ b l bs)
    (hproper : ∀ x ∈ bs, E.Proper s x) (hfree : ∀ x ∈ bs, E.free s₁ b x = E.free s b x) :
    E.Copied s s₂ b l (as ++ bs) := by
  obtain ⟨first, hlist, hframe, hlength, hcopy⟩ := h.copies
  obtain ⟨second, hlist', hframe', hlength', hcopy'⟩ := h'.copies
  have hkept : bs.filter (E.free s₁ b) = bs.filter (E.free s b) := List.filter_congr hfree
  refine ⟨h.confined.trans h'.confined, h'.without.trans h.without, ⟨first ++ second, ?_, ?_, ?_, ?_⟩, ?_⟩
  · rw [hlist', hlist, List.append_assoc]
  · rw [h.confined.frame] at hframe'
    rw [hframe', hframe, List.map_append, List.append_assoc]
  · rw [List.filter_append, List.length_append, List.length_append, hlength, hlength', hkept]
  · intro i x y hx hy
    rw [List.filter_append, List.getElem?_append, ← hlength] at hx
    rw [List.getElem?_append] at hy
    split at hx
    · next hi =>
      rw [if_pos hi] at hy
      exact (hcopy i x y hx hy).later h'.confined.symbols
    · next hi =>
      rw [if_neg hi] at hy
      have hx' := hx
      rw [← hkept] at hx'
      have hmade := hcopy' (i - first.length) x y hx' hy
      rw [hlist, List.length_append] at hmade
      have hplace : (E.list (s.block b)).length + first.length + (i - first.length)
          = (E.list (s.block b)).length + i := by omega
      rw [hplace] at hmade
      exact hmade.earlier h.confined.symbols
        (hproper x (List.mem_of_mem_filter (List.mem_of_getElem? hx)))
  · have hduplicates : (bs.filter fun x => !E.free s₁ b x).map (fun x => s₁.duplicate l (E.symbol x))
        = (bs.filter fun x => !E.free s b x).map fun x => s.duplicate l (E.symbol x) := by
      rw [List.filter_congr fun x hx => congrArg (!·) (hfree x hx)]
      refine List.map_congr_left fun x hx => h.confined.duplicate_eq ?_
      exact E.symbol_mem (hproper x (List.mem_of_mem_filter hx))
    rw [h'.errors, h.errors, hduplicates, List.filter_append, List.map_append, List.append_assoc]

/-- **Copying takes no name but those of the originals.** -/
theorem Copied.free_eq (h : E.Copied s s₁ b l as)
    (hframe : s.HasAll (s.frame (s.block b).frame).symbols) {x : α} (hx : E.Proper s x)
    (hname : ∀ y ∈ as, s.name (E.symbol y) ≠ s.name (E.symbol x)) : E.free s₁ b x = E.free s b x := by
  obtain ⟨copies, -, hsymbols, hlength, hcopy⟩ := h.copies
  have hkept := h.confined.symbols
  rw [Bool.eq_iff_iff, free_eq_true_iff, free_eq_true_iff, h.confined.frame, hsymbols,
    hkept.name_eq (E.symbol_mem hx)]
  constructor
  · intro hall q hq
    rw [← hkept.name_eq (hframe q hq)]
    exact hall q (List.mem_append_left _ hq)
  · intro hall q hq
    rcases List.mem_append.mp hq with hold | hnew
    · rw [hkept.name_eq (hframe q hold)]
      exact hall q hold
    · obtain ⟨c, hc, rfl⟩ := List.mem_map.mp hnew
      obtain ⟨i, hi⟩ := List.mem_iff_getElem?.mp hc
      obtain ⟨hlt, -⟩ := List.getElem?_eq_some_iff.mp hi
      -- A copy has the name of its original.
      have horiginal := List.getElem?_eq_getElem (hlength ▸ hlt)
      have hmem := List.mem_of_mem_filter (List.mem_of_getElem? horiginal)
      rw [name, (hcopy i _ c horiginal hi).symbol]
      exact hname _ hmem

/-! ## The loop -/

/-- A block and a log that are there, with a frame that is there and mentions nothing else. -/
structure Ready (s : Store) (b : BlockId) (l : LogId) : Prop where
  block : b ∈ s.blocks
  frame : (s.block b).frame ∈ s.frames
  symbols : s.HasAll (s.frame (s.block b).frame).symbols
  log : l ∈ s.logs

theorem Copied.ready (h : E.Copied s s₁ b l as) (hready : Ready s b l) : Ready s₁ b l where
  block := (h.confined.blocks b).1.mpr hready.block
  frame := by
    rw [h.confined.frame]
    exact (h.confined.frames _).1.mpr hready.frame
  symbols := by
    obtain ⟨copies, -, hsymbols, hlength, hcopy⟩ := h.copies
    rw [h.confined.frame, hsymbols]
    intro q hq
    rcases List.mem_append.mp hq with hold | hnew
    · exact (h.confined.symbols q (hready.symbols q hold)).1
    · obtain ⟨c, hc, rfl⟩ := List.mem_map.mp hnew
      obtain ⟨i, hi⟩ := List.mem_iff_getElem?.mp hc
      obtain ⟨hlt, -⟩ := List.getElem?_eq_some_iff.mp hi
      exact (hcopy i _ c (List.getElem?_eq_getElem (hlength ▸ hlt)) hi).mem
  log := (h.confined.logs l).1.mpr hready.log

variable {turn : Store → α → Store}

/-- **A loop copies entries of different names** if each turn copies one entry. -/
theorem copied_foldl (hturn : ∀ {s : Store} {a : α}, Ready s b l → E.Proper s a →
      E.Copied s (turn s a) b l [a]) (hready : Ready s b l) (hproper : ∀ a ∈ as, E.Proper s a)
    (hnames : (as.map fun a => s.name (E.symbol a)).Nodup) :
    E.Copied s (as.foldl turn s) b l as := by
  induction as generalizing s with
  | nil => exact .nil E s b l
  | cons a as ih =>
    obtain ⟨ha, has⟩ := List.forall_mem_cons.mp hproper
    rw [List.map_cons, List.nodup_cons] at hnames
    have hfirst := hturn hready ha
    have hkept := hfirst.confined.symbols
    have hlater : ∀ x ∈ as, s.name (E.symbol a) ≠ s.name (E.symbol x) := by
      intro x hx heq
      exact hnames.1 (List.mem_map.mpr ⟨x, hx, heq.symm⟩)
    have hrest : E.Copied (turn s a) (as.foldl turn (turn s a)) b l as := by
      refine ih (hfirst.ready hready) (fun x hx => E.proper_later hkept (has x hx)) ?_
      rw [List.map_congr_left fun x hx => hkept.name_eq (E.symbol_mem (has x hx))]
      exact hnames.2
    apply hfirst.append hrest has
    intro x hx
    exact hfirst.free_eq hready.symbols (has x hx) (List.forall_mem_singleton.mpr (hlater x hx))

/-- Entries that the frame has names for already are not copied. -/
theorem Copied.list_eq_of_taken (h : E.Copied s s₁ b l as) (htaken : ∀ a ∈ as, E.free s b a = false) :
    E.list (s₁.block b) = E.list (s.block b) := by
  obtain ⟨copies, hlist, -, hlength, -⟩ := h.copies
  have hnone : as.filter (E.free s b) = [] :=
    List.filter_eq_nil_iff.mpr fun a ha => Bool.not_eq_true _ ▸ htaken a ha
  rw [hnone, List.length_nil, List.length_eq_zero_iff] at hlength
  rw [hlist, hlength, List.append_nil]

/-- The entries that were in the block stay in front. -/
theorem Copied.prefix_list (h : E.Copied s s₁ b l as) : E.list (s.block b) <+: E.list (s₁.block b) := by
  obtain ⟨copies, hlist, -⟩ := h.copies
  exact ⟨copies, hlist.symm⟩

/-- An entry with a free name has a copy. -/
theorem Copied.exists_copy (h : E.Copied s s₁ b l as) (ha : a ∈ as) (hfree : E.free s b a = true) :
    ∃ i c, (E.list (s₁.block b))[i]? = some c ∧ E.Copy s s₁ b i a c := by
  obtain ⟨copies, hlist, -, hlength, hcopy⟩ := h.copies
  obtain ⟨j, hj⟩ := List.mem_iff_getElem?.mp (List.mem_filter.mpr ⟨ha, hfree⟩)
  obtain ⟨hlt, -⟩ := List.getElem?_eq_some_iff.mp hj
  have hlt' : j < copies.length := hlength ▸ hlt
  refine ⟨(E.list (s.block b)).length + j, copies[j], ?_, hcopy j a _ hj (List.getElem?_eq_getElem hlt')⟩
  rw [hlist, List.getElem?_append_right (Nat.le_add_right _ _), Nat.add_sub_cancel_left,
    List.getElem?_eq_getElem hlt']

/-- A turn for a name that is taken is an error in the log. -/
theorem copied_of_taken (htaken : E.free s b a = false) (hlog : l ∈ s.logs) :
    E.Copied s (s.report l (s.symbol (E.symbol a)).span
      (ProblemKind.duplicateDefinition.on (s.name (E.symbol a))) "") b l [a] where
  confined := confined_report s b l _ rfl _
  without := rfl
  copies := ⟨[], by simp [report, modifyLog, block], by simp [report, modifyLog, frame],
    by simp [htaken], fun i x y hx => absurd hx (by simp [htaken])⟩
  errors := by
    rw [show ([a].filter fun a => !E.free s b a) = [a] by simp [htaken]]
    exact congrArg Log.errors (Table.get_modify_self (t := s.logs) _ hlog)

/-- A turn for a free name makes one copy, if it puts a symbol into the frame and an entry into the block. -/
theorem copied_of_free (hready : Ready s b l) (hfree : E.free s b a = true)
    (hcopy : E.Copy s s₁ b (E.list (s.block b)).length a c) (hkeeps : s.KeepsSymbols s₁)
    (hframes : s₁.frames = s.frames.modify (s.block b).frame fun f => f.add (E.symbol c))
    (hblocks : ∀ k, (k ∈ s₁.blocks ↔ k ∈ s.blocks) ∧ (k ≠ b → s₁.block k = s.block k))
    (hframe : (s₁.block b).frame = (s.block b).frame)
    (hwithout : E.without (s₁.block b) = E.without (s.block b))
    (hlist : E.list (s₁.block b) = E.list (s.block b) ++ [c])
    (hrest : s₁ = { s with symbols := s₁.symbols, frames := s₁.frames, blocks := s₁.blocks }) :
    E.Copied s s₁ b l [a] := by
  have hlogs : s₁.logs = s.logs := by rw [hrest]
  have hadded : s₁.frame (s.block b).frame = (s.frame (s.block b).frame).add (E.symbol c) := by
    rw [frame, hframes, Table.get_modify_self _ hready.frame]
    rfl
  refine ⟨⟨hkeeps, fun q => ?_, ?_, hblocks, hframe, fun m => ?_, ?_, ?_, ?_⟩, hwithout, ?_, ?_⟩
  · rw [frame, hframes]
    exact ⟨Table.mem_modify, fun hq => Table.get_modify_of_ne _ hq.symm⟩
  · rw [hadded, Frame.parent_add]
  · rw [log, hlogs]
    exact ⟨Iff.rfl, fun _ => rfl⟩
  · rw [log, hlogs]
    rfl
  · rw [log, hlogs]
    rfl
  · rw [hrest]
  · refine ⟨[c], hlist, by rw [hadded, Frame.symbols_add, List.map_singleton], by simp [hfree],
      fun i x y hx hy => ?_⟩
    rw [List.filter_cons_of_pos hfree, List.filter_nil] at hx
    cases i with
    | zero =>
      obtain rfl := Option.some.inj hx
      obtain rfl := Option.some.inj hy
      exact hcopy
    | succ i => exact absurd hy (by simp)
  · rw [log, hlogs, show ([a].filter fun a => !E.free s b a) = [] by simp [hfree], List.map_nil,
      List.append_nil]
    rfl

end Entries

/-! ## Reading the list at every turn -/

/-- A loop over a list that is read again at every turn, from a place on. It stops when the place is behind
    the end of the list. -/
inductive Live {α : Type} (turn : Store → α → Store) (read : Store → List α) : Nat → Store → Store → Prop
  | stop {i : Nat} {s : Store} (h : (read s).length ≤ i) : Live turn read i s s
  | turn {i : Nat} {s s' : Store} {a : α} (h : (read s)[i]? = some a)
      (rest : Live turn read (i + 1) (turn s a) s') : Live turn read i s s'

section Live

variable {α : Type} {turn : Store → α → Store} {read : Store → List α} {s : Store}

/-- **A loop that leaves the list that it reads alone** takes one turn for each member. -/
theorem live_foldl (hread : ∀ first, first <+: read s → read (first.foldl turn s) = read s) :
    Live turn read 0 s ((read s).foldl turn s) := by
  have hfrom : ∀ rest first, read s = first ++ rest →
      Live turn read first.length (first.foldl turn s) ((first ++ rest).foldl turn s) := by
    intro rest
    induction rest with
    | nil =>
      intro first hall
      rw [List.append_nil]
      refine .stop (Nat.le_of_eq ?_)
      rw [hread first ⟨[], hall.symm⟩, hall, List.append_nil]
    | cons a rest ih =>
      intro first hall
      have hnext := ih (first ++ [a]) (by rw [hall, List.append_assoc]; rfl)
      rw [List.length_append, List.foldl_append, List.append_assoc] at hnext
      refine .turn (a := a) ?_ hnext
      rw [hread first ⟨a :: rest, hall.symm⟩, hall, List.getElem?_append_right (Nat.le_refl _),
        Nat.sub_self, List.getElem?_cons_zero]
  exact hfrom (read s) [] rfl

/-- **There is one way for the loop to go.** -/
theorem Live.unique {i : Nat} {u v : Store} (h : Live turn read i s u) (h' : Live turn read i s v) :
    u = v := by
  induction h with
  | stop hstop =>
    cases h' with
    | stop _ => rfl
    | turn hget _ =>
      obtain ⟨hlt, -⟩ := List.getElem?_eq_some_iff.mp hget
      exact absurd hlt (Nat.not_lt.mpr hstop)
  | turn hget _ ih =>
    cases h' with
    | stop hstop =>
      obtain ⟨hlt, -⟩ := List.getElem?_eq_some_iff.mp hget
      exact absurd hlt (Nat.not_lt.mpr hstop)
    | turn hget' rest =>
      obtain rfl := Option.some.inj (hget.symm.trans hget')
      exact ih rest

theorem Live.iff_eq {i : Nat} {u v : Store} (h : Live turn read i s v) :
    Live turn read i s u ↔ u = v := by
  constructor
  · intro hu
    exact hu.unique h
  · rintro rfl
    exact h

end Live

/-! ## Copying a block -/

namespace Entries

variable {α : Type} {E : Entries α} {s : Store} {a b : BlockId} {l : LogId} {turn : Store → α → Store}

/-- A name that an entry of the block itself has is taken. -/
theorem free_eq_false_of_mem {ρ : Role}
    (hlisted : (E.list (s.block b)).map E.symbol = (s.block b).listed ρ) (hdeclared : s.Declared b)
    {x : α} (hx : x ∈ E.list (s.block b)) : E.free s b x = false := by
  apply Bool.eq_false_iff.mpr
  intro hfree
  have hmem : E.symbol x ∈ (s.frame (s.block b).frame).symbols :=
    (hdeclared ρ).listed _ (hlisted ▸ List.mem_map_of_mem hx)
  exact free_eq_true_iff.mp hfree _ hmem rfl

/-- **Copying the entries of a block**, all at once or with the list read again at every turn. If the block is
    copied into itself, then all names are taken, and the list does not grow while it is read. -/
theorem copied_block {ρ : Role} (hlisted : ∀ c : Block, (E.list c).map E.symbol = c.listed ρ)
    (hturn : ∀ {s : Store} {x : α}, Ready s b l → E.Proper s x → E.Copied s (turn s x) b l [x])
    (hready : Ready s b l) (hproper : ∀ x ∈ E.list (s.block a), E.Proper s x)
    (hdeclared : s.Declared a) :
    E.Copied s ((E.list (s.block a)).foldl turn s) b l (E.list (s.block a))
      ∧ Live turn (fun t => E.list (t.block a)) 0 s ((E.list (s.block a)).foldl turn s) := by
  have hnames : ((E.list (s.block a)).map fun x => s.name (E.symbol x)).Nodup := by
    have hdistinct := (hdeclared ρ).distinct
    rw [← hlisted, List.map_map] at hdistinct
    exact hdistinct
  have hfirst : ∀ first, first <+: E.list (s.block a) →
      E.Copied s (first.foldl turn s) b l first := by
    intro first hpart
    refine copied_foldl hturn hready (fun x hx => hproper x (hpart.subset hx)) ?_
    exact hnames.sublist (hpart.sublist.map _)
  refine ⟨hfirst _ (List.prefix_refl _), live_foldl fun first hpart => ?_⟩
  by_cases hab : a = b
  · subst hab
    apply (hfirst first hpart).list_eq_of_taken
    intro x hx
    exact free_eq_false_of_mem (hlisted _) hdeclared (hpart.subset hx)
  · show E.list ((first.foldl turn s).block a) = E.list (s.block a)
    rw [((hfirst first hpart).confined.blocks a).2 hab]

end Entries

/-! ## Templates and documents -/

namespace Store

variable {s : Store} {d : DocumentId} {t : TemplateId}

/-- The block of a template and the log of a document are ready to be copied to. -/
theorem Sound.ready (h : s.Sound) (hd : d ∈ s.documents) (ht : t ∈ s.templates) :
    Entries.Ready s (s.template t).block (s.document d).log where
  block := (h.templates t ht).block
  frame := (h.blocks _ (h.templates t ht).block).frame
  symbols := (h.frames _ (h.blocks _ (h.templates t ht).block).frame).symbols
  log := (h.documents d hd).log

/-- Two templates have different blocks and different frames. -/
theorem Sound.apart_of_ne (h : s.Sound) {u : TemplateId} (ht : t ∈ s.templates) (hu : u ∈ s.templates)
    (hne : t ≠ u) :
    (s.template t).block ≠ (s.template u).block ∧ s.localFrame t ≠ s.localFrame u := by
  have hblock : (s.template t).block ≠ (s.template u).block :=
    fun heq => hne (h.apart.blocks t ht u hu heq)
  refine ⟨hblock, fun heq => hblock ?_⟩
  exact h.apart.frames _ (h.templates t ht).block _ (h.templates u hu).block heq

end Store

end TimedNet
