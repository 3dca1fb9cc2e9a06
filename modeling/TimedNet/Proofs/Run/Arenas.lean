import TimedNet.Proofs.Run.AppendOnly
import TimedNet.Store.Outcome

/-!
# `TimedNet.Proofs.Run.Arenas` — a handle means one entry of one arena

A store has the arenas that a program makes for itself and three for each template. All of them draw
their numbers from one counter, so no two have a number in common, and all of them grow at their end
only. A handle therefore leads to one entry of one arena for as long as the program runs, and every
other arena refuses it.

* `Arena.map`: an arena whose entries are seen through a function, with the same handles.
* `Arena.handle_eq_ok`, `Arena.get_eq_ok`, `Arena.exists_handle_iff`: the checks of a position.
* `ArenaRef`, `Store.arenaAt`: all arenas of a store.
* `Sound.arenas_perform`, `Run.arenaAt_continues`: arenas keep their numbers and their entries.
* `Store.Numbered`, `Run.numbered`: arenas have different numbers.
* `Store.Leads`, `Operation.pushed`, `Store.HandlesLead`; `Store.handles_lead`.
-/

namespace TimedNet

universe u v

/-! ## One arena -/

namespace Arena

variable {α : Type u} {β : Type v} {a : Arena α} {h : Handle} {item : α}

/-- The arena with its entries seen through `f`. -/
def map (f : α → β) (a : Arena α) : Arena β := { id := a.id, label := a.label, items := a.items.map f }

theorem get_map (f : α → β) (a : Arena α) (h : Handle) : (a.map f).get h = (a.get h).map f := by
  have hat : (a.map f).at? h.index = (a.at? h.index).map f := by
    cases h.index with
    | ofNat i => exact List.getElem?_map
    | negSucc i => rfl
  simp only [get, hat]
  show (if h.arena = a.id then _ else _) = _
  split
  · cases a.at? h.index <;> rfl
  · rfl

theorem size_map (f : α → β) (a : Arena α) : (a.map f).size = a.size := List.length_map f

theorem owns_map (f : α → β) (a : Arena α) (h : Handle) : (a.map f).owns h = a.owns h := by
  rw [owns, size_map]
  rfl

theorem rebase_map (f : α → β) (a : Arena α) (h : Handle) : (a.map f).rebase h = a.rebase h := by
  rw [rebase, handle, size_map]
  rfl

theorem map_push (f : α → β) (a : Arena α) (item : α) : (a.push item).map f = (a.map f).push (f item) := by
  simp [map, push]

/-- There is a handle for a position exactly when an entry stands there. -/
theorem handle_eq_ok {index : Int} :
    a.handle index = .ok h ↔ ∃ i : Nat, index = i ∧ i < a.size ∧ h = a.handleAt i := by
  unfold handle
  constructor
  · intro hhandle
    split at hhandle
    · next hrange =>
      obtain ⟨i, rfl⟩ := Int.eq_ofNat_of_zero_le hrange.1
      exact ⟨i, rfl, Int.ofNat_lt.mp hrange.2, (Except.ok.inj hhandle).symm⟩
    · exact absurd hhandle (by simp)
  · rintro ⟨i, rfl, hi, rfl⟩
    rw [if_pos ⟨Int.natCast_nonneg i, Int.ofNat_lt.mpr hi⟩]
    rfl

/-- There is a handle for a position exactly when the arena owns the handle of the position. -/
theorem exists_handle_iff {index : Int} : (∃ h, a.handle index = .ok h) ↔ a.owns ⟨a.id, index⟩ = true := by
  simp only [handle_eq_ok, owns, Bool.and_eq_true, decide_eq_true_eq, true_and]
  constructor
  · rintro ⟨h, i, rfl, hi, -⟩
    exact ⟨Int.natCast_nonneg i, Int.ofNat_lt.mpr hi⟩
  · rintro ⟨hnonneg, hlt⟩
    obtain ⟨i, rfl⟩ := Int.eq_ofNat_of_zero_le hnonneg
    exact ⟨_, i, rfl, Int.ofNat_lt.mp hlt, rfl⟩

end Arena

namespace Arena

variable {α β : Type} {a : Arena α} {h : Handle} {item : α}

/-- A handle leads to an entry exactly when it is the handle of the entry's position. -/
theorem get_eq_ok : a.get h = .ok item ↔ ∃ i : Nat, h = a.handleAt i ∧ a.items[i]? = some item := by
  constructor
  · intro hget
    obtain ⟨i, hindex, hitem⟩ := exists_getElem?_of_get hget
    have harena : h.arena = a.id := arena_of_owns (owns_iff.mpr ⟨item, hget⟩)
    obtain ⟨arena, index⟩ := h
    obtain rfl : arena = a.id := harena
    obtain rfl : index = i := hindex
    exact ⟨i, rfl, hitem⟩
  · rintro ⟨i, rfl, hitem⟩
    have hat : a.at? (a.handleAt i).index = some item := hitem
    have harena : (a.handleAt i).arena = a.id := rfl
    rw [get, if_pos harena, hat]

theorem owns_eq_false_of_arena_ne (hne : h.arena ≠ a.id) : a.owns h = false := by
  cases howns : a.owns h with
  | false => rfl
  | true => exact absurd (arena_of_owns howns) hne

/-- An arena that continues one has its entries at the same positions. -/
theorem Continues.getElem? {b : Arena α} (hab : a.Continues Eq b) {i : Nat} (hitem : a.items[i]? = some item) :
    b.items[i]? = some item := by
  obtain ⟨later, hlater, rfl⟩ := hab.items i item hitem
  exact hlater

theorem Continues.map {R : α → α → Prop} {b : Arena α} (hab : a.Continues R b) {f : α → β}
    (hf : ∀ {x y}, R x y → f x = f y) : (a.map f).Continues Eq (b.map f) where
  id := hab.id
  items := by
    intro i y hy
    obtain ⟨x, hx, rfl⟩ := Option.map_eq_some_iff.mp (List.getElem?_map ▸ hy)
    obtain ⟨later, hlater, hR⟩ := hab.items i x hx
    exact ⟨f later, (List.getElem?_map).trans (congrArg (Option.map f) hlater), hf hR⟩

theorem continues_push (a : Arena α) (item : α) : a.Continues Eq (a.push item) :=
  ⟨rfl, continues_concat (fun _ => rfl) a.items item⟩

end Arena

/-! ## All arenas -/

/-- The arenas of a template. -/
inductive ArenaKind where
  | locations
  | branchpoints
  | lines
deriving DecidableEq, Repr

/-- How far the number of an arena is from the first number of its template. -/
def ArenaKind.offset : ArenaKind → Nat
  | .locations => 0
  | .branchpoints => 1
  | .lines => 2

/-- An arena: one that a program made for itself, or one of a template. -/
inductive ArenaRef where
  | free (a : ArenaId)
  | ofTemplate (t : TemplateId) (kind : ArenaKind)
deriving DecidableEq, Repr

/-- What stands in an arena. A location is told by its symbol and its number, for its other fields are
    assigned later on. -/
inductive Item where
  | constant (c : Constant)
  | location (symbol : SymbolId) (nr : Nat)
  | branchpoint (b : Branchpoint)
  | line (l : InstanceLine)
deriving DecidableEq, Repr

/-- What an operation adds to an arena that a program made. -/
def Operation.pushed (a : ArenaId) : Operation → Option Constant
  | .pushToArena b item => if b = a then some item else none
  | _ => none

namespace Template

/-- An arena of a template. -/
def arena (t : Template) : ArenaKind → Arena Item
  | .locations => t.locations.map fun l => .location l.symbol l.nr
  | .branchpoints => t.branchpoints.map .branchpoint
  | .lines => t.lines.map .line

theorem Sound.id_arena {s : Store} {r : TemplateId} {t : Template} (h : t.Sound s r) (kind : ArenaKind) :
    (t.arena kind).id = t.locations.id + kind.offset := by
  obtain ⟨hbranchpoints, hlines, -⟩ := h.arenas
  cases kind with
  | locations => rfl
  | branchpoints => exact hbranchpoints
  | lines => exact hlines

theorem Continues.arena {t u : Template} (h : t.Continues u) (kind : ArenaKind) :
    (t.arena kind).Continues Eq (u.arena kind) := by
  cases kind with
  | locations => exact h.locations.map fun hR => by rw [hR.symbol, hR.nr]
  | branchpoints => exact h.branchpoints.map (congrArg _)
  | lines => exact h.lines.map (congrArg _)

end Template

namespace Store

variable {condition : Store → Operation → Prop} {s s' : Store} {w : Write} {op : Operation} {r q : ArenaRef}
  {a : ArenaId} {t : TemplateId}

/-- An arena of the store. -/
def arenaAt (s : Store) : ArenaRef → Arena Item
  | .free a => (s.arena a).map .constant
  | .ofTemplate t kind => (s.template t).arena kind

/-- Whether there is such an arena in the store. -/
def HasArena (s : Store) : ArenaRef → Prop
  | .free a => a ∈ s.arenas
  | .ofTemplate t _ => t ∈ s.templates

/-! ## What operations do to arenas -/

/-- The steps that belong to documents leave the arenas of the program alone. -/
theorem Step.arenas (hstep : s.Step w s') (hw : w ≠ .aside) : s'.arenas = s.arenas := by
  cases hstep with
  | aside => exact absurd rfl hw
  | _ => rfl

theorem Path.arenas (hpath : Path (· ≠ .aside) s s') : s'.arenas = s.arenas := by
  induction hpath with
  | refl => rfl
  | step _ hw hstep ih => exact (hstep.arenas hw).trans ih

/-- A program changes the arenas it made for itself in two ways: one more arena, or one more entry. -/
theorem Sound.arenas_cases (h : s.Sound) (hop : op.Admissible s) :
    (∃ label items, op = .newArena label items) ∨ (∃ a item, op = .pushToArena a item)
      ∨ (s.perform op).arenas = s.arenas ∧ ∀ a, op.pushed a = none := by
  cases op with
  | newArena label items => exact Or.inl ⟨label, items, rfl⟩
  | pushToArena a item => exact Or.inr (Or.inl ⟨a, item, rfl⟩)
  | newRegions | setRegion | newCut | addToCut | eraseFromCut | newQuery | setQuery =>
    exact Or.inr (Or.inr ⟨rfl, fun _ => rfl⟩)
  | _ =>
    have hpath : Path (· ≠ .aside) s _ := (h.path_perform hop).imp (by simp [Operation.writes])
    exact Or.inr (Or.inr ⟨hpath.arenas, fun _ => rfl⟩)

/-- **No operation takes anything from an arena that a program made.** -/
theorem Sound.arenas_perform (h : s.Sound) (hop : op.Admissible s) :
    s.arenas.Keeps (Arena.Continues Eq) (s.perform op).arenas := by
  rcases h.arenas_cases hop with ⟨label, items, rfl⟩ | ⟨a, item, rfl⟩ | ⟨heq, -⟩
  · exact Table.keeps_push (Arena.Continues.refl Eq.refl) _ _
  · exact Table.keeps_modify (Arena.Continues.refl Eq.refl) fun _ => Arena.continues_push _ item
  · exact heq ▸ .refl (Arena.Continues.refl Eq.refl) _

theorem Run.arenas (hrun : Run condition s s') (h : s.Sound) :
    s.arenas.Keeps (Arena.Continues Eq) s'.arenas := by
  induction hrun with
  | refl => exact .refl (Arena.Continues.refl Eq.refl) _
  | step run op hadmissible _ ih =>
    exact ih.trans ((run.sound h).arenas_perform hadmissible) fun h h' => h.trans h' Eq.trans

/-- **Every arena keeps its number and its entries.** -/
theorem Run.arenaAt_continues (hrun : Run condition s s') (h : s.Sound) (hr : s.HasArena r) :
    s'.HasArena r ∧ (s.arenaAt r).Continues Eq (s'.arenaAt r) := by
  cases r with
  | free a =>
    obtain ⟨hmem, hcontinues⟩ := hrun.arenas h a hr
    exact ⟨hmem, hcontinues.map (congrArg _)⟩
  | ofTemplate t kind =>
    obtain ⟨hmem, hcontinues⟩ := (hrun.continues h).templates t hr
    exact ⟨hmem, hcontinues.arena kind⟩

/-! ## Numbers -/

/-- The arenas of a template that a step makes have numbers that were not given out before. -/
theorem Step.nextArena_le_of_new (hstep : s.Step w s') (h : s.Sound) (ht : t ∈ s'.templates) :
    (t ∈ s.templates ∧ (s'.template t).locations.id = (s.template t).locations.id)
      ∨ s.nextArena ≤ (s'.template t).locations.id := by
  rcases hstep.template_cases h ht with ⟨hold, heq⟩ | ⟨hold, a, -, hedit⟩
    | ⟨symbol, parameters, globals, log, style, rfl, rfl⟩ | ⟨d, hd, rfl, u, hu, rfl⟩
  · exact Or.inl ⟨hold, by rw [heq]⟩
  · exact Or.inl ⟨hold, hedit.continues.locations.id⟩
  · rw [template_newTemplate]
    exact Or.inr (Nat.le_refl _)
  · rw [relocated_template hu]
    exact Or.inr (Nat.le_add_right _ _)

theorem Path.nextArena_le_of_new {P : Write → Prop} (hpath : Path P s s') (h : s.Sound)
    (ht : t ∈ s'.templates) :
    (t ∈ s.templates ∧ (s'.template t).locations.id = (s.template t).locations.id)
      ∨ s.nextArena ≤ (s'.template t).locations.id := by
  induction hpath with
  | refl => exact Or.inl ⟨ht, rfl⟩
  | step path _ hstep ih =>
    rcases hstep.nextArena_le_of_new (path.sound h) ht with ⟨hold, heq⟩ | hnew
    · rw [heq]
      exact ih hold
    · exact Or.inr (path.grows.nextArena.trans hnew)

/-- The arenas that a program made have numbers of their own, among them and against templates. -/
structure Numbered (s : Store) : Prop where
  given : ∀ a ∈ s.arenas, (s.arena a).id < s.nextArena
  distinct : ∀ a ∈ s.arenas, ∀ b ∈ s.arenas, (s.arena a).id = (s.arena b).id → a = b
  templates : ∀ a ∈ s.arenas, ∀ t ∈ s.templates,
    (s.arena a).id < (s.template t).locations.id ∨ (s.template t).lines.id < (s.arena a).id

theorem numbered_empty : Numbered {} where
  given := fun _ ha => absurd ha (Nat.not_lt_zero _)
  distinct := fun _ ha => absurd ha (Nat.not_lt_zero _)
  templates := fun _ ha => absurd ha (Nat.not_lt_zero _)

theorem arena_newArena_of_mem (ha : a ∈ s.arenas) (label : String) (items : List Constant) :
    (s.newArena label items).1.arena a = s.arena a := Table.get_push_of_mem _ ha

theorem arena_newArena_next (s : Store) (label : String) (items : List Constant) :
    (s.newArena label items).1.arena s.arenas.next = { id := s.nextArena, label, items } :=
  Table.get_push_next _ _

/-- A new arena takes the next number, which no arena has. -/
theorem Numbered.newArena (hn : s.Numbered) (h : s.Sound) (label : String) (items : List Constant) :
    (s.newArena label items).1.Numbered where
  given := by
    intro a ha
    rcases Table.mem_push.mp ha with hold | rfl
    · rw [arena_newArena_of_mem hold]
      exact (hn.given a hold).trans (Nat.lt_succ_self _)
    · rw [arena_newArena_next]
      exact Nat.lt_succ_self _
  distinct :=
    Table.unique_push (R := fun a b : Arena Constant => a.id = b.id) Eq.symm hn.distinct
      fun a ha => Nat.ne_of_lt (hn.given a ha)
  templates := by
    intro a ha t ht
    rcases Table.mem_push.mp ha with hold | rfl
    · rw [arena_newArena_of_mem hold]
      exact hn.templates a hold t ht
    · rw [arena_newArena_next]
      exact Or.inr (h.templates t ht).arenas.2.2

/-- An operation that makes no arena for the program leaves the numbers of those that are there, and a
    template that it makes gets greater ones. -/
theorem Numbered.perform_of_same (hn : s.Numbered) (h : s.Sound) (hop : op.Admissible s)
    (hmem : ∀ a, a ∈ (s.perform op).arenas → a ∈ s.arenas) : (s.perform op).Numbered := by
  have hpath := h.path_perform hop
  have hsound' := hpath.sound h
  have hid : ∀ a ∈ (s.perform op).arenas, ((s.perform op).arena a).id = (s.arena a).id :=
    fun a ha => (h.arenas_perform hop a (hmem a ha)).2.id
  refine ⟨fun a ha => ?_, fun a ha b hb heq => ?_, fun a ha t ht => ?_⟩
  · rw [hid a ha]
    exact (hn.given a (hmem a ha)).trans_le hpath.grows.nextArena
  · rw [hid a ha, hid b hb] at heq
    exact hn.distinct a (hmem a ha) b (hmem b hb) heq
  · have harenas' := (hsound'.templates t ht).arenas
    rw [hid a ha]
    rcases hpath.nextArena_le_of_new h ht with ⟨hold, heq⟩ | hnew
    · have harenas := (h.templates t hold).arenas
      have hapart := hn.templates a (hmem a ha) t hold
      omega
    · exact Or.inl ((hn.given a (hmem a ha)).trans_le hnew)

theorem Numbered.perform (hn : s.Numbered) (h : s.Sound) (hop : op.Admissible s) :
    (s.perform op).Numbered := by
  rcases h.arenas_cases hop with ⟨label, items, rfl⟩ | ⟨a, item, rfl⟩ | ⟨heq, -⟩
  · exact hn.newArena h label items
  · exact hn.perform_of_same h hop fun _ => Table.mem_modify.mp
  · exact hn.perform_of_same h hop fun _ ha => heq ▸ ha

theorem Run.numbered (hrun : Run condition {} s) : s.Numbered := by
  induction hrun with
  | refl => exact numbered_empty
  | step run op hadmissible _ ih => exact ih.perform (run.sound sound_empty) hadmissible

/-- Templates in the order of their numbers. -/
theorem Sound.id_lt_of_index_lt (h : s.Sound) {u : TemplateId} (ht : t ∈ s.templates)
    (hu : u ∈ s.templates) (hlt : t.index < u.index) (kind kind' : ArenaKind) :
    ((s.template t).arena kind).id < ((s.template u).arena kind').id := by
  have hapart := h.apart.arenas t ht u hu hlt
  have harenas := (h.templates t ht).arenas
  rw [(h.templates t ht).id_arena, (h.templates u hu).id_arena]
  have hoffset : kind.offset ≤ 2 := by cases kind <;> decide
  omega

/-- **No two arenas have a number in common.** -/
theorem Numbered.eq_of_id_eq (hn : s.Numbered) (h : s.Sound) (hr : s.HasArena r) (hq : s.HasArena q)
    (hid : (s.arenaAt r).id = (s.arenaAt q).id) : r = q := by
  have hfree : ∀ a ∈ s.arenas, ∀ t ∈ s.templates, ∀ kind,
      (s.arena a).id ≠ ((s.template t).arena kind).id := by
    intro a ha t ht kind
    have hapart := hn.templates a ha t ht
    have harenas := (h.templates t ht).arenas
    have hoffset : kind.offset ≤ 2 := by cases kind <;> decide
    rw [(h.templates t ht).id_arena]
    omega
  cases r with
  | free a =>
    cases q with
    | free b => exact congrArg _ (hn.distinct a hr b hq hid)
    | ofTemplate u kind => exact absurd hid (hfree a hr u hq kind)
  | ofTemplate t kind =>
    cases q with
    | free b => exact absurd hid.symm (hfree b hq t hr kind)
    | ofTemplate u kind' =>
      rcases Nat.lt_trichotomy t.index u.index with hlt | heq | hgt
      · exact absurd hid (Nat.ne_of_lt (h.id_lt_of_index_lt hr hq hlt kind kind'))
      · obtain rfl : t = u := congrArg Ref.mk heq
        have hoffset : kind.offset = kind'.offset := by
          have hsum := ((h.templates t hr).id_arena kind).symm.trans
            (Eq.trans hid ((h.templates t hr).id_arena kind'))
          exact Nat.add_left_cancel hsum
        cases kind <;> cases kind' <;> first | rfl | exact absurd hoffset (by decide)
      · exact absurd hid.symm (Nat.ne_of_lt (h.id_lt_of_index_lt hq hr hgt kind' kind))

/-! ## Handles -/

/-- A handle leads to an entry of an arena, and every other arena refuses it. -/
structure Leads (s : Store) (r : ArenaRef) (h : Handle) (item : Item) : Prop where
  get : (s.arenaAt r).get h = .ok item
  owns : (s.arenaAt r).owns h = true
  refused : ∀ q, s.HasArena q → q ≠ r → (s.arenaAt q).owns h = false
    ∧ (s.arenaAt q).get h = .error (.foreign h.arena (s.arenaAt q).label (s.arenaAt q).id)

/-- It does so whatever the program does from here on. -/
def LeadsOn (s : Store) (r : ArenaRef) (h : Handle) (item : Item) : Prop :=
  ∀ s', Run (fun _ _ => True) s s' → s'.Leads r h item

/-- An arena that a program made has the constant itself behind the handle. -/
theorem Leads.constant {h : Handle} {c : Constant} (hleads : s.Leads (.free a) h (.constant c)) :
    (s.arena a).get h = .ok c ∧ (s.arena a).owns h = true := by
  have howns : (s.arena a).owns h = true := (Arena.owns_map _ _ _).symm.trans hleads.owns
  obtain ⟨d, hd⟩ := Arena.owns_iff.mp howns
  have hget := hleads.get
  rw [arenaAt, Arena.get_map, hd] at hget
  obtain rfl : d = c := Item.constant.inj (Except.ok.inj hget)
  exact ⟨hd, howns⟩

/-- The handle of a position leads to the entry that stands there. -/
theorem Numbered.leads (hn : s.Numbered) (h : s.Sound) (hr : s.HasArena r) {i : Nat} {item : Item}
    (hitem : (s.arenaAt r).items[i]? = some item) : s.Leads r ((s.arenaAt r).handleAt i) item := by
  have hget : (s.arenaAt r).get ((s.arenaAt r).handleAt i) = .ok item :=
    Arena.get_eq_ok.mpr ⟨i, rfl, hitem⟩
  refine ⟨hget, Arena.owns_iff.mpr ⟨item, hget⟩, fun q hq hne => ?_⟩
  have hforeign : ((s.arenaAt r).handleAt i).arena ≠ (s.arenaAt q).id := fun heq =>
    hne (hn.eq_of_id_eq h hq hr (Int.ofNat_inj.mp heq.symm))
  exact ⟨Arena.owns_eq_false_of_arena_ne hforeign, Arena.get_of_arena_ne hforeign⟩

/-- **The handle of a position leads to what stands there now, for good.** -/
theorem Run.leadsOn (hrun : Run condition {} s) (hr : s.HasArena r) {i : Nat} {item : Item}
    (hitem : (s.arenaAt r).items[i]? = some item) :
    s.LeadsOn r ((s.arenaAt r).handleAt i) item := by
  intro s' hlater
  have h := hrun.sound sound_empty
  obtain ⟨hr', hcontinues⟩ := hlater.arenaAt_continues h hr
  have hall : Run (fun _ _ => True) {} s' :=
    (hrun.imp fun _ _ _ => trivial).trans hlater
  have hleads := hall.numbered.leads (hall.sound sound_empty) hr' (hcontinues.getElem? hitem)
  have hhandle : (s'.arenaAt r).handleAt i = (s.arenaAt r).handleAt i := by
    rw [Arena.handleAt, Arena.handleAt, hcontinues.id]
  exact hhandle ▸ hleads

theorem Run.leadsOn_of_handle (hrun : Run condition {} s) (hr : s.HasArena r) {index : Int} {h : Handle}
    (hhandle : (s.arenaAt r).handle index = .ok h) :
    ∃ item, (s.arenaAt r).at? index = some item ∧ s.LeadsOn r h item := by
  obtain ⟨i, rfl, hi, rfl⟩ := Arena.handle_eq_ok.mp hhandle
  have hitem : (s.arenaAt r).items[i]? = some ((s.arenaAt r).items.get ⟨i, hi⟩) :=
    List.getElem?_eq_getElem hi
  exact ⟨_, hitem, hrun.leadsOn hr hitem⟩

theorem arena_pushToArena (ha : a ∈ s.arenas) (item : Constant) :
    (s.perform (.pushToArena a item)).arena a = (s.arena a).push item := Table.get_modify_self _ ha

/-- An operation adds to an arena what is pushed to it. -/
theorem Sound.items_perform (h : s.Sound) (hop : op.Admissible s) (ha : a ∈ s.arenas) :
    ((s.perform op).arena a).items = (s.arena a).items ++ (op.pushed a).toList := by
  rcases h.arenas_cases hop with ⟨label, items, rfl⟩ | ⟨b, item, rfl⟩ | ⟨heq, hnone⟩
  · show ((s.newArena label items).1.arena a).items = _
    rw [arena_newArena_of_mem ha]
    exact (List.append_nil _).symm
  · by_cases hb : b = a
    · subst hb
      rw [arena_pushToArena ha, Operation.pushed, if_pos rfl]
      rfl
    · rw [Operation.pushed, if_neg hb, arena, show (s.perform (.pushToArena b item)).arenas.get a = _ from
        Table.get_modify_of_ne _ hb]
      exact (List.append_nil _).symm
  · rw [hnone a, arena, heq]
    exact (List.append_nil _).symm

/-- **After any operations an arena has what it had and then what was pushed to it.** -/
theorem Sound.items_foldl (h : s.Sound) {ops : List Operation} (hops : s.Performs condition ops)
    (ha : a ∈ s.arenas) :
    a ∈ (ops.foldl perform s).arenas
      ∧ ((ops.foldl perform s).arena a).items = (s.arena a).items ++ ops.filterMap (Operation.pushed a) := by
  induction ops generalizing s with
  | nil => exact ⟨ha, (List.append_nil _).symm⟩
  | cons op ops ih =>
    have hkept := (h.arenas_perform hops.1 a ha).1
    obtain ⟨hmem, hitems⟩ := ih ((h.path_perform hops.1).sound h) hops.2.2 hkept
    refine ⟨hmem, hitems.trans ?_⟩
    rw [h.items_perform hops.1 ha, List.append_assoc, List.filterMap_cons]
    cases op.pushed a <;> rfl

/-- An arena filled with the images of the entries of another has the image of an entry behind the
    rebased handle of the entry. -/
theorem Run.leadsOn_rebase (hrun : Run condition {} s) (ha : a ∈ s.arenas) {f : Item → Constant}
    (hitems : (s.arena a).items = (s.arenaAt r).items.map f) {h : Handle} {item : Item}
    (hget : (s.arenaAt r).get h = .ok item) :
    ∃ h', (s.arenaAt (.free a)).rebase h = .ok h' ∧ s.LeadsOn (.free a) h' (.constant (f item)) := by
  obtain ⟨i, rfl, hitem⟩ := Arena.get_eq_ok.mp hget
  have himage : (s.arenaAt (.free a)).items[i]? = some (.constant (f item)) := by
    show ((s.arena a).items.map Item.constant)[i]? = _
    rw [hitems, List.getElem?_map, List.getElem?_map, hitem]
    rfl
  have hlt : i < (s.arenaAt (.free a)).size := (List.getElem?_eq_some_iff.mp himage).1
  exact ⟨_, Arena.handle_eq_ok.mpr ⟨i, rfl, hlt, rfl⟩, hrun.leadsOn (r := .free a) ha himage⟩

/-! ## The theorem -/

/-- Every handle that a program can get in a store means one entry of one arena from then on.

    The handle of a new entry leads to the entry, whoever adds it; so do the handle of a position and a
    rebased handle to the entry at the position. The checks agree on every position, negative ones and
    those past the end among them. An arena that was filled with the images of the entries of another
    one has the image of an entry behind its rebased handle. -/
structure HandlesLead (s : Store) : Prop where
  pushed : ∀ a ∈ s.arenas, ∀ item, ∃ h, s.outcome (.pushToArena a item) = .handle h
    ∧ (s.perform (.pushToArena a item)).LeadsOn (.free a) h (.constant item)
  entered : ∀ r, s.HasArena r → ∀ op : Operation, op.Admissible s → ∀ item,
    (s.perform op).arenaAt r = (s.arenaAt r).push item →
      (s.perform op).LeadsOn r ((s.arenaAt r).handleAt (s.arenaAt r).size) item
  handle : ∀ r, s.HasArena r → ∀ index h, (s.arenaAt r).handle index = .ok h →
    ∃ item, (s.arenaAt r).at? index = some item ∧ s.LeadsOn r h item
  rebase : ∀ r, s.HasArena r → ∀ other h, (s.arenaAt r).rebase other = .ok h →
    ∃ item, (s.arenaAt r).at? other.index = some item ∧ s.LeadsOn r h item
  owns_iff : ∀ r h, (s.arenaAt r).owns h = true ↔ ∃ item, (s.arenaAt r).get h = .ok item
  handle_iff : ∀ r index, (∃ h, (s.arenaAt r).handle index = .ok h)
    ↔ (s.arenaAt r).owns ⟨(s.arenaAt r).id, index⟩ = true
  filled : ∀ ops, s.Performs (fun _ _ => True) ops → ∀ r, (ops.foldl perform s).HasArena r →
    ∀ c ∈ s.arenas, ∀ f : Item → Constant,
      (s.arena c).items ++ ops.filterMap (Operation.pushed c)
          = ((ops.foldl perform s).arenaAt r).items.map f →
        ∀ h item, ((ops.foldl perform s).arenaAt r).get h = .ok item →
          (ops.foldl perform s).LeadsOn r h item
            ∧ ∃ h', ((ops.foldl perform s).arenaAt (.free c)).rebase h = .ok h'
              ∧ (ops.foldl perform s).LeadsOn (.free c) h' (.constant (f item))

/-- **A handle means one entry of one arena, for good.** -/
theorem handles_lead (hrun : Run condition {} s) : s.HandlesLead := by
  have h := hrun.sound sound_empty
  have hany : Run (fun _ _ => True) {} s := hrun.imp fun _ _ _ => trivial
  have hentered : ∀ r, s.HasArena r → ∀ op : Operation, op.Admissible s → ∀ item,
      (s.perform op).arenaAt r = (s.arenaAt r).push item →
        (s.perform op).LeadsOn r ((s.arenaAt r).handleAt (s.arenaAt r).size) item := by
    intro r hr op hop item hpush
    have hone : Run (fun _ _ => True) s (s.perform op) := .step .refl op hop trivial
    have hitem : ((s.perform op).arenaAt r).items[(s.arenaAt r).size]? = some item := by
      rw [hpush]
      exact List.getElem?_concat_length
    have hleads := (hany.trans hone).leadsOn (hone.arenaAt_continues h hr).1 hitem
    rw [hpush] at hleads
    exact hleads
  refine
    { pushed := fun a ha item => ?_
      entered := hentered
      handle := fun r hr index _ => hrun.leadsOn_of_handle hr
      rebase := fun r hr other _ => hrun.leadsOn_of_handle hr
      owns_iff := fun r h => Arena.owns_iff
      handle_iff := fun r index => Arena.exists_handle_iff
      filled := fun ops hops r hr c hc f hfill handle item hget => ?_ }
  · refine ⟨_, rfl, ?_⟩
    have hop : (Operation.pushToArena a item).Admissible s := ⟨by simp [Operation.receivers],
      by simp [Operation.others], by simp [Operation.symbols], trivial⟩
    have hpush : (s.perform (.pushToArena a item)).arenaAt (.free a)
        = (s.arenaAt (.free a)).push (.constant item) := by
      rw [arenaAt, arena_pushToArena ha, Arena.map_push]
      rfl
    have hleads := hentered (.free a) ha _ hop _ hpush
    rw [show (s.arenaAt (.free a)).size = (s.arena a).size from Arena.size_map _ _] at hleads
    exact hleads
  · have hend := hany.performs hops
    obtain ⟨hmem, hitems⟩ := h.items_foldl hops hc
    obtain ⟨i, rfl, hitem⟩ := Arena.get_eq_ok.mp hget
    exact ⟨hend.leadsOn hr hitem, hend.leadsOn_rebase hmem (hitems.trans hfill) hget⟩

/-- A template, and two arenas of the program, one of them with an entry. -/
def opened : Store :=
  [.openDocument none none, .addTemplate ⟨0⟩ "T" [] {} {}, .newArena "flag" [.boolean true],
    .newArena "flag" []].foldl perform {}

/-- The second arena gets the negations of what is in the first and of what the first gets meanwhile. -/
def fillings : List Operation :=
  [.pushToArena ⟨1⟩ (.boolean false), .addLocation ⟨0⟩ "L" .empty .empty {},
    .pushToArena ⟨0⟩ (.boolean false), .pushToArena ⟨1⟩ (.boolean true)]

/-- The other truth value. -/
def negation : Item → Constant
  | .constant (.boolean b) => .boolean !b
  | _ => default

/-- The second entry of the first arena stays `false`, and behind its rebased handle stays `true`. -/
theorem handles_lead_negations : Run (fun _ _ => True) {} opened ∧ opened.HandlesLead
    ∧ (∀ s', Run (fun _ _ => True) (fillings.foldl perform opened) s' →
      (s'.arena ⟨0⟩).get ⟨4, 1⟩ = .ok (.boolean false))
    ∧ ∃ h, ((fillings.foldl perform opened).arena ⟨1⟩).rebase ⟨4, 1⟩ = .ok h
      ∧ ∀ s', Run (fun _ _ => True) (fillings.foldl perform opened) s' →
        (s'.arena ⟨1⟩).get h = .ok (.boolean true) := by
  have hrun : Run (fun _ _ => True) {} opened := Run.refl.performs (by decide)
  have hleads := handles_lead hrun
  have hops : opened.Performs (fun _ _ => True) fillings := by decide
  obtain ⟨hfirst, h, hrebase, hsecond⟩ := hleads.filled fillings hops (.free ⟨0⟩)
    (show 0 < _ by decide) ⟨1⟩ (by decide) negation (by decide) ⟨4, 1⟩ (.constant (.boolean false))
    (by decide)
  rw [arenaAt, Arena.rebase_map] at hrebase
  exact ⟨hrun, hleads, fun s' hlater => (hfirst s' hlater).constant.1, h, hrebase,
    fun s' hlater => (hsecond s' hlater).constant.1⟩

end Store

end TimedNet
