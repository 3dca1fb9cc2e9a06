import TimedNet.Proofs.Scope.Copy

/-!
# `TimedNet.Proofs.Scope.Declared` — what a block declares has names of its own

A variable and a function of a block get their symbols by a declaration in the frame of the block, which
brings no name into a frame that has it. Whatever else a program adds to the frame by hand, no two variables
of a block have one name, and neither have two functions.

* `Store.NamedIn`: symbols of a frame with different names.
* `Block.Edit.listed_cases`: what a change of a block adds to its lists.
* `Step.declared`, `Run.declared`: the names of what blocks declare.
-/

namespace TimedNet

/-- The symbols are in a frame, and no two of them have one name. -/
structure Store.NamedIn (s : Store) (r : FrameId) (xs : List SymbolId) : Prop where
  listed : ∀ x ∈ xs, x ∈ (s.frame r).symbols
  distinct : (xs.map s.name).Nodup

/-- What a block lists in a role has different names in its frame. -/
def Store.Declared (s : Store) (b : BlockId) : Prop :=
  ∀ ρ, s.NamedIn (s.block b).frame ((s.block b).listed ρ)

/-- A change of a block adds at most one symbol to what the block lists in a role, at the end. -/
theorem Block.Edit.listed_cases {s : Store} {r : BlockId} {b c : Block} (h : b.Edit s r c)
    (hb : b.Sound s r) (ρ : Role) : c.listed ρ = b.listed ρ
      ∨ ∃ x ∉ b.listed ρ, c.listed ρ = b.listed ρ ++ [x] ∧ s.Introduces b.frame x := by
  cases h with
  | addVariable v _ hstands hname =>
    cases ρ with
    | var =>
      refine Or.inr ⟨v.symbol, fun hmem => ?_, List.map_append, hname⟩
      -- The symbol stands for the new variable, and those that are there for others.
      obtain ⟨w, hw, heq⟩ := List.mem_map.mp hmem
      obtain ⟨i, hi⟩ := List.mem_iff_getElem?.mp hw
      have hplace := (heq ▸ hb.vars i w hi).unique hstands
      simp only [Subject.var.injEq, VariableRef.ofBlock.injEq, true_and] at hplace
      obtain ⟨hlt, -⟩ := List.getElem?_eq_some_iff.mp hi
      omega
    | _ => exact Or.inl rfl
  | addFunction symbol hstands hname =>
    cases ρ with
    | fn =>
      refine Or.inr ⟨symbol, fun hmem => ?_, List.map_append, hname⟩
      obtain ⟨g, hg, heq⟩ := List.mem_map.mp hmem
      obtain ⟨i, hi⟩ := List.mem_iff_getElem?.mp hg
      have hplace := (heq ▸ hb.functions i g hi).unique hstands
      simp only [Subject.fn.injEq, FunctionRef.mk.injEq, true_and] at hplace
      obtain ⟨hlt, -⟩ := List.getElem?_eq_some_iff.mp hi
      omega
    | _ => exact Or.inl rfl
  | initialiser index init _ =>
    cases ρ with
    | var => exact Or.inl (map_modify_eq fun _ _ => rfl)
    | _ => exact Or.inl rfl
  | function index g hg =>
    cases ρ with
    | fn => exact Or.inl (map_modify_eq fun f hf => (hg f hf).symbol)
    | _ => exact Or.inl rfl
  | _ => exact Or.inl (by cases ρ <;> rfl)

namespace Store

variable {s s' : Store} {r : FrameId} {xs : List SymbolId}

theorem namedIn_nil (s : Store) (r : FrameId) : s.NamedIn r [] :=
  ⟨fun _ hx => absurd hx List.not_mem_nil, List.nodup_nil⟩

/-- Frames grow, and symbols keep their names. -/
theorem NamedIn.mono (h : s.NamedIn r xs) (hg : s.Grows s') (hr : r ∈ s.frames)
    (hxs : s.HasAll xs) : s'.NamedIn r xs := by
  constructor
  · intro x hx
    exact (hg.frames r hr).2.symbols.subset (h.listed x hx)
  · rw [List.map_congr_left fun x hx => hg.name_eq (hxs x hx)]
    exact h.distinct

/-- What is introduced has a name that nothing in the frame has. -/
theorem NamedIn.concat (h : s.NamedIn r xs) {x : SymbolId} (hr : r ∈ s.frames) (hx : x ∉ xs)
    (hname : s.Introduces r x) : s.NamedIn r (xs ++ [x]) := by
  obtain ⟨hmem, hunique⟩ := hname hr
  constructor
  · intro y hy
    rcases List.mem_append.mp hy with hold | hnew
    · exact h.listed y hold
    · rw [List.mem_singleton.mp hnew]
      exact hmem
  · rw [List.map_append, List.map_singleton]
    refine List.Nodup.append h.distinct (List.nodup_singleton _) ?_
    intro name hold hnew
    obtain ⟨y, hy, rfl⟩ := List.mem_map.mp hold
    obtain rfl := hunique y (h.listed y hy) (List.mem_singleton.mp hnew)
    exact hx hy

/-- Frames and names do not depend on blocks. -/
theorem NamedIn.modifyBlock (h : s.NamedIn r xs) (b : BlockId) (f : Block → Block) :
    (s.modifyBlock b f).NamedIn r xs :=
  ⟨h.listed, h.distinct⟩

theorem Sound.hasAll_listed (h : s.Sound) {b : BlockId} (hb : b ∈ s.blocks) (ρ : Role) :
    s.HasAll ((s.block b).listed ρ) := by
  have hsymbols := Block.hasAll_symbols.mp (h.blocks b hb).symbols
  intro x hx
  cases ρ with
  | var =>
    obtain ⟨v, hv, rfl⟩ := List.mem_map.mp hx
    exact (Variable.hasAll_symbols.mp (hsymbols.1 v hv)).1
  | fn =>
    obtain ⟨f, hf, rfl⟩ := List.mem_map.mp hx
    exact (Function.hasAll_symbols.mp (hsymbols.2.1 f hf)).1
  | _ => exact absurd hx List.not_mem_nil

/-! ## Copies of blocks -/

variable {d : DocumentId}

/-- The frame of a copied block has the copies of the symbols in the frame. -/
theorem Sound.frame_copied_block (h : s.Sound) (hd : d ∈ s.documents) {b : BlockId}
    (hb : b ∈ s.ownedBlocks d) {x : SymbolId} (hx : x ∈ (s.frame (s.block b).frame).symbols) :
    (s.relocations d).symbols x
      ∈ ((s.relocated d).1.frame ((s.relocations d).frames (s.block b).frame)).symbols := by
  rcases List.mem_cons.mp hb with rfl | hb
  · have hframe := s.relocated_globalFrame d
    unfold globalFrame at hframe
    rw [hframe, copiedGlobalFrame, Frame.mem_addNew]
    exact Or.inr (List.mem_map_of_mem hx)
  · obtain ⟨t, ht, rfl⟩ := List.mem_map.mp hb
    have hframe := relocated_localFrame h hd ht
    unfold localFrame at hframe
    rw [hframe, copiedLocalFrame, Frame.mem_addNew]
    exact Or.inr (List.mem_map_of_mem hx)

theorem Declared.relocated (h : s.Sound) (hd : d ∈ s.documents) {b : BlockId}
    (hb : b ∈ s.ownedBlocks d) (hdeclared : s.Declared b) :
    (s.relocated d).1.Declared ((s.relocations d).blocks b) := by
  intro ρ
  have hframe : ((s.relocated d).1.block ((s.relocations d).blocks b)).frame
      = (s.relocations d).frames (s.block b).frame :=
    congrArg Block.frame (relocated_block hb)
  rw [hframe, listed_block_relocated hb]
  constructor
  · intro y hy
    obtain ⟨x, hx, rfl⟩ := List.mem_map.mp hy
    exact h.frame_copied_block hd hb ((hdeclared ρ).listed x hx)
  · have hmentioned : ∀ x ∈ (s.block b).listed ρ, x ∈ s.mentioned d := fun x hx =>
      mem_mentioned_of_frame (frame_mem_ownedFrames hb) ((hdeclared ρ).listed x hx)
    rw [names_relocated hmentioned]
    exact (hdeclared ρ).distinct

/-! ## Runs -/

/-- **Every step leaves the names of what is declared different.** -/
theorem Step.declared {w : Write} (hstep : s.Step w s') (h : s.Sound)
    (hdeclared : ∀ b ∈ s.blocks, s.Declared b) : ∀ b ∈ s'.blocks, s'.Declared b := by
  have hg := hstep.grows
  have hkept : ∀ b ∈ s.blocks, s'.block b = s.block b → s'.Declared b := by
    intro b hb heq ρ
    rw [heq]
    exact (hdeclared b hb ρ).mono hg (h.blocks b hb).frame (h.hasAll_listed hb ρ)
  have hnew : ∀ {b frame}, s'.block b = { frame } → s'.Declared b := by
    intro b frame heq ρ
    rw [heq]
    cases ρ <;> exact namedIn_nil _ _
  intro b hb
  cases hstep with
  | block parent _ =>
    rcases Table.mem_push.mp hb with hold | rfl
    · exact hkept b hold (Table.get_push_of_mem _ hold)
    · exact hnew (Table.get_push_next s.blocks _)
  | editBlock r f hf =>
    have hold : b ∈ s.blocks := Table.mem_modify.mp hb
    by_cases hr : r = b
    · subst hr
      have hchanged : (s.modifyBlock r f).block r = f (s.block r) := Table.get_modify_self f hold
      intro ρ
      have hsound := h.blocks r hold
      rw [hchanged, (hf hold).keeps.frame]
      rcases (hf hold).listed_cases hsound ρ with heq | ⟨x, hx, heq, hname⟩
      · rw [heq]
        exact (hdeclared r hold ρ).modifyBlock r f
      · rw [heq]
        exact ((hdeclared r hold ρ).concat hsound.frame hx hname).modifyBlock r f
    · exact hkept b hold (Table.get_modify_of_ne f hr)
  | newTemplate symbol parameters globals log style _ _ _ _ _ =>
    rcases Table.mem_push.mp hb with hold | rfl
    · exact hkept b hold (Table.get_push_of_mem _ hold)
    · exact hnew (Table.get_push_next s.blocks _)
  | document lineTable log _ _ =>
    rcases Table.mem_push.mp hb with hold | rfl
    · exact hkept b hold (Table.get_push_of_mem _ hold)
    · exact hnew (Table.get_push_next s.blocks _)
  | aside s' ha => exact hkept b (ha.blocks ▸ hb) (congrArg (·.get b) ha.blocks)
  | copy d hd =>
    rcases h.block_cases hd hb with ⟨hold, heq⟩ | ⟨c, hc, rfl, -⟩
    · exact hkept b hold heq
    · exact (hdeclared c (h.block_mem_of_owned hd hc)).relocated h hd hc
  | _ => exact hkept b hb rfl

/-- **What a block declares has names of its own**, in every store that a program reaches. -/
theorem Run.declared {condition : Store → Operation → Prop} (hrun : Run condition {} s) :
    ∀ b ∈ s.blocks, s.Declared b :=
  hrun.keeps (I := fun s => ∀ b ∈ s.blocks, s.Declared b)
    (fun _ hb => absurd hb (Nat.not_lt_zero _)) Step.declared

end Store

end TimedNet
