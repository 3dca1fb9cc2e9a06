import TimedNet.Proofs.Run.Reachable
import TimedNet.Proofs.Separation.Reach

/-!
# `TimedNet.Proofs.Separation.Footprint` — what a step leaves alone

A step changes nothing that was there but its targets. A part of a document is no part of another one,
unless the two log or locate problems in one place.

* `Step.same`, `Path.same`: what is no target is the same.
* `Sound.inst_unique`, `Sound.block_unique`, `Sound.frame_unique`: no part has two documents.
* `Sound.disjoint`: documents with different logs and line tables share no part.
-/

namespace TimedNet.Store

variable {s s' : Store} {c d : DocumentId} {e : Entity}

/-! ## Steps -/

/-- **A step leaves alone what is there and is no target of it.** -/
theorem Step.same {w : Write} (hstep : s.Step w s') (he : s.Has e) (hw : e ∉ w.targets) :
    s.Same s' e := by
  cases hstep with
  | symbols xs =>
    cases e with
    | symbol r => exact Table.get_pushAll_of_mem xs he
    | _ => rfl
  | frame f _ _ =>
    cases e with
    | frame r => exact Table.get_push_of_mem f he
    | _ => rfl
  | extend q rs _ =>
    cases e with
    | frame r => exact Table.get_modify_of_ne _ fun heq => hw (by simp [Write.targets, heq])
    | _ => rfl
  | declare q x _ =>
    cases e with
    | symbol r => exact Table.get_push_of_mem x he
    | frame r => exact Table.get_modify_of_ne _ fun heq => hw (by simp [Write.targets, heq])
    | _ => rfl
  | block parent _ =>
    cases e with
    | frame r => exact Table.get_push_of_mem _ he
    | block r => exact Table.get_push_of_mem _ he
    | _ => rfl
  | editBlock q f _ =>
    cases e with
    | block r => exact Table.get_modify_of_ne f fun heq => hw (by simp [Write.targets, heq])
    | _ => rfl
  | inst i _ =>
    cases e with
    | inst r => exact Table.get_push_of_mem i he
    | _ => rfl
  | restrict q rs _ =>
    cases e with
    | inst r => exact Table.get_modify_of_ne _ fun heq => hw (by simp [Write.targets, heq])
    | _ => rfl
  | parameters q rs _ =>
    cases e with
    | inst r => exact Table.get_modify_of_ne _ fun heq => hw (by simp [Write.targets, heq])
    | _ => rfl
  | bind q template b _ _ _ =>
    cases e with
    | inst r => exact Table.get_modify_of_ne _ fun heq => hw (by simp [Write.targets, heq])
    | _ => rfl
  | newTemplate symbol parameters globals log style _ _ _ _ _ =>
    cases e with
    | symbol r => exact Table.get_modify_of_ne _ fun heq => hw (by simp [Write.targets, heq])
    | frame r =>
      have hblock : ((s.newBlock globals parameters).1).frame r = s.frame r :=
        Table.get_push_of_mem _ he
      exact (Table.get_push_of_mem _ (Table.mem_push_of_mem _ he)).trans hblock
    | block r => exact Table.get_push_of_mem _ he
    | inst r => exact Table.get_push_of_mem _ he
    | template r => exact Table.get_push_of_mem _ he
    | _ => rfl
  | editTemplate q _ f _ =>
    cases e with
    | template r => exact Table.get_modify_of_ne f fun heq => hw (by simp [Write.targets, heq])
    | _ => rfl
  | document lineTable log _ _ =>
    cases e with
    | frame r => exact Table.get_push_of_mem _ he
    | block r => exact Table.get_push_of_mem _ he
    | document r => exact Table.get_push_of_mem _ he
    | _ => rfl
  | editDocument q f _ =>
    cases e with
    | document r => exact Table.get_modify_of_ne f fun heq => hw (by simp [Write.targets, heq])
    | _ => rfl
  | log l _ =>
    cases e with
    | log r => exact Table.get_push_of_mem l he
    | _ => rfl
  | editLog q f _ =>
    cases e with
    | log r => exact Table.get_modify_of_ne f fun heq => hw (by simp [Write.targets, heq])
    | _ => rfl
  | lineTable lines =>
    cases e with
    | lineTable r => exact Table.get_push_of_mem lines he
    | _ => rfl
  | editLineTable q entry =>
    cases e with
    | lineTable r => exact Table.get_modify_of_ne _ fun heq => hw (by simp [Write.targets, heq])
    | _ => rfl
  | aside s' ha =>
    cases e with
    | symbol r => exact congrArg (·.get r) ha.symbols
    | frame r => exact congrArg (·.get r) ha.frames
    | block r => exact congrArg (·.get r) ha.blocks
    | inst r => exact congrArg (·.get r) ha.insts
    | template r => exact congrArg (·.get r) ha.templates
    | document r => exact congrArg (·.get r) ha.documents
    | log r => exact congrArg (·.get r) ha.logs
    | lineTable r => exact congrArg (·.get r) ha.lineTables
  | copy document _ =>
    cases e with
    | document r => exact Table.get_push_of_mem _ he
    | log r => exact Table.get_push_of_mem _ he
    | lineTable r => exact Table.get_push_of_mem _ he
    | _ => exact Table.get_pushAll_of_mem _ he

theorem Grows.has (hg : s.Grows s') (he : s.Has e) : s'.Has e := by
  cases e with
  | symbol r => exact (hg.symbols r he).1
  | frame r => exact (hg.frames r he).1
  | block r => exact (hg.blocks r he).1
  | inst r => exact (hg.insts r he).1
  | template r => exact (hg.templates r he).1
  | document r => exact (hg.documents r he).1
  | log r => exact (hg.logs r he).1
  | lineTable r => exact (hg.lineTables r he).1

theorem Path.same {P : Write → Prop} (hpath : Path P s s') (he : s.Has e)
    (hP : ∀ w, P w → e ∉ w.targets) : s.Same s' e := by
  induction hpath with
  | refl => exact .refl s e
  | step path hw hstep ih => exact ih.trans (hstep.same (path.grows.has he) (hP _ hw))

/-! ## Documents that share nothing -/

/-- The symbol of an instance of a document tells where in the document the instance is. -/
theorem Sound.inst_role (h : s.Sound) (hd : d ∈ s.documents) {i : InstanceId}
    (hi : i ∈ s.ownedInsts d) :
    (∃ t ∈ (s.document d).allTemplates, s.Stands (s.inst i).symbol (.template t))
      ∨ (∃ t ∈ (s.document d).allTemplates, ∃ k, s.Stands (s.inst i).symbol (.line t k))
      ∨ i ∈ (s.document d).listed
        ∧ (s.Stands (s.inst i).symbol (.inst i) ∨ s.Stands (s.inst i).symbol (.process i)) := by
  have hdocument := h.documents d hd
  rcases mem_ownedInsts_iff.mp hi with ⟨t, ht, rfl | ⟨l, hl, rfl⟩⟩ | hlisted
  · exact Or.inl ⟨t, ht, (h.templates t (hdocument.templates t ht).1).own⟩
  · obtain ⟨k, hk⟩ := List.mem_iff_getElem?.mp hl
    have hline := (h.templates t (hdocument.templates t ht).1).lines k l hk
    exact Or.inr (Or.inl ⟨t, ht, k, hline.2⟩)
  · refine Or.inr (Or.inr ⟨hlisted, ?_⟩)
    rcases List.mem_append.mp hlisted with hmem | hmem
    · exact Or.inl (hdocument.instances i hmem).2
    · exact Or.inr (hdocument.processes i hmem).2

/-- **An instance is one of one document at most.** -/
theorem Sound.inst_unique (h : s.Sound) (hc : c ∈ s.documents) (hd : d ∈ s.documents)
    {i : InstanceId} (hic : i ∈ s.ownedInsts c) (hid : i ∈ s.ownedInsts d) : c = d := by
  -- A symbol stands for one thing, so the instance has the same role in both documents.
  rcases h.inst_role hc hic with ⟨t, ht, hst⟩ | ⟨t, ht, k, hst⟩ | ⟨hlc, hst⟩ <;>
    rcases h.inst_role hd hid with ⟨u, hu, hsu⟩ | ⟨u, hu, m, hsu⟩ | ⟨hld, hsu⟩
  · obtain rfl : t = u := by simpa using hst.unique hsu
    exact h.apart.templates c hc d hd t ht hu
  · exact absurd (hst.unique hsu) (by simp)
  · rcases hsu with hsu | hsu <;> exact absurd (hst.unique hsu) (by simp)
  · exact absurd (hst.unique hsu) (by simp)
  · obtain ⟨rfl, _⟩ : t = u ∧ k = m := by simpa using hst.unique hsu
    exact h.apart.templates c hc d hd t ht hu
  · rcases hsu with hsu | hsu <;> exact absurd (hst.unique hsu) (by simp)
  · rcases hst with hst | hst <;> exact absurd (hst.unique hsu) (by simp)
  · rcases hst with hst | hst <;> exact absurd (hst.unique hsu) (by simp)
  · exact h.apart.listed c hc d hd i hlc hld

/-- A block is one of one document at most. -/
theorem Sound.block_unique (h : s.Sound) (hc : c ∈ s.documents) (hd : d ∈ s.documents)
    {b : BlockId} (hbc : b ∈ s.ownedBlocks c) (hbd : b ∈ s.ownedBlocks d) : c = d := by
  have htemplate : ∀ {x : DocumentId}, x ∈ s.documents → ∀ t ∈ (s.document x).allTemplates,
      t ∈ s.templates := fun hx t ht => ((h.documents _ hx).templates t ht).1
  rcases List.mem_cons.mp hbc with hb | hbc <;> rcases List.mem_cons.mp hbd with hb' | hbd
  · exact h.apart.globals c hc d hd (hb.symm.trans hb')
  · obtain ⟨u, hu, heq⟩ := List.mem_map.mp hbd
    exact absurd (hb.symm.trans heq.symm) (h.apart.globals_blocks c hc u (htemplate hd u hu))
  · obtain ⟨t, ht, heq⟩ := List.mem_map.mp hbc
    exact absurd (hb'.symm.trans heq.symm) (h.apart.globals_blocks d hd t (htemplate hc t ht))
  · obtain ⟨t, ht, heq⟩ := List.mem_map.mp hbc
    obtain ⟨u, hu, heq'⟩ := List.mem_map.mp hbd
    obtain rfl := h.apart.blocks t (htemplate hc t ht) u (htemplate hd u hu) (heq.trans heq'.symm)
    exact h.apart.templates c hc d hd t ht hu

/-- A frame of a document is the one of a block of it, or the set of a template. -/
theorem mem_ownedFrames_cases {f : FrameId} (hf : f ∈ s.ownedFrames d) :
    (∃ b ∈ s.ownedBlocks d, (s.block b).frame = f)
      ∨ ∃ t ∈ (s.document d).allTemplates, (s.template t).templateSet = f := by
  rcases mem_ownedFrames_iff.mp hf with rfl | ⟨t, ht, rfl | rfl⟩
  · exact Or.inl ⟨_, globals_mem_ownedBlocks s d, rfl⟩
  · exact Or.inl ⟨_, block_mem_ownedBlocks ht, rfl⟩
  · exact Or.inr ⟨t, ht, rfl⟩

/-- A frame is one of one document at most. -/
theorem Sound.frame_unique (h : s.Sound) (hc : c ∈ s.documents) (hd : d ∈ s.documents)
    {f : FrameId} (hfc : f ∈ s.ownedFrames c) (hfd : f ∈ s.ownedFrames d) : c = d := by
  have htemplate : ∀ {x : DocumentId}, x ∈ s.documents → ∀ t ∈ (s.document x).allTemplates,
      t ∈ s.templates := fun hx t ht => ((h.documents _ hx).templates t ht).1
  rcases mem_ownedFrames_cases hfc with ⟨x, hx, hfx⟩ | ⟨x, hx, hfx⟩ <;>
    rcases mem_ownedFrames_cases hfd with ⟨y, hy, hfy⟩ | ⟨y, hy, hfy⟩
  · have hxy := h.apart.frames x (h.block_mem_of_owned hc hx) y (h.block_mem_of_owned hd hy)
      (hfx.trans hfy.symm)
    exact h.block_unique hc hd hx (hxy ▸ hy)
  · exact absurd (hfy.trans hfx.symm)
      (h.apart.sets_frames y (htemplate hd y hy) x (h.block_mem_of_owned hc hx))
  · exact absurd (hfx.trans hfy.symm)
      (h.apart.sets_frames x (htemplate hc x hx) y (h.block_mem_of_owned hd hy))
  · obtain rfl := h.apart.sets x (htemplate hc x hx) y (htemplate hd y hy) (hfx.trans hfy.symm)
    exact h.apart.templates c hc d hd x hx hy

/-- Two documents that log and locate problems in different places. -/
structure Separate (s : Store) (c d : DocumentId) : Prop where
  distinct : c ≠ d
  logs : (s.document c).log ≠ (s.document d).log
  lineTables : ∀ l, s.Part c (.lineTable l) → ¬ s.Part d (.lineTable l)

theorem Separate.symm (hsep : s.Separate c d) : s.Separate d c :=
  ⟨hsep.distinct.symm, hsep.logs.symm, fun l hd hc => hsep.lineTables l hc hd⟩

/-- **Such documents share no part.** They may mention the same symbols. -/
theorem Sound.disjoint (h : s.Sound) (hc : c ∈ s.documents) (hd : d ∈ s.documents)
    (hsep : s.Separate c d) (hsymbol : ∀ r, e ≠ .symbol r) (hec : s.Part c e) : ¬ s.Part d e := by
  intro hed
  refine hsep.distinct ?_
  cases e with
  | symbol r => exact absurd rfl (hsymbol r)
  | frame f => exact h.frame_unique hc hd hec hed
  | block b => exact h.block_unique hc hd hec hed
  | inst i => exact h.inst_unique hc hd hec hed
  | template t => exact h.apart.templates c hc d hd t hec hed
  | document x => exact hec.symm.trans hed
  | log l => exact absurd (hec.symm.trans hed) hsep.logs
  | lineTable l => exact absurd hed (hsep.lineTables l hec)

end TimedNet.Store
