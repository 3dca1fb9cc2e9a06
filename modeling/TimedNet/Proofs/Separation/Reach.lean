import Mathlib.Data.List.Basic
import Mathlib.Logic.Relation
import TimedNet.Proofs.Copy.Sound

/-!
# `TimedNet.Proofs.Separation.Reach` — what can be seen of a document

Whatever an observer of a document looks at is reached from the document by references. When the document
is self-contained, all of it is a part of the document.

* `Store.references`, `Store.Reaches`: from an entity to those it refers to, and on.
* `Store.Part`: the parts of a document.
* `Store.SelfContained`: the symbols of a document stand for nothing or for its own parts.
* `SelfContained.part_of_reaches`: what is reached from a self-contained document is a part of it.
* `Store.Same`: an entity is the same in two stores; what is the same has the same references.
-/

namespace TimedNet

open Relation (ReflTransGen)

/-- The entity that holds what a symbol stands for. -/
def Subject.entity? : Subject → Option Entity
  | .nothing | .parameter | .typedef => none
  | .var owner => some (.block owner.block)
  | .fn owner => some (.block owner.block)
  | .location t _ | .branchpoint t _ | .line t _ | .template t => some (.template t)
  | .inst i | .process i => some (.inst i)

theorem Subject.entity?_eq_none {o : Subject} (h : o.isBare = true) : o.entity? = none := by
  cases o with
  | nothing | parameter | typedef => rfl
  | _ => exact absurd h Bool.false_ne_true

namespace Store

/-! ## References -/

/-- The entities that an entity refers to. -/
def references (s : Store) : Entity → List Entity
  | .symbol r => (s.symbol r).subject.entity?.toList
  | .frame f => (s.frame f).parent.toList.map .frame ++ (s.frame f).symbols.map .symbol
  | .block b => .frame (s.block b).frame :: (s.block b).symbols.map .symbol
  | .inst i => .template (s.inst i).template :: (s.inst i).symbols.map .symbol
  | .template t =>
    [.inst (s.template t).inst, .block (s.template t).block, .log (s.template t).log,
        .frame (s.template t).templateSet]
      ++ (s.template t).lines.items.flatMap (fun l => [.inst l.inst, .template l.owner])
      ++ (s.template t).symbols.map .symbol
  | .document d =>
    [.lineTable (s.document d).lineTable, .log (s.document d).log, .block (s.document d).globals]
      ++ (s.document d).allTemplates.map .template
      ++ (s.document d).dynamicByName.map (fun entry => .template entry.2)
      ++ (s.document d).listed.map .inst
      ++ (s.document d).symbols.map .symbol
  | .log l => [.lineTable (s.log l).lineTable]
  | .lineTable _ => []

/-- One entity is reached from another by references. -/
def Reaches (s : Store) : Entity → Entity → Prop := ReflTransGen fun e f => f ∈ s.references e

/-! ## Parts of a document -/

/-- The parts of a document, with the symbols that it mentions. -/
def Part (s : Store) (d : DocumentId) : Entity → Prop
  | .symbol r => r ∈ s.mentioned d
  | .frame f => f ∈ s.ownedFrames d
  | .block b => b ∈ s.ownedBlocks d
  | .inst i => i ∈ s.ownedInsts d
  | .template t => t ∈ (s.document d).allTemplates
  | .document e => e = d
  | .log l => l = (s.document d).log
  | .lineTable l => l = (s.document d).lineTable ∨ l = (s.log (s.document d).log).lineTable

/-- Every symbol of the document stands for nothing or is the own symbol of an entity that the document
    owns, and every instance is one of a template of the document. -/
structure SelfContained (s : Store) (d : DocumentId) : Prop where
  symbols : ∀ r ∈ s.mentioned d, (s.symbol r).subject.isBare = true
    ∨ (s.symbol r).subject ∈ s.owned d ∧ s.ownSymbol? (s.symbol r).subject = some r
  templates : ∀ i ∈ s.ownedInsts d, (s.inst i).template ∈ (s.document d).allTemplates

section Parts

variable {s : Store} {d : DocumentId}

/-- What a document owns is in its parts. -/
theorem part_of_mem_owned {o : Subject} (ho : o ∈ s.owned d) {e : Entity}
    (he : o.entity? = some e) : s.Part d e := by
  have hblock : ∀ {b : BlockId}, b ∈ s.ownedBlocks d → o ∈ s.ownedByBlock b → s.Part d e := by
    intro b hb ho
    rcases mem_ownedByBlock_iff.mp ho with ⟨i, v, _, rfl⟩ | ⟨i, f, _, rfl | ⟨j, v, _, rfl⟩⟩ <;>
      exact Option.some.inj he ▸ hb
  rcases mem_owned_iff.mp ho with ho | ⟨t, ht, ho⟩ | ⟨i, hi, rfl⟩ | ⟨i, hi, rfl⟩
  · exact hblock (globals_mem_ownedBlocks s d) ho
  · rcases mem_ownedByTemplate_iff.mp ho with rfl | ho | ⟨i, l, _, rfl⟩ | ⟨i, b, _, rfl⟩
      | ⟨i, l, _, rfl⟩
    · exact Option.some.inj he ▸ ht
    · exact hblock (block_mem_ownedBlocks ht) ho
    · exact Option.some.inj he ▸ ht
    · exact Option.some.inj he ▸ ht
    · exact Option.some.inj he ▸ ht
  · exact Option.some.inj he ▸ listed_mem_ownedInsts (List.mem_append_left _ hi)
  · exact Option.some.inj he ▸ listed_mem_ownedInsts (List.mem_append_right _ hi)

/-- The frame around a frame of a document is its global frame. -/
theorem Sound.parent_mem_ownedFrames (h : s.Sound) (hd : d ∈ s.documents) {f p : FrameId}
    (hf : f ∈ s.ownedFrames d) (hp : (s.frame f).parent = some p) : p ∈ s.ownedFrames d := by
  have hdocument := h.documents d hd
  rcases mem_ownedFrames_iff.mp hf with rfl | ⟨t, ht, rfl | rfl⟩
  · exact absurd (hp.symm.trans hdocument.root.parent) (by simp)
  · have hparent := hp.symm.trans (hdocument.scopes t ht).parent
    exact mem_ownedFrames_iff.mpr (Or.inl (Option.some.inj hparent))
  · have hloose := (h.templates t (hdocument.templates t ht).1).loose
    exact absurd (hp.symm.trans hloose) (by simp)

/-- **What a part of a self-contained document refers to is a part of the document.** -/
theorem SelfContained.part_of_mem_references (hself : s.SelfContained d) (h : s.Sound)
    (hd : d ∈ s.documents) {e f : Entity} (he : s.Part d e) (hf : f ∈ s.references e) :
    s.Part d f := by
  have hsymbols : ∀ {rs : List SymbolId}, (∀ r ∈ rs, r ∈ s.mentioned d) →
      f ∈ rs.map Entity.symbol → s.Part d f := by
    intro rs hrs hmem
    obtain ⟨r, hr, rfl⟩ := List.mem_map.mp hmem
    exact hrs r hr
  have hdocument := h.documents d hd
  -- One case for each kind of entity, and in it one for each list of its references.
  cases e with
  | symbol r =>
    have hentity : (s.symbol r).subject.entity? = some f := by simpa [references] using hf
    rcases hself.symbols r he with hbare | ⟨howned, _⟩
    · rw [Subject.entity?_eq_none hbare] at hentity
      exact absurd hentity (by simp)
    · exact part_of_mem_owned howned hentity
  | frame g =>
    rcases List.mem_append.mp hf with hparent | hmem
    · obtain ⟨p, hp, rfl⟩ := List.mem_map.mp hparent
      exact h.parent_mem_ownedFrames hd he (by simpa using hp)
    · exact hsymbols (fun r hr => mem_mentioned_of_frame he hr) hmem
  | block b =>
    rcases List.mem_cons.mp hf with rfl | hmem
    · exact frame_mem_ownedFrames he
    · exact hsymbols (fun r hr => mem_mentioned_of_block he hr) hmem
  | inst i =>
    rcases List.mem_cons.mp hf with rfl | hmem
    · exact hself.templates i he
    · exact hsymbols (fun r hr => h.mem_mentioned_of_inst hd he hr) hmem
  | template t =>
    have ht : t ∈ (s.document d).allTemplates := he
    rcases List.mem_append.mp hf with hmem | hmem
    · rcases List.mem_append.mp hmem with hmem | hmem
      · simp only [List.mem_cons, List.not_mem_nil, or_false] at hmem
        rcases hmem with rfl | rfl | rfl | rfl
        · exact inst_mem_ownedInsts ht
        · exact block_mem_ownedBlocks ht
        · exact (hdocument.templates t ht).2
        · exact templateSet_mem_ownedFrames ht
      · obtain ⟨l, hl, hmem⟩ := List.mem_flatMap.mp hmem
        simp only [List.mem_cons, List.not_mem_nil, or_false] at hmem
        rcases hmem with rfl | rfl
        · exact lineInst_mem_ownedInsts ht hl
        · have howner := (h.templates t (hdocument.templates t ht).1).owners l hl
          exact howner ▸ ht
    · exact hsymbols (fun r hr => mem_mentioned_of_template ht hr) hmem
  | document e =>
    obtain rfl : e = d := he
    rcases List.mem_append.mp hf with hmem | hmem
    · rcases List.mem_append.mp hmem with hmem | hmem
      · rcases List.mem_append.mp hmem with hmem | hmem
        · rcases List.mem_append.mp hmem with hmem | hmem
          · simp only [List.mem_cons, List.not_mem_nil, or_false] at hmem
            rcases hmem with rfl | rfl | rfl
            · exact Or.inl rfl
            · rfl
            · exact globals_mem_ownedBlocks s e
          · obtain ⟨t, ht, rfl⟩ := List.mem_map.mp hmem
            exact ht
        · obtain ⟨entry, hentry, rfl⟩ := List.mem_map.mp hmem
          rw [hdocument.entered] at hentry
          obtain ⟨t, ht, rfl⟩ := List.mem_map.mp hentry
          exact List.mem_append_right _ ht
      · obtain ⟨i, hi, rfl⟩ := List.mem_map.mp hmem
        exact listed_mem_ownedInsts hi
    · exact hsymbols (fun r hr => mem_mentioned_of_document hr) hmem
  | log l =>
    obtain rfl : l = (s.document d).log := he
    rw [List.mem_singleton.mp hf]
    exact Or.inr rfl
  | lineTable l => exact absurd hf List.not_mem_nil

/-- **What is reached from a self-contained document is a part of it.** -/
theorem SelfContained.part_of_reaches (hself : s.SelfContained d) (h : s.Sound)
    (hd : d ∈ s.documents) {e : Entity} (he : s.Reaches (.document d) e) : s.Part d e := by
  induction he with
  | refl => exact rfl
  | tail _ hf ih => exact hself.part_of_mem_references h hd ih hf

/-- The parts of a document exist. -/
theorem Sound.has_of_part (h : s.Sound) (hd : d ∈ s.documents) {e : Entity} (he : s.Part d e) :
    s.Has e := by
  have hdocument := h.documents d hd
  cases e with
  | symbol r => exact h.hasAll_mentioned hd r he
  | frame f => exact h.frame_mem_of_owned hd he
  | block b => exact h.block_mem_of_owned hd he
  | inst i => exact h.inst_mem_of_owned hd he
  | template t => exact (hdocument.templates t he).1
  | document e => exact he ▸ hd
  | log l => exact he ▸ hdocument.log
  | lineTable l =>
    rcases he with rfl | rfl
    · exact hdocument.lineTable
    · exact (h.logs _ hdocument.log).lineTable

end Parts

/-! ## Entities that are the same -/

/-- An entity is the same in two stores. -/
def Same (s s' : Store) : Entity → Prop
  | .symbol r => s'.symbol r = s.symbol r
  | .frame r => s'.frame r = s.frame r
  | .block r => s'.block r = s.block r
  | .inst r => s'.inst r = s.inst r
  | .template r => s'.template r = s.template r
  | .document r => s'.document r = s.document r
  | .log r => s'.log r = s.log r
  | .lineTable r => s'.lineTable r = s.lineTable r

section Same

variable {s s' s'' : Store} {d : DocumentId} {e : Entity}

theorem Same.refl (s : Store) (e : Entity) : s.Same s e := by
  cases e <;> rfl

theorem Same.trans (h : s.Same s' e) (h' : s'.Same s'' e) : s.Same s'' e := by
  cases e <;> exact Eq.trans h' h

/-- An entity that is the same refers to the same entities. -/
theorem Same.references (h : s.Same s' e) : s'.references e = s.references e := by
  cases e <;> simp only [Same] at h <;> simp only [Store.references, h]

/-- The parts of a document as they are: the same lists, blocks, frames and so on. -/
theorem part_iff_of_same (h : ∀ e, s.Part d e → s.Same s' e) : s'.Part d e ↔ s.Part d e := by
  have hdocument : s'.document d = s.document d := h (.document d) rfl
  have htemplates : ∀ t ∈ (s.document d).allTemplates, s'.template t = s.template t :=
    fun t ht => h (.template t) ht
  have hblocks : s'.ownedBlocks d = s.ownedBlocks d := by
    rw [ownedBlocks, ownedBlocks, hdocument]
    exact congrArg _ (List.map_congr_left fun t ht => by rw [htemplates t ht])
  have hblock : ∀ b ∈ s.ownedBlocks d, s'.block b = s.block b := fun b hb => h (.block b) hb
  have hframes : s'.ownedFrames d = s.ownedFrames d := by
    rw [ownedFrames, ownedFrames, globalFrame, globalFrame, hdocument,
      hblock _ (globals_mem_ownedBlocks s d)]
    refine congrArg _ (List.flatMap_congr fun t ht => ?_)
    rw [localFrame, localFrame, htemplates t ht, hblock _ (block_mem_ownedBlocks ht)]
  have hinsts : s'.ownedInsts d = s.ownedInsts d := by
    have hlist : (s.document d).allTemplates.flatMap s'.templateInsts
        = (s.document d).allTemplates.flatMap s.templateInsts := by
      refine List.flatMap_congr fun t ht => ?_
      rw [templateInsts, templateInsts, htemplates t ht]
    rw [ownedInsts, ownedInsts, hdocument, hlist]
  have hinst : ∀ i ∈ s.ownedInsts d, s'.inst i = s.inst i := fun i hi => h (.inst i) hi
  have hframe : ∀ f ∈ s.ownedFrames d, s'.frame f = s.frame f := fun f hf => h (.frame f) hf
  have hblockSymbols : ∀ b ∈ s.ownedBlocks d, s'.blockSymbols b = s.blockSymbols b := by
    intro b hb
    rw [blockSymbols, blockSymbols, hblock b hb, hframe _ (frame_mem_ownedFrames hb)]
  have htemplateSymbols : ∀ t ∈ (s.document d).allTemplates,
      s'.templateSymbols t = s.templateSymbols t := by
    intro t ht
    have hlines : (s.template t).lines.items.flatMap s'.lineSymbols
        = (s.template t).lines.items.flatMap s.lineSymbols := by
      refine List.flatMap_congr fun l hl => ?_
      rw [lineSymbols, lineSymbols, hinst _ (lineInst_mem_ownedInsts ht hl)]
    have hbody : s'.bodySymbols t = s.bodySymbols t := by
      rw [bodySymbols, bodySymbols, htemplates t ht, hframe _ (templateSet_mem_ownedFrames ht), hlines]
    rw [templateSymbols, templateSymbols, hbody, htemplates t ht, hinst _ (inst_mem_ownedInsts ht),
      hblockSymbols _ (block_mem_ownedBlocks ht)]
  have hmentioned : s'.mentioned d = s.mentioned d := by
    have hlisted : (s.document d).listed.flatMap (fun i => (s'.inst i).symbols)
        = (s.document d).listed.flatMap fun i => (s.inst i).symbols :=
      List.flatMap_congr fun i hi => by rw [hinst i (listed_mem_ownedInsts hi)]
    unfold Document.listed at hlisted
    rw [mentioned, mentioned, storedSymbols, storedSymbols, hdocument,
      hblockSymbols _ (globals_mem_ownedBlocks s d), List.flatMap_congr htemplateSymbols, hlisted]
  have hlog : s'.log (s.document d).log = s.log (s.document d).log := h (.log _) rfl
  cases e <;> simp only [Part, hdocument, hblocks, hframes, hinsts, hmentioned, hlog]

end Same

end Store

end TimedNet
