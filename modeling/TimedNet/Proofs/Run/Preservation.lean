import TimedNet.Proofs.Copy.Sound
import TimedNet.Proofs.Run.Step

/-!
# `TimedNet.Proofs.Run.Preservation` — every step keeps a store sound

* `Step.grows`, `Path.grows`: no step loses anything.
* `Apart.of_grows`, `Apart.of_same`: when no part comes to be shared.
* `Sound.newBlock`, …, `Sound.modifyInst`: new entities and changed ones.
* `Step.sound`, `Path.sound`: every step leaves a sound store sound.
* `Path.keeps`: what every step keeps, a path keeps.
* `Step.template_cases`, `Step.document_origins`: where the templates and documents after a step come from.
-/

namespace TimedNet.Store

variable {s s' : Store}

/-! ## Steps that make several entities -/

theorem grows_declared (s : Store) (r : FrameId) (x : Symbol) : s.Grows (s.declared r x) :=
  { Grows.refl s with
    symbols := Table.keeps_push Symbol.Keeps.refl _ _
    frames := Table.keeps_modify Frame.Keeps.refl fun _ => ⟨rfl, List.prefix_append _ _⟩ }

theorem grows_newTemplate {symbol : SymbolId} (hbare : (s.symbol symbol).subject.isBare = true)
    (parameters : List SymbolId) (globals : Option FrameId) (log : LogId) (style : Style) :
    s.Grows (s.newTemplate symbol parameters globals log style).1 where
  symbols := Table.keeps_modify Symbol.Keeps.refl fun _ =>
    ⟨rfl, rfl, rfl, fun hreal => absurd (hbare.symm.trans hreal) (by decide)⟩
  frames := (Table.keeps_push Frame.Keeps.refl s.frames _).trans
    (Table.keeps_push Frame.Keeps.refl _ _) Frame.Keeps.trans
  blocks := Table.keeps_push Block.Keeps.refl _ _
  insts := Table.keeps_push Instance.Keeps.refl _ _
  templates := Table.keeps_push Template.Keeps.refl _ _
  documents := .refl Document.Keeps.refl _
  logs := .refl Log.Keeps.refl _
  lineTables := .refl (fun _ => trivial) _
  nextArena := Nat.le_add_right _ _

theorem grows_newDocument (s : Store) (lineTable : LineTableId) (log : LogId) :
    s.Grows (s.newDocument lineTable log).1 :=
  { Grows.refl s with
    frames := Table.keeps_push Frame.Keeps.refl _ _
    blocks := Table.keeps_push Block.Keeps.refl _ _
    documents := Table.keeps_push Document.Keeps.refl _ _ }

theorem Aside.grows (h : s.Aside s') : s.Grows s' where
  symbols := h.symbols ▸ .refl Symbol.Keeps.refl _
  frames := h.frames ▸ .refl Frame.Keeps.refl _
  blocks := h.blocks ▸ .refl Block.Keeps.refl _
  insts := h.insts ▸ .refl Instance.Keeps.refl _
  templates := h.templates ▸ .refl Template.Keeps.refl _
  documents := h.documents ▸ .refl Document.Keeps.refl _
  logs := h.logs ▸ .refl Log.Keeps.refl _
  lineTables := h.lineTables ▸ .refl (fun _ => trivial) _
  nextArena := h.nextArena

/-! ## Growth -/

/-- **No step loses anything.** -/
theorem Step.grows {w : Write} (h : s.Step w s') : s.Grows s' := by
  cases h with
  | symbols xs => exact s.grows_newSymbols xs
  | frame f _ _ => exact s.grows_newFrame f
  | extend r rs _ => exact s.grows_modifyFrame r rs
  | declare r x _ => exact s.grows_declared r x
  | block parent _ => exact s.grows_newBlock parent []
  | editBlock r f hf => exact s.grows_modifyBlock fun hr => (hf hr).keeps
  | inst i _ => exact s.grows_newInst i
  | restrict r rs _ => exact s.grows_modifyInst ⟨rfl⟩
  | parameters r rs _ => exact s.grows_modifyInst ⟨rfl⟩
  | bind r template b _ _ _ => exact s.grows_modifyInst ⟨rfl⟩
  | newTemplate symbol parameters globals log style _ hbare _ _ _ =>
    exact grows_newTemplate hbare parameters globals log style
  | editTemplate r _ f hf => exact s.grows_modifyTemplate fun hr => (hf hr).keeps
  | document lineTable log _ _ => exact s.grows_newDocument lineTable log
  | editDocument r f hf => exact s.grows_modifyDocument fun hr => (hf hr).keeps
  | log l _ => exact s.grows_newLog l
  | editLog r f hf => exact s.grows_modifyLog hf
  | lineTable lines => exact s.grows_newLineTable lines
  | editLineTable r e => exact s.grows_addLine r e
  | aside s' h => exact h.grows
  | copy document _ => exact s.grows_relocated document

theorem Path.grows {P : Write → Prop} (h : Path P s s') : s.Grows s' := by
  induction h with
  | refl => exact .refl s
  | step _ _ hstep ih => exact ih.trans hstep.grows

/-! ## Parts stay apart -/

/-- If different documents list nothing in common, and one of them takes up only what none lists, then
    different documents still list nothing in common. -/
theorem unshared_of_takes {α : Type} {docs : Table .document Document} (g g' : DocumentId → List α)
    (h : ∀ d ∈ docs, ∀ e ∈ docs, ∀ a ∈ g d, a ∈ g e → d = e) (r : DocumentId)
    (hothers : ∀ d ∈ docs, d ≠ r → g' d = g d)
    (htakes : r ∈ docs → ∀ a ∈ g' r, a ∈ g r ∨ ∀ d ∈ docs, a ∉ g d) :
    ∀ d ∈ docs, ∀ e ∈ docs, ∀ a ∈ g' d, a ∈ g' e → d = e := by
  -- What a document other than `r` lists afterwards, it listed before.
  have hold : ∀ d ∈ docs, d ≠ r → ∀ a ∈ g' d, a ∈ g d := fun d hd hne a ha => hothers d hd hne ▸ ha
  intro d hd e he a had hae
  by_cases hdr : d = r <;> by_cases her : e = r
  · rw [hdr, her]
  · subst hdr
    rcases htakes hd a had with hlisted | hfree
    · exact h d hd e he a hlisted (hold e he her a hae)
    · exact absurd (hold e he her a hae) (hfree e he)
  · subst her
    rcases htakes he a hae with hlisted | hfree
    · exact h d hd e he a (hold d hd hdr a had) hlisted
    · exact absurd (hold d hd hdr a had) (hfree d hd)
  · exact h d hd e he a (hold d hd hdr a had) (hold e he her a hae)

/-- A change that makes no block, template or document and adds to the lists of one document only what
    no document lists keeps parts apart. -/
theorem Apart.of_grows (h : s.Sound) (hg : s.Grows s')
    (hblocks : ∀ b, b ∈ s'.blocks → b ∈ s.blocks)
    (htemplates : ∀ t, t ∈ s'.templates → t ∈ s.templates)
    (hdocuments : ∀ d, d ∈ s'.documents → d ∈ s.documents) (r : DocumentId)
    (hothers : ∀ d ∈ s.documents, d ≠ r → s'.document d = s.document d)
    (hlists : r ∈ s.documents → ∀ t ∈ (s'.document r).allTemplates,
      t ∈ (s.document r).allTemplates ∨ s.UnlistedTemplate t)
    (hlisted : r ∈ s.documents → ∀ i ∈ (s'.document r).listed,
      i ∈ (s.document r).listed ∨ s.UnlistedInst i) : s'.Apart where
  frames := by
    intro b hb c hc heq
    rw [show (s'.block b).frame = _ from (hg.blocks b (hblocks b hb)).2.frame,
      show (s'.block c).frame = _ from (hg.blocks c (hblocks c hc)).2.frame] at heq
    exact h.apart.frames b (hblocks b hb) c (hblocks c hc) heq
  sets := by
    intro t ht u hu heq
    rw [show (s'.template t).templateSet = _ from (hg.templates t (htemplates t ht)).2.templateSet,
      show (s'.template u).templateSet = _ from
        (hg.templates u (htemplates u hu)).2.templateSet] at heq
    exact h.apart.sets t (htemplates t ht) u (htemplates u hu) heq
  sets_frames := by
    intro t ht b hb heq
    rw [show (s'.template t).templateSet = _ from (hg.templates t (htemplates t ht)).2.templateSet,
      show (s'.block b).frame = _ from (hg.blocks b (hblocks b hb)).2.frame] at heq
    exact h.apart.sets_frames t (htemplates t ht) b (hblocks b hb) heq
  blocks := by
    intro t ht u hu heq
    rw [show (s'.template t).block = _ from (hg.templates t (htemplates t ht)).2.block,
      show (s'.template u).block = _ from (hg.templates u (htemplates u hu)).2.block] at heq
    exact h.apart.blocks t (htemplates t ht) u (htemplates u hu) heq
  globals := by
    intro d hd e he heq
    rw [show (s'.document d).globals = _ from (hg.documents d (hdocuments d hd)).2.globals,
      show (s'.document e).globals = _ from (hg.documents e (hdocuments e he)).2.globals] at heq
    exact h.apart.globals d (hdocuments d hd) e (hdocuments e he) heq
  globals_blocks := by
    intro d hd t ht heq
    rw [show (s'.document d).globals = _ from (hg.documents d (hdocuments d hd)).2.globals,
      show (s'.template t).block = _ from (hg.templates t (htemplates t ht)).2.block] at heq
    exact h.apart.globals_blocks d (hdocuments d hd) t (htemplates t ht) heq
  templates := by
    intro d hd e he t htd hte
    refine unshared_of_takes (fun x => (s.document x).allTemplates)
      (fun x => (s'.document x).allTemplates) h.apart.templates r (fun x hx hne => ?_)
      hlists d (hdocuments d hd) e (hdocuments e he) t htd hte
    exact congrArg _ (hothers x hx hne)
  listed := by
    intro d hd e he i hid hie
    refine unshared_of_takes (fun x => (s.document x).listed) (fun x => (s'.document x).listed)
      h.apart.listed r (fun x hx hne => ?_) hlisted d (hdocuments d hd) e (hdocuments e he) i hid hie
    exact congrArg _ (hothers x hx hne)
  arenas := by
    intro t ht u hu hlt
    rw [show (s'.template t).lines.id = _ from (hg.templates t (htemplates t ht)).2.lines.1,
      show (s'.template u).locations.id = _ from (hg.templates u (htemplates u hu)).2.locations.1]
    exact h.apart.arenas t (htemplates t ht) u (htemplates u hu) hlt

/-- The same when the documents are as they were. -/
theorem Apart.of_same (h : s.Sound) (hg : s.Grows s')
    (hblocks : ∀ b, b ∈ s'.blocks → b ∈ s.blocks)
    (htemplates : ∀ t, t ∈ s'.templates → t ∈ s.templates)
    (hdocuments : s'.documents = s.documents) : s'.Apart := by
  have hsame : ∀ d, s'.document d = s.document d := fun d => congrArg (·.get d) hdocuments
  refine Apart.of_grows h hg hblocks htemplates (fun d hd => hdocuments ▸ hd) default
    (fun d _ _ => hsame d) ?_ ?_
  · intro _ t ht
    rw [hsame] at ht
    exact Or.inl ht
  · intro _ i hi
    rw [hsame] at hi
    exact Or.inl hi

/-! ## New entities -/

theorem Sound.newSymbols (h : s.Sound) (xs : List Symbol) :
    Sound { s with symbols := s.symbols.pushAll xs } := by
  have hg := s.grows_newSymbols xs
  exact h.renew hg (.refl _ _) (.refl _ _) (.refl _ _) (.refl _ _) (.refl _ _) (.refl _ _)
    (.of_same h hg (fun _ => id) (fun _ => id) rfl)
    (h.own_of_same hg (fun _ => id) fun _ _ => rfl)

theorem Sound.newFrame (h : s.Sound) {f : Frame} (hsymbols : s.HasAll f.symbols)
    (hparent : ∀ p ∈ f.parent, p ∈ s.frames) : (s.newFrame f).1.Sound := by
  have hg := s.grows_newFrame f
  refine h.renew hg (Table.renews_push ?_) (.refl _ _) (.refl _ _) (.refl _ _) (.refl _ _)
    (.refl _ _) (.of_same h hg (fun _ => id) (fun _ => id) rfl)
    (h.own_of_same hg (fun _ => id) fun _ _ => rfl)
  exact ⟨hsymbols.mono hg, fun p hp => ⟨(hg.frames p (hparent p hp)).1, hparent p hp⟩⟩

theorem Sound.newInst (h : s.Sound) {i : Instance} (hi : i.Sound s) :
    Sound { s with insts := s.insts.push i } := by
  have hg := s.grows_newInst i
  exact h.renew hg (.refl _ _) (.refl _ _) (Table.renews_push (hi.mono hg)) (.refl _ _) (.refl _ _)
    (.refl _ _) (.of_same h hg (fun _ => id) (fun _ => id) rfl)
    (h.own_of_same hg (fun _ => id) fun t ht => Table.get_push_of_mem _ (h.templates t ht).inst)

theorem Sound.newBlock (h : s.Sound) {parent : Option FrameId} {parameters : List SymbolId}
    (hparent : ∀ p ∈ parent, p ∈ s.frames) (hparameters : s.HasAll parameters) :
    (s.newBlock parent parameters).1.Sound := by
  have hg := s.grows_newBlock parent parameters
  refine h.renew hg (Table.renews_push ?_) (Table.renews_push ?_) (.refl _ _) (.refl _ _)
    (.refl _ _) (.refl _ _) ?_ (h.own_of_same hg (fun _ => id) fun _ _ => rfl)
  · exact ⟨hparameters.mono hg, fun p hp => ⟨(hg.frames p (hparent p hp)).1, hparent p hp⟩⟩
  · exact
      { frame := Table.next_mem_push _ _
        symbols := hasAll_nil _
        vars := fun i v hv => absurd hv (by simp)
        functions := fun i f hf => absurd hf (by simp)
        locals := fun i f hf => absurd hf (by simp) }
  · -- The frame of the new block is new.
    refine { h.apart with frames := ?_, sets_frames := fun t ht => ?_ }
    · exact Table.unique_push (R := fun b c : Block => b.frame = c.frame) Eq.symm h.apart.frames
        fun b hb => Table.ne_next_of_mem (h.blocks b hb).frame
    · exact Table.forall_push (P := fun b : Block => (s.template t).templateSet ≠ b.frame)
        (h.apart.sets_frames t ht) (Table.ne_next_of_mem (h.templates t ht).templateSet)

/-- The frame of a new block lies where it is said to lie. -/
theorem nested_newBlock (s : Store) (parent : Option FrameId) (parameters : List SymbolId) :
    (s.newBlock parent parameters).1.Nested s.blocks.next parent := by
  have hframe : ((s.newBlock parent parameters).1.block s.blocks.next).frame = s.frames.next :=
    congrArg Block.frame (Table.get_push_next s.blocks _)
  refine ⟨Table.next_mem_push _ _, ?_, ?_⟩
  · rw [hframe]
    exact Table.next_mem_push _ _
  · rw [hframe]
    exact congrArg Frame.parent (Table.get_push_next s.frames _)

/-- What a template is when it is made. -/
def freshTemplate (s : Store) (parameters : List SymbolId) (globals : Option FrameId) (log : LogId)
    (style : Style) : Template :=
  { inst := s.insts.next, block := s.blocks.next, log
    templateSet := (s.frames.push { parent := globals, symbols := parameters }).next, style
    locations := { id := s.nextArena, label := Template.locationLabel }
    branchpoints := { id := s.nextArena + 1, label := Template.branchpointLabel }
    lines := { id := s.nextArena + 2, label := Template.lineLabel } }

theorem template_newTemplate (s : Store) (symbol : SymbolId) (parameters : List SymbolId)
    (globals : Option FrameId) (log : LogId) (style : Style) :
    (s.newTemplate symbol parameters globals log style).1.template s.templates.next
      = s.freshTemplate parameters globals log style :=
  Table.get_push_next s.templates _

/-- A new template takes a block and a set that no other has, under a symbol that stood for nothing. -/
theorem Sound.newTemplate (h : s.Sound) {symbol : SymbolId} {parameters : List SymbolId}
    {globals : Option FrameId} {log : LogId} (style : Style) (hsymbol : symbol ∈ s.symbols)
    (hbare : (s.symbol symbol).subject.isBare = true) (hparameters : s.HasAll parameters)
    (hglobals : ∀ p ∈ globals, p ∈ s.frames) (hlog : log ∈ s.logs) :
    (s.newTemplate symbol parameters globals log style).1.Sound := by
  have hg := grows_newTemplate hbare parameters globals log style
  -- The block and the set are there before the template that gets them.
  have hbefore : ((s.newBlock globals parameters).1.newFrame {}).1.Sound :=
    (h.newBlock hglobals hparameters).newFrame (hasAll_nil _) (fun p hp => absurd hp (by simp))
  have hg' : ((s.newBlock globals parameters).1.newFrame {}).1.Grows
      (s.newTemplate symbol parameters globals log style).1 :=
    { Grows.refl ((s.newBlock globals parameters).1.newFrame {}).1 with
      symbols := hg.symbols, insts := hg.insts, templates := hg.templates
      nextArena := hg.nextArena }
  have hsubject : (s.newTemplate symbol parameters globals log style).1.Stands symbol
      (.template s.templates.next) := by
    refine ⟨Table.mem_modify.mpr hsymbol, ?_, rfl⟩
    exact congrArg Symbol.subject (Table.get_modify_self (t := s.symbols)
      (fun x => { x with subject := .template s.templates.next }) hsymbol)
  have hinst : (s.newTemplate symbol parameters globals log style).1.inst s.insts.next
      = { symbol, template := s.templates.next, binding := .ofParameters parameters } :=
    Table.get_push_next s.insts _
  refine hbefore.renew hg' (.refl _ _) (.refl _ _) (Table.renews_push ?_) (Table.renews_push ?_)
    (.refl _ _) (.refl _ _) ?_ ?_
  · refine ⟨?_, Table.next_mem_push _ _⟩
    intro r hr
    rcases List.mem_cons.mp hr with rfl | hr
    · exact hsubject.mem
    · exact hparameters.mono hg r (by simpa [Binding.ofParameters] using hr)
  · refine
      { inst := Table.next_mem_push _ _, block := Table.next_mem_push _ _
        log := hlog, templateSet := Table.next_mem_push _ _, symbols := hasAll_nil _, own := ?_
        locations := fun i l hl => absurd hl (by simp)
        branchpoints := fun i b hb => absurd hb (by simp)
        lines := fun i l hl => absurd hl (by simp)
        edges := fun e he => absurd he List.not_mem_nil
        messages := fun m hm => absurd hm List.not_mem_nil
        conditions := fun c hc => absurd hc List.not_mem_nil
        updates := fun u hu => absurd hu List.not_mem_nil
        arenas := ⟨rfl, rfl, Nat.lt_succ_self _⟩
        owners := fun l hl => absurd hl List.not_mem_nil
        loose := congrArg Frame.parent (Table.get_push_next _ _) }
    show Stands _ (Store.inst _ s.insts.next).symbol _
    rw [hinst]
    exact hsubject
  · -- The block and the set are the last of their kinds, so no earlier template has them.
    have hset : ∀ t ∈ s.templates,
        (s.template t).templateSet ≠ (s.newBlock globals parameters).1.frames.next := fun t ht =>
      have hmid := (s.grows_newBlock globals parameters).frames _ (h.templates t ht).templateSet
      Table.ne_next_of_mem hmid.1
    refine { hbefore.apart with sets := ?_, sets_frames := ?_, blocks := ?_, globals_blocks := ?_,
                                arenas := ?_ }
    · exact Table.unique_push (R := fun t u : Template => t.templateSet = u.templateSet) Eq.symm
        h.apart.sets hset
    · have hblock := h.newBlock hglobals hparameters
      refine Table.forall_push
        (P := fun t : Template => ∀ b ∈ _, t.templateSet ≠ (Store.block _ b).frame)
        hblock.apart.sets_frames fun b hb => ?_
      exact (Table.ne_next_of_mem (hblock.blocks b hb).frame).symm
    · exact Table.unique_push (R := fun t u : Template => t.block = u.block) Eq.symm
        h.apart.blocks fun t ht => Table.ne_next_of_mem (h.templates t ht).block
    · intro d hd
      exact Table.forall_push (P := fun t : Template => (s.document d).globals ≠ t.block)
        (h.apart.globals_blocks d hd) (Table.ne_next_of_mem (h.documents d hd).globals)
    · -- Its arenas are numbered last.
      exact Table.ordered_push (R := fun t u : Template => t.lines.id < u.locations.id) h.apart.arenas
        fun t ht => (h.templates t ht).arenas.2.2
  · intro t ht
    rcases Table.mem_push.mp ht with hold | rfl
    · have htemplate : (s.newTemplate symbol parameters globals log style).1.template t
          = s.template t := Table.get_push_of_mem _ hold
      have hold' : (s.newTemplate symbol parameters globals log style).1.inst (s.template t).inst
          = s.inst (s.template t).inst := Table.get_push_of_mem _ (h.templates t hold).inst
      rw [htemplate, hold']
      exact h.own t hold
    · rw [template_newTemplate]
      show (Store.inst _ s.insts.next).IsOwn _
      rw [hinst]
      exact ⟨rfl, rfl, rfl⟩

/-- A new document takes a block that no other has. -/
theorem Sound.newDocument (h : s.Sound) {lineTable : LineTableId} {log : LogId}
    (hlineTable : lineTable ∈ s.lineTables) (hlog : log ∈ s.logs) :
    (s.newDocument lineTable log).1.Sound := by
  have hbefore : (s.newBlock none).1.Sound :=
    h.newBlock (fun p hp => absurd hp (by simp)) (hasAll_nil _)
  have hg : (s.newBlock none).1.Grows (s.newDocument lineTable log).1 :=
    { Grows.refl (s.newBlock none).1 with
      documents := Table.keeps_push Document.Keeps.refl _ _ }
  refine hbefore.renew hg (.refl _ _) (.refl _ _) (.refl _ _) (.refl _ _) (Table.renews_push ?_)
    (.refl _ _) ?_ (hbefore.own_of_same hg (fun _ => id) fun _ _ => rfl)
  · exact
      { lineTable := hlineTable, log := hlog, globals := Table.next_mem_push _ _
        templates := fun t ht => absurd ht (by simp [Document.allTemplates])
        distinct := List.nodup_nil
        instances := fun i hi => absurd hi (by simp)
        processes := fun i hi => absurd hi (by simp)
        symbols := hasAll_nil _
        root := (s.nested_newBlock none []).mono hg
        scopes := fun t ht => absurd ht (by simp [Document.allTemplates])
        listsOnce := List.nodup_nil
        names := List.nodup_nil
        entered := rfl }
  · -- The new document lists nothing, and its block is the last one.
    have hfresh : ∀ {d : DocumentId}, d ∈ s.documents → (s.document d).globals ≠ s.blocks.next :=
      fun hd => Table.ne_next_of_mem (h.documents _ hd).globals
    refine { hbefore.apart with globals := ?_, globals_blocks := ?_, templates := ?_, listed := ?_ }
    · exact Table.unique_push (R := fun d e : Document => d.globals = e.globals) Eq.symm
        h.apart.globals fun d hd => hfresh hd
    · refine Table.forall_push
        (P := fun x : Document => ∀ t ∈ s.templates, x.globals ≠ (s.template t).block)
        h.apart.globals_blocks fun t ht => ?_
      exact (Table.ne_next_of_mem (h.templates t ht).block).symm
    · exact Table.unshared_push Document.allTemplates h.apart.templates
        fun _ _ _ _ => by simp [Document.allTemplates]
    · exact Table.unshared_push Document.listed h.apart.listed
        fun _ _ _ _ => by simp [Document.listed]

/-! ## Changes of one entity -/

theorem Sound.extendFrame (h : s.Sound) (r : FrameId) {rs : List SymbolId} (hrs : s.HasAll rs) :
    (s.modifyFrame r fun f => f.addAll rs).Sound := by
  have hg := s.grows_modifyFrame r rs
  refine h.renew hg (Table.renews_modify fun hr => ?_) (.refl _ _) (.refl _ _) (.refl _ _)
    (.refl _ _) (.refl _ _) (.of_same h hg (fun _ => id) (fun _ => id) rfl)
    (h.own_of_same hg (fun _ => id) fun _ _ => rfl)
  have hf := (h.frames r hr).mono hg
  exact ⟨hf.symbols.append (hrs.mono hg), hf.parent⟩

/-- A symbol in a frame is one more symbol and then a longer frame. -/
theorem Sound.declared (h : s.Sound) (r : FrameId) (x : Symbol) : (s.declared r x).Sound := by
  have hnew : ({ s with symbols := s.symbols.pushAll [x] } : Store).HasAll [s.symbols.next] := by
    intro q hq
    rw [List.mem_singleton.mp hq]
    exact Table.mem_pushAll.mpr (Nat.lt_succ_self _)
  exact (h.newSymbols [x]).extendFrame r hnew

theorem Sound.modifyInst (h : s.Sound) (r : InstanceId) {f : Instance → Instance}
    (hkeeps : (s.inst r).Keeps (f (s.inst r))) (hf : r ∈ s.insts → (f (s.inst r)).Sound s)
    (hown : ∀ t ∈ s.templates, (s.template t).inst = r → (f (s.inst r)).IsOwn t) :
    (s.modifyInst r f).Sound := by
  have hg := s.grows_modifyInst hkeeps
  refine h.renew hg (.refl _ _) (.refl _ _) (Table.renews_modify fun hr => ?_) (.refl _ _)
    (.refl _ _) (.refl _ _) (.of_same h hg (fun _ => id) (fun _ => id) rfl) fun t ht => ?_
  · exact (hf hr).mono hg
  · show ((s.insts.modify r f).get (s.template t).inst).IsOwn t
    by_cases hr : (s.template t).inst = r
    · subst hr
      rw [Table.get_modify_self f (h.templates t ht).inst]
      exact hown t ht rfl
    · rw [Table.get_modify_of_ne f (Ne.symm hr)]
      exact h.own t ht

theorem Sound.restrictInst (h : s.Sound) (r : InstanceId) {rs : List SymbolId}
    (hrs : s.HasAll rs) :
    (s.modifyInst r fun i => { i with binding := { i.binding with restricted := rs } }).Sound := by
  refine h.modifyInst r ⟨rfl⟩ (fun hr => ⟨?_, (h.insts r hr).template⟩) ?_
  · obtain ⟨hsymbol, hparameters, hmapping, -⟩ := Instance.hasAll_symbols.mp (h.insts r hr).symbols
    exact Instance.hasAll_symbols.mpr ⟨hsymbol, hparameters, hmapping, hrs⟩
  · rintro t ht rfl
    exact ⟨(h.own t ht).template, (h.own t ht).mapping, (h.own t ht).argumentCount⟩

theorem Sound.extendParameters (h : s.Sound) (r : InstanceId) {rs : List SymbolId}
    (hrs : s.HasAll rs) : (s.extendParameters r rs).Sound := by
  refine h.modifyInst r ⟨rfl⟩ (fun hr => ⟨?_, (h.insts r hr).template⟩) ?_
  · obtain ⟨hsymbol, hparameters, hmapping, hrestricted⟩ :=
      Instance.hasAll_symbols.mp (h.insts r hr).symbols
    exact Instance.hasAll_symbols.mpr ⟨hsymbol, hparameters.append hrs, hmapping, hrestricted⟩
  · rintro t ht rfl
    exact ⟨(h.own t ht).template, (h.own t ht).mapping, (h.own t ht).argumentCount⟩

/-! ## Steps and paths -/

/-- **Every step leaves a sound store sound.** -/
theorem Step.sound {w : Write} (hstep : s.Step w s') (h : s.Sound) : s'.Sound := by
  have hg := hstep.grows
  cases hstep with
  | symbols xs => exact h.newSymbols xs
  | frame f hsymbols hparent => exact h.newFrame hsymbols hparent
  | extend r rs hrs => exact h.extendFrame r hrs
  | declare r x _ => exact h.declared r x
  | block parent hparent => exact h.newBlock hparent (hasAll_nil s)
  | editBlock r f hf =>
    refine h.renew hg (.refl _ _) (Table.renews_modify fun hr => ?_) (.refl _ _) (.refl _ _)
      (.refl _ _) (.refl _ _)
      (.of_same h hg (fun _ hb => Table.mem_modify.mp hb) (fun _ => id) rfl)
      (h.own_of_same hg (fun _ => id) fun _ _ => rfl)
    exact ((hf hr).sound (h.blocks r hr)).mono hg
  | inst i hi => exact h.newInst hi
  | restrict r rs hrs => exact h.restrictInst r hrs
  | parameters r rs hrs => exact h.extendParameters r hrs
  | bind r template b htemplate hsymbols hr =>
    exact h.modifyInst r ⟨rfl⟩ (fun _ => ⟨hsymbols, htemplate⟩) fun t ht heq => absurd heq (hr t ht)
  | newTemplate symbol parameters globals log style hsymbol hbare hparameters hglobals hlog =>
    exact h.newTemplate style hsymbol hbare hparameters hglobals hlog
  | editTemplate r _ f hf =>
    refine h.renew hg (.refl _ _) (.refl _ _) (.refl _ _) (Table.renews_modify fun hr => ?_)
      (.refl _ _) (.refl _ _)
      (.of_same h hg (fun _ => id) (fun _ ht => Table.mem_modify.mp ht) rfl)
      (h.own_of_same hg (fun _ ht => Table.mem_modify.mp ht) fun _ _ => rfl)
    exact ((hf hr).sound (h.templates r hr)).mono hg
  | document lineTable log hlineTable hlog => exact h.newDocument hlineTable hlog
  | editDocument r f hf =>
    refine h.renew hg (.refl _ _) (.refl _ _) (.refl _ _) (.refl _ _)
      (Table.renews_modify fun hr => ((hf hr).sound hr (h.documents r hr)).mono hg h.templates)
      (.refl _ _) ?_ (h.own_of_same hg (fun _ => id) fun _ _ => rfl)
    -- Other documents are as they were, and this one lists only what no other does.
    refine .of_grows h hg (fun _ => id) (fun _ => id) (fun _ hd => Table.mem_modify.mp hd) r
      (fun d _ hne => Table.get_modify_of_ne f hne.symm) ?_ ?_
    · intro hr t ht
      have hdocument : (s.modifyDocument r f).document r = f (s.document r) :=
        Table.get_modify_self f hr
      rw [hdocument] at ht
      exact ((hf hr).mem_allTemplates ht).imp_right fun hnew => hnew.2.1
    · intro hr i hi
      have hdocument : (s.modifyDocument r f).document r = f (s.document r) :=
        Table.get_modify_self f hr
      rw [hdocument] at hi
      exact (hf hr).mem_listed hi
  | log l hl =>
    exact h.renew hg (.refl _ _) (.refl _ _) (.refl _ _) (.refl _ _) (.refl _ _)
      (Table.renews_push (hl.mono hg)) (.of_same h hg (fun _ => id) (fun _ => id) rfl)
      (h.own_of_same hg (fun _ => id) fun _ _ => rfl)
  | editLog r f hf =>
    refine h.renew hg (.refl _ _) (.refl _ _) (.refl _ _) (.refl _ _) (.refl _ _)
      (Table.renews_modify fun hr => ?_) (.of_same h hg (fun _ => id) (fun _ => id) rfl)
      (h.own_of_same hg (fun _ => id) fun _ _ => rfl)
    have hl : (s.log r).Sound s := h.logs r hr
    refine Log.Sound.mono hg ⟨?_⟩
    rw [show (f (s.logs.get r)).lineTable = _ from (hf (s.log r)).lineTable]
    exact hl.lineTable
  | lineTable lines =>
    exact h.renew hg (.refl _ _) (.refl _ _) (.refl _ _) (.refl _ _) (.refl _ _) (.refl _ _)
      (.of_same h hg (fun _ => id) (fun _ => id) rfl) (h.own_of_same hg (fun _ => id) fun _ _ => rfl)
  | editLineTable r e =>
    exact h.renew hg (.refl _ _) (.refl _ _) (.refl _ _) (.refl _ _) (.refl _ _) (.refl _ _)
      (.of_same h hg (fun _ => id) (fun _ => id) rfl) (h.own_of_same hg (fun _ => id) fun _ _ => rfl)
  | aside s' ha =>
    refine h.renew hg (ha.frames ▸ .refl _ _) (ha.blocks ▸ .refl _ _) (ha.insts ▸ .refl _ _)
      (ha.templates ▸ .refl _ _) (ha.documents ▸ .refl _ _) (ha.logs ▸ .refl _ _)
      (.of_same h hg (fun _ hb => ?_) (fun _ ht => ?_) ha.documents)
      (h.own_of_same hg (fun _ ht => ha.templates ▸ ht) fun t _ =>
        congrArg (fun insts => insts.get (s.template t).inst) ha.insts)
    · exact ha.blocks ▸ hb
    · exact ha.templates ▸ ht
  | copy document hdocument => exact h.relocated hdocument

/-- **A path leaves a sound store sound.** -/
theorem Path.sound {P : Write → Prop} (hpath : Path P s s') (h : s.Sound) : s'.Sound := by
  induction hpath with
  | refl => exact h
  | step _ _ hstep ih => exact hstep.sound ih

/-- What every step of a path keeps, its stores being sound, the path keeps. -/
theorem Path.keeps {P : Write → Prop} {I : Store → Prop} (hpath : Path P s s') (h : s.Sound)
    (hkept : ∀ {t u : Store} {w : Write}, P w → t.Step w u → t.Sound → I t → I u) (hs : I s) :
    I s' := by
  induction hpath with
  | refl => exact hs
  | step path hw hstep ih => exact hkept hw hstep (path.sound h) ih

/-- **Where the templates after a step come from.** A template is as it was, or the step changed it,
    or the step made it, or the step copied a document that has the original. -/
theorem Step.template_cases {w : Write} (hstep : s.Step w s') (h : s.Sound) {t : TemplateId}
    (ht : t ∈ s'.templates) :
    (t ∈ s.templates ∧ s'.template t = s.template t)
      ∨ (t ∈ s.templates ∧ ∃ a, w = .template t a ∧ (s.template t).Edit s t a (s'.template t))
      ∨ (∃ symbol parameters globals log style,
          s' = (s.newTemplate symbol parameters globals log style).1 ∧ t = s.templates.next)
      ∨ ∃ d ∈ s.documents, s' = (s.relocated d).1 ∧ ∃ u ∈ (s.document d).allTemplates,
          t = (s.relocations d).templates u := by
  cases hstep with
  | newTemplate symbol parameters globals log style _ _ _ _ _ =>
    rcases Table.mem_push.mp ht with hold | rfl
    · exact Or.inl ⟨hold, Table.get_push_of_mem _ hold⟩
    · exact Or.inr (Or.inr (Or.inl ⟨_, _, _, _, _, rfl, rfl⟩))
  | editTemplate r a f hf =>
    have hold : t ∈ s.templates := Table.mem_modify.mp ht
    by_cases hr : t = r
    · subst hr
      have hchanged : (s.modifyTemplate t f).template t = f (s.template t) :=
        Table.get_modify_self f hold
      exact Or.inr (Or.inl ⟨hold, a, rfl, hchanged ▸ hf hold⟩)
    · exact Or.inl ⟨hold, Table.get_modify_of_ne f (Ne.symm hr)⟩
  | aside s' ha => exact Or.inl ⟨ha.templates ▸ ht, congrArg (·.get t) ha.templates⟩
  | copy d hd =>
    rcases h.template_cases hd ht with hold | ⟨u, hu, heq, _⟩
    · exact Or.inl hold
    · exact Or.inr (Or.inr (Or.inr ⟨d, hd, rfl, u, hu, heq⟩))
  | _ => exact Or.inl ⟨ht, rfl⟩

/-- **Where the documents after a step come from.** A document is as it was, or the step changed it,
    or the step made it, or the step copied the original. -/
theorem Step.document_origins {w : Write} (hstep : s.Step w s') {d : DocumentId} (hd : d ∈ s'.documents) :
    (d ∈ s.documents ∧ s'.document d = s.document d)
      ∨ (d ∈ s.documents ∧ w = .document d ∧ (s.document d).Edit s (s'.document d))
      ∨ (∃ lineTable log, s' = (s.newDocument lineTable log).1 ∧ d = s.documents.next)
      ∨ ∃ e ∈ s.documents, s' = (s.relocated e).1 ∧ d = (s.relocated e).2 := by
  cases hstep with
  | document lineTable log _ _ =>
    rcases Table.mem_push.mp hd with hold | rfl
    · exact Or.inl ⟨hold, Table.get_push_of_mem _ hold⟩
    · exact Or.inr (Or.inr (Or.inl ⟨lineTable, log, rfl, rfl⟩))
  | editDocument r f hf =>
    have hold : d ∈ s.documents := Table.mem_modify.mp hd
    by_cases hr : d = r
    · subst hr
      have hchanged : (s.modifyDocument d f).document d = f (s.document d) :=
        Table.get_modify_self f hold
      exact Or.inr (Or.inl ⟨hold, rfl, hchanged ▸ hf hold⟩)
    · exact Or.inl ⟨hold, Table.get_modify_of_ne f (Ne.symm hr)⟩
  | aside s' ha => exact Or.inl ⟨ha.documents ▸ hd, congrArg (·.get d) ha.documents⟩
  | copy e he =>
    rcases document_cases hd with hold | ⟨rfl, _⟩
    · exact Or.inl hold
    · exact Or.inr (Or.inr (Or.inr ⟨e, he, rfl, rfl⟩))
  | _ => exact Or.inl ⟨hd, rfl⟩

end TimedNet.Store
