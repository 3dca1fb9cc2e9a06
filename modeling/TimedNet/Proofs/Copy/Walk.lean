import TimedNet.Proofs.Copy.Stages

/-!
# `TimedNet.Proofs.Copy.Walk` — the walk over a document makes its image

The walk claims the symbols of exactly the entities that the document owns and meets exactly the symbols that
it mentions, in the order in which they are mentioned. So when it is through, the store is the one with the
image of the document.

* `claims_ownedByBlock`, `claims_ownedByTemplate`: what is owned is what is claimed.
* `walks_emptyDocument`, `Sound.walks_fill`: the walk; `Sound.copyDocument_eq`: the store afterwards.
-/

namespace TimedNet

open Store

/-! ## Claims -/

theorem mapIdx_congr {α β : Type} {f g : Nat → α → β} {l : List α}
    (h : ∀ i a, l[i]? = some a → f i a = g i a) : l.mapIdx f = l.mapIdx g := by
  refine List.ext_getElem? fun i => ?_
  rw [List.getElem?_mapIdx, List.getElem?_mapIdx]
  cases ha : l[i]? with
  | none => rfl
  | some a => exact congrArg some (h i a ha)

theorem map_mapIdx {α β γ : Type} (f : Nat → α → β) (g : β → γ) (l : List α) :
    (l.mapIdx f).map g = l.mapIdx fun i a => g (f i a) := by
  rw [List.mapIdx_eq_zipIdx_map, List.mapIdx_eq_zipIdx_map, List.map_map]
  rfl

/-- Members that all give something. -/
theorem filterMap_mapIdx {α β γ : Type} {f : Nat → α → β} {g : β → Option γ} {k : Nat → α → γ}
    {l : List α} (h : ∀ i a, l[i]? = some a → g (f i a) = some (k i a)) :
    (l.mapIdx f).filterMap g = l.mapIdx k := by
  have hsome : (l.mapIdx f).map g = (l.mapIdx k).map some := by
    rw [map_mapIdx, map_mapIdx]
    exact mapIdx_congr h
  calc (l.mapIdx f).filterMap g
      = ((l.mapIdx f).map g).filterMap id := by rw [List.filterMap_map]; rfl
    _ = ((l.mapIdx k).map some).filterMap id := by rw [hsome]
    _ = l.mapIdx k := by rw [List.filterMap_map]; exact List.filterMap_some

namespace Store

variable (s : Store) (ρ : Relocations)

theorem claims_ownedByBlock (b : BlockId) :
    (s.ownedByBlock b).filterMap (s.claim? ρ) = (s.block b).claims (ρ.blocks b) := by
  rw [ownedByBlock, List.filterMap_append, Block.claims, List.filterMap_flatten, map_mapIdx]
  congr 1
  · refine filterMap_mapIdx fun i v hv => ?_
    rw [claim?, ownSymbol_var hv]
    rfl
  · refine congrArg List.flatten (mapIdx_congr fun i f hf => ?_)
    have hlocals : (f.locals.mapIdx fun j _ => Subject.var (.ofFunction ⟨b, i⟩ j)).filterMap (s.claim? ρ)
        = f.locals.mapIdx fun j v => (v.symbol, Subject.var (.ofFunction ⟨ρ.blocks b, i⟩ j)) := by
      refine filterMap_mapIdx fun j v hv => ?_
      rw [claim?, ownSymbol_local hf hv]
      rfl
    have hself : [Subject.fn ⟨b, i⟩].filterMap (s.claim? ρ) = [(f.symbol, .fn ⟨ρ.blocks b, i⟩)] := by
      rw [List.filterMap_cons, claim?, ownSymbol_fn hf]
      rfl
    rw [List.filterMap_append, hlocals, hself]
    rfl

theorem claims_ownedByTemplate (t : TemplateId) :
    (s.ownedByTemplate t).filterMap (s.claim? ρ) = s.templateClaims ρ t := by
  have hlocations : ((s.template t).locations.items.mapIdx fun i _ => Subject.location t i).filterMap
      (s.claim? ρ) = (s.template t).locations.items.mapIdx
        fun i l => (l.symbol, Subject.location (ρ.templates t) i) := by
    refine filterMap_mapIdx fun i l hl => ?_
    rw [claim?, ownSymbol_location hl]
    rfl
  have hbranchpoints : ((s.template t).branchpoints.items.mapIdx fun i _ =>
      Subject.branchpoint t i).filterMap (s.claim? ρ) = (s.template t).branchpoints.items.mapIdx
        fun i b => (b.symbol, Subject.branchpoint (ρ.templates t) i) := by
    refine filterMap_mapIdx fun i b hb => ?_
    rw [claim?, ownSymbol_branchpoint hb]
    rfl
  have hlines : ((s.template t).lines.items.mapIdx fun i _ => Subject.line t i).filterMap (s.claim? ρ)
      = (s.template t).lines.items.mapIdx
        fun i l => ((s.inst l.inst).symbol, Subject.line (ρ.templates t) i) := by
    refine filterMap_mapIdx fun i l hl => ?_
    rw [claim?, ownSymbol_line hl]
    rfl
  simp only [ownedByTemplate, List.filterMap_append, List.filterMap_cons, hlocations, hbranchpoints,
    hlines, claims_ownedByBlock, templateClaims, bodyClaims, List.append_assoc, List.cons_append]
  rfl

/-- What is owned by a document is what the walk claims. -/
theorem claims_eq (d : DocumentId) : s.claims ρ d
    = (s.block (s.document d).globals).claims (ρ.blocks (s.document d).globals)
      ++ (s.document d).allTemplates.flatMap (s.templateClaims ρ)
      ++ (s.document d).instances.map (fun i => ((s.inst i).symbol, Subject.inst (ρ.insts i)))
      ++ (s.document d).lscInstances.map (fun i => ((s.inst i).symbol, Subject.inst (ρ.insts i)))
      ++ (s.document d).processes.map (fun i => ((s.inst i).symbol, Subject.process (ρ.insts i))) := by
  have hlisted (l : List InstanceId) (kind : InstanceId → Subject)
      (hkind : ∀ i, s.claim? ρ (kind i) = some ((s.inst i).symbol, kind (ρ.insts i))) :
      (l.map kind).filterMap (s.claim? ρ) = l.map fun i => ((s.inst i).symbol, kind (ρ.insts i)) := by
    rw [List.filterMap_map, ← List.filterMap_eq_map]
    exact congrArg (List.filterMap · l) (funext hkind)
  simp only [claims, owned, List.filterMap_append, claims_ownedByBlock, List.filterMap_flatMap,
    claims_ownedByTemplate, hlisted _ Subject.inst fun _ => rfl, hlisted _ Subject.process fun _ => rfl]

end Store

/-! ## The document -/

/-- The walk when the document is made, which is still empty. -/
def Copying.opened (s : Store) (d : DocumentId) : Copying :=
  let ρ := s.relocations d
  { store := { s with
      lineTables := s.lineTables.push (s.lineTable (s.document d).lineTable)
      logs := s.logs.push { s.log (s.document d).log with lineTable := ρ.lineTable }
      frames := s.frames.push {}
      blocks := s.blocks.push { frame := s.frames.next }
      documents := s.documents.push
        { lineTable := ρ.lineTable, log := ρ.log, globals := s.blocks.next } } }

namespace Store

variable {s : Store} {d : DocumentId}

theorem walks_emptyDocument {known : List SymbolId} :
    Walks s (s.relocations d) { store := s } known (CopyM.emptyDocument d) (s.relocations d).document [] []
      (.opened s d) := by
  unfold CopyM.emptyDocument
  refine .look fun u hu => ?_
  rw [hu.document_eq]
  exact .congr (.bind (.make fun _ _ => rfl) (.bind (.make fun _ _ => rfl) (.make fun _ _ => rfl)))
    rfl rfl rfl rfl

variable (h : s.Sound) (hd : d ∈ s.documents)
include h hd

theorem Sound.blocks_globals : (s.relocations d).blocks (s.document d).globals = s.blocks.next :=
  Relocation.apply_of_split (l := []) (h.nodup_ownedBlocks hd) rfl

theorem Sound.frames_globalFrame : (s.relocations d).frames (s.globalFrame d) = s.frames.next :=
  Relocation.apply_of_split (l := []) (h.nodup_ownedFrames hd) rfl

/-- **The global declarations.** -/
theorem Sound.walks_globals {known : List SymbolId} :
    Walks s (s.relocations d) (.opened s d) known
      (CopyM.contents (s.document d).globals s.blocks.next) () (s.blockSymbols (s.document d).globals)
      ((s.block (s.document d).globals).claims ((s.relocations d).blocks (s.document d).globals))
      (.staged s d []) := by
  have hglobals := (h.documents d hd).globals
  have hblock : (Copying.opened s d).store.block (s.document d).globals = s.block (s.document d).globals :=
    Table.get_push_of_mem _ hglobals
  have hframe : (Copying.opened s d).store.frame (s.globalFrame d) = s.frame (s.globalFrame d) :=
    Table.get_push_of_mem _ (h.blocks _ hglobals).frame
  have hnew : ((Copying.opened s d).store.block s.blocks.next).frame = s.frames.next :=
    congrArg Block.frame (Table.get_push_next _ _)
  refine .congr (walks_contents (h.blocks_globals hd) hblock hframe) rfl rfl
    (by rw [h.blocks_globals hd]) ?_
  have hcopy : s.copiedFrame (s.relocations d) d (s.globalFrame d)
      = Frame.addNew {} ((s.relocations d).symbolList (s.frame (s.globalFrame d)).symbols) := by
    rw [copiedFrame, if_pos rfl]
    rfl
  have hplace : (s.relocations d).frames (s.block (s.document d).globals).frame = s.frames.next :=
    h.frames_globalFrame hd
  rw [hnew]
  simp [Copying.opened, Copying.staged, staged, copiedTemplates, modifyFrame, modifyBlock,
    Table.modify_push_next, Table.pushAll_singleton, hcopy, hplace, h.blocks_globals hd, Relocations.block]
  rfl

/-- **What a document has**, put into the new one. -/
theorem Sound.walks_fill {known : List SymbolId} :
    Walks s (s.relocations d) (.opened s d) known (CopyM.fill d (s.relocations d).document) ()
      (s.storedSymbols d) (s.claims (s.relocations d) d)
      { Copying.linked s d (s.document d).listed with
        store := { (Copying.linked s d (s.document d).listed).store with
          documents := s.documents.push ((s.relocations d).documentCopy (s.document d)) } } := by
  have hdocument := h.documents d hd
  have hread : (Copying.opened s d).store.document d = s.document d := Table.get_push_of_mem _ hd
  have hempty : (Copying.opened s d).store.document (s.relocations d).document
      = { lineTable := (s.relocations d).lineTable, log := (s.relocations d).log
          globals := s.blocks.next } := Table.get_push_next _ _
  have hframe : ((Copying.opened s d).store.block s.blocks.next).frame
      = (s.relocations d).frames (s.globalFrame d) := by
    rw [h.frames_globalFrame hd]
    exact congrArg Block.frame (Table.get_push_next _ _)
  have hrelinks {known} : Walks s (s.relocations d) (.staged s d (s.document d).allTemplates) known
      (((s.document d).templates.map (s.relocations d).templates
        ++ (s.document d).dynamicTemplates.map (s.relocations d).templates).forM CopyM.relink) ⟨⟩ [] []
      (.linked s d []) := by
    rw [← List.map_append]
    exact h.walks_relinks hd
  unfold CopyM.fill
  refine .look fun u hu => .look fun v hv => .look fun w hw => ?_
  rw [hu.document_eq, hread, hv.document_eq, hempty, hw.block_eq, hframe]
  refine .congr (.bind (h.walks_globals hd) (.bind (h.walks_templates hd ?_)
    (.bind (h.walks_templates hd ?_) (.bind (h.walks_byName hd ?_)
    (.bind hrelinks (.bind (h.walks_listed hd ?_ _) (.bind (h.walks_listed hd ?_ _)
    (.bind (h.walks_listed hd ?_ _) (.bind (.mapM fun _ p _ => walks_chanPriority p)
    (.bind (walks_expression _ _) (.bind (walks_expression _ _)
    (.change (fun _ _ => rfl) rfl)))))))))))) rfl ?_ ?_ ?_
  · exact List.prefix_append _ _
  · exact List.prefix_rfl
  · intro t ht
    have hsymbol : s.templateSymbol t ∈ s.templateSymbols t := by
      simp [templateSymbols, Instance.symbols, Instance.opened, templateSymbol]
    exact List.mem_append_right _ (List.mem_flatMap.mpr ⟨t, ht, hsymbol⟩)
  · exact ⟨_, List.append_assoc _ _ _ |>.symm⟩
  · exact ⟨_, rfl⟩
  · exact List.prefix_rfl
  · simp [storedSymbols, Document.allTemplates, Document.symbols]
  · rw [claims_eq]
    simp [Document.allTemplates]
  · have hdocuments : ([] ++ (s.document d).instances ++ (s.document d).lscInstances
        ++ (s.document d).processes) = (s.document d).listed := rfl
    rw [hdocuments]
    have hnext : (s.relocations d).document = s.documents.next := rfl
    simp only [Copying.linked, Copying.staged, staged, modifyDocument, hnext, Table.modify_push_next]
    rfl

/-- The walk leaves one claim for each symbol, so it does not matter which one came last. -/
theorem Sound.copiedSymbol_reverse (ρ : Relocations) (r : SymbolId) :
    s.copiedSymbol (s.claims ρ d).reverse r = s.copiedSymbol (s.claims ρ d) r := by
  have hget : Ordered.get? (s.claims ρ d).reverse r = Ordered.get? (s.claims ρ d) r := by
    refine Ordered.get?_eq_of_mem_iff (fun _ => List.mem_reverse) (fun q o o' ho ho' => ?_) r
    exact h.claim_unique hd (List.mem_reverse.mp ho) (List.mem_reverse.mp ho')
  rw [copiedSymbol, copiedSymbol, hget]

/-- The copies of the symbols in the end. -/
theorem Sound.map_copiedSymbol :
    (Met.after {} (s.storedSymbols d) (s.claims (s.relocations d) d)).symbols.map
        (s.copiedSymbol (Met.after {} (s.storedSymbols d) (s.claims (s.relocations d) d)).claims)
      = (s.mentioned d).map (s.copiedSymbol (s.claims (s.relocations d) d)) := by
  rw [mentioned, eraseDups_eq_union]
  refine List.map_congr_left fun r _ => ?_
  rw [← h.copiedSymbol_reverse hd]
  exact congrArg (s.copiedSymbol · r) (List.append_nil _)

/-- **A copied document is the image of the original.** -/
theorem Sound.copyDocument_eq : s.copyDocument d = s.relocated d := by
  have hwalks : Walks s (s.relocations d) { store := s } [] (CopyM.document d) _ (s.storedSymbols d)
      (s.claims (s.relocations d) d) _ :=
    .congr (.bind walks_emptyDocument (.bind (h.walks_fill hd) (.pure _))) rfl
      (List.append_nil _) (List.append_nil _) rfl
  have hall : Ordered.union [] (s.storedSymbols d) = s.mentioned d :=
    (eraseDups_eq_union (s.storedSymbols d)).symm
  have hstart : Met.Fits s (s.relocations d) {} :=
    { base := rfl
      distinct := (firstOccurrences_eraseDups (s.storedSymbols d)).nodup
      hasAll := h.hasAll_mentioned hd
      begins := List.nil_prefix
      known := fun _ h => absurd h List.not_mem_nil }
  have hend : (Met.after {} (s.storedSymbols d) (s.claims (s.relocations d) d)).Fits s (s.relocations d) :=
    { hstart with
      begins := ⟨[], (List.append_nil _).trans hall⟩
      known := by
        intro claim hclaim
        have hclaim : claim ∈ s.claims (s.relocations d) d := by simpa [Met.after] using hclaim
        rcases hwalks.claims claim hclaim with hnone | hmem
        · exact absurd hnone List.not_mem_nil
        · exact Met.Fits.subset_symbols_after _ _ hmem }
  have hbegin : ({ store := s } : Copying).met s (s.relocations d) {} = { store := s } := by
    simp [Copying.met]
  have hrun := hwalks.run {} hstart (List.nil_subset _) hend
  rw [hbegin] at hrun
  have hcopy : s.copyDocument d
      = ((CopyM.document d { store := s }).2.store, (CopyM.document d { store := s }).1) := rfl
  have hinsts : (s.document d).allTemplates.flatMap s.templateInsts ++ (s.document d).listed
      = s.ownedInsts d := by
    simp [ownedInsts, Document.listed]
  rw [hcopy, hrun]
  simp only [Copying.met, h.map_copiedSymbol hd, Copying.linked, Copying.staged, staged, hinsts]
  rfl

end Store

end TimedNet
