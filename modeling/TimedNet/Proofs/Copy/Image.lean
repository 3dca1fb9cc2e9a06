import Mathlib.Data.List.Nodup
import TimedNet.Proofs.Copy.Picture
import TimedNet.Proofs.Run.Frames
import TimedNet.Proofs.Separation.Foreign

/-!
# `TimedNet.Proofs.Copy.Image` — the picture of a copy

The picture of the copy of a part is the picture of the part with its symbols renamed. For the parts that
hold symbols only this is so wherever they stand. A handle leads to the copy of what it led to because
the handles of a sound template lead into its own arenas; an instance shows the copy of its template
because the template is one of the document; a frame is copied as it is when it holds nothing twice.

* `Relocations.picture_var`, `Relocations.picture_function`, and so on.
* `Tidy.symbols_copiedGlobalFrame`, `Tidy.symbols_copiedLocalFrame`: the frames.
* `endpointPicture_relocated`, `anchorPicture_relocated`: where handles lead.
* `blockPicture_relocated`, `instPicture_relocated`, `Sound.templatePicture_relocated`.
* `SelfContained.picture_relocated`: the whole document.
-/

namespace TimedNet

/-- Members changed place by place show what the unchanged ones show, renamed. -/
theorem map_mapIdx_eq {α β γ δ : Type} {l : List α} {f : Nat → α → β} {g : β → δ} {h : α → γ}
    {k : γ → δ} (hfg : ∀ i, ∀ a ∈ l, g (f i a) = k (h a)) : (l.mapIdx f).map g = (l.map h).map k := by
  refine List.ext_getElem? fun i => ?_
  rw [List.getElem?_map, List.getElem?_mapIdx, List.getElem?_map, List.getElem?_map]
  cases hi : l[i]? with
  | none => rfl
  | some a => exact congrArg some (hfg i a (List.mem_of_getElem? hi))

theorem map_map_eq {α β γ δ : Type} {l : List α} {f : α → β} {g : β → δ} {h : α → γ} {k : γ → δ}
    (hfg : ∀ a ∈ l, g (f a) = k (h a)) : (l.map f).map g = (l.map h).map k := by
  rw [List.map_map, List.map_map]
  exact List.map_congr_left hfg

/-! ## Parts that hold nothing but symbols -/

namespace Relocations

variable (ρ : Relocations)

theorem term_expression (e : Expression) (slot : Slot) :
    (ρ.expression e slot).term = e.term.map ρ.symbols :=
  Expression.term_renamed e ρ.symbols (.madeFor slot)

theorem picture_var (owner : VariableRef) (v : Variable) :
    (ρ.var owner v).picture = v.picture.map ρ.symbols := by
  rw [Variable.picture, var, term_expression]
  rfl

theorem picture_function (owner : FunctionRef) (f : Function) :
    (ρ.function owner f).picture = f.picture.map ρ.symbols := by
  have hlocals : (f.locals.mapIdx fun i v => ρ.var (.ofFunction owner i) v).map Variable.picture
      = (f.locals.map Variable.picture).map (·.map ρ.symbols) :=
    map_mapIdx_eq fun i v _ => ρ.picture_var (.ofFunction owner i) v
  rw [Function.picture, function, hlocals]
  rfl

theorem picture_ganttMap (m : GanttMap) : (ρ.ganttMap m).picture = m.picture.map ρ.symbols := rfl

theorem picture_gantt (g : Gantt) : (ρ.gantt g).picture = g.picture.map ρ.symbols := by
  have hmapping : (g.mapping.map ρ.ganttMap).map GanttMap.picture
      = (g.mapping.map GanttMap.picture).map (·.map ρ.symbols) :=
    map_map_eq fun m _ => ρ.picture_ganttMap m
  rw [Gantt.picture, gantt, hmapping]
  rfl

theorem picture_location (t : TemplateId) (index : Nat) (l : Location) :
    (ρ.location t index l).picture = l.picture.map ρ.symbols := by
  rw [Location.picture, location, term_expression, term_expression, term_expression, term_expression]
  rfl

end Relocations

/-- An own instance in which all parameters are open. -/
theorem Instance.IsOwn.opened_eq {t : TemplateId} {i : Instance} (h : i.IsOwn t)
    (hopens : i.binding.unbound = i.binding.parameters.length) : i.opened t = i := by
  obtain ⟨symbol, template, parameters, mapping, argumentCount, unbound, restricted⟩ := i
  obtain ⟨rfl, rfl, rfl⟩ := h
  have hunbound : unbound = parameters.length := hopens
  subst hunbound
  rfl

/-! ## Handles -/

theorem toOption_map {ε α β : Type} (f : α → β) (e : Except ε α) :
    (e.map f).toOption = e.toOption.map f := by
  cases e <;> rfl

/-- Behind a handle into the arena stands what is at its position. -/
theorem Arena.toOption_get {α : Type} {a : Arena α} {h : Handle} (hid : h.arena = a.id) :
    (a.get h).toOption = a.at? h.index := by
  rw [Arena.get, if_pos hid]
  cases a.at? h.index <;> rfl

/-- A handle moved to an arena whose entries show what those of the old one show, renamed, leads to
    what shows the same, renamed. -/
theorem Arena.map_get_of_map_items {α β γ δ : Type} {a : Arena α} {b : Arena β} {g : β → δ} {f : α → γ}
    {k : γ → δ} (hitems : b.items.map g = (a.items.map f).map k) {h : Handle} (hid : h.arena = a.id) :
    (b.get ⟨b.id, h.index⟩).toOption.map g = ((a.get h).toOption.map f).map k := by
  rw [Arena.toOption_get hid, Arena.toOption_get rfl]
  -- Nothing stands at a negative position, in either arena.
  cases hindex : h.index with
  | negSucc n => rfl
  | ofNat n =>
    show b.items[n]?.map g = (a.items[n]?.map f).map k
    rw [← List.getElem?_map, hitems, List.getElem?_map, List.getElem?_map]

namespace Store

variable {s : Store} {d : DocumentId}

/-! ## Frames -/

/-- The copies of distinct symbols of a document are distinct. -/
theorem nodup_map_symbols {rs : List SymbolId} (hrs : ∀ r ∈ rs, r ∈ s.mentioned d)
    (hnodup : rs.Nodup) : (rs.map (s.relocations d).symbols).Nodup :=
  hnodup.map_on fun _ hp _ hq heq => Relocation.apply_injective_of_mem (hrs _ hp) (hrs _ hq) heq

/-- **The copy of a global frame that holds every symbol once holds the copies, in their order.** -/
theorem Tidy.symbols_copiedGlobalFrame (htidy : s.Tidy) (hd : d ∈ s.documents) :
    ((s.relocated d).1.frame ((s.relocations d).frames (s.globalFrame d))).symbols
      = (s.frame (s.globalFrame d)).symbols.map (s.relocations d).symbols := by
  obtain ⟨rest, hsymbols, hnodup, -⟩ := htidy.globals d hd
  rw [List.nil_append] at hsymbols
  have hmem : ∀ r ∈ (s.frame (s.globalFrame d)).symbols, r ∈ s.mentioned d := fun r hr =>
    mem_mentioned_of_frame (frame_mem_ownedFrames (globals_mem_ownedBlocks s d)) hr
  rw [relocated_globalFrame]
  exact Ordered.union_of_nodup (nodup_map_symbols hmem (hsymbols ▸ hnodup))
    fun _ _ => List.not_mem_nil

/-- **The copy of a local frame that holds the parameters and then every other symbol once holds the
    copies, in their order.** -/
theorem Tidy.symbols_copiedLocalFrame (htidy : s.Tidy) (h : s.Sound) (hd : d ∈ s.documents)
    {t : TemplateId} (ht : t ∈ (s.document d).allTemplates) :
    ((s.relocated d).1.frame ((s.relocations d).frames (s.localFrame t))).symbols
      = (s.frame (s.localFrame t)).symbols.map (s.relocations d).symbols := by
  obtain ⟨rest, hsymbols, hnodup, hnew⟩ :=
    htidy.locals t ((h.documents d hd).templates t ht).1
  have hmem : ∀ r ∈ (s.frame (s.localFrame t)).symbols, r ∈ s.mentioned d := fun r hr =>
    mem_mentioned_of_frame (frame_mem_ownedFrames (block_mem_ownedBlocks ht)) hr
  rw [hsymbols, List.forall_mem_append] at hmem
  rw [relocated_localFrame h hd ht, copiedLocalFrame]
  show Ordered.union ((s.inst (s.template t).inst).binding.parameters.map (s.relocations d).symbols)
    ((s.frame (s.localFrame t)).symbols.map (s.relocations d).symbols) = _
  rw [hsymbols, List.map_append, Ordered.union_append]
  -- The parameters are in the new frame already; what comes after them is new to it.
  rw [Ordered.union_of_subset fun _ hr => hr]
  refine Ordered.union_of_nodup (nodup_map_symbols hmem.2 hnodup) fun q hq hparameter => ?_
  obtain ⟨r, hr, rfl⟩ := List.mem_map.mp hq
  obtain ⟨p, hp, heq⟩ := List.mem_map.mp hparameter
  exact hnew r hr (Relocation.apply_injective_of_mem (hmem.1 p hp) (hmem.2 r hr) heq ▸ hp)

/-! ## Blocks and instances -/

/-- Where all parameters of the templates are open, every instance is copied as it is: an own instance
    that is made anew is as it was. -/
theorem Tidy.instSource_eq (htidy : s.Tidy) (h : s.Sound) (hd : d ∈ s.documents) (i : InstanceId) :
    s.instSource d i = s.inst i := by
  rcases s.instSource_cases d i with heq | ⟨t, ht, rfl, heq⟩
  · exact heq
  · have htemplate := ((h.documents d hd).templates t ht).1
    rw [heq]
    exact (h.own t htemplate).opened_eq (htidy.opens t htemplate)

theorem blockPicture_relocated {b : BlockId} (hb : b ∈ s.ownedBlocks d)
    (hframe : ((s.relocated d).1.frame ((s.relocations d).frames (s.block b).frame)).symbols
      = (s.frame (s.block b).frame).symbols.map (s.relocations d).symbols) :
    (s.relocated d).1.blockPicture ((s.relocations d).blocks b)
      = (s.blockPicture b).map (s.relocations d).symbols := by
  rw [blockPicture, relocated_block hb]
  simp only [blockPicture, BlockPicture.map, BlockPicture.mk.injEq]
  exact ⟨hframe, map_mapIdx_eq fun i v _ => (s.relocations d).picture_var _ v,
    map_mapIdx_eq fun i f _ => (s.relocations d).picture_function _ f, map_map_eq fun p _ => rfl,
    map_map_eq fun g _ => (s.relocations d).picture_gantt g, map_map_eq fun io _ => rfl⟩

theorem Tidy.instPicture_relocated (htidy : s.Tidy) (h : s.Sound) (hd : d ∈ s.documents)
    {i : InstanceId} (hi : i ∈ s.ownedInsts d)
    (htemplate : (s.inst i).template ∈ (s.document d).allTemplates) :
    (s.relocated d).1.instPicture ((s.relocations d).insts i)
      = (s.instPicture i).map (s.relocations d).symbols := by
  rw [instPicture, relocated_inst hi, htidy.instSource_eq h hd]
  simp only [instPicture, InstancePicture.map, InstancePicture.mk.injEq]
  exact ⟨rfl, templateSymbol_relocated htemplate, rfl⟩

/-! ## Templates -/

section Template

variable {t : TemplateId} (ht : t ∈ (s.document d).allTemplates)
include ht

/-- A copied endpoint leads to the copy of the node that the endpoint leads to. -/
theorem endpointPicture_relocated {p : Endpoint} (hp : (s.template t).hasEndpoint p = true) :
    (s.relocated d).1.endpointPicture ((s.relocations d).templates t)
        (Relocations.endpoint ((s.relocations d).arenas ((s.document d).allTemplates.idxOf t)).1
          ((s.relocations d).arenas ((s.document d).allTemplates.idxOf t)).2.1 p)
      = (s.endpointPicture t p).map (s.relocations d).symbols := by
  have hcopy := relocated_template ht
  cases p with
  | location a =>
    have hlocations : ((s.relocated d).1.template
        ((s.relocations d).templates t)).locations.items.map (fun l => l.symbol)
          = ((s.template t).locations.items.map fun l => l.symbol).map (s.relocations d).symbols := by
      rw [hcopy]
      exact map_mapIdx_eq fun i l _ => rfl
    have hget := Arena.map_get_of_map_items hlocations (Arena.arena_of_owns hp)
    rw [hcopy] at hget
    simp only [Relocations.endpoint, endpointPicture, EndpointPicture.map, PlacePicture.map,
      endpointSymbol, toOption_map, hcopy]
    exact congrArg (fun r => EndpointPicture.location ⟨a.index, r⟩) hget
  | branchpoint a =>
    have hbranchpoints : ((s.relocated d).1.template
        ((s.relocations d).templates t)).branchpoints.items.map (fun b => b.symbol)
          = ((s.template t).branchpoints.items.map fun b => b.symbol).map
              (s.relocations d).symbols := by
      rw [hcopy]
      exact map_map_eq fun b _ => rfl
    have hget := Arena.map_get_of_map_items hbranchpoints (Arena.arena_of_owns hp)
    rw [hcopy] at hget
    simp only [Relocations.endpoint, endpointPicture, EndpointPicture.map, PlacePicture.map,
      endpointSymbol, toOption_map, hcopy]
    exact congrArg (fun r => EndpointPicture.branchpoint ⟨a.index, r⟩) hget

/-- A copied anchor leads to the copy of the line that the anchor leads to. -/
theorem anchorPicture_relocated {a : Handle} (ha : (s.template t).lines.owns a = true) :
    (s.relocated d).1.anchorPicture ((s.relocations d).templates t)
        (Relocations.handle ((s.relocations d).arenas ((s.document d).allTemplates.idxOf t)).2.2 a)
      = (s.anchorPicture t a).map (s.relocations d).symbols := by
  have hcopy := relocated_template ht
  have hlines : ((s.relocated d).1.template ((s.relocations d).templates t)).lines.items.map
      (fun l => ((s.relocated d).1.inst l.inst).symbol)
        = ((s.template t).lines.items.map fun l => (s.inst l.inst).symbol).map
            (s.relocations d).symbols := by
    rw [hcopy]
    exact map_map_eq fun l hl => symbol_inst_relocated (lineInst_mem_ownedInsts ht hl)
  have hget := Arena.map_get_of_map_items hlines (Arena.arena_of_owns ha)
  rw [hcopy] at hget
  simp only [anchorPicture, PlacePicture.map, hcopy]
  exact congrArg (PlacePicture.mk a.index) hget

variable (h : s.Sound) (hd : d ∈ s.documents)
include h hd

theorem Sound.edgePicture_relocated {e : Edge} (he : e ∈ (s.template t).edges) (index : Nat) :
    (s.relocated d).1.edgePicture ((s.relocations d).templates t)
        ((s.relocations d).edge ((s.relocations d).arenas ((s.document d).allTemplates.idxOf t)).1
          ((s.relocations d).arenas ((s.document d).allTemplates.idxOf t)).2.1
          ((s.relocations d).templates t) index e)
      = (s.edgePicture t e).map (s.relocations d).symbols := by
  have hnodes := (h.templates t ((h.documents d hd).templates t ht).1).edges e he
  simp only [edgePicture, EdgePicture.map, Relocations.edge, Relocations.term_expression,
    endpointPicture_relocated ht hnodes.1, endpointPicture_relocated ht hnodes.2]
  rfl

theorem Sound.messagePicture_relocated {m : Message} (hm : m ∈ (s.template t).messages)
    (index : Nat) :
    (s.relocated d).1.messagePicture ((s.relocations d).templates t)
        ((s.relocations d).message ((s.relocations d).arenas ((s.document d).allTemplates.idxOf t)).2.2
          ((s.relocations d).templates t) index m)
      = (s.messagePicture t m).map (s.relocations d).symbols := by
  have hlines := (h.templates t ((h.documents d hd).templates t ht).1).messages m hm
  simp only [messagePicture, EventPicture.map, Relocations.message, Relocations.term_expression,
    anchorPicture_relocated ht hlines.1, anchorPicture_relocated ht hlines.2]
  rfl

theorem Sound.conditionPicture_relocated {c : Condition} (hc : c ∈ (s.template t).conditions)
    (index : Nat) :
    (s.relocated d).1.conditionPicture ((s.relocations d).templates t)
        ((s.relocations d).condition
          ((s.relocations d).arenas ((s.document d).allTemplates.idxOf t)).2.2
          ((s.relocations d).templates t) index c)
      = (s.conditionPicture t c).map (s.relocations d).symbols := by
  have hlines := (h.templates t ((h.documents d hd).templates t ht).1).conditions c hc
  have hanchors := map_map_eq (k := PlacePicture.map (s.relocations d).symbols) fun a ha =>
    anchorPicture_relocated ht (hlines a ha)
  simp only [conditionPicture, EventPicture.map, Relocations.condition,
    Relocations.term_expression, hanchors]

theorem Sound.updatePicture_relocated {u : Update} (hu : u ∈ (s.template t).updates)
    (index : Nat) :
    (s.relocated d).1.updatePicture ((s.relocations d).templates t)
        ((s.relocations d).update ((s.relocations d).arenas ((s.document d).allTemplates.idxOf t)).2.2
          ((s.relocations d).templates t) index u)
      = (s.updatePicture t u).map (s.relocations d).symbols := by
  have hline := (h.templates t ((h.documents d hd).templates t ht).1).updates u hu
  simp only [updatePicture, EventPicture.map, Relocations.update, Relocations.term_expression,
    anchorPicture_relocated ht hline]
  rfl

variable (hself : s.SelfContained d) (htidy : s.Tidy)
include hself htidy

theorem Sound.linePicture_relocated {l : InstanceLine} (hl : l ∈ (s.template t).lines.items) :
    (s.relocated d).1.linePicture ((s.relocations d).line ((s.relocations d).templates t) l)
      = (s.linePicture l).map (s.relocations d).symbols := by
  have hinst := lineInst_mem_ownedInsts ht hl
  have howner := (h.templates t ((h.documents d hd).templates t ht).1).owners l hl
  simp only [linePicture, LinePicture.map, Relocations.line, howner,
    htidy.instPicture_relocated h hd hinst (hself.templates _ hinst), templateSymbol_relocated ht]

/-- **The picture of a copied template is that of the template, renamed.** -/
theorem Sound.templatePicture_relocated :
    (s.relocated d).1.templatePicture ((s.relocations d).templates t)
      = (s.templatePicture t).map (s.relocations d).symbols := by
  have hinst := inst_mem_ownedInsts ht
  rw [templatePicture, relocated_template ht]
  simp only [templatePicture, TemplatePicture.map, TemplatePicture.mk.injEq]
  -- One goal for each field that holds anything but values.
  refine ⟨htidy.instPicture_relocated h hd hinst (hself.templates _ hinst), ?_, rfl, ?_, ?_, ?_, ?_,
    rfl, ?_, ?_, ?_, ?_, rfl, rfl, rfl, rfl, rfl⟩
  · exact blockPicture_relocated (block_mem_ownedBlocks ht) (htidy.symbols_copiedLocalFrame h hd ht)
  · exact congrArg Frame.symbols (relocated_templateSet h hd ht)
  · exact map_mapIdx_eq fun i l _ => (s.relocations d).picture_location _ i l
  · exact map_map_eq fun b _ => rfl
  · exact map_mapIdx_eq fun i e he => h.edgePicture_relocated ht hd he i
  · exact map_map_eq fun l hl => h.linePicture_relocated ht hd hself htidy hl
  · exact map_mapIdx_eq fun i m hm => h.messagePicture_relocated ht hd hm i
  · exact map_mapIdx_eq fun i c hc => h.conditionPicture_relocated ht hd hc i
  · exact map_mapIdx_eq fun i u hu => h.updatePicture_relocated ht hd hu i

end Template

/-! ## Documents -/

/-- The dynamic templates of a copy are entered under the names under which those of the document are. -/
theorem Sound.picture_dynamicByName (h : s.Sound) (hd : d ∈ s.documents) :
    ((s.document d).dynamicByName.map fun entry =>
        (entry.1, (s.relocations d).templates entry.2)).map
          (fun entry => (entry.1, (s.relocated d).1.templateSymbol entry.2))
      = ((s.document d).dynamicByName.map fun entry => (entry.1, s.templateSymbol entry.2)).map
          (fun entry => (entry.1, (s.relocations d).symbols entry.2)) := by
  refine map_map_eq fun entry hentry => ?_
  rw [(h.documents d hd).entered] at hentry
  obtain ⟨t, ht, rfl⟩ := List.mem_map.mp hentry
  exact congrArg (Prod.mk _) (templateSymbol_relocated (List.mem_append_right _ ht))

/-- **The picture of the copy of a self-contained document is that of the document, renamed.** -/
theorem SelfContained.picture_relocated (hself : s.SelfContained d) (h : s.Sound) (htidy : s.Tidy)
    (hd : d ∈ s.documents) : (s.relocated d).1.picture (s.relocated d).2
      = (s.picture d).map (s.relocations d).symbols := by
  have hlisted : ∀ {is : List InstanceId}, (∀ i ∈ is, i ∈ (s.document d).listed) →
      (is.map (s.relocations d).insts).map (s.relocated d).1.instPicture
        = (is.map s.instPicture).map (·.map (s.relocations d).symbols) := fun his =>
    map_map_eq fun i hi =>
      have hinst := listed_mem_ownedInsts (his i hi)
      htidy.instPicture_relocated h hd hinst (hself.templates i hinst)
  have htemplates : ∀ {ts : List TemplateId}, (∀ t ∈ ts, t ∈ (s.document d).allTemplates) →
      (ts.map (s.relocations d).templates).map (s.relocated d).1.templatePicture
        = (ts.map s.templatePicture).map (·.map (s.relocations d).symbols) := fun hts =>
    map_map_eq fun t ht => h.templatePicture_relocated (hts t ht) hd hself htidy
  have herrors := congrArg Log.errors (relocated_log s d)
  have hwarnings := congrArg Log.warnings (relocated_log s d)
  rw [picture, relocated_document]
  simp only [picture, DocumentPicture.map, DocumentPicture.mk.injEq]
  -- Settings and names are copied as they are; what is left are the parts, the two updates and the log.
  refine ⟨?_, ?_, ?_, ?_, ?_, ?_, ?_, map_map_eq fun p _ => rfl, rfl, rfl, rfl, rfl, ?_, ?_, rfl, rfl, rfl,
    rfl, rfl, rfl, relocated_lineTable s d, ?_, ?_⟩
  · exact blockPicture_relocated (globals_mem_ownedBlocks s d)
      (htidy.symbols_copiedGlobalFrame hd)
  · exact htemplates fun t ht => List.mem_append_left _ ht
  · exact htemplates fun t ht => List.mem_append_right _ ht
  · exact h.picture_dynamicByName hd
  · exact hlisted fun i hi => List.mem_append_left _ (List.mem_append_left _ hi)
  · exact hlisted fun i hi => List.mem_append_left _ (List.mem_append_right _ hi)
  · exact hlisted fun i hi => List.mem_append_right _ hi
  · exact (s.relocations d).term_expression _ _
  · exact (s.relocations d).term_expression _ _
  · exact herrors
  · exact hwarnings

end Store

end TimedNet
