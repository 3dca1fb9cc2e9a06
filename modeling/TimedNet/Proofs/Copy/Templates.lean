import TimedNet.Proofs.Copy.Parts

/-!
# `TimedNet.Proofs.Copy.Templates` — the copy of a template

The walk makes a template anew from the copied symbol and parameters and then fills it. Afterwards the store
has one more template, with a block, two frames, and an instance of its own and one for each line.

* `Store.withTemplate`: a store with one more template and its parts.
* `walks_newTemplate`, `walks_lines`: the template while it is empty; its lines.
* `Copying.Ready`: the places to which the parts of a template go are the next ones.
* `walks_template`: the whole template.
-/

namespace TimedNet

open Store

namespace Store

/-- Everything that was there is there as it was. -/
structure Extends (s u : Store) : Prop where
  frames : s.frames.Keeps Eq u.frames
  blocks : s.blocks.Keeps Eq u.blocks
  insts : s.insts.Keeps Eq u.insts
  templates : s.templates.Keeps Eq u.templates

section Extends

variable {s u : Store} (h : s.Extends u)
include h

theorem Extends.frame_eq {r : FrameId} (hr : r ∈ s.frames) : u.frame r = s.frame r :=
  ((h.frames r hr).2).symm

theorem Extends.block_eq {r : BlockId} (hr : r ∈ s.blocks) : u.block r = s.block r :=
  ((h.blocks r hr).2).symm

theorem Extends.inst_eq {r : InstanceId} (hr : r ∈ s.insts) : u.inst r = s.inst r :=
  ((h.insts r hr).2).symm

theorem Extends.template_eq {r : TemplateId} (hr : r ∈ s.templates) : u.template r = s.template r :=
  ((h.templates r hr).2).symm

end Extends

/-- The store with one more template: its own instance and those of its lines, the frames of its block
    and of its set, the block, and the template itself. -/
def withTemplate (u : Store) (own : Instance) (lines : List Instance) (scope set : Frame) (b : Block)
    (x : Template) : Store :=
  { u with
    insts := (u.insts.push own).pushAll lines
    frames := (u.frames.push scope).push set
    blocks := u.blocks.push b
    templates := u.templates.push x
    nextArena := u.nextArena + 3 }

section WithTemplate

variable (u : Store) (own : Instance) (lines : List Instance) (scope set : Frame) (b : Block)
  (x : Template)

theorem template_withTemplate :
    (u.withTemplate own lines scope set b x).template u.templates.next = x :=
  Table.get_push_next _ _

theorem block_withTemplate : (u.withTemplate own lines scope set b x).block u.blocks.next = b :=
  Table.get_push_next _ _

theorem modifyInst_withTemplate (f : Instance → Instance) :
    (u.withTemplate own [] scope set b x).modifyInst u.insts.next f
      = u.withTemplate (f own) [] scope set b x := by
  simp only [withTemplate, modifyInst, Table.pushAll_nil, Table.modify_push_next]

theorem modifyScope_withTemplate (f : Frame → Frame) :
    (u.withTemplate own lines scope set b x).modifyFrame u.frames.next f
      = u.withTemplate own lines (f scope) set b x := by
  simp only [withTemplate, modifyFrame,
    Table.modify_push_of_mem set f (Table.next_mem_push u.frames scope), Table.modify_push_next]

theorem modifySet_withTemplate (f : Frame → Frame) :
    (u.withTemplate own lines scope set b x).modifyFrame ⟨u.frames.size + 1⟩ f
      = u.withTemplate own lines scope (f set) b x := by
  have hnext : (u.frames.push scope).next = ⟨u.frames.size + 1⟩ :=
    congrArg Ref.mk (Table.size_push u.frames scope)
  simp only [withTemplate, modifyFrame, ← hnext, Table.modify_push_next]

theorem modifyBlock_withTemplate (f : Block → Block) :
    (u.withTemplate own lines scope set b x).modifyBlock u.blocks.next f
      = u.withTemplate own lines scope set (f b) x := by
  simp only [withTemplate, modifyBlock, Table.modify_push_next]

theorem modifyTemplate_withTemplate (f : Template → Template) :
    (u.withTemplate own lines scope set b x).modifyTemplate u.templates.next f
      = u.withTemplate own lines scope set b (f x) := by
  simp only [withTemplate, modifyTemplate, Table.modify_push_next]

theorem Extends.withTemplate {s u : Store} (h : s.Extends u) :
    s.Extends (u.withTemplate own lines scope set b x) where
  frames := (h.frames.trans (Table.keeps_push (fun _ => rfl) _ _) Eq.trans).trans
    (Table.keeps_push (fun _ => rfl) _ _) Eq.trans
  blocks := h.blocks.trans (Table.keeps_push (fun _ => rfl) _ _) Eq.trans
  insts := (h.insts.trans (Table.keeps_push (fun _ => rfl) _ _) Eq.trans).trans
    (Table.keeps_pushAll (fun _ => rfl) _ _) Eq.trans
  templates := h.templates.trans (Table.keeps_push (fun _ => rfl) _ _) Eq.trans

end WithTemplate

end Store

variable {s : Store} {ρ : Relocations} {c : Copying} {known : List SymbolId}

/-! ## New templates -/

/-- A template right after it was made. -/
def Template.made (u : Store) (log : LogId) (style : Style) : Template :=
  { inst := u.insts.next, block := u.blocks.next, log, templateSet := ⟨u.frames.size + 1⟩, style
    locations := { id := u.nextArena, label := Template.locationLabel }
    branchpoints := { id := u.nextArena + 1, label := Template.branchpointLabel }
    lines := { id := u.nextArena + 2, label := Template.lineLabel } }

/-- An instance with all parameters open. -/
def Instance.made (symbol : SymbolId) (t : TemplateId) (parameters : List SymbolId) : Instance :=
  { symbol, template := t, binding := .ofParameters parameters }

theorem walks_newTemplate {r : SymbolId} (hr : r ∈ known) (parameters : List SymbolId)
    (globals : Option FrameId) (log : LogId) (style : Style) :
    Walks s ρ c known
      (CopyM.make fun u => u.newTemplate (ρ.symbols r) parameters globals log style)
      c.store.templates.next [] [(r, .template c.store.templates.next)]
      { c with
        store := c.store.withTemplate (.made (ρ.symbols r) c.store.templates.next parameters) []
          ⟨globals, parameters⟩ ⟨none, []⟩ (.mk c.store.frames.next [] [] [] [] [])
          (.made c.store log style) } where
  claims := fun claim h => Or.inl (List.mem_singleton.mp h ▸ hr)
  run := by
    intro m hm hknown _
    have hrebind := hm.rebind (hknown hr) (.template c.store.templates.next)
    have hnext : (c.store.frames.push ⟨globals, parameters⟩).next = ⟨c.store.frames.size + 1⟩ :=
      congrArg Ref.mk (Table.size_push _ _)
    show (_, _) = _
    simp only [newTemplate, newBlock, newFrame, Copying.met, hrebind, hnext, withTemplate,
      Table.pushAll_nil]
    rfl

/-! ## Lines -/

theorem walks_line {l : InstanceLine} (t : TemplateId) (index : Nat)
    (hinst : c.store.inst l.inst = s.inst l.inst) (hnext : c.store.insts.next = ρ.insts l.inst) :
    Walks s ρ c known (CopyM.line t index l) (ρ.line t l) (s.lineSymbols l)
      [((s.inst l.inst).symbol, .line t index)]
      (c.withInsts [ρ.instFor c.templates (s.inst l.inst)]) := by
  unfold CopyM.line
  refine .look fun u hu => ?_
  rw [hu.inst_eq, hinst, Relocations.line, ← hnext]
  refine .congr (.bind (walks_symbol _) (.bind (walks_inst _) (.bind (.make fun _ _ => rfl)
    (.bind (walks_rebind (r := (s.inst l.inst).symbol) ?_ _) (.pure _))))) rfl ?_ rfl rfl
  · simp
  · simp [lineSymbols]

/-- **The lines of a template**, one after the other. -/
theorem walks_lines {lines : List InstanceLine} (t : TemplateId)
    (hinst : ∀ l ∈ lines, l.inst ∈ c.store.insts ∧ c.store.inst l.inst = s.inst l.inst)
    (hplace : ∀ i l, lines[i]? = some l → ρ.insts l.inst = ⟨c.store.insts.size + i⟩) :
    Walks s ρ c known (lines.zipIdx.mapM fun place => CopyM.line t place.2 place.1) (lines.map (ρ.line t))
      (lines.flatMap s.lineSymbols)
      (lines.mapIdx fun i l => ((s.inst l.inst).symbol, Subject.line t i))
      (c.withInsts (lines.map fun l => ρ.instFor c.templates (s.inst l.inst))) := by
  let copies (done : List (InstanceLine × Nat)) : List Instance :=
    done.map fun p => ρ.instFor c.templates (s.inst p.1.inst)
  have hturn : ∀ known done p todo, lines.zipIdx = done ++ p :: todo →
      Walks s ρ (c.withInsts (copies done)) known (CopyM.line t p.2 p.1) (ρ.line t p.1)
        (s.lineSymbols p.1) [((s.inst p.1.inst).symbol, .line t p.2)]
        (c.withInsts (copies (done ++ [p]))) := by
    intro known done p todo hl
    have hat : lines.zipIdx[done.length]? = some p := by
      rw [hl]
      simp
    rw [List.getElem?_zipIdx] at hat
    obtain ⟨l, hline, rfl⟩ := Option.map_eq_some_iff.mp hat
    have hold := hinst l (List.mem_of_getElem? hline)
    have hread : (c.withInsts (copies done)).store.inst l.inst = s.inst l.inst :=
      (Table.get_pushAll_of_mem _ hold.1).trans hold.2
    have hnext : (c.withInsts (copies done)).store.insts.next = ρ.insts l.inst := by
      rw [hplace _ l hline]
      exact congrArg Ref.mk (by simp [Copying.withInsts, copies])
    refine .congr (walks_line t _ hread hnext) rfl rfl rfl ?_
    simp [Copying.withInsts, copies, Table.pushAll_pushAll]
  refine .congr (.loop (fun done => c.withInsts (copies done)) hturn) ?_ ?_ ?_ ?_
  · exact map_zipIdx_fst (ρ.line t) lines
  · exact flatMap_zipIdx_fst s.lineSymbols lines
  · rw [List.mapIdx_eq_zipIdx_map, List.map_eq_flatMap]
  · exact congrArg c.withInsts (map_zipIdx_fst (fun l => ρ.instFor c.templates (s.inst l.inst)) lines)

/-! ## Templates -/

/-- The claims of what is in a template, its block apart. -/
def Store.bodyClaims (s : Store) (ρ : Relocations) (t : TemplateId) : List (SymbolId × Subject) :=
  (s.template t).locations.items.mapIdx (fun i l => (l.symbol, Subject.location (ρ.templates t) i))
    ++ (s.template t).branchpoints.items.mapIdx
      (fun i b => (b.symbol, Subject.branchpoint (ρ.templates t) i))
    ++ (s.template t).lines.items.mapIdx
      (fun i l => ((s.inst l.inst).symbol, Subject.line (ρ.templates t) i))

/-- The claims of a template: itself, and what is declared in it. -/
def Store.templateClaims (s : Store) (ρ : Relocations) (t : TemplateId) : List (SymbolId × Subject) :=
  (s.templateSymbol t, .template (ρ.templates t))
    :: (s.block (s.template t).block).claims (ρ.blocks (s.template t).block) ++ s.bodyClaims ρ t

/-- The walk is about to copy the template `t` as the one at position `i`: nothing that was there has
    changed, and the places for its parts are the next ones. -/
structure Copying.Ready (s : Store) (ρ : Relocations) (c : Copying) (i : Nat) (t : TemplateId) :
    Prop where
  old : s.Extends c.store
  template : c.store.templates.next = ρ.templates t
  block : c.store.blocks.next = ρ.blocks (s.template t).block
  scope : c.store.frames.next = ρ.frames (s.localFrame t)
  set : ⟨c.store.frames.size + 1⟩ = ρ.frames (s.template t).templateSet
  own : c.store.insts.next = ρ.insts (s.template t).inst
  lines : ∀ j l, (s.template t).lines.items[j]? = some l →
    ρ.insts l.inst = ⟨c.store.insts.size + 1 + j⟩
  arenas : c.store.nextArena = ρ.firstArena + 3 * i
  fresh : t ∉ c.templates.map Prod.fst

/-- The walk when the template is copied. -/
def Copying.withTemplate (c : Copying) (s : Store) (ρ : Relocations) (globals : FrameId) (i : Nat)
    (t : TemplateId) : Copying :=
  let own := (s.inst (s.template t).inst).opened t
  let templates := c.templates ++ [(t, ρ.templates t)]
  let scope : Frame := ⟨some globals, ρ.symbolList own.binding.parameters⟩
  { c with
    store := c.store.withTemplate (ρ.inst own)
      ((s.template t).lines.items.map fun l => ρ.instFor templates (s.inst l.inst))
      (scope.addNew (ρ.symbolList (s.frame (s.localFrame t)).symbols))
      (ρ.looseFrame (s.frame (s.template t).templateSet))
      (ρ.block (s.template t).block (s.block (s.template t).block))
      (ρ.template i t (s.template t))
    templates }

/-- The copy of an instance in which all parameters are open. -/
theorem Relocations.inst_opened (ρ : Relocations) (i : Instance) (t : TemplateId) :
    ρ.inst (i.opened t)
      = { symbol := ρ.symbols i.symbol, template := ρ.templates t
          binding := { Binding.ofParameters (ρ.symbolList i.binding.parameters) with
            restricted := ρ.symbolList i.binding.restricted } } := by
  simp [inst, Instance.opened, binding, Binding.ofParameters, symbolList]

theorem walks_emptyTemplate (h : s.Sound) {t : TemplateId} (ht : t ∈ s.templates) {i : Nat}
    (hready : c.Ready s ρ i t) (globals : FrameId) (log : LogId) :
    Walks s ρ c known (CopyM.emptyTemplate globals log t) (ρ.templates t)
      ((s.inst (s.template t).inst).opened t).symbols [(s.templateSymbol t, .template (ρ.templates t))]
      { c with
        store := c.store.withTemplate (ρ.inst ((s.inst (s.template t).inst).opened t)) []
          ⟨some globals, ρ.symbolList (s.inst (s.template t).inst).binding.parameters⟩ ⟨none, []⟩
          (.mk c.store.frames.next [] [] [] [] []) (.made c.store log (s.template t).style)
        templates := c.templates ++ [(t, ρ.templates t)] } := by
  have htemplate := h.templates t ht
  unfold CopyM.emptyTemplate
  refine .look fun u hu => .look fun v hv => ?_
  rw [hu.template_eq, hready.old.template_eq ht, hv.inst_eq, hready.old.inst_eq htemplate.inst,
    ← hready.template]
  -- The open instance that the new template has is given the restricted symbols.
  have hrestrict (own : Instance) (scope : Frame) (restricted : List SymbolId) :
      let made := c.store.withTemplate own [] scope ⟨none, []⟩ (.mk c.store.frames.next [] [] [] [] [])
        (.made c.store log (s.template t).style)
      made.modifyInst (made.template c.store.templates.next).inst
          (fun i => { i with binding := { i.binding with restricted } })
        = c.store.withTemplate { own with binding := { own.binding with restricted } } [] scope
          ⟨none, []⟩ (.mk c.store.frames.next [] [] [] [] []) (.made c.store log (s.template t).style) := by
    intro made
    rw [show (made.template _).inst = c.store.insts.next by rw [template_withTemplate]; rfl]
    exact modifyInst_withTemplate ..
  refine .congr (.bind (walks_symbol _) (.bind (walks_symbolList _) (.bind
    (walks_newTemplate (r := (s.inst (s.template t).inst).symbol) ?_ _ _ _ _) (.bind (.enter _ _)
      (.bind (walks_symbolList _) (.bind (.change (fun _ _ => rfl) (hrestrict _ _ _))
        (.pure _))))))) rfl ?_ rfl ?_
  · simp
  · simp [Instance.symbols, Instance.opened, Binding.ofParameters]
  · rw [Ordered.put_of_not_mem hready.fresh, ρ.inst_opened, ← hready.template]
    rfl

/-- What is in a template, its block apart. -/
theorem walks_body (h : s.Sound) {t : TemplateId} (ht : t ∈ s.templates) {i : Nat} {u : Store}
    {own : Instance} {scope : Frame} {b : Block}
    (hold : s.Extends u) (harenas : u.nextArena = ρ.firstArena + 3 * i)
    (hlines : ∀ j l, (s.template t).lines.items[j]? = some l → ρ.insts l.inst = ⟨u.insts.size + 1 + j⟩)
    (hset : ⟨u.frames.size + 1⟩ = ρ.frames (s.template t).templateSet)
    (hinst : u.insts.next = ρ.insts (s.template t).inst)
    (hblock : u.blocks.next = ρ.blocks (s.template t).block)
    (hnext : u.templates.next = ρ.templates t)
    (hc : c.store = u.withTemplate own [] scope ⟨none, []⟩ b (.made u ρ.log (s.template t).style)) :
    Walks s ρ c known (CopyM.body t (ρ.templates t)) ()
      (s.bodySymbols t) (s.bodyClaims ρ t)
      { c with
        store := u.withTemplate own
          ((s.template t).lines.items.map fun l => ρ.instFor c.templates (s.inst l.inst)) scope
          (ρ.looseFrame (s.frame (s.template t).templateSet)) b (ρ.template i t (s.template t)) } := by
  have htemplate := h.templates t ht
  obtain ⟨store, symbols, templates⟩ := c
  obtain rfl : store = _ := hc
  have hread (set : Frame) : s.Extends (u.withTemplate own [] scope set b
      (.made u ρ.log (s.template t).style)) := hold.withTemplate ..
  have hmade (set : Frame) : (u.withTemplate own [] scope set b
      (.made u ρ.log (s.template t).style)).template (ρ.templates t)
        = .made u ρ.log (s.template t).style := by
    rw [← hnext]
    exact template_withTemplate ..
  unfold CopyM.body
  refine .look fun v hv => .look fun w hw => .look fun x hx => ?_
  rw [hv.template_eq, (hread _).template_eq ht, hw.frame_eq, (hread _).frame_eq htemplate.templateSet,
    hx.template_eq, hmade]
  refine .congr (.bind (.option (fun r => walks_symbol r) _) (.bind (walks_looseFrame _)
    (.bind (.change (fun _ _ => rfl) (modifySet_withTemplate ..))
    (.bind (.zipIdx fun _ i l _ => walks_location _ i l)
    (.bind (.zipIdx fun _ i b _ => walks_branchpoint _ i b)
    (.bind (.zipIdx fun _ i e he => walks_edge ?_ ?_ _ i (htemplate.edges e he).1
      (htemplate.edges e he).2)
    (.bind (walks_terms _ _) (.bind (walks_lines _ ?_ ?_)
    (.bind (.zipIdx fun _ i m hm => walks_message ?_ _ i (htemplate.messages m hm).1
      (htemplate.messages m hm).2)
    (.bind (.zipIdx fun _ i x hx => walks_condition ?_ _ i (htemplate.conditions x hx))
    (.bind (.zipIdx fun _ i x hx => walks_update ?_ _ i (htemplate.updates x hx))
    (.change (fun _ _ => rfl) ?_)))))))))))) rfl ?_ ?_ rfl
  · exact List.length_mapIdx
  · exact List.length_mapIdx
  · intro l hl
    obtain ⟨j, hj⟩ := List.mem_iff_getElem?.mp hl
    have hinst := (htemplate.lines j l hj).1
    exact ⟨((hread _).insts _ hinst).1, (hread _).inst_eq hinst⟩
  · intro j l hl
    rw [hlines j l hl]
    simp [withTemplate]
  · exact List.length_map _
  · exact List.length_map _
  · exact List.length_map _
  · rw [← hnext]
    refine (modifyTemplate_withTemplate u own _ scope _ b _ _).trans ?_
    congr 1
    simp only [Relocations.template, Template.made, hinst, hblock, hset, hnext, harenas,
      Relocations.arenas, mapIdx_fst]
  · simp [bodySymbols, List.map_eq_flatMap]
  · simp [bodyClaims]

/-- The contents of the block of a template. -/
theorem walks_localContents (h : s.Sound) {t : TemplateId} (ht : t ∈ s.templates) {i : Nat}
    (hready : c.Ready s ρ i t) (own : Instance) (scope : Frame) (x : Template)
    (templates : List (TemplateId × TemplateId)) :
    Walks s ρ
      { c with
        store := c.store.withTemplate own [] scope ⟨none, []⟩ (.mk c.store.frames.next [] [] [] [] []) x
        templates }
      known (CopyM.contents (s.template t).block c.store.blocks.next) ()
      (s.blockSymbols (s.template t).block)
      ((s.block (s.template t).block).claims (ρ.blocks (s.template t).block))
      { c with
        store := c.store.withTemplate own []
          (scope.addNew (ρ.symbolList (s.frame (s.localFrame t)).symbols)) ⟨none, []⟩
          (ρ.block (s.template t).block (s.block (s.template t).block)) x
        templates } := by
  have hblock := (h.templates t ht).block
  have hold : s.Extends (c.store.withTemplate own [] scope ⟨none, []⟩
    (.mk c.store.frames.next [] [] [] [] []) x) := hready.old.withTemplate ..
  refine .congr (walks_contents hready.block.symm (hold.block_eq hblock)
    (hold.frame_eq (h.blocks _ hblock).frame)) rfl rfl (by rw [hready.block]) ?_
  rw [block_withTemplate, modifyScope_withTemplate, modifyBlock_withTemplate, hready.scope]
  rfl

/-- **A template.** -/
theorem walks_template (h : s.Sound) {t : TemplateId} (ht : t ∈ s.templates) {i : Nat}
    (hready : c.Ready s ρ i t) (globals : FrameId) :
    Walks s ρ c known (CopyM.template globals ρ.log t) (ρ.templates t) (s.templateSymbols t)
      (s.templateClaims ρ t) (c.withTemplate s ρ globals i t) := by
  -- What is left to do once the template is made.
  have hrest {known} : Walks s ρ
      { c with
        store := c.store.withTemplate (ρ.inst ((s.inst (s.template t).inst).opened t)) []
          ⟨some globals, ρ.symbolList (s.inst (s.template t).inst).binding.parameters⟩ ⟨none, []⟩
          (.mk c.store.frames.next [] [] [] [] []) (.made c.store ρ.log (s.template t).style)
        templates := c.templates ++ [(t, ρ.templates t)] }
      known
      (do
        CopyM.contents ((← CopyM.store).template t).block ((← CopyM.store).template (ρ.templates t)).block
        CopyM.body t (ρ.templates t)
        return ρ.templates t)
      (ρ.templates t) (s.blockSymbols (s.template t).block ++ s.bodySymbols t)
      ((s.block (s.template t).block).claims (ρ.blocks (s.template t).block) ++ s.bodyClaims ρ t)
      (c.withTemplate s ρ globals i t) := by
    refine .look fun u hu => .look fun v hv => ?_
    rw [hu.template_eq, (hready.old.withTemplate ..).template_eq ht, hv.template_eq, ← hready.template,
      template_withTemplate, hready.template]
    refine .congr (.bind (walks_localContents h ht hready _ _ _ _) (.bind (walks_body h ht hready.old
      hready.arenas hready.lines hready.set hready.own hready.block hready.template rfl) (.pure _)))
      rfl ?_ ?_ rfl
    · simp
    · simp
  refine .congr (.bind (walks_emptyTemplate h ht hready globals ρ.log) hrest) rfl ?_ ?_ rfl
  · simp [templateSymbols]
  · rfl

end TimedNet
