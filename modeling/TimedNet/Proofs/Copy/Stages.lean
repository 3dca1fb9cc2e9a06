import TimedNet.Proofs.Copy.Owned
import TimedNet.Proofs.Copy.Templates

/-!
# `TimedNet.Proofs.Copy.Stages` — how far the walk over a document has come

The walk makes the templates one after the other, then leads their lines to the copies, and then makes the
instances and processes. At each of these stages the store is known: everything made so far stands at the
place to which the relocations lead.

* `Store.led`: an instance as it is copied before the lines are gone over once more.
* `Copying.staged`: the walk when the first templates are copied; `Sound.ready_staged`,
  `Sound.withTemplate_staged`, `Sound.walks_templates`.
* `Copying.linked`: the walk when the lines are led to the copies; `Sound.leadTo_led`, `Sound.walks_relinks`,
  `Sound.walks_listed`.
* `Sound.walks_byName`: the dynamic templates under their names.
-/

namespace TimedNet

open Store

/-- An entity stands behind those that are copied before it. -/
theorem Relocation.apply_of_split {k : Kind} {ρ : Relocation k} (hdistinct : ρ.sources.Nodup)
    {l rest : List (Ref k)} {r : Ref k} (hsources : ρ.sources = l ++ r :: rest) :
    ρ r = ⟨ρ.base + l.length⟩ :=
  apply_of_getElem? hdistinct (by rw [hsources]; simp)

/-- What is new stays where it is when everything that is led elsewhere was there before. -/
theorem Relocation.apply_apply {k : Kind} {ρ : Relocation k} (hold : ∀ r ∈ ρ.sources, r.index < ρ.base)
    (r : Ref k) : ρ (ρ r) = ρ r := by
  by_cases hr : r ∈ ρ.sources
  · refine apply_of_not_mem fun hmem => ?_
    exact Nat.not_le_of_lt (hold _ hmem) (base_le_apply hr)
  · rw [apply_of_not_mem hr, apply_of_not_mem hr]

/-! ## Templates one after the other -/

namespace Store

variable (s : Store) (d : DocumentId)

/-- The copies of templates by their originals. -/
def copiedTemplates (done : List TemplateId) : List (TemplateId × TemplateId) :=
  done.map fun t => (t, (s.relocations d).templates t)

/-- An instance as it is copied while the template that it belongs to is: if it refers to a template that
    is copied later, it still refers to the original. -/
def led (i : InstanceId) : Instance :=
  let templates := (s.document d).allTemplates
  let turn := templates.findIdx fun t => decide (i ∈ s.templateInsts t)
  (s.relocations d).instFor (s.copiedTemplates d (templates.take (turn + 1))) (s.instSource d i)

/-- The store when the document is made and these templates are copied. -/
def staged (done : List TemplateId) : Store :=
  let ρ := s.relocations d
  let x := s.document d
  { s with
    frames := s.frames.pushAll ((s.globalFrame d :: done.flatMap fun t =>
      [s.localFrame t, (s.template t).templateSet]).map (s.copiedFrame ρ d))
    blocks := s.blocks.pushAll ((x.globals :: done.map fun t => (s.template t).block).map fun b =>
      ρ.block b (s.block b))
    insts := s.insts.pushAll ((done.flatMap s.templateInsts).map (s.led d))
    templates := s.templates.pushAll (done.mapIdx fun i t => ρ.template i t (s.template t))
    documents := s.documents.push
      { lineTable := ρ.lineTable, log := ρ.log, globals := ρ.blocks x.globals }
    logs := s.logs.push { s.log x.log with lineTable := ρ.lineTable }
    lineTables := s.lineTables.push (s.lineTable x.lineTable)
    nextArena := s.nextArena + 3 * done.length }

end Store

/-- The walk at that point. -/
def Copying.staged (s : Store) (d : DocumentId) (done : List TemplateId) : Copying :=
  { store := s.staged d done, templates := s.copiedTemplates d done }

namespace Store

variable {s : Store} {d : DocumentId}

theorem extends_staged (done : List TemplateId) : s.Extends (s.staged d done) where
  frames := Table.keeps_pushAll (fun _ => rfl) _ _
  blocks := Table.keeps_pushAll (fun _ => rfl) _ _
  insts := Table.keeps_pushAll (fun _ => rfl) _ _
  templates := Table.keeps_pushAll (fun _ => rfl) _ _

/-- The instances of the templates are copied first. -/
theorem templateInsts_begin (s : Store) (d : DocumentId) :
    (s.document d).allTemplates.flatMap s.templateInsts <+: s.ownedInsts d := by
  rw [ownedInsts, List.append_assoc, List.append_assoc]
  exact List.prefix_append _ _

/-- An instance of a template that has been copied. -/
theorem instFor_of_mem {done : List TemplateId} {i : Instance} (hi : i.template ∈ done) :
    (s.relocations d).instFor (s.copiedTemplates d done) i = (s.relocations d).inst i := by
  rw [Relocations.instFor, copiedTemplates, Ordered.get?_map_pair, if_pos (List.contains_iff_mem.mpr hi)]
  rfl

/-- An instance of any other template. -/
theorem instFor_of_not_mem {done : List TemplateId} {i : Instance} (hi : i.template ∉ done) :
    (s.relocations d).instFor (s.copiedTemplates d done) i
      = { (s.relocations d).inst i with template := i.template } := by
  rw [Relocations.instFor, copiedTemplates, Ordered.get?_map_pair,
    if_neg (mt List.contains_iff_mem.mp hi)]
  rfl

section Splits

variable {done todo : List TemplateId} {t : TemplateId}
  (hall : (s.document d).allTemplates = done ++ t :: todo)
include hall

theorem ownedFrames_split : s.ownedFrames d = (s.globalFrame d :: done.flatMap fun t =>
      [s.localFrame t, (s.template t).templateSet])
    ++ s.localFrame t :: (s.template t).templateSet :: todo.flatMap fun t =>
      [s.localFrame t, (s.template t).templateSet] := by
  simp [ownedFrames, hall]

theorem ownedInsts_split : s.ownedInsts d = done.flatMap s.templateInsts ++ (s.template t).inst
    :: ((s.template t).lines.items.map (fun l => l.inst) ++ todo.flatMap s.templateInsts
      ++ (s.document d).listed) := by
  simp [ownedInsts, Document.listed, templateInsts, hall]

end Splits

section Turns

variable (h : s.Sound) (hd : d ∈ s.documents) {done todo : List TemplateId} {t : TemplateId}
  (hall : (s.document d).allTemplates = done ++ t :: todo)
include h hd hall

/-- **The places for the parts of the next template are the next ones.** -/
theorem Sound.ready_staged :
    (Copying.staged s d done).Ready s (s.relocations d) done.length t where
  old := extends_staged done
  template := by
    refine .trans ?_ (Relocation.apply_of_split (h.documents d hd).distinct hall).symm
    exact congrArg Ref.mk (by simp [Copying.staged, staged, relocations])
  block := by
    have hsplit : s.ownedBlocks d = ((s.document d).globals :: done.map fun t => (s.template t).block)
        ++ (s.template t).block :: todo.map fun t => (s.template t).block := by
      simp [ownedBlocks, hall]
    refine .trans ?_ (Relocation.apply_of_split (h.nodup_ownedBlocks hd) hsplit).symm
    exact congrArg Ref.mk (by simp [Copying.staged, staged, relocations])
  scope := by
    refine .trans ?_ (Relocation.apply_of_split (h.nodup_ownedFrames hd) (ownedFrames_split hall)).symm
    exact congrArg Ref.mk (by simp [Copying.staged, staged, relocations])
  set := by
    have hsplit := (ownedFrames_split hall).trans (List.append_cons ..)
    refine .trans ?_ (Relocation.apply_of_split (h.nodup_ownedFrames hd) hsplit).symm
    exact congrArg Ref.mk (by simp [Copying.staged, staged, relocations, Nat.add_assoc])
  own := by
    refine .trans ?_ (Relocation.apply_of_split (h.nodup_ownedInsts hd) (ownedInsts_split hall)).symm
    exact congrArg Ref.mk (by simp [Copying.staged, staged, relocations])
  lines := by
    intro j l hl
    have hat : (s.ownedInsts d)[(done.flatMap s.templateInsts).length + (1 + j)]? = some l.inst := by
      rw [ownedInsts_split hall, List.getElem?_append_right (Nat.le_add_right _ _),
        Nat.add_sub_cancel_left, Nat.add_comm 1 j, List.getElem?_cons_succ, List.append_assoc,
        List.getElem?_append_left, List.getElem?_map, hl]
      · rfl
      · simpa using (List.getElem?_eq_some_iff.mp hl).1
    refine (Relocation.apply_of_getElem? (h.nodup_ownedInsts hd) hat).trans ?_
    exact congrArg Ref.mk (by simp [Copying.staged, staged, relocations, Nat.add_assoc])
  arenas := rfl
  fresh := by
    have hdistinct := (h.documents d hd).distinct
    rw [hall, List.nodup_append] at hdistinct
    intro hmem
    obtain ⟨pair, hpair, rfl⟩ := List.mem_map.mp hmem
    obtain ⟨u, hu, rfl⟩ := List.mem_map.mp hpair
    exact hdistinct.2.2 u hu u List.mem_cons_self rfl

/-- While a template is copied, its instances are copied for the templates up to it. -/
theorem Sound.led_eq {i : InstanceId} (hi : i ∈ s.templateInsts t) : s.led d i
    = (s.relocations d).instFor (s.copiedTemplates d (done ++ [t])) (s.instSource d i) := by
  have hdocument := h.documents d hd
  have hmem : ∀ u ∈ done ++ t :: todo, u ∈ s.templates := fun u hu =>
    (hdocument.templates u (hall ▸ hu)).1
  have hturn : (done ++ t :: todo).findIdx (fun u => decide (i ∈ s.templateInsts u)) = done.length := by
    have hnone : ∀ u ∈ done, ¬ decide (i ∈ s.templateInsts u) = true := by
      intro u hu hiu
      obtain rfl := h.templateInsts_apart (hmem u (List.mem_append_left _ hu))
        (hmem t (List.mem_append_right _ List.mem_cons_self)) (of_decide_eq_true hiu) hi
      have hdistinct := hdocument.distinct
      rw [hall, List.nodup_append] at hdistinct
      exact hdistinct.2.2 u hu u List.mem_cons_self rfl
    rw [List.findIdx_append, List.findIdx_eq_length.mpr (by simpa using hnone),
      if_neg (Nat.lt_irrefl _), List.findIdx_cons, decide_eq_true hi]
    exact Nat.zero_add _
  show (s.relocations d).instFor (s.copiedTemplates d ((s.document d).allTemplates.take
    ((s.document d).allTemplates.findIdx (fun u => decide (i ∈ s.templateInsts u)) + 1))) _ = _
  rw [hall, hturn, List.append_cons, List.take_left' (by simp)]

/-- The own instance of a template is led to the template from the beginning. -/
theorem Sound.led_own : s.led d (s.template t).inst
    = (s.relocations d).inst ((s.inst (s.template t).inst).opened t) := by
  have ht : t ∈ (s.document d).allTemplates := hall ▸ List.mem_append_right _ List.mem_cons_self
  rw [h.led_eq hd hall List.mem_cons_self, h.instSource_own hd ht]
  exact instFor_of_mem (List.mem_append_right done (List.mem_singleton_self t))

/-- **One turn.** -/
theorem Sound.withTemplate_staged :
    (Copying.staged s d done).withTemplate s (s.relocations d)
        ((s.relocations d).frames (s.globalFrame d)) done.length t
      = Copying.staged s d (done ++ [t]) := by
  have hdocument := h.documents d hd
  have ht : t ∈ (s.document d).allTemplates := hall ▸ List.mem_append_right _ List.mem_cons_self
  have htemplate := h.templates t (hdocument.templates t ht).1
  have hown := h.led_own hd hall
  have hlines : ((s.template t).lines.items.map fun l =>
        (s.relocations d).instFor (s.copiedTemplates d (done ++ [t])) (s.inst l.inst))
      = ((s.template t).lines.items.map fun l => l.inst).map (s.led d) := by
    rw [List.map_map]
    refine List.map_congr_left fun l hl => ?_
    obtain ⟨j, hj⟩ := List.mem_iff_getElem?.mp hl
    have hsource := h.instSource_of_stands hd (htemplate.lines j l hj).2 (by simp)
    rw [Function.comp, h.led_eq hd hall (List.mem_cons_of_mem _ (List.mem_map_of_mem hl)), hsource]
  have hscope : (⟨some ((s.relocations d).frames (s.globalFrame d)), (s.relocations d).symbolList
        ((s.inst (s.template t).inst).opened t).binding.parameters⟩ : Frame).addNew
          ((s.relocations d).symbolList (s.frame (s.localFrame t)).symbols)
      = s.copiedFrame (s.relocations d) d (s.localFrame t) :=
    (copiedFrame_localFrame h hd (s.relocations d) ht).symm
  have hset := (copiedFrame_templateSet h hd (s.relocations d) ht).symm
  have htemplates : (Copying.staged s d done).templates ++ [(t, (s.relocations d).templates t)]
      = s.copiedTemplates d (done ++ [t]) := by
    simp [Copying.staged, copiedTemplates]
  simp only [Copying.withTemplate, htemplates, ← hown, hlines]
  simp [Copying.staged, staged, withTemplate, hscope, hset, Table.push_pushAll, Table.pushAll_pushAll,
    templateInsts, Nat.mul_add, Nat.add_assoc]

end Turns

variable (h : s.Sound) (hd : d ∈ s.documents)
include h hd

/-- **The templates of a document**, the first ones among them being copied. -/
theorem Sound.walks_templates {known : List SymbolId} {before l : List TemplateId}
    (hall : before ++ l <+: (s.document d).allTemplates) :
    Walks s (s.relocations d) (.staged s d before) known
      (l.mapM (CopyM.template ((s.relocations d).frames (s.globalFrame d)) (s.relocations d).log))
      (l.map (s.relocations d).templates) (l.flatMap s.templateSymbols)
      (l.flatMap (s.templateClaims (s.relocations d))) (.staged s d (before ++ l)) := by
  obtain ⟨after, hall⟩ := hall
  have hturn : ∀ known done t todo, l = done ++ t :: todo →
      Walks s (s.relocations d) (.staged s d (before ++ done)) known
        (CopyM.template ((s.relocations d).frames (s.globalFrame d)) (s.relocations d).log t)
        ((s.relocations d).templates t) (s.templateSymbols t) (s.templateClaims (s.relocations d) t)
        (.staged s d (before ++ (done ++ [t]))) := by
    intro known done t todo hl
    have hsplit : (s.document d).allTemplates = (before ++ done) ++ t :: (todo ++ after) := by
      simp [← hall, hl]
    have ht : t ∈ (s.document d).allTemplates := hsplit ▸ List.mem_append_right _ List.mem_cons_self
    rw [← List.append_assoc, ← h.withTemplate_staged hd hsplit]
    exact walks_template h ((h.documents d hd).templates t ht).1 (h.ready_staged hd hsplit) _
  have hloop : Walks s (s.relocations d) (.staged s d (before ++ [])) known _ _ _ _ _ :=
    .loop (fun done => .staged s d (before ++ done)) hturn
  rwa [List.append_nil] at hloop

/-! ## Lines -/

/-- The instance, led to the copies of templates. -/
def leadTo (templates : List (TemplateId × TemplateId)) (i : Instance) : Instance :=
  { i with template := (Ordered.get? templates i.template).getD i.template }

/-- The instances of the lines of a template. -/
def lineInsts (s : Store) (t : TemplateId) : List InstanceId :=
  (s.template t).lines.items.map fun l => l.inst

omit h hd in
theorem foldl_modifyInst (lines : List InstanceLine) (f : Instance → Instance) (u : Store) :
    lines.foldl (fun u l => u.modifyInst l.inst f) u
      = { u with insts := (lines.map fun l => l.inst).foldl (fun t i => t.modify i f) u.insts } := by
  induction lines generalizing u with
  | nil => rfl
  | cons l lines ih =>
    rw [List.foldl_cons, ih]
    rfl

omit h hd in
theorem walks_relink {ρ : Relocations} {c : Copying} {known : List SymbolId} (t : TemplateId) :
    Walks s ρ c known (CopyM.relink t) () [] []
      { c with
        store := { c.store with
          insts := (c.store.lineInsts t).foldl (fun insts i => insts.modify i (leadTo c.templates))
            c.store.insts } } where
  claims := fun _ h => absurd h List.not_mem_nil
  run := by
    intro m _ _ _
    have hfold := foldl_modifyInst ((c.met s ρ m).store.template t).lines.items (leadTo c.templates)
      (c.met s ρ m).store
    exact congrArg (fun store => ((), { c.met s ρ m with store })) hfold

end Store

/-- The walk when the templates are copied, their lines are led to the copies, and these further instances
    are copied. -/
def Copying.linked (s : Store) (d : DocumentId) (done : List InstanceId) : Copying :=
  let copied := Copying.staged s d (s.document d).allTemplates
  { copied with
    store := { copied.store with
      insts := s.insts.pushAll (((s.document d).allTemplates.flatMap s.templateInsts ++ done).map fun i =>
        (s.relocations d).inst (s.instSource d i)) } }

namespace Store

variable {s : Store} {d : DocumentId} (h : s.Sound) (hd : d ∈ s.documents)

theorem leadTo_copiedTemplates (s : Store) (d : DocumentId) (i : Instance) :
    leadTo (s.copiedTemplates d (s.document d).allTemplates) i
      = { i with template := (s.relocations d).templates i.template } := by
  rw [leadTo, copiedTemplates, Ordered.get?_map_pair]
  by_cases hi : i.template ∈ (s.document d).allTemplates
  · rw [if_pos (List.contains_iff_mem.mpr hi)]
    rfl
  · rw [if_neg (mt List.contains_iff_mem.mp hi),
      Relocation.apply_of_not_mem (ρ := (s.relocations d).templates) hi]
    rfl

include h hd

/-- A template that was there goes where its copy stays. -/
theorem Sound.templates_templates (t : TemplateId) :
    (s.relocations d).templates ((s.relocations d).templates t) = (s.relocations d).templates t :=
  Relocation.apply_apply (fun u hu => ((h.documents d hd).templates u hu).1) t

/-- **However an instance was led, it is led to the copies in the end.** -/
theorem Sound.leadTo_led (i : InstanceId) :
    leadTo (s.copiedTemplates d (s.document d).allTemplates) (s.led d i)
      = (s.relocations d).inst (s.instSource d i) := by
  rw [leadTo_copiedTemplates, led]
  generalize (s.document d).allTemplates.take _ = early
  by_cases hi : (s.instSource d i).template ∈ early
  · rw [instFor_of_mem hi]
    exact congrArg (Instance.mk _ · _) (h.templates_templates hd _)
  · rw [instFor_of_not_mem hi]
    rfl

/-- **Going over the lines once more** leads all instances of templates to the copies. -/
theorem Sound.foldl_leadTo :
    (((s.document d).allTemplates.flatMap s.lineInsts).map (s.relocations d).insts).foldl
        (fun insts i => insts.modify i (leadTo (s.copiedTemplates d (s.document d).allTemplates)))
        (s.staged d (s.document d).allTemplates).insts
      = (Copying.linked s d []).store.insts := by
  rw [Copying.linked, List.append_nil]
  refine Relocation.foldl_modify_pushAll (ρ := (s.relocations d).insts) (t := s.insts) (g := s.led d)
    rfl (h.nodup_ownedInsts hd) (templateInsts_begin s d) ?_ ?_ ?_
  · intro i hi
    obtain ⟨t, ht, hit⟩ := List.mem_flatMap.mp hi
    exact List.mem_flatMap.mpr ⟨t, ht, List.mem_cons_of_mem _ hit⟩
  · intro i _
    refine ⟨h.leadTo_led hd i, ?_⟩
    rw [leadTo_copiedTemplates]
    exact congrArg (Instance.mk _ · _) (h.templates_templates hd _)
  · -- What is no instance of a line is the own instance of a template.
    intro i hi hnot
    obtain ⟨t, ht, hit⟩ := List.mem_flatMap.mp hi
    rcases List.mem_cons.mp hit with rfl | hit
    · obtain ⟨done, todo, hall⟩ := List.append_of_mem ht
      rw [h.led_own hd hall, h.instSource_own hd ht]
    · exact absurd (List.mem_flatMap.mpr ⟨t, ht, hit⟩) hnot

omit h hd in
/-- The lines of a copied template have the copies of the instances. -/
theorem lineInsts_staged {t : TemplateId} (ht : t ∈ (s.document d).allTemplates) :
    (s.staged d (s.document d).allTemplates).lineInsts ((s.relocations d).templates t)
      = (s.lineInsts t).map (s.relocations d).insts := by
  have hcopy : (s.staged d (s.document d).allTemplates).template ((s.relocations d).templates t)
      = (s.relocated d).1.template ((s.relocations d).templates t) := rfl
  rw [lineInsts, hcopy, relocated_template ht, lineInsts, List.map_map]
  exact List.map_map.trans rfl

theorem Sound.walks_relinks {known : List SymbolId} :
    Walks s (s.relocations d) (.staged s d (s.document d).allTemplates) known
      (((s.document d).allTemplates.map (s.relocations d).templates).forM CopyM.relink) ⟨⟩ [] []
      (.linked s d []) := by
  let copied := Copying.staged s d (s.document d).allTemplates
  let lead := leadTo (s.copiedTemplates d (s.document d).allTemplates)
  -- The instances when the lines of these copied templates have been gone over.
  let insts (done : List TemplateId) := done.foldl (fun insts t =>
    (copied.store.lineInsts t).foldl (fun insts i => insts.modify i lead) insts) copied.store.insts
  have hturn : ∀ known done t todo, (s.document d).allTemplates.map (s.relocations d).templates
      = done ++ t :: todo → Walks s (s.relocations d)
        { copied with store := { copied.store with insts := insts done } } known (CopyM.relink t) ⟨⟩ [] []
        { copied with store := { copied.store with insts := insts (done ++ [t]) } } := by
    intro known done t todo _
    refine .congr (walks_relink t) rfl rfl rfl ?_
    simp only [insts, List.foldl_append, List.foldl_cons, List.foldl_nil]
    rfl
  have hlines : ((s.document d).allTemplates.flatMap s.lineInsts).map (s.relocations d).insts
      = ((s.document d).allTemplates.map (s.relocations d).templates).flatMap copied.store.lineInsts := by
    rw [List.map_flatMap, List.flatMap_map]
    exact List.flatMap_congr fun t ht => (lineInsts_staged ht).symm
  have hinsts : insts ((s.document d).allTemplates.map (s.relocations d).templates)
      = (Copying.linked s d []).store.insts := by
    rw [← h.foldl_leadTo hd, hlines, List.foldl_flatMap]
    rfl
  refine .congr (.forM (fun done => { copied with store := { copied.store with insts := insts done } })
    hturn) rfl rfl rfl ?_
  rw [hinsts]
  rfl

/-! ## Instances and processes -/

theorem Sound.instSource_listed {i : InstanceId} (hi : i ∈ (s.document d).listed) :
    s.instSource d i = s.inst i := by
  have hdocument := h.documents d hd
  rcases List.mem_append.mp hi with hi | hi
  · exact h.instSource_of_stands hd (hdocument.instances i hi).2 (by simp)
  · exact h.instSource_of_stands hd (hdocument.processes i hi).2 (by simp)

/-- **Instances that the document lists**, the first ones among them being copied. -/
theorem Sound.walks_listed {known : List SymbolId} {before l : List InstanceId}
    (hlisted : before ++ l <+: (s.document d).listed) (subject : InstanceId → Subject) :
    Walks s (s.relocations d) (.linked s d before) known (l.mapM (CopyM.instWith subject))
      (l.map (s.relocations d).insts) (l.flatMap fun i => (s.inst i).symbols)
      (l.map fun i => ((s.inst i).symbol, subject ((s.relocations d).insts i)))
      (.linked s d (before ++ l)) := by
  obtain ⟨after, hlisted⟩ := hlisted
  have hturn : ∀ known done i todo, l = done ++ i :: todo →
      Walks s (s.relocations d) (.linked s d (before ++ done)) known (CopyM.instWith subject i)
        ((s.relocations d).insts i) (s.inst i).symbols
        [((s.inst i).symbol, subject ((s.relocations d).insts i))]
        (.linked s d (before ++ (done ++ [i]))) := by
    intro known done i todo hl
    have hsplit : s.ownedInsts d = ((s.document d).allTemplates.flatMap s.templateInsts
        ++ (before ++ done)) ++ i :: (todo ++ after) := by
      have howned : s.ownedInsts d = (s.document d).allTemplates.flatMap s.templateInsts
          ++ (s.document d).listed := by
        simp [ownedInsts, Document.listed]
      simp [howned, ← hlisted, hl]
    have hmem : i ∈ s.ownedInsts d := hsplit ▸ List.mem_append_right _ List.mem_cons_self
    have hi : i ∈ (s.document d).listed := by simp [← hlisted, hl]
    have hread : (Copying.linked s d (before ++ done)).store.inst i = s.inst i :=
      Table.get_pushAll_of_mem _ (h.inst_mem_of_owned hd hmem)
    have hnext : (Copying.linked s d (before ++ done)).store.insts.next = (s.relocations d).insts i :=
      Relocation.next_pushAll_map (ρ := (s.relocations d).insts) rfl (h.nodup_ownedInsts hd)
        ⟨todo ++ after, by rw [List.append_assoc, List.singleton_append]; exact hsplit.symm⟩
    refine .congr (walks_instWith subject hread hnext) rfl rfl rfl ?_
    have hcopy : (s.relocations d).instFor (s.copiedTemplates d (s.document d).allTemplates) (s.inst i)
        = (s.relocations d).inst (s.instSource d i) := by
      rw [h.instSource_listed hd hi, Relocations.instFor]
      exact congrArg (Instance.mk _ · _) (congrArg Instance.template (leadTo_copiedTemplates s d (s.inst i)))
    have htemplates : (Copying.staged s d (s.document d).allTemplates).templates
        = s.copiedTemplates d (s.document d).allTemplates := rfl
    simp only [Copying.linked, Copying.withInsts, Table.pushAll_pushAll, ← List.append_assoc, htemplates,
      hcopy, List.map_append, List.map_cons, List.map_nil]
  have hloop : Walks s (s.relocations d) (.linked s d (before ++ [])) known _ _ _ _ _ :=
    .loop (fun done => .linked s d (before ++ done)) hturn
  rw [List.append_nil] at hloop
  exact hloop.congr rfl rfl List.map_eq_flatMap.symm rfl

/-! ## Dynamic templates under their names -/

omit h hd

/-- A copied template has the name of the original from the beginning. -/
theorem templateName_met {m : Met} (hm : m.Fits s (s.relocations d)) {t : TemplateId}
    (ht : t ∈ (s.document d).allTemplates) (hmet : s.templateSymbol t ∈ m.symbols) :
    ((Copying.staged s d (s.document d).allTemplates).met s (s.relocations d) m).store.templateName
        ((s.relocations d).templates t) = s.templateName t := by
  have htemplate : (s.staged d (s.document d).allTemplates).template ((s.relocations d).templates t)
      = (s.relocated d).1.template ((s.relocations d).templates t) := rfl
  have hinst : (s.staged d (s.document d).allTemplates).inst ((s.relocations d).insts (s.template t).inst)
      = s.led d (s.template t).inst :=
    Relocation.get_pushAll_map_of_begins (ρ := (s.relocations d).insts) rfl (templateInsts_begin s d)
      (List.mem_flatMap.mpr ⟨t, ht, List.mem_cons_self⟩)
  have hsymbol : (s.symbols.pushAll (m.symbols.map (s.copiedSymbol m.claims))).get
      ((s.relocations d).symbols (s.templateSymbol t)) = s.copiedSymbol m.claims (s.templateSymbol t) :=
    Relocation.get_pushAll_map_of_begins hm.base hm.begins hmet
  have hled : ((Copying.staged s d (s.document d).allTemplates).met s (s.relocations d) m).store.templateSymbol
      ((s.relocations d).templates t) = (s.relocations d).symbols (s.templateSymbol t) := by
    show (Store.inst (s.staged d _) (Store.template (s.staged d _) _).inst).symbol = _
    rw [htemplate, relocated_template ht]
    refine (congrArg Instance.symbol hinst).trans ?_
    exact congrArg (s.relocations d).symbols (symbol_instSource s d _)
  show (Table.get (s.symbols.pushAll _) (templateSymbol _ _)).name = _
  rw [hled, hsymbol]
  rfl

include h hd

theorem Sound.walks_byName {known : List SymbolId}
    (hknown : ∀ t ∈ (s.document d).dynamicTemplates, s.templateSymbol t ∈ known) :
    Walks s (s.relocations d) (.staged s d (s.document d).allTemplates) known
      (CopyM.byName ((s.document d).dynamicTemplates.map (s.relocations d).templates))
      ((s.document d).dynamicByName.map fun entry => (entry.1, (s.relocations d).templates entry.2)) [] []
      (.staged s d (s.document d).allTemplates) := by
  have hdocument := h.documents d hd
  refine .store (fun m hm hk => .congr (.pure _) ?_ rfl rfl rfl) (fun _ h => absurd h List.not_mem_nil)
  let name := ((Copying.staged s d (s.document d).allTemplates).met s (s.relocations d) m).store.templateName
  -- The names of the copies are those of the originals, so they are entered one after the other.
  have hentries : (((s.document d).dynamicTemplates.map (s.relocations d).templates).map fun t =>
      (name t, t)) = (s.document d).dynamicByName.map fun entry =>
        (entry.1, (s.relocations d).templates entry.2) := by
    rw [hdocument.entered, List.map_map, List.map_map]
    refine List.map_congr_left fun t ht => ?_
    exact congrArg (·, _) (templateName_met hm (List.mem_append_right _ ht) (hk (hknown t ht)))
  have hkeys : ((s.document d).dynamicByName.map fun entry =>
      (entry.1, (s.relocations d).templates entry.2)).map Prod.fst
        = (s.document d).dynamicTemplates.map s.templateName := by
    rw [List.map_map]
    exact hdocument.keys_dynamicByName
  have hput : List.foldl (fun map entry => Ordered.put map entry.1 entry.2) []
      ((s.document d).dynamicByName.map fun entry => (entry.1, (s.relocations d).templates entry.2))
        = [] ++ _ := Ordered.foldl_put_eq_append (hkeys ▸ hdocument.names) (by simp)
  rw [← hentries, List.foldl_map] at hput
  rw [← hentries]
  exact hput

end Store

end TimedNet
