import TimedNet.Proofs.Run.Reachable
import TimedNet.Proofs.Separation.Foreign

/-!
# `TimedNet.Proofs.Run.Bodies` — the bodies of templates

What a template is made of is numbered in the order in which it came, under symbols that the local frame
has and that stand for it; edges and events hold handles of the template's own arenas; and two marks of
the template say which location is the initial one and whether an event lies in the prechart.

* `Numbers`, `Template.Numbered`, `Template.Framed`, `Template.Marked`: what holds of a body.
* `Template.Edit.numbered`, `Template.Edit.framed`, `Template.Edit.marked`: what a change preserves.
* `Step.bodied`, `Step.marked`: what a step preserves.
* `Run.bodied`, `Run.marked`: what holds of every reachable store.
* `bodies`: all of it together.
-/

namespace TimedNet

/-! ## Numbers -/

section Numbers

variable {α : Type}

/-- Every member has its place as its number. -/
def Numbers (nr : α → Int) (as : List α) : Prop :=
  ∀ (i : Nat) (a : α), as[i]? = some a → nr a = i

variable {nr : α → Int} {as : List α}

theorem numbers_nil (nr : α → Int) : Numbers nr [] := fun i a ha => absurd ha (by simp)

theorem Numbers.concat (h : Numbers nr as) {a : α} (ha : nr a = as.length) :
    Numbers nr (as ++ [a]) :=
  forall_getElem?_concat h ha

theorem Numbers.modify (h : Numbers nr as) {i : Nat} {f : α → α} (hf : ∀ a, nr (f a) = nr a) :
    Numbers nr (as.modify i f) :=
  forall_getElem?_modify h fun a ha => (hf a).trans (h i a ha)

theorem Numbers.mapIdx (h : Numbers nr as) {f : Nat → α → α} (hf : ∀ i a, nr (f i a) = nr a) :
    Numbers nr (as.mapIdx f) := by
  intro i b hb
  rw [List.getElem?_mapIdx] at hb
  obtain ⟨a, ha, rfl⟩ := Option.map_eq_some_iff.mp hb
  exact (hf i a).trans (h i a ha)

theorem Numbers.map (h : Numbers nr as) {f : α → α} (hf : ∀ a, nr (f a) = nr a) :
    Numbers nr (as.map f) := by
  intro i b hb
  rw [List.getElem?_map] at hb
  obtain ⟨a, ha, rfl⟩ := Option.map_eq_some_iff.mp hb
  exact (hf a).trans (h i a ha)

/-- Members changed place by place are accepted as often as before, when each is. -/
theorem any_mapIdx {p : α → Bool} {f : Nat → α → α} (hf : ∀ i a, p (f i a) = p a) :
    (as.mapIdx f).any p = as.any p := by
  induction as generalizing f with
  | nil => rfl
  | cons a as ih =>
    rw [List.mapIdx_cons, List.any_cons, List.any_cons, hf, ih fun i b => hf (i + 1) b]

end Numbers

/-! ## What holds of a body -/

namespace Template

/-- Everything in a body has its place as its number. -/
structure Numbered (t : Template) : Prop where
  locations : Numbers (fun l : Location => (l.nr : Int)) t.locations.items
  branchpoints : Numbers (fun b : Branchpoint => (b.nr : Int)) t.branchpoints.items
  edges : Numbers (fun e : Edge => (e.nr : Int)) t.edges
  lines : Numbers (fun l : InstanceLine => (l.nr : Int)) t.lines.items
  messages : Numbers Message.nr t.messages
  conditions : Numbers Condition.nr t.conditions
  updates : Numbers Update.nr t.updates

/-- The local frame has the symbols of locations, branchpoints and lines. -/
structure Framed (s : Store) (t : Template) : Prop where
  locations : ∀ l ∈ t.locations.items, t.Declares s l.symbol
  branchpoints : ∀ b ∈ t.branchpoints.items, t.Declares s b.symbol
  lines : ∀ l ∈ t.lines.items, t.Declares s (s.inst l.inst).symbol

/-- Whether an event of the chart lies in the prechart. -/
def showsPrechart (t : Template) : Bool :=
  t.messages.any (fun m => m.prechart) || t.conditions.any (fun c => c.prechart)
    || t.updates.any fun u => u.prechart

/-- The marks of a body are right: the initial location is one of the template, and the mark of the
    prechart is set when an event lies there. -/
structure Marked (t : Template) : Prop where
  initial : ∀ x ∈ t.initial, ∃ l ∈ t.locations.items, l.symbol = x
  prechart : t.hasPrechart = t.showsPrechart

variable {s : Store} {r : TemplateId} {a : Aspect} {t u : Template}

/-! ## Changes of one template -/

theorem Edit.numbered (h : t.Edit s r a u) (ht : t.Numbered) : u.Numbered := by
  cases h with
  | addLocation l _ _ hnr _ =>
    exact { ht with locations := ht.locations.concat (congrArg Int.ofNat hnr) }
  | addBranchpoint b _ hnr _ =>
    exact { ht with branchpoints := ht.branchpoints.concat (congrArg Int.ofNat hnr) }
  | addEdge e _ _ _ hnr => exact { ht with edges := ht.edges.concat (congrArg Int.ofNat hnr) }
  | addLine l _ _ _ hnr _ => exact { ht with lines := ht.lines.concat (congrArg Int.ofNat hnr) }
  | addMessage m _ _ _ hnr => exact { ht with messages := ht.messages.concat hnr }
  | addCondition c _ _ hnr => exact { ht with conditions := ht.conditions.concat hnr }
  | addUpdate u _ _ hnr => exact { ht with updates := ht.updates.concat hnr }
  | editLocation index f hkeeps _ =>
    exact { ht with locations := ht.locations.modify fun l => congrArg Int.ofNat (hkeeps l).2 }
  | editEdge index f hkeeps _ =>
    exact { ht with edges := ht.edges.modify fun e => congrArg Int.ofNat (hkeeps e).2.2 }
  | _ => exact { ht with }

theorem Edit.framed (h : t.Edit s r a u) (ht : t.Framed s) : u.Framed s := by
  cases h with
  | addLocation l _ _ _ hframe =>
    exact { ht with locations := forall_mem_concat ht.locations hframe }
  | addBranchpoint b _ _ hframe =>
    exact { ht with branchpoints := forall_mem_concat ht.branchpoints hframe }
  | addLine l _ _ _ _ hframe => exact { ht with lines := forall_mem_concat ht.lines hframe }
  | editLocation index f hkeeps _ =>
    refine { ht with locations := forall_mem_modify ht.locations fun l hl => ?_ }
    rw [(hkeeps l).1]
    exact ht.locations l (List.mem_of_getElem? hl)
  | _ => exact { ht with }

/-- Neither what a body is made of nor whether a dynamic template is defined bears on the marks. -/
theorem Edit.marked (h : t.Edit s r a u) (ha : a = .body ∨ a = .definition) (ht : t.Marked) :
    u.Marked := by
  have hmore : ∀ {ls : List Location}, (∀ l ∈ t.locations.items, ∃ k ∈ ls, k.symbol = l.symbol) →
      ∀ x ∈ t.initial, ∃ l ∈ ls, l.symbol = x := by
    intro ls hls x hx
    obtain ⟨l, hl, rfl⟩ := ht.initial x hx
    exact hls l hl
  cases h with
  | addLocation l _ _ _ _ =>
    exact { ht with initial := hmore fun k hk => ⟨k, List.mem_append_left _ hk, rfl⟩ }
  | editLocation index f hkeeps _ =>
    refine { ht with initial := hmore fun l hl => ?_ }
    obtain ⟨i, hi⟩ := List.mem_iff_getElem?.mp hl
    by_cases hindex : index = i
    · refine ⟨f l, List.mem_of_getElem? (i := i) ?_, (hkeeps l).1⟩
      simp [hi, hindex]
    · refine ⟨l, List.mem_of_getElem? (i := i) ?_, rfl⟩
      simp [hi, hindex]
  | addMessage m _ _ _ _ =>
    refine { ht with prechart := ?_ }
    simp [ht.prechart, showsPrechart, Bool.or_assoc, Bool.or_comm, Bool.or_left_comm]
  | addCondition c _ _ _ =>
    refine { ht with prechart := ?_ }
    simp [ht.prechart, showsPrechart, Bool.or_assoc, Bool.or_comm]
  | addUpdate x _ _ _ =>
    refine { ht with prechart := ?_ }
    simp [ht.prechart, showsPrechart, Bool.or_assoc]
  | setInitial | assign => simp at ha
  | _ => exact { ht with }

/-! ## New templates and copies -/

theorem numbered_freshTemplate (s : Store) (parameters : List SymbolId) (globals : Option FrameId)
    (log : LogId) (style : Style) : (s.freshTemplate parameters globals log style).Numbered :=
  ⟨numbers_nil _, numbers_nil _, numbers_nil _, numbers_nil _, numbers_nil _, numbers_nil _,
    numbers_nil _⟩

theorem framed_freshTemplate (s : Store) (parameters : List SymbolId) (globals : Option FrameId)
    (log : LogId) (style : Style) (s' : Store) :
    (s.freshTemplate parameters globals log style).Framed s' where
  locations := fun _ hl => absurd hl List.not_mem_nil
  branchpoints := fun _ hb => absurd hb List.not_mem_nil
  lines := fun _ hl => absurd hl List.not_mem_nil

theorem marked_freshTemplate (s : Store) (parameters : List SymbolId) (globals : Option FrameId)
    (log : LogId) (style : Style) : (s.freshTemplate parameters globals log style).Marked where
  initial := fun _ hx => absurd hx (by simp [Store.freshTemplate])
  prechart := rfl

theorem Numbered.copy (ht : t.Numbered) (ρ : Relocations) (i : Nat) (id : TemplateId) :
    (ρ.template i id t).Numbered where
  locations := ht.locations.mapIdx fun _ _ => rfl
  branchpoints := ht.branchpoints.map fun _ => rfl
  edges := ht.edges.mapIdx fun _ _ => rfl
  lines := ht.lines.map fun _ => rfl
  messages := ht.messages.mapIdx fun _ _ => rfl
  conditions := ht.conditions.mapIdx fun _ _ => rfl
  updates := ht.updates.mapIdx fun _ _ => rfl

theorem Marked.copy (ht : t.Marked) (ρ : Relocations) (i : Nat) (id : TemplateId) :
    (ρ.template i id t).Marked where
  initial := by
    intro x hx
    obtain ⟨y, hy, rfl⟩ := Option.map_eq_some_iff.mp (show t.initial.map ρ.symbols = some x from hx)
    obtain ⟨l, hl, rfl⟩ := ht.initial y hy
    obtain ⟨j, hj⟩ := List.mem_iff_getElem?.mp hl
    exact ⟨_, List.mem_of_getElem? (getElem?_mapIdx_of _ hj), rfl⟩
  prechart := by
    have hmessages : (ρ.template i id t).messages.any (fun m => m.prechart)
        = t.messages.any fun m => m.prechart := any_mapIdx fun _ _ => rfl
    have hconditions : (ρ.template i id t).conditions.any (fun c => c.prechart)
        = t.conditions.any fun c => c.prechart := any_mapIdx fun _ _ => rfl
    have hupdates : (ρ.template i id t).updates.any (fun u => u.prechart)
        = t.updates.any fun u => u.prechart := any_mapIdx fun _ _ => rfl
    rw [showsPrechart, hmessages, hconditions, hupdates]
    exact ht.prechart

end Template

namespace Store

variable {s s' : Store}

/-! ## Local frames -/

section Frames

variable (h : s.Sound) (hg : s.Grows s') {r : TemplateId} {t : Template} (ht : t.Sound s r)
include h hg ht

/-- A symbol in the local frame of a template stays there. -/
theorem Sound.declares_mono {x : SymbolId} (hx : t.Declares s x) : t.Declares s' x := by
  have hframe : (s'.block t.block).frame = (s.block t.block).frame :=
    (hg.blocks _ ht.block).2.frame
  rw [Template.Declares, hframe]
  exact (hg.frames _ (h.blocks _ ht.block).frame).2.symbols.subset hx

theorem Sound.framed_mono (hframed : t.Framed s) : t.Framed s' where
  locations := fun l hl => h.declares_mono hg ht (hframed.locations l hl)
  branchpoints := fun b hb => h.declares_mono hg ht (hframed.branchpoints b hb)
  lines := by
    intro l hl
    obtain ⟨i, hi⟩ := List.mem_iff_getElem?.mp hl
    have hsymbol : (s'.inst l.inst).symbol = (s.inst l.inst).symbol :=
      (hg.insts _ (ht.lines i l hi).1).2.symbol
    rw [hsymbol]
    exact h.declares_mono hg ht (hframed.lines l hl)

end Frames

/-- The local frame of a copied template has the copies of the symbols of the frame. -/
theorem Sound.declares_relocated (h : s.Sound) {d : DocumentId} (hd : d ∈ s.documents)
    {t : TemplateId} (ht : t ∈ (s.document d).allTemplates) {x : SymbolId}
    (hx : (s.template t).Declares s x) :
    ((s.relocated d).1.template ((s.relocations d).templates t)).Declares (s.relocated d).1
      ((s.relocations d).symbols x) := by
  show _ ∈ ((s.relocated d).1.frame ((s.relocated d).1.localFrame
    ((s.relocations d).templates t))).symbols
  rw [localFrame_relocated ht, relocated_localFrame h hd ht]
  exact Frame.mem_addNew.mpr (Or.inr (List.mem_map_of_mem hx))

theorem Sound.framed_relocated (h : s.Sound) {d : DocumentId} (hd : d ∈ s.documents)
    {t : TemplateId} (ht : t ∈ (s.document d).allTemplates) (hframed : (s.template t).Framed s) :
    ((s.relocated d).1.template ((s.relocations d).templates t)).Framed (s.relocated d).1 := by
  have hcopy := fun {x : SymbolId} => h.declares_relocated hd ht (x := x)
  have htemplate := relocated_template ht
  refine ⟨fun l hl => ?_, fun b hb => ?_, fun l hl => ?_⟩
  · rw [htemplate] at hl
    obtain ⟨i, k, hk, rfl⟩ := mem_mapIdx_iff.mp hl
    exact hcopy (hframed.locations k (List.mem_of_getElem? hk))
  · rw [htemplate] at hb
    obtain ⟨k, hk, rfl⟩ := List.mem_map.mp hb
    exact hcopy (hframed.branchpoints k hk)
  · rw [htemplate] at hl
    obtain ⟨k, hk, rfl⟩ := List.mem_map.mp hl
    have hsymbol := symbol_inst_relocated (lineInst_mem_ownedInsts ht hk)
    rw [show ((s.relocations d).line ((s.relocations d).templates t) k).inst
      = (s.relocations d).insts k.inst from rfl, hsymbol]
    exact hcopy (hframed.lines k hk)

/-! ## Steps -/

/-- What all bodies have: numbers and framed symbols. -/
def Bodied (s : Store) : Prop :=
  ∀ t ∈ s.templates, (s.template t).Numbered ∧ (s.template t).Framed s

/-- **A step leaves all bodies numbered and framed.** -/
theorem Step.bodied {w : Write} (hstep : s.Step w s') (h : s.Sound) (hbodied : s.Bodied) :
    s'.Bodied := by
  intro t ht
  rcases hstep.template_cases h ht with ⟨hold, heq⟩ | ⟨hold, a, -, hedit⟩
    | ⟨symbol, parameters, globals, log, style, rfl, rfl⟩ | ⟨d, hd, rfl, u, hu, rfl⟩
  · rw [heq]
    have hframed := h.framed_mono hstep.grows (h.templates t hold) (hbodied t hold).2
    exact ⟨(hbodied t hold).1, hframed⟩
  · have hsound := hedit.sound (h.templates t hold)
    have hframed := h.framed_mono hstep.grows hsound (hedit.framed (hbodied t hold).2)
    exact ⟨hedit.numbered (hbodied t hold).1, hframed⟩
  · rw [template_newTemplate]
    exact ⟨Template.numbered_freshTemplate .., Template.framed_freshTemplate ..⟩
  · have hbody := hbodied u ((h.documents d hd).templates u hu).1
    refine ⟨?_, h.framed_relocated hd hu hbody.2⟩
    rw [relocated_template hu]
    exact hbody.1.copy ..

/-- The marks of all bodies are right. -/
def Marked (s : Store) : Prop := ∀ t ∈ s.templates, (s.template t).Marked

/-- **A step that sets no mark leaves all marks right.** -/
theorem Step.marked {w : Write} (hstep : s.Step w s') (h : s.Sound)
    (hw : ∀ t a, w = .template t a → a = .body ∨ a = .definition) (hmarked : s.Marked) :
    s'.Marked := by
  intro t ht
  rcases hstep.template_cases h ht with ⟨hold, heq⟩ | ⟨hold, a, hwa, hedit⟩
    | ⟨symbol, parameters, globals, log, style, rfl, rfl⟩ | ⟨d, hd, rfl, u, hu, rfl⟩
  · rw [heq]
    exact hmarked t hold
  · exact hedit.marked (hw t a hwa) (hmarked t hold)
  · rw [template_newTemplate]
    exact Template.marked_freshTemplate ..
  · rw [relocated_template hu]
    exact (hmarked u ((h.documents d hd).templates u hu).1).copy ..

theorem Path.marked {P : Write → Prop} (hpath : Path P s s') (h : s.Sound)
    (hP : ∀ t a, P (.template t a) → a = .body ∨ a = .definition) (hmarked : s.Marked) :
    s'.Marked :=
  hpath.keeps h (fun hw hstep hsound => hstep.marked hsound fun t a heq => hP t a (heq ▸ hw)) hmarked

end Store

/-- What a handle leads to has a place in the arena. -/
theorem Arena.exists_getElem?_of_get {α : Type} {a : Arena α} {h : Handle} {item : α}
    (hget : a.get h = .ok item) : ∃ i : Nat, h.index = i ∧ a.items[i]? = some item := by
  unfold Arena.get at hget
  split at hget
  · split at hget
    · next found hfound =>
      obtain rfl := Except.ok.inj hget
      unfold Arena.at? at hfound
      split at hfound
      · next i hi => exact ⟨i, hi, hfound⟩
      · exact absurd hfound (by simp)
    · exact absurd hget (by simp)
  · exact absurd hget (by simp)

/-- The handles at which the events of a chart are anchored. -/
def Events.anchors (e : Events) : List Handle :=
  e.messages.flatMap (fun m => [m.source, m.target]) ++ e.conditions.flatMap (fun c => c.anchors)
    ++ e.updates.map fun u => u.anchor

/-! ## Operations that set a mark -/

/-- A symbol is made the initial location of a template only if nothing is behind it or it is the own
    symbol of what it stands for, and the mark of the prechart is not set by hand. -/
def Operation.KeepsMarks (s : Store) : Operation → Prop
  | .setInitial _ symbol => (s.symbol symbol).subject.isBare = true
      ∨ s.ownSymbol? (s.symbol symbol).subject = some symbol
  | .assignTemplate template _ hasPrechart .. => hasPrechart = (s.template template).hasPrechart
  | _ => True

instance (s : Store) (op : Operation) : Decidable (op.KeepsMarks s) := by
  unfold Operation.KeepsMarks
  split <;> infer_instance

namespace Store

variable {s s' : Store}

theorem Marked.modifyTemplate (hmarked : s.Marked) {t : TemplateId} {f : Template → Template}
    (hf : t ∈ s.templates → (f (s.template t)).Marked) : (s.modifyTemplate t f).Marked := by
  have hchanged : s.templates.Renews (fun _ u => u.Marked) (s.modifyTemplate t f).templates :=
    Table.renews_modify hf
  exact hchanged.forall hmarked

/-- What is found as a location of the template for its own symbol has that symbol. -/
theorem exists_location_of_endpoint? {t : TemplateId} {symbol : SymbolId} {handle : Handle}
    (hfound : s.endpoint? t symbol = some (.location handle))
    (hown : s.ownSymbol? (s.symbol symbol).subject = some symbol) :
    ∃ l ∈ (s.template t).locations.items, l.symbol = symbol := by
  unfold endpoint? at hfound
  split at hfound
  · next owner index hsubject =>
    dsimp only at hfound
    split at hfound
    · next hcond =>
      obtain ⟨rfl, hlt⟩ := hcond
      have hget := List.getElem?_eq_getElem hlt
      rw [hsubject, ownSymbol_location hget] at hown
      exact ⟨_, List.getElem_mem hlt, Option.some.inj hown⟩
    · exact absurd hfound (by simp)
  · next owner index _ =>
    dsimp only at hfound
    split at hfound <;> exact absurd hfound (by simp)
  · exact absurd hfound (by simp)

/-- Nothing is found for a symbol with nothing behind it. -/
theorem endpoint?_of_isBare {t : TemplateId} {symbol : SymbolId}
    (hbare : (s.symbol symbol).subject.isBare = true) : s.endpoint? t symbol = none := by
  unfold endpoint?
  split
  · next hsubject => exact absurd hbare (by simp [hsubject, Subject.isBare])
  · next hsubject => exact absurd hbare (by simp [hsubject, Subject.isBare])
  · rfl

theorem Marked.setInitial (hmarked : s.Marked) {t : TemplateId} {symbol : SymbolId}
    (hsymbol : (s.symbol symbol).subject.isBare = true
      ∨ s.ownSymbol? (s.symbol symbol).subject = some symbol) : (s.setInitial t symbol).1.Marked := by
  unfold Store.setInitial
  split
  · next handle hfound =>
    rcases hsymbol with hbare | hown
    · exact absurd (hfound.symm.trans (endpoint?_of_isBare hbare)) (by simp)
    · refine hmarked.modifyTemplate fun ht => { hmarked t ht with initial := ?_ }
      intro x hx
      obtain rfl := Option.some.inj hx
      exact exists_location_of_endpoint? hfound hown
  · exact hmarked

/-- Marks are set by hand in two operations only. -/
theorem body_of_mem_writes {op : Operation} {t : TemplateId} {a : Template.Aspect}
    (h : .template t a ∈ op.writes s) :
    (a = .body ∨ a = .definition) ∨ (∃ symbol, op = .setInitial t symbol)
      ∨ ∃ style hasPrechart dynamic dynindex isDefined,
          op = .assignTemplate t style hasPrechart dynamic dynindex isDefined := by
  cases op with
  | setInitial template symbol =>
    obtain ⟨rfl, rfl⟩ : t = template ∧ a = .initial := by simpa [Operation.writes] using h
    exact Or.inr (Or.inl ⟨symbol, rfl⟩)
  | assignTemplate template style hasPrechart dynamic dynindex isDefined =>
    obtain ⟨rfl, rfl⟩ : t = template ∧ a = .marks := by simpa [Operation.writes] using h
    exact Or.inr (Or.inr ⟨style, hasPrechart, dynamic, dynindex, isDefined, rfl⟩)
  | addDynamicTemplate document name parameters span =>
    rcases List.mem_append.mp h with hmem | hmem
    · obtain ⟨_, rfl⟩ : t = s.templates.next ∧ a = .definition := by simpa using hmem
      exact Or.inl (Or.inr rfl)
    · obtain ⟨u, _, heq⟩ := List.mem_map.mp hmem
      cases heq
      exact Or.inl (Or.inr rfl)
  | _ => simp_all [Operation.writes]

/-! ## Runs -/

/-- **The bodies of all reachable templates are numbered and framed**, whatever a program does. -/
theorem Run.bodied {condition : Store → Operation → Prop} (hrun : Run condition {} s) :
    s.Bodied :=
  hrun.keeps (fun _ ht => absurd ht (Nat.not_lt_zero _)) Step.bodied

/-- **The marks of all reachable templates are right** as long as the program keeps them. -/
theorem Run.marked (hrun : Run Operation.KeepsMarks {} s) : s.Marked := by
  induction hrun with
  | refl => exact fun _ ht => absurd ht (Nat.not_lt_zero _)
  | @step s run op hadmissible hkeeps ih =>
    have h := run.sound sound_empty
    by_cases hmark : ∃ t a, .template t a ∈ op.writes s ∧ ¬ (a = .body ∨ a = .definition)
    · -- The operation sets a mark, to a location of the template or to what it was.
      obtain ⟨t, a, hmem, hne⟩ := hmark
      rcases body_of_mem_writes hmem with hbody | ⟨symbol, rfl⟩ | ⟨_, _, _, _, _, rfl⟩
      · exact absurd hbody hne
      · exact ih.setInitial hkeeps
      · refine ih.modifyTemplate fun ht => { ih t ht with prechart := ?_ }
        exact Eq.trans hkeeps (ih t ht).prechart
    · refine (h.path_perform hadmissible).marked h (fun t a hmem => ?_) ih
      exact Classical.byContradiction fun hne => hmark ⟨t, a, hmem, hne⟩

/-! ## Everything together -/

/-- The body of a template: numbers; symbols that the local frame has and that stand for what they are
    the symbols of; ends of edges and anchors of events that lead to nodes and lines of the template
    and into no arena of another one; an initial location of the template; and the mark of the
    prechart. -/
structure Body (s : Store) (t : TemplateId) : Prop where
  numbered : (s.template t).Numbered
  locations : ∀ i l, (s.template t).locations.items[i]? = some l →
    l.symbol ∈ (s.frame (s.localFrame t)).symbols ∧ (s.symbol l.symbol).subject = .location t i
  branchpoints : ∀ i b, (s.template t).branchpoints.items[i]? = some b →
    b.symbol ∈ (s.frame (s.localFrame t)).symbols ∧ (s.symbol b.symbol).subject = .branchpoint t i
  lines : ∀ i l, (s.template t).lines.items[i]? = some l →
    (s.inst l.inst).symbol ∈ (s.frame (s.localFrame t)).symbols
      ∧ (s.symbol (s.inst l.inst).symbol).subject = .line t i
  edges : ∀ e ∈ (s.template t).edges, ∀ p ∈ [e.source, e.target],
    (s.template t).hasEndpoint p = true ∧ ∃ r ∈ s.symbols, s.endpointSymbol t p = .ok r
  anchors : ∀ a ∈ (s.template t).events.anchors, ∃ l, (s.template t).lines.get a = .ok l
  foreign : ∀ a ∈ (s.template t).handles, ∀ u ∈ s.templates, u ≠ t →
    a.arena ≠ (s.template u).locations.id ∧ a.arena ≠ (s.template u).branchpoints.id
      ∧ a.arena ≠ (s.template u).lines.id
  initial : ∀ x ∈ (s.template t).initial,
    ∃ i, i < (s.template t).locations.size ∧ (s.symbol x).subject = .location t i
  prechart : (s.template t).hasPrechart = true ↔
    (∃ m ∈ (s.template t).messages, m.prechart = true)
      ∨ (∃ c ∈ (s.template t).conditions, c.prechart = true)
      ∨ ∃ u ∈ (s.template t).updates, u.prechart = true

/-- An end of an edge leads to a node, whose symbol exists. -/
theorem Sound.endpointSymbol_eq_ok (h : s.Sound) {t : TemplateId} (ht : t ∈ s.templates)
    {p : Endpoint} (hp : (s.template t).hasEndpoint p = true) :
    ∃ r ∈ s.symbols, s.endpointSymbol t p = .ok r := by
  have hsound := h.templates t ht
  cases p with
  | location a =>
    obtain ⟨l, hl⟩ := Arena.owns_iff.mp (show (s.template t).locations.owns a = true from hp)
    obtain ⟨i, -, hi⟩ := Arena.exists_getElem?_of_get hl
    exact ⟨l.symbol, (hsound.locations i l hi).mem, by rw [endpointSymbol, hl]; rfl⟩
  | branchpoint a =>
    obtain ⟨b, hb⟩ := Arena.owns_iff.mp (show (s.template t).branchpoints.owns a = true from hp)
    obtain ⟨i, -, hi⟩ := Arena.exists_getElem?_of_get hb
    exact ⟨b.symbol, (hsound.branchpoints i b hi).mem, by rw [endpointSymbol, hb]; rfl⟩

/-- An anchor of an event is one of the lines. -/
theorem Sound.owns_of_mem_anchors (h : s.Sound) {t : TemplateId} (ht : t ∈ s.templates) {a : Handle}
    (ha : a ∈ (s.template t).events.anchors) : (s.template t).lines.owns a = true := by
  have hsound := h.templates t ht
  unfold Events.anchors Template.events at ha
  simp only [List.mem_append, List.mem_flatMap, List.mem_map, List.mem_cons, List.not_mem_nil,
    or_false] at ha
  rcases ha with (⟨m, hm, rfl | rfl⟩ | ⟨c, hc, ha⟩) | ⟨u, hu, rfl⟩
  · exact (hsound.messages m hm).1
  · exact (hsound.messages m hm).2
  · exact hsound.conditions c hc a ha
  · exact hsound.updates u hu

/-- **The bodies of templates.** Whatever a program does in whatever order, with symbols of whatever
    templates and documents, and however often it copies documents: as long as a symbol that it makes
    an initial location is bare or the own symbol of what it stands for, and it does not set the mark
    of the prechart by hand, every template of every document has a body in which everything fits. -/
theorem bodies (hrun : Run Operation.KeepsMarks {} s) :
    ∀ d ∈ s.documents, ∀ t ∈ (s.document d).allTemplates, s.Body t := by
  intro d hd t htd
  have h := hrun.sound sound_empty
  have ht : t ∈ s.templates := ((h.documents d hd).templates t htd).1
  have hsound := h.templates t ht
  obtain ⟨hnumbered, hframed⟩ := hrun.bodied t ht
  have hmarked := hrun.marked t ht
  refine
    { numbered := hnumbered
      locations := fun i l hl =>
        ⟨hframed.locations l (List.mem_of_getElem? hl), (hsound.locations i l hl).subject⟩
      branchpoints := fun i b hb =>
        ⟨hframed.branchpoints b (List.mem_of_getElem? hb), (hsound.branchpoints i b hb).subject⟩
      lines := fun i l hl =>
        ⟨hframed.lines l (List.mem_of_getElem? hl), (hsound.lines i l hl).2.subject⟩
      edges := ?edges
      anchors := fun a ha => Arena.owns_iff.mp (h.owns_of_mem_anchors ht ha)
      foreign := ?foreign
      initial := ?initial
      prechart := ?prechart }
  case edges =>
    intro e he p hp
    have hend : (s.template t).hasEndpoint p = true := by
      simp only [List.mem_cons, List.not_mem_nil, or_false] at hp
      rcases hp with rfl | rfl
      · exact (hsound.edges e he).1
      · exact (hsound.edges e he).2
    exact ⟨hend, h.endpointSymbol_eq_ok ht hend⟩
  case foreign =>
    intro a ha u hu hne
    have hrange := h.arenas_apart hu ht hne
    obtain ⟨hbt, hlt, -⟩ := hsound.arenas
    obtain ⟨hbu, hlu, -⟩ := (h.templates u hu).arenas
    have hmine := h.arena_of_mem_handles ht ha
    omega
  case initial =>
    intro x hx
    obtain ⟨l, hl, rfl⟩ := hmarked.initial x hx
    obtain ⟨i, hi⟩ := List.mem_iff_getElem?.mp hl
    exact ⟨i, (List.getElem?_eq_some_iff.mp hi).1, (hsound.locations i l hi).subject⟩
  case prechart =>
    rw [hmarked.prechart, Template.showsPrechart]
    simp only [Bool.or_eq_true, List.any_eq_true, or_assoc]

/-- Two locations, of which the second is initial, an edge, a line with a message in the prechart, and a
    copy: the copied template has a body of its own. -/
theorem bodies_copied_template : ∃ s : Store, Run Operation.KeepsMarks {} s
    ∧ (s.template ⟨1⟩).initial = some ⟨6⟩ ∧ (s.template ⟨1⟩).hasPrechart = true ∧ s.Body ⟨1⟩ := by
  let ops : List Operation :=
    [.openDocument none none, .addTemplate ⟨0⟩ "T" [] {} {},
      .addLocation ⟨0⟩ "A" .empty .empty {}, .addLocation ⟨0⟩ "B" .empty .empty {},
      .setInitial ⟨0⟩ ⟨2⟩, .addEdge ⟨0⟩ ⟨1⟩ ⟨2⟩ true "", .addInstanceLine ⟨0⟩ "L" {},
      .addMessage ⟨0⟩ ⟨3⟩ ⟨3⟩ 1 true .empty, .copyDocument ⟨0⟩]
  have hperforms : ({} : Store).Performs Operation.KeepsMarks ops := by decide +kernel
  have hrun : Run Operation.KeepsMarks {} (ops.foldl perform {}) := Run.refl.performs hperforms
  refine ⟨ops.foldl perform {}, hrun, by decide +kernel, by decide +kernel, ?_⟩
  exact bodies hrun ⟨1⟩ (by decide +kernel) ⟨1⟩ (by decide +kernel)

end Store

end TimedNet
