import TimedNet.Proofs.Scope.Traversal

/-!
# `TimedNet.Proofs.Scope.Measures` — what a pass meets of progress measures and gantt entries

Progress measures and gantt entries come to the end of the lists of a block, and only the operations
that add them change these lists. A pass reads the lists of the global block, where it meets each entry
once and in order. Of the block of a template it reads the frame and not the lists, so it meets no
entry that was added there, whether it enters the template or not.

* `Visit.progress?`, `Visit.gantt?`: the entry that is met.
* `Operation.progressFor`, `Operation.ganttFor`: the entry that an operation adds to a block.
* `Store.KeepsEntries`: no block has other entries; one lemma per kind of operation.
* `Sound.entries_perform`, `Sound.entries_foldl`: blocks have what was added to them.
* `Store.EntriesMet`; `Store.entries_met`; `Store.local_measure_unmet`.
-/

namespace TimedNet

/-! ## Entries -/

/-- The progress measure that is met. -/
def Visit.progress? : Visit → Option Progress
  | .progress entry => some entry
  | _ => none

/-- The gantt entry that is met. -/
def Visit.gantt? : Visit → Option Gantt
  | .gantt entry => some entry
  | _ => none

/-- The progress measure that an operation adds to a block. -/
def Operation.progressFor (b : BlockId) : Operation → Option Progress
  | .addProgress c entry => if c = b then some entry else none
  | _ => none

/-- The gantt entry that an operation adds to a block. -/
def Operation.ganttFor (b : BlockId) : Operation → Option Gantt
  | .addGantt c entry => if c = b then some entry else none
  | _ => none

/-- The blocks have the same progress measures and gantt entries. -/
structure Block.SameEntries (b c : Block) : Prop where
  progress : c.progress = b.progress
  gantt : c.gantt = b.gantt

namespace Store

variable {condition : Store → Operation → Prop} {s s' : Store} {w : Write} {op : Operation} {b : BlockId}
  {d : DocumentId} {t : TemplateId}

/-- A block has the entries that it had. A block that was not there had none. -/
def KeepsEntries (s : Store) (b : BlockId) (s' : Store) : Prop := (s.block b).SameEntries (s'.block b)

namespace KeepsEntries

theorem refl (s : Store) (b : BlockId) : s.KeepsEntries b s := ⟨rfl, rfl⟩

theorem trans {s'' : Store} (h : s.KeepsEntries b s') (h' : s'.KeepsEntries b s'') :
    s.KeepsEntries b s'' :=
  ⟨h'.progress.trans h.progress, h'.gantt.trans h.gantt⟩

theorem of_blocks_eq (h : s'.blocks = s.blocks) : s.KeepsEntries b s' := by
  rw [KeepsEntries, block, block, h]
  exact ⟨rfl, rfl⟩

theorem foldl {α : Type} {turn : Store → α → Store}
    (hturn : ∀ (s : Store) a, s.KeepsEntries b (turn s a)) (as : List α) (s : Store) :
    s.KeepsEntries b (as.foldl turn s) := by
  induction as generalizing s with
  | nil => exact refl s b
  | cons a as ih => exact (hturn s a).trans (ih (turn s a))

end KeepsEntries

/-! ## Operations that add no entry -/

theorem block_of_not_mem (hb : b ∉ s.blocks) : s.block b = default := by
  rw [block, Table.get, Table.get?_eq_none_iff.mpr (Nat.le_of_not_lt hb)]
  rfl

theorem keepsEntries_modifyBlock (s : Store) (c : BlockId) {f : Block → Block}
    (hf : ∀ b : Block, b.SameEntries (f b)) : s.KeepsEntries b (s.modifyBlock c f) := by
  by_cases hb : b ∈ s.blocks
  · by_cases hc : c = b
    · subst hc
      rw [KeepsEntries, show (s.modifyBlock c f).block c = f (s.block c) from Table.get_modify_self f hb]
      exact hf _
    · rw [KeepsEntries, show (s.modifyBlock c f).block b = s.block b from Table.get_modify_of_ne f hc]
      exact ⟨rfl, rfl⟩
  · have hb' : b ∉ (s.modifyBlock c f).blocks := fun hmem => hb (Table.mem_modify.mp hmem)
    rw [KeepsEntries, block_of_not_mem hb, block_of_not_mem hb']
    exact ⟨rfl, rfl⟩

/-- A new block has no entries. -/
theorem keepsEntries_push {frame : FrameId} (hblocks : s'.blocks = s.blocks.push { frame }) :
    s.KeepsEntries b s' := by
  by_cases hb : b ∈ s.blocks
  · rw [KeepsEntries, block, block, hblocks, Table.get_push_of_mem _ hb]
    exact ⟨rfl, rfl⟩
  · rw [KeepsEntries, block_of_not_mem hb]
    by_cases hnext : b = s.blocks.next
    · rw [block, hblocks, hnext, Table.get_push_next]
      exact ⟨rfl, rfl⟩
    · have hb' : b ∉ s'.blocks := by
        rw [hblocks]
        exact fun hmem => (Table.mem_push.mp hmem).elim hb hnext
      rw [block_of_not_mem hb']
      exact ⟨rfl, rfl⟩

theorem keepsEntries_declared (s : Store) (r : FrameId) (x : Symbol) : s.KeepsEntries b (s.declared r x) :=
  .of_blocks_eq rfl

theorem keepsEntries_report (s : Store) (log : LogId) (span : Span) (p : Problem) (context : String) :
    s.KeepsEntries b (s.report log span p context) :=
  .of_blocks_eq rfl

theorem keepsEntries_modifyFunction (s : Store) (r : FunctionRef) (f : Function → Function) :
    s.KeepsEntries b (s.modifyFunction r f) :=
  s.keepsEntries_modifyBlock r.block fun _ => ⟨rfl, rfl⟩

theorem keepsEntries_logged {α : Type} {a : Attempt α} (log : LogId) (span : Span)
    (h : s.KeepsEntries b a.1) : s.KeepsEntries b (logged log span a).1 := by
  obtain ⟨s', outcome⟩ := a
  cases outcome with
  | ok _ => exact h
  | error p => exact h.trans (s'.keepsEntries_report log span p "")

theorem keepsEntries_declareVariable (s : Store) (c : BlockId) (type name : String) (init : Expression)
    (span : Span) : s.KeepsEntries b (s.declareVariable c type name init span).1 := by
  let x : Symbol := { name, type, span, subject := .var (.ofBlock c (s.block c).vars.length) }
  rcases s.declare_cases (s.block c).frame x with heq | ⟨-, heq⟩ <;> rw [declareVariable, heq]
  · exact .refl s b
  · refine (s.keepsEntries_declared _ x).trans (keepsEntries_modifyBlock _ c ?_)
    exact fun _ => ⟨rfl, rfl⟩

theorem keepsEntries_declareLocal (s : Store) (r : FunctionRef) (frame : FrameId) (type name : String)
    (init : Expression) (span : Span) :
    s.KeepsEntries b (s.declareLocal r frame type name init span).1 := by
  let x : Symbol := { name, type, span, subject := .var (.ofFunction r (s.functionAt r).locals.length) }
  rcases s.declare_cases frame x with heq | ⟨-, heq⟩ <;> rw [declareLocal, heq]
  · exact .refl s b
  · exact (s.keepsEntries_declared _ x).trans (keepsEntries_modifyFunction _ r _)

theorem keepsEntries_declareFunction (s : Store) (c : BlockId) (type name : String) (span : Span) :
    s.KeepsEntries b (s.declareFunction c type name span).1 := by
  let x : Symbol := { name, type, span, subject := .fn ⟨c, (s.block c).functions.length⟩ }
  rcases s.declare_cases (s.block c).frame x with heq | ⟨-, heq⟩ <;> rw [declareFunction, heq]
  · exact .refl s b
  · refine (s.keepsEntries_declared _ x).trans (keepsEntries_modifyBlock _ c ?_)
    exact fun _ => ⟨rfl, rfl⟩

theorem keepsEntries_addVariable (s : Store) (d : DocumentId) (c : BlockId) (type name : String)
    (init : Expression) (span : Span) : s.KeepsEntries b (s.addVariable d c type name init span).1 := by
  refine keepsEntries_logged _ _ ?_
  rcases s.warnShadowing_cases (s.document d).log c name span with heq | heq <;> rw [heq]
  · exact s.keepsEntries_declareVariable ..
  · exact (s.keepsEntries_report ..).trans (keepsEntries_declareVariable ..)

theorem keepsEntries_setInitialiser (s : Store) (owner : VariableRef) (init : Expression) :
    s.KeepsEntries b (s.setInitialiser owner init) := by
  cases owner with
  | ofBlock c index => exact s.keepsEntries_modifyBlock c fun _ => ⟨rfl, rfl⟩
  | ofFunction r index => exact s.keepsEntries_modifyFunction r _

theorem keepsEntries_copyVariables (s : Store) (d : DocumentId) (source target : TemplateId) :
    s.KeepsEntries b (s.copyVariables d source target) :=
  .foldl (fun s _ => keepsEntries_logged _ _ (s.keepsEntries_declareVariable ..)) _ s

theorem keepsEntries_copyFunction (s : Store) (log : LogId) (c : BlockId) (f : Function) :
    s.KeepsEntries b (s.copyFunction log c f) := by
  have hdeclare := s.keepsEntries_declareFunction (b := b) c (s.symbol f.symbol).type
    (s.symbol f.symbol).name (s.symbol f.symbol).span
  cases hout : s.declareFunction c (s.symbol f.symbol).type (s.symbol f.symbol).name
    (s.symbol f.symbol).span with
  | mk s' outcome =>
    rw [hout] at hdeclare
    cases outcome with
    | error p =>
      rw [copyFunction_of_error hout]
      exact hdeclare.trans (s'.keepsEntries_report ..)
    | ok r =>
      rw [copyFunction_of_ok hout, fillFunction_eq]
      have hsymbols : s'.KeepsEntries b
          { s' with symbols := s'.symbols.pushAll (s'.localSymbols f r) } := .of_blocks_eq rfl
      exact hdeclare.trans (hsymbols.trans (keepsEntries_modifyFunction _ r _))

theorem keepsEntries_copyFunctions (s : Store) (d : DocumentId) (source target : TemplateId) :
    s.KeepsEntries b (s.copyFunctions d source target) :=
  .foldl (fun s f => s.keepsEntries_copyFunction _ _ f) _ s

/-- A step that changes no block leaves entries alone, and only a copy of a document comes with some. -/
theorem Step.keepsEntries (hstep : s.Step w s') (hw : ∀ r, w ≠ .block r)
    (hb : b ∈ s.blocks ∨ ∀ d, w ≠ .copy d) : s.KeepsEntries b s' := by
  cases hstep with
  | block | document | newTemplate => exact keepsEntries_push rfl
  | editBlock r => exact absurd rfl (hw r)
  | aside s' ha => exact .of_blocks_eq ha.blocks
  | copy d =>
    have hold := hb.resolve_right fun h => h d rfl
    rw [KeepsEntries, show (s.relocated d).1.block b = s.block b from Table.get_pushAll_of_mem _ hold]
    exact ⟨rfl, rfl⟩
  | _ => exact .of_blocks_eq rfl

theorem Path.keepsEntries {P : Write → Prop} (hpath : Path P s s') (hP : ∀ r, ¬P (.block r))
    (hb : b ∈ s.blocks ∨ ∀ d, ¬P (.copy d)) : s.KeepsEntries b s' := by
  induction hpath with
  | refl => exact .refl s b
  | step path hw hstep ih =>
    refine ih.trans (hstep.keepsEntries (fun r heq => hP r (heq ▸ hw)) ?_)
    exact hb.imp (fun hold => (path.grows.blocks b hold).1) fun h d heq => h d (heq ▸ hw)

/-! ## Operations that add one -/

/-- An operation adds an entry to a block, or it leaves the entries of a block as they are. -/
theorem Sound.entries_cases (h : s.Sound) (hop : op.Admissible s)
    (hb : b ∈ s.blocks ∨ ∀ d, op ≠ .copyDocument d) :
    (∃ c p, op = .addProgress c p) ∨ (∃ c g, op = .addGantt c g)
      ∨ s.KeepsEntries b (s.perform op) ∧ op.progressFor b = none ∧ op.ganttFor b = none := by
  cases op with
  | addProgress c p => exact Or.inl ⟨c, p, rfl⟩
  | addGantt c g => exact Or.inr (Or.inl ⟨c, g, rfl⟩)
  | declareVariable => exact Or.inr (Or.inr ⟨s.keepsEntries_declareVariable .., rfl, rfl⟩)
  | declareLocal => exact Or.inr (Or.inr ⟨s.keepsEntries_declareLocal .., rfl, rfl⟩)
  | declareFunction => exact Or.inr (Or.inr ⟨s.keepsEntries_declareFunction .., rfl, rfl⟩)
  | addVariable => exact Or.inr (Or.inr ⟨s.keepsEntries_addVariable .., rfl, rfl⟩)
  | addLocal =>
    exact Or.inr (Or.inr ⟨keepsEntries_logged _ _ (s.keepsEntries_declareLocal ..), rfl, rfl⟩)
  | addFunction =>
    exact Or.inr (Or.inr ⟨keepsEntries_logged _ _ (s.keepsEntries_declareFunction ..), rfl, rfl⟩)
  | newIODecl | setIODecl =>
    exact Or.inr (Or.inr ⟨s.keepsEntries_modifyBlock _ fun _ => ⟨rfl, rfl⟩, rfl, rfl⟩)
  | setBody | addEffects => exact Or.inr (Or.inr ⟨s.keepsEntries_modifyFunction _ _, rfl, rfl⟩)
  | setInitialiser => exact Or.inr (Or.inr ⟨s.keepsEntries_setInitialiser .., rfl, rfl⟩)
  | copyVariables => exact Or.inr (Or.inr ⟨s.keepsEntries_copyVariables .., rfl, rfl⟩)
  | copyFunctions => exact Or.inr (Or.inr ⟨s.keepsEntries_copyFunctions .., rfl, rfl⟩)
  | copyDocument d =>
    have hold := hb.resolve_right fun h => h d rfl
    exact Or.inr (Or.inr ⟨(h.path_perform hop).keepsEntries (by simp [Operation.writes]) (.inl hold),
      rfl, rfl⟩)
  | _ =>
    exact Or.inr (Or.inr ⟨(h.path_perform hop).keepsEntries (by simp [Operation.writes])
      (.inr (by simp [Operation.writes])), rfl, rfl⟩)

/-- The store after a change of a block that is there, seen at any block. -/
theorem block_modifyBlock {c : BlockId} (hc : c ∈ s.blocks) (f : Block → Block) :
    (s.modifyBlock c f).block b = if c = b then f (s.block b) else s.block b := by
  split
  · next heq =>
    subst heq
    exact Table.get_modify_self f hc
  · next hne => exact Table.get_modify_of_ne f hne

/-- **An operation adds to a block what it adds, and nothing is lost.** -/
theorem Sound.entries_perform (h : s.Sound) (hop : op.Admissible s)
    (hb : b ∈ s.blocks ∨ ∀ d, op ≠ .copyDocument d) :
    ((s.perform op).block b).progress = (s.block b).progress ++ (op.progressFor b).toList
      ∧ ((s.perform op).block b).gantt = (s.block b).gantt ++ (op.ganttFor b).toList := by
  rcases h.entries_cases hop hb with ⟨c, p, rfl⟩ | ⟨c, g, rfl⟩ | ⟨hkept, hprogress, hgantt⟩
  · have hc : c ∈ s.blocks := hop.receivers (.block c) (List.mem_singleton.mpr rfl)
    rw [show (Operation.addProgress c p).ganttFor b = none from rfl, Operation.progressFor,
      show s.perform (.addProgress c p) = s.modifyBlock c _ from rfl, block_modifyBlock hc]
    split <;> simp
  · have hc : c ∈ s.blocks := hop.receivers (.block c) (List.mem_singleton.mpr rfl)
    rw [show (Operation.addGantt c g).progressFor b = none from rfl, Operation.ganttFor,
      show s.perform (.addGantt c g) = s.modifyBlock c _ from rfl, block_modifyBlock hc]
    split <;> simp
  · rw [hkept.progress, hkept.gantt, hprogress, hgantt]
    exact ⟨(List.append_nil _).symm, (List.append_nil _).symm⟩

/-- **After any operations a block has the entries that it had and then those that were added to it**, in
    the order in which they were added. A block that is not there has none; one that comes with the copy of
    a document is not counted here. -/
theorem Sound.entries_foldl (h : s.Sound) {ops : List Operation} (hops : s.Performs condition ops)
    (hb : b ∈ s.blocks ∨ ∀ d, .copyDocument d ∉ ops) :
    ((ops.foldl perform s).block b).progress
        = (s.block b).progress ++ ops.filterMap (Operation.progressFor b)
      ∧ ((ops.foldl perform s).block b).gantt
        = (s.block b).gantt ++ ops.filterMap (Operation.ganttFor b) := by
  induction ops generalizing s with
  | nil => exact ⟨(List.append_nil _).symm, (List.append_nil _).symm⟩
  | cons op ops ih =>
    have hpath := h.path_perform hops.1
    have hfirst := h.entries_perform hops.1 (b := b)
      (hb.imp id fun hnone d heq => hnone d (heq ▸ List.mem_cons_self))
    have hrest := ih (hpath.sound h) hops.2.2
      (hb.imp (fun hold => (hpath.grows.blocks b hold).1) fun hnone d hmem =>
        hnone d (List.mem_cons_of_mem _ hmem))
    refine ⟨hrest.1.trans ?_, hrest.2.trans ?_⟩
    · rw [hfirst.1, List.append_assoc, List.filterMap_cons]
      cases op.progressFor b <;> rfl
    · rw [hfirst.2, List.append_assoc, List.filterMap_cons]
      cases op.ganttFor b <;> rfl

/-! ## Passes -/

/-- Something else is met than a progress measure or a gantt entry. -/
structure IsOther (v : Visit) : Prop where
  progress : v.progress? = none
  gantt : v.gantt? = none

theorem isOther_frameVisits {f : FrameId} {v : Visit} (hv : v ∈ s.frameVisits f) : IsOther v := by
  obtain ⟨r, -, hr⟩ := List.mem_filterMap.mp hv
  rcases declarationVisit?_cases hr with ⟨-, rfl⟩ | ⟨owner, -, rfl⟩ | ⟨owner, -, rfl⟩ <;> exact ⟨rfl, rfl⟩

/-- What is inside a template. -/
theorem isOther_bodyVisits {v : Visit} (hv : v ∈ s.bodyVisits t) : IsOther v := by
  simp only [bodyVisits, List.mem_append, List.mem_map] at hv
  rcases hv with (((((hv | ⟨l, -, rfl⟩) | ⟨e, -, rfl⟩) | ⟨l, -, rfl⟩) | ⟨m, -, rfl⟩) | ⟨c, -, rfl⟩) |
    ⟨u, -, rfl⟩
  · exact isOther_frameVisits hv
  all_goals exact ⟨rfl, rfl⟩

theorem isOther_templateVisits {enters : TemplateId → Bool} {v : Visit} (hv : v ∈ s.templateVisits enters t) :
    IsOther v := by
  unfold templateVisits at hv
  split at hv
  · simp only [List.cons_append, List.mem_cons, List.mem_append, List.not_mem_nil, or_false] at hv
    rcases hv with rfl | hv | rfl
    · exact ⟨rfl, rfl⟩
    · exact isOther_bodyVisits hv
    · exact ⟨rfl, rfl⟩
  · obtain rfl := List.mem_singleton.mp hv
    exact ⟨rfl, rfl⟩

/-- A pass meets the types, variables and functions of the global block, then its progress measures and
    its gantt entries, and no other ones. -/
theorem exists_visits_eq (d : DocumentId) (enters : TemplateId → Bool) : ∃ rest, (∀ v ∈ rest, IsOther v)
    ∧ s.visits d enters = .documentBefore d :: s.frameVisits (s.globalFrame d)
      ++ (s.block (s.document d).globals).progress.map .progress
      ++ (s.block (s.document d).globals).gantt.map .gantt ++ rest := by
  refine ⟨(s.block (s.document d).globals).io.map .io
    ++ (s.document d).allTemplates.flatMap (s.templateVisits enters)
    ++ (s.document d).instances.map .inst ++ (s.document d).lscInstances.map .inst
    ++ (s.document d).processes.map .process ++ [.documentAfter d], fun v hv => ?_, ?_⟩
  · simp only [List.mem_append, List.mem_map, List.mem_flatMap, List.mem_singleton] at hv
    rcases hv with ((((⟨i, -, rfl⟩ | ⟨t, -, hv⟩) | ⟨i, -, rfl⟩) | ⟨i, -, rfl⟩) | ⟨i, -, rfl⟩) | rfl
    · exact ⟨rfl, rfl⟩
    · exact isOther_templateVisits hv
    all_goals exact ⟨rfl, rfl⟩
  · unfold visits globalVisits
    simp only [List.append_assoc, List.cons_append]
    rfl

/-- What a pass over a document meets of progress measures and gantt entries: those of the global block,
    each once, in order, and in this place. Nothing of the block of a template is among it, inside the
    template or elsewhere. -/
structure EntriesMet (s : Store) (d : DocumentId) : Prop where
  place : ∀ answer, ∃ rest, (∀ v ∈ rest, IsOther v)
    ∧ s.walk d answer = .documentBefore d :: s.frameVisits (s.globalFrame d)
      ++ (s.block (s.document d).globals).progress.map .progress
      ++ (s.block (s.document d).globals).gantt.map .gantt ++ rest
  progress : ∀ answer, (s.walk d answer).filterMap Visit.progress?
    = (s.block (s.document d).globals).progress
  gantt : ∀ answer, (s.walk d answer).filterMap Visit.gantt? = (s.block (s.document d).globals).gantt
  inside : ∀ t ∈ (s.document d).allTemplates, ∀ v ∈ s.bodyVisits t, IsOther v

/-- Of a list with entries in the middle, the entries. -/
theorem filterMap_entries {β : Type} {pick : Visit → Option β} {first rest : List Visit} {ps : List Progress}
    {gs : List Gantt} (hfirst : ∀ v ∈ first, pick v = none) (hrest : ∀ v ∈ rest, pick v = none) :
    (first ++ ps.map Visit.progress ++ gs.map Visit.gantt ++ rest).filterMap pick
      = ps.filterMap (fun p => pick (.progress p)) ++ gs.filterMap fun g => pick (.gantt g) := by
  rw [List.filterMap_append, List.filterMap_append, List.filterMap_append,
    List.filterMap_eq_nil_iff.mpr hfirst, List.filterMap_eq_nil_iff.mpr hrest, List.filterMap_map,
    List.filterMap_map, List.nil_append, List.append_nil]
  rfl

theorem Sound.entriesMet (h : s.Sound) (hd : d ∈ s.documents) : s.EntriesMet d := by
  have hplace : ∀ answer, ∃ rest, (∀ v ∈ rest, IsOther v)
      ∧ s.walk d answer = .documentBefore d :: s.frameVisits (s.globalFrame d)
        ++ (s.block (s.document d).globals).progress.map .progress
        ++ (s.block (s.document d).globals).gantt.map .gantt ++ rest := by
    intro answer
    obtain ⟨enters, hwalk, -⟩ := s.exists_walk_eq answer (h.documents d hd).distinct
    rw [hwalk]
    exact exists_visits_eq d enters
  have hfirst : ∀ v ∈ Visit.documentBefore d :: s.frameVisits (s.globalFrame d), IsOther v :=
    List.forall_mem_cons.mpr ⟨⟨rfl, rfl⟩, fun v hv => isOther_frameVisits hv⟩
  refine ⟨hplace, fun answer => ?_, fun answer => ?_, fun t _ v hv => isOther_bodyVisits hv⟩
  · obtain ⟨rest, hrest, hwalk⟩ := hplace answer
    rw [hwalk, filterMap_entries (fun v hv => (hfirst v hv).progress) fun v hv => (hrest v hv).progress]
    simp [Visit.progress?]
  · obtain ⟨rest, hrest, hwalk⟩ := hplace answer
    rw [hwalk, filterMap_entries (fun v hv => (hfirst v hv).gantt) fun v hv => (hrest v hv).gantt]
    simp [Visit.gantt?]

/-- **A pass meets the entries that were added to the global block, once and in order, and no others.**
    An entry that was added to the block of a template is in the list of this block and is not met. -/
theorem entries_met (hrun : Run condition {} s) :
    (∀ d ∈ s.documents, s.EntriesMet d)
      ∧ ∀ ops, s.Performs (fun _ _ => True) ops →
        ∀ b, (b ∈ s.blocks ∨ ∀ d, .copyDocument d ∉ ops) →
          ((ops.foldl perform s).block b).progress
              = (s.block b).progress ++ ops.filterMap (Operation.progressFor b)
            ∧ ((ops.foldl perform s).block b).gantt
              = (s.block b).gantt ++ ops.filterMap (Operation.ganttFor b) :=
  ⟨fun _ hd => (hrun.sound sound_empty).entriesMet hd,
    fun _ hops _ hb => (hrun.sound sound_empty).entries_foldl hops hb⟩

/-- A document with a template. -/
def unmeasured : Store := [.openDocument none none, .addTemplate ⟨0⟩ "T" [] {} {}].foldl perform {}

/-- A progress measure for the document and another one for the template. -/
def measures : List Operation :=
  [.addProgress ⟨0⟩ ⟨.constant 0 (.boolean true) {}, .constant 1 (.boolean false) {}⟩,
    .addProgress ⟨1⟩ ⟨.constant 2 (.boolean false) {}, .constant 3 (.boolean true) {}⟩]

/-- Both blocks get their measures, and a pass meets the one of the document. -/
theorem entries_met_two_measures : Run (fun _ _ => True) {} (measures.foldl perform unmeasured)
    ∧ (measures.foldl perform unmeasured).EntriesMet ⟨0⟩
    ∧ ((measures.foldl perform unmeasured).block ⟨0⟩).progress
      = [⟨.constant 0 (.boolean true) {}, .constant 1 (.boolean false) {}⟩]
    ∧ ((measures.foldl perform unmeasured).block ⟨1⟩).progress
      = [⟨.constant 2 (.boolean false) {}, .constant 3 (.boolean true) {}⟩] := by
  have hrun : Run (fun _ _ => True) {} unmeasured := Run.refl.performs (by decide)
  have hops : unmeasured.Performs (fun _ _ => True) measures := by decide
  have hadded := (entries_met hrun).2 measures hops
  have hend : Run (fun _ _ => True) {} (measures.foldl perform unmeasured) := hrun.performs hops
  exact ⟨hend, (entries_met hend).1 ⟨0⟩ (by decide), (hadded ⟨0⟩ (.inl (by decide))).1,
    (hadded ⟨1⟩ (.inl (by decide))).1⟩

/-- **A measure of a template is lost to a pass that enters the template.** -/
theorem local_measure_unmet : Run (fun _ _ => True) {} (measures.foldl perform unmeasured)
    ∧ ((measures.foldl perform unmeasured).walk ⟨0⟩ fun _ => true).map
        (measures.foldl perform unmeasured).visitText
      = ["system", "progress true; false", "template T", "/template T", "/system"]
    ∧ ((measures.foldl perform unmeasured).bodyVisits ⟨0⟩).filterMap Visit.progress?
      ≠ ((measures.foldl perform unmeasured).block
          ((measures.foldl perform unmeasured).template ⟨0⟩).block).progress := by
  have hrun : Run (fun _ _ => True) {} unmeasured := Run.refl.performs (by decide)
  refine ⟨hrun.performs (by decide), by decide, fun heq => ?_⟩
  exact absurd (congrArg List.length heq) (by decide)

end Store

end TimedNet
