import TimedNet.Proofs.Failure.Diagnostics

/-!
# `TimedNet.Proofs.Failure.Copying` — copying does not depend on diagnostics

The walk that copies a document looks at no entry of a log. Started in alike stores it gives the same at
every part, and leaves alike stores. There is one rule for each way to put parts together, and the parts
follow by their texts. The log of the document is the one thing that differs, and its copy is alike.

* `Copying.Alike`: two walks that have come equally far.
* `CopyM.Blind`: a part that sees no log; `Blind.bind`, `Blind.look`, `Blind.make`, `Blind.mapM`, …
* `Alike.copyDocument`.
-/

namespace TimedNet

open Store

variable {s s' : Store}

/-! ## Changes that do not look at logs -/

/-- What neither looks at the logs nor writes them leaves alike stores alike. -/
theorem Store.Alike.apply {f : Store → Store}
    (hf : ∀ s logs, f (s.withLogs logs) = (f s).withLogs logs) (h : s.Alike s') :
    (f s).Alike (f s') := by
  obtain ⟨logs, hlogs, rfl⟩ := h.exists_logs
  have hsame : (f s).logs = s.logs := congrArg (fun t => t.logs) (hf s s.logs)
  rw [hf]
  exact Store.alike_withLogs (hsame ▸ hlogs)

/-- The same for what gives something. -/
theorem Store.Alike.make {α : Type} {f : Store → Store × α}
    (hf : ∀ s logs, f (s.withLogs logs) = ((f s).1.withLogs logs, (f s).2)) (h : s.Alike s') :
    AlikeAfter (f s) (f s') where
  store := h.apply (f := fun s => (f s).1) fun s logs => congrArg Prod.fst (hf s logs)
  given := by
    obtain ⟨logs, -, rfl⟩ := h.exists_logs
    rw [hf]

/-- Two walks have come equally far, in alike stores. -/
structure Copying.Alike (c c' : Copying) : Prop where
  store : c.store.Alike c'.store
  symbols : c'.symbols = c.symbols
  templates : c'.templates = c.templates

/-- A part of the walk gives the same in alike stores, and leaves them alike. -/
structure CopyM.Blind {α : Type} (x : CopyM α) : Prop where
  given {c c' : Copying} (h : c.Alike c') : (x c).1 = (x c').1
  walk {c c' : Copying} (h : c.Alike c') : (x c).2.Alike (x c').2

namespace CopyM

namespace Blind

variable {α β : Type}

/-! ## Putting parts together -/

protected theorem pure (a : α) : Blind (pure a) := ⟨fun _ => rfl, fun h => h⟩

protected theorem bind {x : CopyM α} {f : α → CopyM β} (hx : x.Blind) (hf : ∀ a, (f a).Blind) :
    (x >>= f).Blind where
  given {c c'} h := by
    show (f (x c).1 (x c).2).1 = (f (x c').1 (x c').2).1
    rw [hx.given h]
    exact (hf _).given (hx.walk h)
  walk {c c'} h := by
    show (f (x c).1 (x c).2).2.Alike (f (x c').1 (x c').2).2
    rw [hx.given h]
    exact (hf _).walk (hx.walk h)

/-- A part that looks at the walk so far, but not at the logs. -/
theorem state {f : Copying → CopyM β} (hf : ∀ c, (f c).Blind)
    (hsame : ∀ c logs, f { c with store := c.store.withLogs logs } = f c) :
    (get >>= f : CopyM β).Blind := by
  have heq : ∀ {c c' : Copying}, c.Alike c' → f c' = f c := by
    intro c c' h
    obtain ⟨logs, -, hstore⟩ := h.store.exists_logs
    rw [← hsame c logs, ← hstore, ← h.symbols, ← h.templates]
  constructor
  · intro c c' h
    show (f c c).1 = (f c' c').1
    rw [heq h]
    exact (hf c).given h
  · intro c c' h
    show (f c c).2.Alike (f c' c').2
    rw [heq h]
    exact (hf c).walk h

/-- A part that looks at the store, but not at its logs. -/
theorem look {f : Store → CopyM β} (hf : ∀ s, (f s).Blind)
    (hsame : ∀ s logs, f (s.withLogs logs) = f s) : (CopyM.store >>= f).Blind :=
  state (f := fun c => f c.store) (fun c => hf c.store) fun c logs => hsame c.store logs

theorem change {f : Store → Store} (hf : ∀ s logs, f (s.withLogs logs) = (f s).withLogs logs) :
    (CopyM.change f).Blind :=
  ⟨fun _ => rfl, fun h => ⟨h.store.apply hf, h.symbols, h.templates⟩⟩

theorem makeAlike {f : Store → Store × α}
    (hf : ∀ {s s' : Store}, s.Alike s' → AlikeAfter (f s) (f s')) : (CopyM.make f).Blind :=
  ⟨fun h => (hf h.store).given, fun h => ⟨(hf h.store).store, h.symbols, h.templates⟩⟩

theorem make {f : Store → Store × α}
    (hf : ∀ s logs, f (s.withLogs logs) = ((f s).1.withLogs logs, (f s).2)) : (CopyM.make f).Blind :=
  makeAlike fun h => h.make hf

theorem mapM {f : α → CopyM β} (hf : ∀ a, (f a).Blind) (l : List α) : (l.mapM f).Blind := by
  induction l with
  | nil => exact .pure []
  | cons a l ih =>
    rw [List.mapM_cons]
    exact .bind (hf a) fun b => .bind ih fun bs => .pure (b :: bs)

theorem zipIdx {f : α × Nat → CopyM β} (hf : ∀ a i, (f (a, i)).Blind) (l : List α) :
    (l.zipIdx.mapM f).Blind :=
  .mapM (fun p : α × Nat => hf p.1 p.2) _

theorem forM {f : α → CopyM PUnit} (hf : ∀ a, (f a).Blind) (l : List α) : (l.forM f).Blind := by
  induction l with
  | nil => exact .pure _
  | cons a l ih => exact .bind (hf a) fun _ => ih

theorem option {f : α → CopyM β} (hf : ∀ a, (f a).Blind) (o : Option α) : (o.mapM f).Blind := by
  cases o with
  | none => exact .pure none
  | some a =>
    have hsome : (f a >>= fun b => pure (some b)).Blind := .bind (hf a) fun b => .pure (some b)
    exact hsome

end Blind

/-! ## The parts -/

theorem blind_symbol (r : SymbolId) : (symbol r).Blind := by
  refine .state (fun c => ?_) fun _ _ => rfl
  cases Ordered.get? c.symbols r with
  | some copy => exact .pure copy
  | none =>
    refine .bind (.make fun _ _ => rfl) fun copy => .bind ?_ fun _ => .pure copy
    exact ⟨fun _ => rfl, fun h => ⟨h.store, congrArg (Ordered.put · r copy) h.symbols, h.templates⟩⟩

theorem blind_rebind (copy : SymbolId) (subject : Subject) : (rebind copy subject).Blind :=
  .change fun _ _ => rfl

theorem blind_symbolList (l : List SymbolId) : (symbolList l).Blind := .mapM blind_symbol l

theorem blind_looseFrame (f : Frame) : (looseFrame f).Blind :=
  .bind (blind_symbolList _) fun _ => .pure _

mutual

theorem blind_term : ∀ t : Term SymbolId, (term t).Blind
  | .empty => .pure _
  | .constant .. => .pure _
  | .identifier r _ => .bind (blind_symbol r) fun _ => .pure _
  | .compound _ operands _ => .bind (blind_terms operands) fun _ => .pure _

theorem blind_terms : ∀ ts : List (Term SymbolId), (terms ts).Blind
  | [] => .pure _
  | t :: ts => .bind (blind_term t) fun _ => .bind (blind_terms ts) fun _ => .pure _

end

theorem blind_expression (e : Expression) (slot : Slot) : (expression e slot).Blind := by
  unfold expression
  split
  · exact .pure e
  · exact .pure e
  · exact .bind (blind_term _) fun _ => .pure _
  · exact .bind (blind_term _) fun _ => .pure _

theorem blind_var (owner : VariableRef) (v : Variable) : (var owner v).Blind :=
  .bind (blind_symbol _) fun _ => .bind (blind_expression _ _) fun _ =>
    .bind (blind_rebind _ _) fun _ => .pure _

theorem blind_function (owner : FunctionRef) (f : Function) : (function owner f).Blind := by
  unfold function
  refine .bind (blind_symbol _) fun _ => .bind (blind_symbolList _) fun _ =>
    .bind (blind_symbolList _) fun _ => ?_
  refine .bind (.zipIdx (fun v i => blind_var (.ofFunction owner i) v) _) fun _ => ?_
  exact .bind (.option blind_term _) fun _ => .bind (blind_rebind _ _) fun _ => .pure _

theorem blind_progress (p : Progress) : (progress p).Blind :=
  .bind (blind_term _) fun _ => .bind (blind_term _) fun _ => .pure _

theorem blind_io (d : IODecl) : (io d).Blind :=
  .bind (blind_terms _) fun _ => .bind (blind_terms _) fun _ => .bind (blind_terms _) fun _ =>
    .bind (blind_terms _) fun _ => .pure _

theorem blind_ganttMap (m : GanttMap) : (ganttMap m).Blind :=
  .bind (blind_looseFrame _) fun _ => .bind (blind_term _) fun _ => .bind (blind_term _) fun _ =>
    .pure _

theorem blind_gantt (g : Gantt) : (gantt g).Blind :=
  .bind (blind_looseFrame _) fun _ => .bind (.mapM blind_ganttMap _) fun _ => .pure _

theorem blind_contents (source target : BlockId) : (contents source target).Blind := by
  unfold contents
  refine .look (fun s => .look (fun s' => ?_) fun _ _ => rfl) fun _ _ => rfl
  refine .bind (blind_symbolList _) fun _ => .bind (.change fun _ _ => rfl) fun _ => ?_
  refine .bind (.zipIdx (fun v i => blind_var (.ofBlock target i) v) _) fun _ => ?_
  refine .bind (.zipIdx (fun f i => blind_function ⟨target, i⟩ f) _) fun _ => ?_
  exact .bind (.mapM blind_progress _) fun _ => .bind (.mapM blind_io _) fun _ =>
    .bind (.mapM blind_gantt _) fun _ => .change fun _ _ => rfl

theorem blind_templateRef (t : TemplateId) : (templateRef t).Blind :=
  .state (fun _ => .pure _) fun _ _ => rfl

theorem blind_inst (i : Instance) : (inst i).Blind := by
  unfold inst
  refine .bind (.mapM (fun pair => ?_) _) fun _ => ?_
  · exact .bind (blind_symbol _) fun _ => .bind (blind_term _) fun _ => .pure _
  · exact .bind (blind_symbol _) fun _ => .bind (blind_templateRef _) fun _ =>
      .bind (blind_symbolList _) fun _ => .bind (blind_symbolList _) fun _ => .pure _

theorem blind_instWith (subject : InstanceId → Subject) (i : InstanceId) :
    (instWith subject i).Blind := by
  unfold instWith
  refine .look (fun s => ?_) fun _ _ => rfl
  exact .bind (blind_inst _) fun _ => .bind (.make fun _ _ => rfl) fun _ =>
    .bind (blind_rebind _ _) fun _ => .pure _

theorem blind_location (t : TemplateId) (index : Nat) (l : Location) : (location t index l).Blind := by
  unfold location
  refine .bind (blind_symbol _) fun _ => .bind (blind_expression _ _) fun _ => ?_
  refine .bind (blind_expression _ _) fun _ => .bind (blind_expression _ _) fun _ => ?_
  exact .bind (blind_expression _ _) fun _ => .bind (blind_rebind _ _) fun _ => .pure _

theorem blind_branchpoint (t : TemplateId) (index : Nat) (b : Branchpoint) :
    (branchpoint t index b).Blind :=
  .bind (blind_symbol _) fun _ => .bind (blind_rebind _ _) fun _ => .pure _

theorem blind_edge (t : TemplateId) (locations : Arena Location) (branchpoints : Arena Branchpoint)
    (index : Nat) (e : Edge) : (edge t locations branchpoints index e).Blind := by
  unfold edge
  refine .bind (blind_looseFrame _) fun _ => .bind (blind_expression _ _) fun _ => ?_
  refine .bind (blind_expression _ _) fun _ => .bind (blind_expression _ _) fun _ => ?_
  exact .bind (blind_expression _ _) fun _ => .pure _

theorem blind_line (t : TemplateId) (index : Nat) (l : InstanceLine) : (line t index l).Blind := by
  unfold line
  refine .look (fun s => ?_) fun _ _ => rfl
  exact .bind (blind_symbol _) fun _ => .bind (blind_inst _) fun _ =>
    .bind (.make fun _ _ => rfl) fun _ => .bind (blind_rebind _ _) fun _ => .pure _

theorem blind_message (t : TemplateId) (lines : Arena InstanceLine) (index : Nat) (m : Message) :
    (message t lines index m).Blind :=
  .bind (blind_expression _ _) fun _ => .pure _

theorem blind_condition (t : TemplateId) (lines : Arena InstanceLine) (index : Nat) (c : Condition) :
    (condition t lines index c).Blind :=
  .bind (blind_expression _ _) fun _ => .pure _

theorem blind_update (t : TemplateId) (lines : Arena InstanceLine) (index : Nat) (u : Update) :
    (update t lines index u).Blind :=
  .bind (blind_expression _ _) fun _ => .pure _

/-! ## Templates -/

/-- A template that is entered as copied. -/
theorem blind_enter (t new : TemplateId) :
    (modify fun c => { c with templates := Ordered.put c.templates t new } : CopyM Unit).Blind :=
  ⟨fun _ => rfl, fun h => ⟨h.store, h.symbols, congrArg (Ordered.put · t new) h.templates⟩⟩

theorem blind_emptyTemplate (globals : FrameId) (log : LogId) (t : TemplateId) :
    (emptyTemplate globals log t).Blind := by
  unfold emptyTemplate
  refine .look (fun s => .look (fun s' => ?_) fun _ _ => rfl) fun _ _ => rfl
  refine .bind (blind_symbol _) fun _ => .bind (blind_symbolList _) fun _ => ?_
  refine .bind (.make fun _ _ => rfl) fun new => .bind (blind_enter t new) fun _ => ?_
  exact .bind (blind_symbolList _) fun _ => .bind (.change fun _ _ => rfl) fun _ => .pure new

theorem blind_body (t new : TemplateId) : (body t new).Blind := by
  unfold body
  refine .look (fun s => .look (fun s' => .look (fun s'' => ?_) fun _ _ => rfl) fun _ _ => rfl)
    fun _ _ => rfl
  refine .bind (.option blind_symbol _) fun _ => .bind (blind_looseFrame _) fun _ => ?_
  refine .bind (.change fun _ _ => rfl) fun _ => ?_
  refine .bind (.zipIdx (fun l i => blind_location new i l) _) fun _ => ?_
  refine .bind (.zipIdx (fun b i => blind_branchpoint new i b) _) fun _ => ?_
  refine .bind (.zipIdx (fun e i => blind_edge new _ _ i e) _) fun _ => ?_
  refine .bind (blind_terms _) fun _ => ?_
  refine .bind (.zipIdx (fun l i => blind_line new i l) _) fun _ => ?_
  refine .bind (.zipIdx (fun m i => blind_message new _ i m) _) fun _ => ?_
  refine .bind (.zipIdx (fun c i => blind_condition new _ i c) _) fun _ => ?_
  exact .bind (.zipIdx (fun u i => blind_update new _ i u) _) fun _ => .change fun _ _ => rfl

theorem blind_template (globals : FrameId) (log : LogId) (t : TemplateId) :
    (template globals log t).Blind := by
  unfold template
  refine .bind (blind_emptyTemplate _ _ _) fun new => ?_
  refine .look (fun s => .look (fun s' => ?_) fun _ _ => rfl) fun _ _ => rfl
  exact .bind (blind_contents _ _) fun _ => .bind (blind_body _ _) fun _ => .pure new

theorem blind_relink (t : TemplateId) : (relink t).Blind := by
  -- Every turn of the loop over the lines changes one instance.
  refine .state (fun c => .change fun s logs => ?_) fun _ _ => rfl
  exact List.foldl_hom (fun u : Store => u.withLogs logs) fun _ _ => rfl

/-! ## Documents -/

theorem blind_chanPriority (p : ChanPriority) : (chanPriority p).Blind := by
  refine .bind (blind_term _) fun _ => .bind (.mapM (fun link => ?_) _) fun _ => .pure _
  exact .bind (blind_term _) fun _ => .pure _

/-- The log of the copy has the entries of the log of the document, whatever they are. -/
theorem blind_emptyDocument (d : DocumentId) : (emptyDocument d).Blind := by
  unfold emptyDocument
  refine .look (fun s => ?_) fun _ _ => rfl
  refine .bind (.make fun _ _ => rfl) fun lineTable => .bind (.makeAlike fun h => ?_) fun log => ?_
  · exact h.newLog ((h.logs.get _).withLineTable lineTable)
  · exact .make fun _ _ => rfl

theorem blind_byName (templates : List TemplateId) : (byName templates).Blind :=
  .look (fun _ => .pure _) fun _ _ => rfl

theorem blind_fill (d copy : DocumentId) : (fill d copy).Blind := by
  unfold fill
  refine .look (fun s => .look (fun s' => .look (fun s'' => ?_) fun _ _ => rfl) fun _ _ => rfl)
    fun _ _ => rfl
  refine .bind (blind_contents _ _) fun _ => ?_
  refine .bind (.mapM (blind_template _ _) _) fun _ => .bind (.mapM (blind_template _ _) _) fun _ => ?_
  refine .bind (blind_byName _) fun _ => .bind (.forM blind_relink _) fun _ => ?_
  refine .bind (.mapM (blind_instWith .inst) _) fun _ => ?_
  refine .bind (.mapM (blind_instWith .inst) _) fun _ => ?_
  refine .bind (.mapM (blind_instWith .process) _) fun _ => ?_
  refine .bind (.mapM blind_chanPriority _) fun _ => .bind (blind_expression _ _) fun _ => ?_
  exact .bind (blind_expression _ _) fun _ => .change fun _ _ => rfl

theorem blind_document (d : DocumentId) : (document d).Blind :=
  .bind (blind_emptyDocument d) fun copy => .bind (blind_fill d copy) fun _ => .pure copy

end CopyM

/-- **Copies of a document in alike stores are made alike.** -/
theorem Store.Alike.copyDocument (h : s.Alike s') (document : DocumentId) :
    AlikeAfter (s.copyDocument document) (s'.copyDocument document) := by
  have hstart : Copying.Alike { store := s } { store := s' } := ⟨h, rfl, rfl⟩
  have hblind := CopyM.blind_document document
  exact ⟨(hblind.walk hstart).store, hblind.given hstart⟩

end TimedNet
