import TimedNet.Proofs.Run.Frames

/-!
# `TimedNet.Proofs.Run.Scoping` — where the frames of templates begin and where they lie

The local frame of a template begins with its parameters, also if a program adds symbols to it by hand, but
not if it adds them to the parameters. The symbols that an edge selects are in a frame that lies in no other.

* `Store.ParametersFirst`, `Run.parametersFirst`: the parameters, step by step.
* `Store.SelectsLoose`: the frames of edges. `SelectsLoose.addEdge`, `SelectsLoose.addMessage`, … are about
  operations that write the body of a template, `Step.selectsLoose` is about all others.
* `Run.selectsLoose`.
-/

namespace TimedNet

/-- What a frame starts with stands at its beginning. -/
theorem Frame.StartsWith.begins {f : Frame} {first : List SymbolId} (h : f.StartsWith first) :
    first <+: f.symbols := by
  obtain ⟨rest, heq, -⟩ := h
  exact ⟨rest, heq.symm⟩

/-- A change of a template that is none of its body leaves the edges alone. -/
theorem Template.Edit.edges_eq {s : Store} {r : TemplateId} {a : Template.Aspect} {t u : Template}
    (h : t.Edit s r a u) (ha : a ≠ .body) : u.edges = t.edges := by
  cases h with
  | makeDynamic | define | setInitial | assign => rfl
  | _ => exact absurd rfl ha

namespace Store

variable {condition : Store → Operation → Prop} {s s' : Store} {w : Write} {t : TemplateId}

/-! ## Parameters -/

/-- Local frames begin with the parameters of their templates. -/
def ParametersFirst (s : Store) : Prop :=
  ∀ t ∈ s.templates,
    (s.inst (s.template t).inst).binding.parameters <+: (s.frame (s.localFrame t)).symbols

/-- Frames grow at their end, and a template that is made has its parameters in its frame. -/
theorem Step.parametersFirst (hstep : s.Step w s') (h : s.Sound) (hw : w.LeavesParameters s)
    (hfirst : s.ParametersFirst) : s'.ParametersFirst := by
  intro t ht
  have hg := hstep.grows
  have hold : t ∈ s.templates → (s'.inst (s'.template t).inst).binding.parameters
      <+: (s'.frame (s'.localFrame t)).symbols := by
    intro hold
    have hblock := (h.templates t hold).block
    have hframe : s'.localFrame t = s.localFrame t := by
      rw [localFrame, show (s'.template t).block = _ from (hg.templates t hold).2.block]
      exact (hg.blocks _ hblock).2.frame
    have hinst : (s'.template t).inst = (s.template t).inst := (hg.templates t hold).2.inst
    obtain ⟨restricted, more, hbinding, hmore⟩ := hstep.binding_template h hold
    rw [hinst, hbinding, hmore hw, List.append_nil, hframe]
    exact (hfirst t hold).trans (hg.frames _ (h.blocks _ hblock).frame).2.symbols
  rcases hstep.template_cases h ht with ⟨hmem, -⟩ | ⟨hmem, -⟩
    | ⟨symbol, parameters, globals, log, style, rfl, rfl⟩ | ⟨d, hd, rfl, u, hu, rfl⟩
  · exact hold hmem
  · exact hold hmem
  · exact Frame.StartsWith.begins (startsWith_newTemplate s symbol parameters globals log style)
  · exact Frame.StartsWith.begins (h.startsWith_relocated hd hu)

theorem Run.parametersFirst (hrun : Run Operation.LeavesParameters {} s) : s.ParametersFirst := by
  induction hrun with
  | refl => exact fun _ ht => absurd ht (Nat.not_lt_zero _)
  | step run op hadmissible hleaves ih =>
    have h := run.sound sound_empty
    cases op with
    | extendParameters inst symbols =>
      exact (Step.parameters inst symbols hadmissible.symbols).parametersFirst h (h.ne_own hleaves) ih
    | _ =>
      refine (h.path_perform hadmissible).keeps h (fun hw hstep hsound => ?_) ih
      exact hstep.parametersFirst hsound (leavesParameters_of_mem_writes (by simp) hw _)

/-! ## Selected symbols -/

/-- The frames of selected symbols lie in no other. -/
def SelectsLoose (s : Store) : Prop :=
  ∀ t ∈ s.templates, ∀ e ∈ (s.template t).edges, e.select.parent = none

namespace SelectsLoose

theorem of_templates_eq (h : s.SelectsLoose) (heq : s'.templates = s.templates) : s'.SelectsLoose := by
  intro t ht
  rw [template, heq]
  exact h t (heq ▸ ht)

theorem modifyTemplate (h : s.SelectsLoose) (r : TemplateId) {f : Template → Template}
    (hf : ∀ t : Template, (∀ e ∈ t.edges, e.select.parent = none) →
      ∀ e ∈ (f t).edges, e.select.parent = none) : (s.modifyTemplate r f).SelectsLoose := by
  intro t ht
  have hold : t ∈ s.templates := Table.mem_modify.mp ht
  by_cases hr : r = t
  · subst hr
    rw [show (s.modifyTemplate r f).template r = f (s.template r) from Table.get_modify_self f hold]
    exact hf _ (h r hold)
  · rw [show (s.modifyTemplate r f).template t = s.template t from Table.get_modify_of_ne f hr]
    exact h t hold

theorem modifyEdge (h : s.SelectsLoose) (r : TemplateId) (index : Nat) {f : Edge → Edge}
    (hf : ∀ e : Edge, (f e).select.parent = e.select.parent) : (s.modifyEdge r index f).SelectsLoose := by
  refine h.modifyTemplate r fun t ht e he => ?_
  obtain ⟨i, hi⟩ := List.mem_iff_getElem?.mp he
  rw [List.getElem?_modify] at hi
  obtain ⟨a, ha, heq⟩ := Option.map_eq_some_iff.mp hi
  have hloose := ht a (List.mem_of_getElem? ha)
  split at heq
  · rw [← heq, hf, hloose]
  · rw [← heq]
    exact hloose

theorem reject {α : Type} (h : s.SelectsLoose) (log : LogId) (span : Span) (p : Problem) :
    (s.reject log span p : Attempt α).1.SelectsLoose :=
  h.of_templates_eq rfl

theorem declared (h : s.SelectsLoose) (r : FrameId) (x : Symbol) : (s.declared r x).SelectsLoose :=
  h.of_templates_eq rfl

theorem addLocation (h : s.SelectsLoose) (r : TemplateId) (name : String) (invariant rate : Expression)
    (span : Span) : (s.addLocation r name invariant rate span).1.SelectsLoose := by
  let x : Symbol := { name, type := "location", span, subject := .location r (s.template r).locations.size }
  rcases s.declare_cases (s.localFrame r) x with heq | ⟨-, heq⟩ <;> rw [Store.addLocation, heq]
  · exact h.reject _ _ _
  · exact (h.declared _ x).modifyTemplate r fun _ ht => ht

theorem addBranchpoint (h : s.SelectsLoose) (r : TemplateId) (name : String) (span : Span) :
    (s.addBranchpoint r name span).1.SelectsLoose := by
  let x : Symbol :=
    { name, type := "branchpoint", span, subject := .branchpoint r (s.template r).branchpoints.size }
  rcases s.declare_cases (s.localFrame r) x with heq | ⟨-, heq⟩ <;> rw [Store.addBranchpoint, heq]
  · exact h.reject _ _ _
  · exact (h.declared _ x).modifyTemplate r fun _ ht => ht

theorem addInstanceLine (h : s.SelectsLoose) (r : TemplateId) (name : String) (span : Span) :
    (s.addInstanceLine r name span).1.SelectsLoose := by
  let x : Symbol := { name, type := "instance-line", span, subject := .line r (s.template r).lines.size }
  rcases s.declare_cases (s.localFrame r) x with heq | ⟨-, heq⟩ <;> rw [Store.addInstanceLine, heq]
  · exact h.reject _ _ _
  · refine modifyTemplate (h.of_templates_eq ?_) r fun _ ht => ht
    rfl

/-- A new edge selects nothing at first. -/
theorem addEdge (h : s.SelectsLoose) (r : TemplateId) (source target : SymbolId) (control : Bool)
    (actname : String) : (s.addEdge r source target control actname).1.SelectsLoose := by
  unfold Store.addEdge
  split
  · exact h.reject _ _ _
  · split
    · exact h.reject _ _ _
    · refine h.modifyTemplate r fun t ht e he => ?_
      rcases List.mem_append.mp he with hold | hnew
      · exact ht e hold
      · rw [List.mem_singleton.mp hnew]

theorem addMessage (h : s.SelectsLoose) (r : TemplateId) (source target : SymbolId) (location : Int)
    (prechart : Bool) (label : Expression) :
    (s.addMessage r source target location prechart label).1.SelectsLoose := by
  unfold Store.addMessage
  split
  · exact h.reject _ _ _
  · split
    · exact h.reject _ _ _
    · exact h.modifyTemplate r fun _ ht => ht

theorem addCondition (h : s.SelectsLoose) (r : TemplateId) (anchors : List SymbolId) (location : Int)
    (prechart hot : Bool) (label : Expression) :
    (s.addCondition r anchors location prechart hot label).1.SelectsLoose := by
  unfold Store.addCondition
  split
  · exact h.modifyTemplate r fun _ ht => ht
  · exact h.reject _ _ _

theorem addUpdate (h : s.SelectsLoose) (r : TemplateId) (anchor : SymbolId) (location : Int)
    (prechart : Bool) (label : Expression) :
    (s.addUpdate r anchor location prechart label).1.SelectsLoose := by
  unfold Store.addUpdate
  split
  · exact h.modifyTemplate r fun _ ht => ht
  · exact h.reject _ _ _

end SelectsLoose

/-- Without its body a template keeps its edges; one that is made has none; and frames are copied without
    the frames around them. -/
theorem Step.selectsLoose (hstep : s.Step w s') (hw : ∀ r, w ≠ .template r .body) (h : s.Sound)
    (hloose : s.SelectsLoose) : s'.SelectsLoose := by
  intro t ht e he
  rcases hstep.template_cases h ht with ⟨hold, heq⟩ | ⟨hold, a, rfl, hedit⟩
    | ⟨symbol, parameters, globals, log, style, rfl, rfl⟩ | ⟨d, hd, rfl, u, hu, rfl⟩
  · exact hloose t hold e (heq ▸ he)
  · have ha : a ≠ .body := fun hbody => hw t (congrArg _ hbody)
    exact hloose t hold e (hedit.edges_eq ha ▸ he)
  · rw [template_newTemplate] at he
    exact absurd he List.not_mem_nil
  · rw [relocated_template hu] at he
    obtain ⟨i, f, -, rfl⟩ := List.mem_mapIdx.mp he
    rfl

/-- **No operation puts the frame of selected symbols into another one.** -/
theorem SelectsLoose.perform (hloose : s.SelectsLoose) (h : s.Sound) {op : Operation}
    (hop : op.Admissible s) : (s.perform op).SelectsLoose := by
  cases op with
  | addLocation template name invariant rate span =>
    exact hloose.addLocation template name invariant rate span
  | addBranchpoint template name span => exact hloose.addBranchpoint template name span
  | addInstanceLine template name span => exact hloose.addInstanceLine template name span
  | addEdge template source target control actname =>
    exact hloose.addEdge template source target control actname
  | addMessage template source target location prechart label =>
    exact hloose.addMessage template source target location prechart label
  | addCondition template anchors location prechart hot label =>
    exact hloose.addCondition template anchors location prechart hot label
  | addUpdate template anchor location prechart label =>
    exact hloose.addUpdate template anchor location prechart label
  | addDynamicEval template term => exact hloose.modifyTemplate template fun _ ht => ht
  | assignLocation template => exact hloose.modifyTemplate template fun _ ht => ht
  | assignEdge template index => exact hloose.modifyEdge template index fun _ => rfl
  | extendEdge template index => exact hloose.modifyEdge template index fun _ => rfl
  | _ =>
    refine Path.keeps (P := fun w => ∀ r, w ≠ .template r .body) ?_ h
      (fun hw hstep hsound hloose => hstep.selectsLoose hw hsound hloose) hloose
    exact (h.path_perform hop).imp (by simp [Operation.writes])

theorem Run.selectsLoose (hrun : Run condition {} s) : s.SelectsLoose := by
  induction hrun with
  | refl => exact fun _ ht => absurd ht (Nat.not_lt_zero _)
  | step run op hadmissible _ ih => exact ih.perform (run.sound sound_empty) hadmissible

end Store

end TimedNet
