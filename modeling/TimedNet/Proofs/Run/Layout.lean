import TimedNet.Proofs.Binding.Layout
import TimedNet.Proofs.Run.Reachable

/-!
# `TimedNet.Proofs.Run.Layout` — the layout of all instances

Instances come into a store with a template, in a step of instantiation, or as copies. When templates
have distinct parameters and steps of instantiation open new ones, all instances are well laid out.

* `Operation.OpensNew`: what is asked of the operations.
* `Step.laidOut`: what a step preserves.
* `layout`: what holds of every reachable store, and at each step of instantiation.
-/

namespace TimedNet

/-- Templates are made with distinct parameters, and a step of instantiation for which the arguments are
    not too many opens distinct parameters that its base does not have. -/
def Operation.OpensNew (s : Store) : Operation → Prop
  | .newTemplate _ parameters .. | .addTemplate _ _ parameters ..
  | .addDynamicTemplate _ _ parameters _ => parameters.Nodup
  | .addInstance _ _ base parameters arguments _ | .addLscInstance _ _ base parameters arguments _
  | .bindLine _ _ base parameters arguments =>
    arguments.length ≤ (s.inst base).binding.unbound →
      parameters.Nodup ∧ ∀ p ∈ parameters, p ∉ (s.inst base).binding.parameters
  | .extendParameters .. => False
  | _ => True

/-- The bindings that a step brings in are well laid out. -/
def Write.LaidOut : Write → Prop
  | .inst binding | .bind _ binding => binding.WellLaidOut
  | .newTemplate _ rs => rs.Nodup
  | .parameters .. => False
  | _ => True

instance (s : Store) (op : Operation) : Decidable (op.OpensNew s) := by
  unfold Operation.OpensNew
  split <;> infer_instance

namespace Store

variable {s s' : Store}

/-- All instances are well laid out. -/
def LaidOut (s : Store) : Prop := ∀ i ∈ s.insts, (s.inst i).binding.WellLaidOut

theorem LaidOut.push (h : s.LaidOut) {i : Instance} (hi : i.binding.WellLaidOut) :
    ∀ r ∈ s.insts.push i, ((s.insts.push i).get r).binding.WellLaidOut := by
  exact Table.forall_push (P := fun i : Instance => i.binding.WellLaidOut) h hi

theorem LaidOut.modify (h : s.LaidOut) {q : InstanceId} {f : Instance → Instance}
    (hf : q ∈ s.insts → (f (s.inst q)).binding.WellLaidOut) : (s.modifyInst q f).LaidOut := by
  have hchanged : s.insts.Renews (fun _ i => i.binding.WellLaidOut) (s.insts.modify q f) :=
    Table.renews_modify hf
  exact hchanged.forall h

/-- What is copied for an instance is well laid out, whether it is the instance or made anew. -/
theorem LaidOut.instSource (hlaid : s.LaidOut) {d : DocumentId} {i : InstanceId} (hi : i ∈ s.insts) :
    (s.instSource d i).binding.WellLaidOut := by
  rcases s.instSource_cases d i with heq | ⟨t, -, -, heq⟩ <;> rw [heq]
  · exact hlaid i hi
  · exact (Binding.wellLaidOut_ofParameters (hlaid i hi).distinct).restrict _

/-- The copies of the symbols of an instance are as distinct as the symbols are. -/
theorem LaidOut.relocated (h : s.Sound) (hlaid : s.LaidOut) {d : DocumentId}
    (hd : d ∈ s.documents) : (s.relocated d).1.LaidOut := by
  have hcopies : s.insts.Renews (fun _ i => i.binding.WellLaidOut) (s.relocated d).1.insts := by
    refine Table.renews_pushAll fun k x hx => ?_
    rw [List.getElem?_map] at hx
    obtain ⟨i, hi, rfl⟩ := Option.map_eq_some_iff.mp hx
    have howned := List.mem_of_getElem? hi
    refine (hlaid.instSource (h.inst_mem_of_owned hd howned)).map fun p hp q hq heq => ?_
    -- Both symbols are mentioned in the document, so their copies are different if they are.
    have hmem : ∀ r ∈ (s.instSource d i).binding.parameters, r ∈ s.mentioned d := by
      intro r hr
      refine h.mem_mentioned_of_inst hd howned ((h.mem_symbols_instSource hd howned).mp ?_)
      unfold Instance.symbols
      simp [hr]
    exact Relocation.apply_injective_of_mem (hmem p hp) (hmem q hq) heq
  exact hcopies.forall hlaid

/-- **A step that brings in well laid out bindings leaves all instances well laid out.** -/
theorem Step.laidOut {w : Write} (hstep : s.Step w s') (h : s.Sound) (hw : w.LaidOut)
    (hlaid : s.LaidOut) : s'.LaidOut := by
  cases hstep with
  | parameters r rs _ => exact hw.elim
  | inst i _ => exact hlaid.push hw
  | restrict r rs _ => exact hlaid.modify fun hr => (hlaid r hr).restrict rs
  | bind r template b _ _ _ => exact hlaid.modify fun _ => hw
  | newTemplate symbol parameters globals log style _ _ _ _ _ =>
    exact hlaid.push (Binding.wellLaidOut_ofParameters hw)
  | aside s' ha =>
    intro i hi
    rw [ha.insts] at hi
    rw [Store.inst, ha.insts]
    exact hlaid i hi
  | copy document hdocument => exact hlaid.relocated h hdocument
  | _ => exact hlaid

theorem Path.laidOut {P : Write → Prop} (hpath : Path P s s') (hP : ∀ w, P w → w.LaidOut)
    (h : s.Sound) (hlaid : s.LaidOut) : s'.LaidOut :=
  hpath.keeps h (fun hw hstep hsound => hstep.laidOut hsound (hP _ hw)) hlaid

/-! ## Operations -/

/-- A step of instantiation that opens new parameters of a well laid out base is well laid out. -/
theorem LaidOut.bind? (hlaid : s.LaidOut) {base : InstanceId} (hbase : base ∈ s.insts)
    {parameters : List SymbolId} {arguments : List (Term SymbolId)}
    (hnew : arguments.length ≤ (s.inst base).binding.unbound →
      parameters.Nodup ∧ ∀ p ∈ parameters, p ∉ (s.inst base).binding.parameters)
    {b : Binding SymbolId} (hb : b ∈ (s.inst base).binding.bind? parameters arguments) :
    b.WellLaidOut := by
  obtain ⟨hargs, rfl⟩ := Binding.eq_extend_of_bind? hb
  exact Binding.wellLaidOut_extend (hlaid base hbase) hargs (hnew hargs).1 (hnew hargs).2

/-- **All that such an operation can write is well laid out.** -/
theorem LaidOut.writes (hlaid : s.LaidOut) {op : Operation} (hop : op.Admissible s)
    (hnew : op.OpensNew s) : ∀ w ∈ op.writes s, w.LaidOut := by
  cases op with
  | newTemplate symbol parameters globals log style =>
    exact List.forall_mem_singleton.mpr hnew
  | copyInst inst symbol =>
    exact List.forall_mem_singleton.mpr (hlaid inst (hop.others (.inst inst) List.mem_cons_self))
  | addTemplate document name parameters span style =>
    have hparameters : parameters.Nodup := hnew
    simpa [Operation.writes, Write.LaidOut] using hparameters
  | addDynamicTemplate document name parameters span =>
    have hparameters : parameters.Nodup := hnew
    intro w hw
    rcases List.mem_append.mp hw with hw | hw
    · simp only [List.mem_cons, List.not_mem_nil, or_false] at hw
      rcases hw with rfl | rfl | rfl | rfl | rfl
      · trivial
      · trivial
      · exact hparameters
      · trivial
      · trivial
    · obtain ⟨t, _, rfl⟩ := List.mem_map.mp hw
      trivial
  | addInstance document name base parameters arguments span
  | addLscInstance document name base parameters arguments span =>
    have hbase : base ∈ s.insts := hop.others (.inst base) List.mem_cons_self
    intro w hw
    rcases List.mem_append.mp hw with hw | hw
    · simp only [List.mem_cons, List.not_mem_nil, or_false] at hw
      rcases hw with rfl | rfl | rfl <;> trivial
    · obtain ⟨b, hb, rfl⟩ := List.mem_map.mp hw
      exact hlaid.bind? hbase hnew (by simpa using hb)
  | addProcess document inst span =>
    have hinst := hlaid inst (hop.others (.inst inst) List.mem_cons_self)
    simpa [Operation.writes, Write.LaidOut] using hinst
  | addInstanceLine template name span =>
    have hempty : (Binding.ofParameters ([] : List SymbolId)).WellLaidOut :=
      Binding.wellLaidOut_ofParameters List.nodup_nil
    simpa [Operation.writes, Write.LaidOut] using hempty
  | bindLine template index base parameters arguments =>
    have hbase : base ∈ s.insts := hop.others (.inst base) List.mem_cons_self
    intro w hw
    obtain ⟨b, hb, rfl⟩ := List.mem_map.mp hw
    exact hlaid.bind? hbase hnew (by simpa using hb)
  | extendParameters inst symbols => exact hnew.elim
  | _ => simp [Operation.writes, Write.LaidOut]

theorem Run.laidOut (hrun : Run Operation.OpensNew {} s) : s.LaidOut := by
  induction hrun with
  | refl => exact fun i hi => absurd hi (Nat.not_lt_zero _)
  | step run op hadmissible hnew ih =>
    -- The store before the last operation is sound, so the operation is a path of its steps.
    have h := run.sound sound_empty
    exact (h.path_perform hadmissible).laidOut (ih.writes hadmissible hnew) h ih

/-! ## Steps of instantiation -/

/-- An instance that was made has the binding that its base was extended to. -/
theorem binding_instantiate {d : DocumentId} {name : String} {base i : InstanceId}
    {parameters : List SymbolId} {arguments : List (Term SymbolId)} {span : Span}
    {enlist : InstanceId → Document → Document}
    (h : s.instantiate d name base parameters arguments span enlist = (s', .ok i)) :
    arguments.length ≤ (s.inst base).binding.unbound
      ∧ (s'.inst i).binding = (s.inst base).binding.extend parameters arguments := by
  unfold instantiate at h
  rcases s.bind_cases base parameters arguments with heq | ⟨b, hb, hextend, heq⟩ <;> rw [heq] at h
  · exact absurd (congrArg Prod.snd h) (by simp [reject])
  · let x : Symbol := { name, type := "instance", span, subject := .inst s.insts.next }
    dsimp only at h
    rcases s.declare_cases (s.globalFrame d) x with heq | ⟨hnew, heq⟩ <;> rw [heq] at h
    · exact absurd (congrArg Prod.snd h) (by simp [reject])
    · obtain ⟨rfl, hi⟩ := Prod.mk.inj h
      obtain rfl := Except.ok.inj hi
      refine ⟨(Binding.eq_extend_of_bind? hb).1, ?_⟩
      rw [← hextend]
      exact congrArg Instance.binding (Table.get_push_next s.insts _)

theorem binding_bindLine {line base i : InstanceId} (hline : line ∈ s.insts)
    {parameters : List SymbolId} {arguments : List (Term SymbolId)}
    (h : s.bindLine line base parameters arguments = (s', .ok i)) :
    arguments.length ≤ (s.inst base).binding.unbound
      ∧ (s'.inst i).binding = (s.inst base).binding.extend parameters arguments := by
  unfold bindLine at h
  rcases s.bind_cases base parameters arguments with heq | ⟨b, hb, hextend, heq⟩ <;> rw [heq] at h
  · exact absurd (congrArg Prod.snd h) (by simp)
  · obtain ⟨rfl, hi⟩ := Prod.mk.inj h
    obtain rfl := Except.ok.inj hi
    refine ⟨(Binding.eq_extend_of_bind? hb).1, ?_⟩
    rw [← hextend]
    exact congrArg Instance.binding (Table.get_modify_self _ hline)

/-- **The layout of all instances.** When every template is made with distinct parameters and every step
    of instantiation opens new and distinct ones, the instances of every document and of every copy of
    it are well laid out: those of its templates and lines, the named ones, and the processes. Each step
    opens what it is given and closes one parameter for each argument. A step that opens a parameter
    twice, or one that its base has, breaks the layout. -/
theorem layout (hrun : Run Operation.OpensNew {} s) :
    (∀ d ∈ s.documents, (∀ i ∈ s.ownedInsts d, (s.inst i).binding.WellLaidOut)
      ∧ ∀ i ∈ (s.copyDocument d).1.ownedInsts (s.copyDocument d).2,
          ((s.copyDocument d).1.inst i).binding.WellLaidOut)
    ∧ (∀ d name base parameters arguments span i s', base ∈ s.insts →
        s.addInstance d name base parameters arguments span = (s', .ok i)
          ∨ s.addLscInstance d name base parameters arguments span = (s', .ok i)
          ∨ i ∈ s.insts ∧ s.bindLine i base parameters arguments = (s', .ok i) →
        (s'.inst i).binding.unbound + arguments.length
          = parameters.length + (s.inst base).binding.unbound)
    ∧ ∀ (base : Binding SymbolId) (parameters : List SymbolId) (arguments : List (Term SymbolId)),
        base.WellLaidOut → arguments.length ≤ base.unbound →
        ∃ b, base.bind? parameters arguments = some b
          ∧ (b.WellLaidOut ↔ parameters.Nodup ∧ ∀ p ∈ parameters, p ∉ base.parameters) := by
  have h := hrun.sound sound_empty
  have hlaid := hrun.laidOut
  refine ⟨fun d hd => ⟨fun i hi => hlaid i (h.inst_mem_of_owned hd hi), fun i hi => ?_⟩, ?_, ?_⟩
  · have hcopy := h.relocated hd
    have hmem : (s.relocated d).2 ∈ (s.relocated d).1.documents := Table.next_mem_push _ _
    rw [h.copyDocument_eq hd] at hi ⊢
    exact hlaid.relocated h hd i (hcopy.inst_mem_of_owned hmem hi)
  · intro d name base parameters arguments span i s' hbase hmade
    have hbinding : arguments.length ≤ (s.inst base).binding.unbound
        ∧ (s'.inst i).binding = (s.inst base).binding.extend parameters arguments := by
      rcases hmade with hmade | hmade | ⟨hi, hmade⟩
      · exact binding_instantiate hmade
      · exact binding_instantiate hmade
      · exact binding_bindLine hi hmade
    rw [hbinding.2, (hlaid base hbase).unbound_extend_eq]
    omega
  · intro base parameters arguments hbase hargs
    refine ⟨base.extend parameters arguments, ?_, Binding.wellLaidOut_extend_iff hbase hargs⟩
    rw [Binding.bind?, if_pos hargs]

/-- A template with two parameters, an instance of it that binds the first one to a new one, and a copy
    of both: the copied instance has the new parameter open, then the second one, then the first. -/
theorem layout_copied_instance : ∃ s : Store, Run Operation.OpensNew {} s
    ∧ (s.inst ⟨3⟩).binding.parameters = [⟨9⟩, ⟨8⟩, ⟨7⟩] ∧ (s.inst ⟨3⟩).binding.WellLaidOut := by
  let parameter : Symbol := { name := "p", type := "int", subject := .parameter }
  let ops : List Operation :=
    [.newSymbol parameter, .newSymbol parameter, .newSymbol parameter, .openDocument none none,
      .addTemplate ⟨0⟩ "T" [⟨0⟩, ⟨1⟩] {} {},
      .addInstance ⟨0⟩ "I" ⟨0⟩ [⟨2⟩] [.identifier ⟨2⟩ {}] {}, .copyDocument ⟨0⟩]
  have hperforms : ({} : Store).Performs Operation.OpensNew ops := by decide +kernel
  have hrun : Run Operation.OpensNew {} (ops.foldl perform {}) := Run.refl.performs hperforms
  refine ⟨ops.foldl perform {}, hrun, by decide +kernel, ?_⟩
  exact ((layout hrun).1 ⟨1⟩ (by decide +kernel)).1 ⟨3⟩ (by decide +kernel)

end Store

end TimedNet
