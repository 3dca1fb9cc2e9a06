import TimedNet.Proofs.Separation.Footprint
import TimedNet.Proofs.Transfer.Entries

/-!
# `TimedNet.Proofs.Transfer.Variables` — copying variables is exact

* `Entries.variables`: variables as entries of a block.
* `copied_copyVariable`: one turn of the loop.
* `copyVariables_exact`: what a call of `copyVariables` does, for any two templates.
-/

namespace TimedNet

/-- The variables of a block. A copy has the initialiser of the original. -/
def Entries.variables : Entries Variable where
  list b := b.vars
  without b := { b with vars := [] }
  symbol v := v.symbol
  place b i := .var (.ofBlock b i)
  Proper s v := s.HasAll v.symbols
  Filled _ _ _ _ v w := w.init = v.init
  symbol_mem hv := (Variable.hasAll_symbols.mp hv).1
  proper_later hkeeps hv := hkeeps.hasAll hv
  filled_later _ hinit := hinit
  filled_earlier _ _ hinit := hinit

/-- The operation adds variables to a template or gives a variable of it another initialiser. -/
def Operation.ChangesVariables (t : TemplateId) (s : Store) : Operation → Prop
  | .declareVariable block .. | .addVariable _ block .. => block = (s.template t).block
  | .copyVariables _ _ target => target = t
  | .setInitialiser owner _ => ∃ index, owner = .ofBlock (s.template t).block index
  | _ => False

namespace Store

variable {s : Store} {b : BlockId} {l : LogId}

/-! ## One turn -/

/-- **One turn copies one variable**, or logs that its name is taken. -/
theorem copied_copyVariable (hready : Entries.Ready s b l) (v : Variable) :
    Entries.variables.Copied s (s.copyVariable l b v) b l [v] := by
  let x : Symbol := { s.symbol v.symbol with subject := .var (.ofBlock b (s.block b).vars.length) }
  cases hfree : Entries.variables.free s b v with
  | false =>
    have htaken : (s.lookup (s.frame (s.block b).frame) x.name).isSome = true :=
      Entries.lookup_isSome_of_free_eq_false hfree
    have hturn : s.copyVariable l b v = s.report l (s.symbol v.symbol).span
        (ProblemKind.duplicateDefinition.on (s.name v.symbol)) "" := by
      rw [copyVariable, declareVariable, declare_of_taken htaken]
      rfl
    rw [hturn]
    exact Entries.copied_of_taken hfree hready.log
  | true =>
    have hlookup : s.lookup (s.frame (s.block b).frame) x.name = none :=
      Entries.lookup_eq_none_of_free hfree
    let grown : Block → Block := fun c => { c with vars := c.vars ++ [⟨s.symbols.next, v.init⟩] }
    have hturn : s.copyVariable l b v = (s.declared (s.block b).frame x).modifyBlock b grown := by
      rw [copyVariable, declareVariable, declare_of_free hlookup]
      rfl
    have hblock : ((s.declared (s.block b).frame x).modifyBlock b grown).block b = grown (s.block b) :=
      Table.get_modify_self grown hready.block
    rw [hturn]
    refine Entries.copied_of_free (c := ⟨s.symbols.next, v.init⟩) hready hfree ?_ ?_ rfl ?_ ?_ ?_ ?_ rfl
    · exact ⟨Table.next_not_mem _, Table.next_mem_push _ _, Table.get_push_next _ _, rfl⟩
    · exact fun y hy => ⟨Table.mem_push_of_mem _ hy, Table.get_push_of_mem _ hy⟩
    · exact fun c => ⟨Table.mem_modify, fun hc => Table.get_modify_of_ne _ hc.symm⟩
    · rw [hblock]
    · rw [hblock]
      rfl
    · rw [hblock]
      rfl

/-! ## Calls -/

variable {d : DocumentId} {source target : TemplateId}

/-- A call copies the variables of one block into another. -/
theorem Sound.copied_copyVariables (h : s.Sound) (hdeclared : ∀ b ∈ s.blocks, s.Declared b)
    (hd : d ∈ s.documents) (hsource : source ∈ s.templates) (htarget : target ∈ s.templates) :
    Entries.variables.Copied s (s.copyVariables d source target) (s.template target).block
        (s.document d).log (s.block (s.template source).block).vars
      ∧ Live (copyVariable (s.document d).log (s.template target).block)
        (fun t => (t.block (s.template source).block).vars) 0 s (s.copyVariables d source target) := by
  have hblock := (h.templates source hsource).block
  rw [copyVariables_eq_foldl]
  refine Entries.copied_block (ρ := .var) (fun _ => rfl)
    (fun hready _ => copied_copyVariable hready _) (h.ready hd htarget) ?_ (hdeclared _ hblock)
  exact (Block.hasAll_symbols.mp (h.blocks _ hblock).symbols).1

/-! ## Later changes -/

/-- What adds variables to a template, or changes them, writes to that template, to a log, or what is new. -/
theorem Operation.ChangesVariables.writes {op : Operation} {t : TemplateId}
    (hop : op.ChangesVariables t s) : ∀ w ∈ op.writes s, (∃ l, w = .log l) ∨ w = .fresh
      ∨ w = .declare (s.localFrame t) ∨ w = .block (s.template t).block := by
  intro w hw
  cases op with
  | declareVariable block type name init span =>
    obtain rfl : block = (s.template t).block := hop
    simp only [Operation.writes, List.mem_cons, List.not_mem_nil, or_false] at hw
    rcases hw with rfl | rfl <;> simp [localFrame]
  | addVariable document block type name init span =>
    obtain rfl : block = (s.template t).block := hop
    simp only [Operation.writes, List.mem_cons, List.not_mem_nil, or_false] at hw
    rcases hw with rfl | rfl | rfl <;> simp [localFrame]
  | copyVariables document source target =>
    obtain rfl : target = t := hop
    simp only [Operation.writes, List.mem_cons, List.not_mem_nil, or_false] at hw
    rcases hw with rfl | rfl | rfl | rfl <;> simp
  | setInitialiser owner init =>
    obtain ⟨index, rfl⟩ := hop
    simp only [Operation.writes, List.mem_cons, List.not_mem_nil, or_false] at hw
    rcases hw with rfl
    simp [VariableRef.block]
  | _ => exact absurd hop id

/-- The block and the frame of a template do not change. -/
theorem Sound.template_parts_eq {u : Store} (h : s.Sound) (hg : s.Grows u) {t : TemplateId}
    (ht : t ∈ s.templates) :
    (u.template t).block = (s.template t).block ∧ u.localFrame t = s.localFrame t := by
  have hblock : (u.template t).block = (s.template t).block := (hg.templates t ht).2.block
  refine ⟨hblock, ?_⟩
  rw [localFrame, hblock]
  exact (hg.blocks _ (h.templates t ht).block).2.frame

/-- **Whatever becomes of the variables of one template, another one keeps its block and its frame.** -/
theorem Run.same_of_changesVariables {u : Store} (hrun : Run (Operation.ChangesVariables source) s u)
    (h : s.Sound) (hsource : source ∈ s.templates) (htarget : target ∈ s.templates)
    (hne : source ≠ target) :
    u.block (s.template target).block = s.block (s.template target).block
      ∧ u.frame (s.localFrame target) = s.frame (s.localFrame target) := by
  have hready := (h.templates target htarget).block
  induction hrun with
  | refl => exact ⟨rfl, rfl⟩
  | @step t run op hadmissible hop ih =>
    have ht : t.Sound := run.sound h
    have hg : s.Grows t := run.grows h
    have hpath := ht.path_perform hadmissible
    have hsource' : (t.template source).block = (s.template source).block
        ∧ t.localFrame source = s.localFrame source := h.template_parts_eq hg hsource
    obtain ⟨hblock, hframe⟩ := h.apart_of_ne hsource htarget hne
    have hspared : ∀ w ∈ op.writes t, .block (s.template target).block ∉ w.targets
        ∧ .frame (s.localFrame target) ∉ w.targets := by
      intro w hw
      have hcases := Operation.ChangesVariables.writes hop w hw
      rw [hsource'.1, hsource'.2] at hcases
      rcases hcases with ⟨l, rfl⟩ | rfl | rfl | rfl
      · simp [Write.targets]
      · simp [Write.targets]
      · simp [Write.targets, hframe.symm]
      · simp [Write.targets, hblock.symm]
    have hsameBlock : (t.perform op).block (s.template target).block = t.block (s.template target).block :=
      hpath.same (e := .block (s.template target).block) (hg.blocks _ hready).1
        fun w hw => (hspared w hw).1
    have hsameFrame : (t.perform op).frame (s.localFrame target) = t.frame (s.localFrame target) :=
      hpath.same (e := .frame (s.localFrame target)) (hg.frames _ (h.blocks _ hready).frame).1
        fun w hw => (hspared w hw).2
    exact ⟨hsameBlock.trans ih.1, hsameFrame.trans ih.2⟩

/-- **Copying variables is exact.** For every store that a program reaches, every document, and any two
    templates or twice the same: the variables of the source whose names are not in the frame of the target
    are copied to the end of the target, in order, and for each of the others an error is logged; nothing else
    happens. The loop may as well read the variables of the source again at every turn: it stops, and there.
    Another template is left as it is by being copied, and its variables can be added to and changed
    afterwards without any effect on the target. -/
theorem copyVariables_exact {condition : Store → Operation → Prop} (hrun : Run condition {} s)
    (hd : d ∈ s.documents) (hsource : source ∈ s.templates) (htarget : target ∈ s.templates) :
    Entries.variables.Copied s (s.copyVariables d source target) (s.template target).block
        (s.document d).log (s.block (s.template source).block).vars
      ∧ (∀ u, Live (copyVariable (s.document d).log (s.template target).block)
          (fun t => (t.block (s.template source).block).vars) 0 s u ↔ u = s.copyVariables d source target)
      ∧ (source ≠ target →
        (s.copyVariables d source target).block (s.template source).block
            = s.block (s.template source).block
          ∧ (s.copyVariables d source target).frame (s.localFrame source)
            = s.frame (s.localFrame source)
          ∧ ∀ u, Run (Operation.ChangesVariables source) (s.copyVariables d source target) u →
            u.block (s.template target).block
                = (s.copyVariables d source target).block (s.template target).block
              ∧ u.frame (s.localFrame target)
                = (s.copyVariables d source target).frame (s.localFrame target)) := by
  have h := hrun.sound sound_empty
  obtain ⟨hcopied, hlive⟩ := h.copied_copyVariables hrun.declared hd hsource htarget
  refine ⟨hcopied, fun _ => hlive.iff_eq, ?_⟩
  intro hne
  obtain ⟨hblock, hframe⟩ := h.apart_of_ne hsource htarget hne
  refine ⟨(hcopied.confined.blocks _).2 hblock, (hcopied.confined.frames _).2 hframe, ?_⟩
  intro u hu
  have hadmissible : (Operation.copyVariables d source target).Admissible s :=
    ⟨by simp [Operation.receivers, Has, hd, htarget], by simp [Operation.others, Has, hsource],
      by simp [Operation.symbols], trivial⟩
  have hpath := h.path_perform hadmissible
  have hg : s.Grows (s.copyVariables d source target) := hpath.grows
  have hlater := hu.same_of_changesVariables (hpath.sound h) (hg.templates _ hsource).1
    (hg.templates _ htarget).1 hne
  rw [(h.template_parts_eq hg htarget).1, (h.template_parts_eq hg htarget).2] at hlater
  exact hlater

/-- A template with three variables, and one that has the names of two of them already, as a parameter and as
    a location. -/
def namesTaken : List Operation :=
  [.openDocument none none, .newSymbol { name := "p", type := "int", subject := .parameter },
    .addTemplate ⟨0⟩ "A" [] {} {}, .addTemplate ⟨0⟩ "B" [⟨0⟩] {} {},
    .addVariable ⟨0⟩ ⟨1⟩ "int" "p" .empty ⟨1, 2⟩,
    .addVariable ⟨0⟩ ⟨1⟩ "clock" "x" ⟨.built 0, .identifier ⟨0⟩ {}⟩ ⟨3, 4⟩,
    .addVariable ⟨0⟩ ⟨1⟩ "int" "q" .empty ⟨5, 6⟩, .addLocation ⟨1⟩ "q" .empty .empty {}]

/-- The store with these templates. -/
def twoTemplates : Store := namesTaken.foldl perform {}

/-- The same, when the variables of the one template were copied into the other. -/
def copiedOnce : Store := twoTemplates.copyVariables ⟨0⟩ ⟨0⟩ ⟨1⟩

/-- One of the variables is copied, and then none from the copy into itself. The copy stays as it is when the
    original gets another initialiser. -/
theorem copyVariables_exact_names_taken : Run (fun _ _ => True) {} twoTemplates
    ∧ Entries.variables.Copied twoTemplates copiedOnce ⟨2⟩ ⟨0⟩ (twoTemplates.block ⟨1⟩).vars
    ∧ ((twoTemplates.block ⟨1⟩).vars.map fun v => twoTemplates.name v.symbol) = ["p", "x", "q"]
    ∧ ((copiedOnce.block ⟨2⟩).vars.map fun v => (copiedOnce.symbol v.symbol, v.init.id))
      = [(⟨"x", "clock", ⟨3, 4⟩, .var (.ofBlock ⟨2⟩ 0)⟩, .built 0)]
    ∧ ((copiedOnce.log ⟨0⟩).errors.map fun e => (e.message, e.span.start))
      = [("$Duplicate_definition_of p", 1), ("$Duplicate_definition_of q", 5)]
    ∧ Live (copyVariable ⟨0⟩ ⟨2⟩) (fun t => (t.block ⟨2⟩).vars) 0 copiedOnce
        (copiedOnce.copyVariables ⟨0⟩ ⟨1⟩ ⟨1⟩)
    ∧ ((copiedOnce.copyVariables ⟨0⟩ ⟨1⟩ ⟨1⟩).block ⟨2⟩).vars.length = 1
    ∧ (copiedOnce.setInitialiser (.ofBlock ⟨1⟩ 1) .empty).block ⟨2⟩ = copiedOnce.block ⟨2⟩ := by
  have hperforms : ({} : Store).Performs (fun _ _ => True) namesTaken := by decide +kernel
  have hrun : Run (fun _ _ => True) {} twoTemplates := Run.refl.performs hperforms
  have hd : (⟨0⟩ : DocumentId) ∈ twoTemplates.documents := by decide +kernel
  have hsource : (⟨0⟩ : TemplateId) ∈ twoTemplates.templates := by decide +kernel
  have htarget : (⟨1⟩ : TemplateId) ∈ twoTemplates.templates := by decide +kernel
  have hexact := copyVariables_exact hrun hd hsource htarget
  rw [show (twoTemplates.template ⟨0⟩).block = ⟨1⟩ by decide +kernel,
    show (twoTemplates.template ⟨1⟩).block = ⟨2⟩ by decide +kernel,
    show (twoTemplates.document ⟨0⟩).log = ⟨0⟩ by decide +kernel] at hexact
  have hagain : Run (fun _ _ => True) {} copiedOnce :=
    hrun.step (.copyVariables ⟨0⟩ ⟨0⟩ ⟨1⟩) (by decide +kernel) trivial
  have hd' : (⟨0⟩ : DocumentId) ∈ copiedOnce.documents := by decide +kernel
  have htarget' : (⟨1⟩ : TemplateId) ∈ copiedOnce.templates := by decide +kernel
  have hitself := copyVariables_exact hagain hd' htarget' htarget'
  rw [show (copiedOnce.template ⟨1⟩).block = ⟨2⟩ by decide +kernel,
    show (copiedOnce.document ⟨0⟩).log = ⟨0⟩ by decide +kernel] at hitself
  have hlater := (hexact.2.2 (by decide)).2.2 _
    (.step .refl (.setInitialiser (.ofBlock ⟨1⟩ 1) .empty) (by decide +kernel)
      ⟨1, by decide +kernel⟩)
  exact ⟨hrun, hexact.1, by decide +kernel, by decide +kernel, by decide +kernel,
    (hitself.2.1 _).mpr rfl, by decide +kernel, hlater.1⟩

end Store

end TimedNet
