import TimedNet.Proofs.Copy.Walk
import TimedNet.Proofs.Run.Declarations
import TimedNet.Proofs.Run.Documents

/-!
# `TimedNet.Proofs.Run.Reachable` — what holds of every store that a program reaches

Every admissible operation is a path of the steps that its writes name. What each step preserves is
therefore preserved by every operation, and by every run.

* `path_perform`: an operation as a path.
* `Run.sound`: every reachable store is sound.
* `Run.keeps`: what every step keeps, a run keeps.
* `Run.grows`: nothing is lost on the way.
-/

namespace TimedNet.Store

variable {s : Store} {op : Operation}

/-- **Every admissible operation is a path of the steps that it can take.** -/
theorem Sound.path_perform (h : s.Sound) (hop : op.Admissible s) :
    Path (· ∈ op.writes s) s (s.perform op) := by
  obtain ⟨hreceivers, hothers, hsymbols, hwell⟩ := hop
  cases op with
  | newSymbol symbol => exact .single (by simp [Operation.writes]) (.symbols [symbol])
  | newFrame frame =>
    refine .single (by simp [Operation.writes]) (.frame frame hsymbols fun p hp => ?_)
    exact hothers (.frame p) (List.mem_map_of_mem (by simpa using hp))
  | extendFrame frame symbols =>
    exact .single (by simp [Operation.writes]) (.extend frame symbols hsymbols)
  | declareSymbol frame symbol => exact path_declare frame symbol (by simp [Operation.writes])
  | newBlock parent =>
    refine .single (by simp [Operation.writes]) (.block parent fun p hp => ?_)
    exact hothers (.frame p) (List.mem_map_of_mem (by simpa using hp))
  | newTemplate symbol parameters globals log style =>
    have hall := hasAll_cons.mp hsymbols
    refine .single (by simp [Operation.writes])
      (.newTemplate symbol parameters globals log style hall.1 hwell hall.2 (fun p hp => ?_) ?_)
    · exact hothers (.frame p) (List.mem_cons_of_mem _ (List.mem_map_of_mem (by simpa using hp)))
    · exact hothers (.log log) List.mem_cons_self
  | copyInst inst symbol =>
    have hinst : inst ∈ s.insts := hothers (.inst inst) List.mem_cons_self
    exact .single (by simp [Operation.writes])
      (.inst _ ((h.insts inst hinst).copy (hsymbols symbol List.mem_cons_self)))
  | extendParameters inst symbols =>
    exact .single (by simp [Operation.writes]) (.parameters inst symbols hsymbols)
  | newLineTable lines => exact .single (by simp [Operation.writes]) (.lineTable lines)
  | addLine lines entry => exact .single (by simp [Operation.writes]) (.editLineTable lines entry)
  | openLog lines =>
    refine path_openLog (fun l hl => ?_) (by simp [Operation.writes])
    exact hothers (.lineTable l) (List.mem_map_of_mem (by simpa using hl))
  | copyLog log lines =>
    have hlines : lines ∈ s.lineTables := hothers (.lineTable lines) (by simp [Operation.others])
    exact .single (by simp [Operation.writes]) (.log _ ⟨hlines⟩)
  | addError log | addWarning log | clearErrors log | clearWarnings log =>
    exact .single (by simp [Operation.writes]) (.editLog log _ fun _ => ⟨rfl⟩)
  | report log span problem context =>
    exact path_report log span problem context (by simp [Operation.writes])
  | openDocument lines log =>
    refine path_openDocument (fun l hl => ?_) (fun l hl => ?_) (by simp [Operation.writes])
    · exact hothers (.lineTable l) (List.mem_append_left _ (List.mem_map_of_mem (by simpa using hl)))
    · exact hothers (.log l) (List.mem_append_right _ (List.mem_map_of_mem (by simpa using hl)))
  | copyDocument document =>
    have hdocument : document ∈ s.documents := hothers (.document document) List.mem_cons_self
    -- The walk of the copy builds the image of the document under a renaming.
    rw [perform, h.copyDocument_eq hdocument]
    exact .single (by simp [Operation.writes]) (.copy document hdocument)
  | addTemplate document name parameters span style =>
    exact h.path_addTemplate (hreceivers (.document document) List.mem_cons_self) hsymbols
      (by simp [Operation.writes]) (by simp [Operation.writes]) (by simp [Operation.writes])
      (by simp [Operation.writes])
  | addDynamicTemplate document name parameters span =>
    exact h.path_addDynamicTemplate (hreceivers (.document document) List.mem_cons_self) hsymbols
      (by simp [Operation.writes]) (by simp [Operation.writes]) (by simp [Operation.writes])
      (by simp [Operation.writes]) (fun t ht => by simp_all [Operation.writes])
      (by simp [Operation.writes])
  | addInstance document name base parameters arguments span =>
    have hall := hasAll_append.mp hsymbols
    exact h.path_instantiate (hothers (.inst base) List.mem_cons_self) hall.1 hall.2
      (fun _ _ _ hi hstands hfree => .addInstance _ _ hi hstands hfree) (by simp [Operation.writes])
      (by simp [Operation.writes]) (fun b hb => by simp_all [Operation.writes])
      (by simp [Operation.writes])
  | addLscInstance document name base parameters arguments span =>
    have hall := hasAll_append.mp hsymbols
    exact h.path_instantiate (hothers (.inst base) List.mem_cons_self) hall.1 hall.2
      (fun _ _ _ hi hstands hfree => .addLscInstance _ _ hi hstands hfree)
      (by simp [Operation.writes]) (by simp [Operation.writes])
      (fun b hb => by simp_all [Operation.writes]) (by simp [Operation.writes])
  | addProcess document inst span =>
    exact h.path_addProcess (hothers (.inst inst) List.mem_cons_self) (by simp [Operation.writes])
      (by simp [Operation.writes]) (by simp [Operation.writes]) (by simp [Operation.writes])
  | removeProcess document inst => exact path_removeProcess (by simp [Operation.writes])
  | beginChanPriority document chan =>
    exact h.path_beginChanPriority hsymbols (by simp [Operation.writes])
  | addChanPriority document separator chan =>
    exact h.path_addChanPriority hsymbols (by simp [Operation.writes]) (by simp [Operation.writes])
  | setProcPriority document name priority =>
    exact h.path_setProcPriority (by simp [Operation.writes])
  | recordFeature document | setOptions document | addQuery document | addLibrary document =>
    exact h.path_setting (fun hd => .settings _ _ _ _ _ _ _ _ _ _ _ _ _ _ hd)
      (by simp [Operation.writes])
  | addString document text => exact h.path_addString (by simp [Operation.writes])
  | internString document text => exact h.path_internString (by simp [Operation.writes])
  | assignDocument document syncUsed modified obsTA methods beforeUpdate afterUpdate =>
    refine h.path_setting (fun hd => ?_) (by simp [Operation.writes])
    refine .settings _ _ _ _ _ _ _ _ _ _ _ _ _ _ ?_
    have hall := hasAll_append.mp hsymbols
    exact ((hasAll_flatMap.mpr (Document.hasAll_symbols.mp hd).1).append hall.1).append hall.2
  | declareVariable block type name init span =>
    exact path_declareVariable hsymbols (by simp [Operation.writes]) (by simp [Operation.writes])
  | declareLocal function frame type name init span =>
    exact path_declareLocal hsymbols (by simp [Operation.writes]) (by simp [Operation.writes])
  | declareFunction block type name span =>
    exact path_declareFunction (by simp [Operation.writes]) (by simp [Operation.writes])
  | declareType block name type span => exact path_declareType (by simp [Operation.writes])
  | addVariable document block type name init span =>
    exact path_addVariable hsymbols (by simp [Operation.writes]) (by simp [Operation.writes])
      (by simp [Operation.writes])
  | addLocal document function frame type name init span =>
    exact path_logged _ _ (by simp [Operation.writes])
      (path_declareLocal hsymbols (by simp [Operation.writes]) (by simp [Operation.writes]))
  | addFunction document block type name span =>
    exact path_logged _ _ (by simp [Operation.writes])
      (path_declareFunction (by simp [Operation.writes]) (by simp [Operation.writes]))
  | addTypedef document block name type span =>
    exact path_logged _ _ (by simp [Operation.writes]) (path_declareType (by simp [Operation.writes]))
  | addProgress block entry =>
    exact .single (by simp [Operation.writes])
      (.editBlock block _ fun _ => .addProgress _ entry hsymbols)
  | addGantt block entry =>
    exact .single (by simp [Operation.writes])
      (.editBlock block _ fun _ => .addGantt _ entry hsymbols)
  | newIODecl block =>
    exact .single (by simp [Operation.writes]) (.editBlock block _ fun _ => .newIODecl _)
  | setIODecl block index entry =>
    exact .single (by simp [Operation.writes])
      (.editBlock block _ fun _ => .setIODecl _ index entry hsymbols)
  | setBody function body =>
    exact path_modifyFunction (fun f _ => .body f body hsymbols) (by simp [Operation.writes])
  | addEffects function changes depends =>
    have hall := hasAll_append.mp hsymbols
    exact path_modifyFunction (fun f _ => .effects f changes depends hall.1 hall.2)
      (by simp [Operation.writes])
  | setInitialiser owner init => exact path_setInitialiser hsymbols (by simp [Operation.writes])
  | copyVariables document source target =>
    have htarget := (h.templates target (hreceivers (.template target)
      (by simp [Operation.receivers]))).block
    have hsource := (h.templates source (hothers (.template source) List.mem_cons_self)).block
    -- What is copied is stored in a block of the store, so it mentions nothing else.
    rw [perform, copyVariables_eq_foldl]
    apply path_foldl (Q := fun s v => s.HasAll v.init.term.occurrences)
    · exact fun hg hinit => hinit.mono hg
    · intro t v _ hframe hinit
      exact path_copyVariable hinit (by simp [Operation.writes]) hframe (by simp [Operation.writes])
    · exact htarget
    · simp [Operation.writes, localFrame]
    · intro v hv
      have hvars := (Block.hasAll_symbols.mp (h.blocks _ hsource).symbols).1
      exact (Variable.hasAll_symbols.mp (hvars v hv)).2
  | copyFunctions document source target =>
    have htarget := (h.templates target (hreceivers (.template target)
      (by simp [Operation.receivers]))).block
    have hsource := (h.templates source (hothers (.template source) List.mem_cons_self)).block
    rw [perform, copyFunctions_eq_foldl]
    apply path_foldl (Q := fun s f => s.HasAll f.symbols ∧ s.HasLocals f)
    · exact fun hg hf => ⟨hf.1.mono hg, hf.2.mono hg⟩
    · intro t f hmem hframe hf
      exact path_copyFunction hf.1 hf.2 hmem (by simp [Operation.writes]) (by simp [Operation.writes])
        hframe (by simp [Operation.writes])
    · exact htarget
    · simp [Operation.writes, localFrame]
    · intro f hf
      obtain ⟨i, hi⟩ := List.mem_iff_getElem?.mp hf
      have hfunctions := (Block.hasAll_symbols.mp (h.blocks _ hsource).symbols).2.1
      exact ⟨hfunctions f hf, _, (h.blocks _ hsource).locals i f hi⟩
  | assignTemplate template style hasPrechart dynamic dynindex isDefined =>
    exact .single (by simp [Operation.writes])
      (.editTemplate template .marks _ fun _ => .assign _ style hasPrechart dynamic dynindex isDefined)
  | addDynamicEval template term =>
    exact .single (by simp [Operation.writes])
      (.editTemplate template .body _ fun _ => .addDynamicEval _ term hsymbols)
  | addLocation template name invariant rate span =>
    have hall := hasAll_append.mp hsymbols
    exact h.path_addLocation hall.1 hall.2 (by simp [Operation.writes]) (by simp [Operation.writes])
      (by simp [Operation.writes])
  | assignLocation template index name invariant exponentialRate costRate =>
    -- The location keeps its symbol, and everything else in it is given.
    refine .single (by simp [Operation.writes])
      (.editTemplate template .body _ fun _ =>
        .editLocation _ index _ (fun _ => ⟨rfl, rfl⟩) fun l hl => ?_)
    unfold Location.symbols at hl ⊢
    simp only [List.cons_append, hasAll_cons] at hl ⊢
    exact ⟨hl.1, hsymbols⟩
  | addBranchpoint template name span =>
    exact h.path_addBranchpoint (by simp [Operation.writes]) (by simp [Operation.writes])
      (by simp [Operation.writes])
  | setInitial template symbol =>
    exact path_setInitial (hsymbols symbol List.mem_cons_self) (by simp [Operation.writes])
      (by simp [Operation.writes])
  | addEdge template source target control actname =>
    exact path_addEdge (by simp [Operation.writes]) (by simp [Operation.writes])
  | assignEdge template index guard assign sync prob =>
    refine .single (by simp [Operation.writes])
      (.editTemplate template .body _ fun _ =>
        .editEdge _ index _ (fun _ => ⟨rfl, rfl, rfl⟩) fun e he => ?_)
    have hall : s.HasAll (guard.term.occurrences ++ assign.term.occurrences
      ++ sync.term.occurrences ++ prob.term.occurrences) := hsymbols
    unfold Edge.symbols at he ⊢
    simp only [hasAll_append, and_assoc] at he hall ⊢
    exact ⟨he.1, hall⟩
  | extendEdge template index select values =>
    -- Everything that the edge mentions stays, and the selected symbols are given.
    refine .single (by simp [Operation.writes])
      (.editTemplate template .body _ fun _ =>
        .editEdge _ index _ (fun _ => ⟨rfl, rfl, rfl⟩) fun e he => ?_)
    unfold Edge.symbols at he ⊢
    simp only [hasAll_append, and_assoc, Frame.addAll] at he ⊢
    exact ⟨he.1, hsymbols, he.2⟩
  | restrict template symbol =>
    exact h.path_restrict (hreceivers (.template template) List.mem_cons_self)
      (hsymbols symbol List.mem_cons_self) (by simp [Operation.writes])
  | addInstanceLine template name span =>
    exact h.path_addInstanceLine (hreceivers (.template template) List.mem_cons_self)
      (by simp [Operation.writes]) (by simp [Operation.writes]) (by simp [Operation.writes])
      (by simp [Operation.writes])
  | bindLine template index base parameters arguments =>
    have htemplate : template ∈ s.templates := hreceivers (.template template) List.mem_cons_self
    have hall := hasAll_append.mp hsymbols
    exact h.path_bindLine (h.lineInst_ne htemplate hwell)
      ((h.templates template htemplate).lines index _ (getElem?_lineAt hwell)).1
      (hothers (.inst base) List.mem_cons_self) hall.1 hall.2
      (fun b hb => by simp_all [Operation.writes])
  | addMessage template source target location prechart label =>
    have hall := (hasAll_cons.mp (hasAll_cons.mp hsymbols).2).2
    exact path_addMessage hall (by simp [Operation.writes]) (by simp [Operation.writes])
  | addCondition template anchors location prechart hot label =>
    exact path_addCondition (hasAll_append.mp hsymbols).2 (by simp [Operation.writes])
      (by simp [Operation.writes])
  | addUpdate template anchor location prechart label =>
    exact path_addUpdate (hasAll_cons.mp hsymbols).2 (by simp [Operation.writes])
      (by simp [Operation.writes])
  | newRegions | setRegion | newCut | addToCut | eraseFromCut | newQuery | setQuery | pushToArena =>
    -- Nothing of this is part of a document.
    exact .single (by simp [Operation.writes])
      (.aside _ ⟨rfl, rfl, rfl, rfl, rfl, rfl, rfl, rfl, Nat.le_refl _⟩)
  | newArena label items =>
    exact .single (by simp [Operation.writes])
      (.aside _ ⟨rfl, rfl, rfl, rfl, rfl, rfl, rfl, rfl, Nat.le_succ _⟩)

/-- **Every store that a program reaches from a sound one is sound.** -/
theorem Run.sound {condition : Store → Operation → Prop} {start : Store}
    (hrun : Run condition start s) (h : start.Sound) : s.Sound := by
  induction hrun with
  | refl => exact h
  | step _ op hadmissible _ ih => exact (ih.path_perform hadmissible).sound ih

/-- What a weaker condition allows, a program can do. -/
theorem Run.imp {condition weaker : Store → Operation → Prop} {start : Store}
    (hrun : Run condition start s) (himp : ∀ t op, condition t op → weaker t op) :
    Run weaker start s := by
  induction hrun with
  | refl => exact .refl
  | step _ op hadmissible holds ih => exact .step ih op hadmissible (himp _ op holds)

/-- What a program can do from where it has got to, it can do from where it began. -/
theorem Run.trans {condition : Store → Operation → Prop} {start t : Store}
    (hrun : Run condition start t) (hlater : Run condition t s) : Run condition start s := by
  induction hlater with
  | refl => exact hrun
  | step _ op hadmissible holds ih => exact .step ih op hadmissible holds

/-- What the empty store has and every step keeps, all stores being sound, holds of every store that a
    program reaches. -/
theorem Run.keeps {condition : Store → Operation → Prop} {I : Store → Prop}
    (hrun : Run condition {} s) (hempty : I {})
    (hkept : ∀ {t u : Store} {w : Write}, t.Step w u → t.Sound → I t → I u) : I s := by
  induction hrun with
  | refl => exact hempty
  | step run op hadmissible _ ih =>
    have h := run.sound sound_empty
    exact (h.path_perform hadmissible).keeps h (fun _ hstep => hkept hstep) ih

/-- **No program that starts from a sound store loses anything.** -/
theorem Run.grows {condition : Store → Operation → Prop} {start : Store}
    (hrun : Run condition start s) (h : start.Sound) : start.Grows s := by
  induction hrun with
  | refl => exact .refl _
  | step run op hadmissible _ ih =>
    exact ih.trans ((run.sound h).path_perform hadmissible).grows

end TimedNet.Store
