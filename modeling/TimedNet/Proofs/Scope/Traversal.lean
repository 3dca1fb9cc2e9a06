import TimedNet.Traversal
import TimedNet.Proofs.Run.Bodies
import TimedNet.Proofs.Scope.Reachable

/-!
# `TimedNet.Proofs.Scope.Traversal` — a pass meets every declaration once

A pass finds what is declared through the symbols of the frames, and not through the lists of the blocks.
The frames and the lists fit together in every reachable store, so it meets the variables and the functions
of a block in the order of the lists, types among them, and nothing else and nothing twice. Frames grow at
their ends only: what is declared later is met later.

* `Visit.var?`, `Visit.fn?`, `Visit.typedef?`, `Store.declaredSymbol?`: what was met, and under which symbol.
* `Store.Declares`, `Enrolls.declares`: the visits of the symbols of a frame.
* `Store.walk`, `exists_walk_eq`: passes that decide by what they met before.
* `Sound.frameVisits_grow`, `Run.frameVisits_grow`: later declarations come later.
* `Store.LocalVisits`, `Store.DocumentVisits`, `Store.visits_once`: a whole pass over a reachable document.
-/

namespace TimedNet

/-! ## What was met -/

/-- The variable that is met. -/
def Visit.var? : Visit → Option VariableRef
  | .var owner => some owner
  | _ => none

/-- The function that is met. -/
def Visit.fn? : Visit → Option FunctionRef
  | .fn owner => some owner
  | _ => none

/-- The symbol of the type that is met. -/
def Visit.typedef? : Visit → Option SymbolId
  | .typedef symbol => some symbol
  | _ => none

section Lists

variable {α β : Type}

/-- Members that are looked up by their positions are found in order. -/
theorem filterMap_eq_map_range {g : α → Option β} (l : List α) :
    ∀ {f : Nat → β}, (∀ i a, l[i]? = some a → g a = some (f i)) →
      l.filterMap g = (List.range l.length).map f := by
  induction l with
  | nil => exact fun _ => rfl
  | cons a l ih =>
    intro f h
    have hrest := ih (f := fun i => f (i + 1)) fun i b hb => h (i + 1) b (by simpa using hb)
    rw [List.filterMap_cons_some (h 0 a rfl), hrest, List.length_cons, List.range_succ_eq_map,
      List.map_cons, List.map_map]
    rfl

/-- What was made of members leads back to them. -/
theorem map_filterMap_eq {f : α → Option β} {g : β → Option α} {l : List α}
    (h : ∀ a ∈ l, ∀ b, f a = some b → g b = some a) :
    (l.filterMap f).map g = (l.filter fun a => (f a).isSome).map some := by
  induction l with
  | nil => rfl
  | cons a l ih =>
    obtain ⟨ha, hl⟩ := List.forall_mem_cons.mp h
    cases hfa : f a with
    | none =>
      rw [List.filterMap_cons_none hfa, List.filter_cons_of_neg (by simp [hfa]), ih hl]
    | some b =>
      rw [List.filterMap_cons_some hfa, List.filter_cons_of_pos (by simp [hfa]), List.map_cons,
        List.map_cons, ha b hfa, ih hl]

end Lists

namespace Store

variable {s s' : Store} {σ : Scope}

/-- The symbol of a variable, function or type that is met. -/
def declaredSymbol? (s : Store) : Visit → Option SymbolId
  | .var owner => some (s.variableAt owner).symbol
  | .fn owner => some (s.functionAt owner).symbol
  | .typedef symbol => some symbol
  | _ => none

/-- The symbol stands for a type. -/
def isTypedef (s : Store) (r : SymbolId) : Bool :=
  match (s.symbol r).subject with
  | .typedef => true
  | _ => false

theorem isTypedef_iff {r : SymbolId} : s.isTypedef r = true ↔ (s.symbol r).subject = .typedef := by
  unfold isTypedef
  cases (s.symbol r).subject <;> simp

/-- The visits are those of the variables and functions of the block and of the types among the symbols:
    the variables and the functions in the order in which the block lists them, the types in the order of
    the symbols, and all of them in that order, each once and nothing else. -/
structure Declares (s : Store) (b : BlockId) (rs : List SymbolId) (visits : List Visit) : Prop where
  vars : visits.filterMap Visit.var?
    = (List.range (s.block b).vars.length).map fun i => VariableRef.ofBlock b i
  functions : visits.filterMap Visit.fn?
    = (List.range (s.block b).functions.length).map fun i => FunctionRef.mk b i
  typedefs : visits.filterMap Visit.typedef? = rs.filter s.isTypedef
  ordered : visits.map s.declaredSymbol?
    = (rs.filter fun r => (s.declarationVisit? r).isSome).map some
  once : visits.Nodup

/-! ## The visits of a frame -/

/-- What a frame shows in one role is what its members in that role show. -/
theorem filterMap_declarationVisit? {β : Type} {pick : Visit → Option β} {ρ : Role}
    (hpick : ∀ r v, s.declarationVisit? r = some v → pick v ≠ none → s.role? r = some ρ)
    (rs : List SymbolId) : (rs.filterMap s.declarationVisit?).filterMap pick
      = (rs.filter fun r => s.role? r == some ρ).filterMap fun r =>
          (s.declarationVisit? r).bind pick := by
  rw [List.filterMap_filterMap, List.filterMap_filter]
  refine List.filterMap_congr fun r _ => ?_
  by_cases hrole : s.role? r = some ρ
  · rw [if_pos (beq_iff_eq.mpr hrole)]
  · rw [if_neg (by simpa using hrole)]
    cases hv : s.declarationVisit? r with
    | none => rfl
    | some v => exact Classical.byContradiction fun hne => hrole (hpick r v hv hne)

theorem declarationVisit?_var {r : SymbolId} {owner : VariableRef}
    (h : (s.symbol r).subject = .var owner) : s.declarationVisit? r = some (.var owner) := by
  rw [declarationVisit?, h]

theorem declarationVisit?_fn {r : SymbolId} {owner : FunctionRef}
    (h : (s.symbol r).subject = .fn owner) : s.declarationVisit? r = some (.fn owner) := by
  rw [declarationVisit?, h]

/-- What is met at a symbol tells what the symbol stands for. -/
theorem declarationVisit?_cases {r : SymbolId} {v : Visit} (h : s.declarationVisit? r = some v) :
    (s.symbol r).subject = .typedef ∧ v = .typedef r
      ∨ (∃ owner, (s.symbol r).subject = .var owner ∧ v = .var owner)
      ∨ ∃ owner, (s.symbol r).subject = .fn owner ∧ v = .fn owner := by
  unfold declarationVisit? at h
  cases hsubject : (s.symbol r).subject with
  | typedef =>
    rw [hsubject] at h
    exact Or.inl ⟨rfl, (Option.some.inj h).symm⟩
  | var owner =>
    rw [hsubject] at h
    exact Or.inr (Or.inl ⟨owner, rfl, (Option.some.inj h).symm⟩)
  | fn owner =>
    rw [hsubject] at h
    exact Or.inr (Or.inr ⟨owner, rfl, (Option.some.inj h).symm⟩)
  | _ =>
    rw [hsubject] at h
    exact absurd h nofun

/-- **Symbols that are, in both roles, those of what a block lists are met as the block lists them.** -/
theorem declares_of_roles {b : BlockId} (h : (s.block b).Sound s b) {rs : List SymbolId}
    (hnodup : rs.Nodup)
    (hvars : (rs.filter fun r => s.role? r == some .var) = (s.block b).vars.map fun v => v.symbol)
    (hfunctions : (rs.filter fun r => s.role? r == some .fn)
      = (s.block b).functions.map fun f => f.symbol) :
    s.Declares b rs (rs.filterMap s.declarationVisit?) := by
  have hordered : (rs.filterMap s.declarationVisit?).map s.declaredSymbol?
      = (rs.filter fun r => (s.declarationVisit? r).isSome).map some := by
    refine map_filterMap_eq fun r hr v hv => ?_
    rcases declarationVisit?_cases hv with ⟨-, rfl⟩ | ⟨owner, hsubject, rfl⟩ | ⟨owner, hsubject, rfl⟩
    · rfl
    · -- The symbol is that of a variable of the block, and stands for this variable.
      have hmem : r ∈ rs.filter fun r => s.role? r == some .var :=
        List.mem_filter.mpr ⟨hr, by rw [role?, hsubject]; rfl⟩
      rw [hvars] at hmem
      obtain ⟨x, hx, rfl⟩ := List.mem_map.mp hmem
      obtain ⟨i, hi⟩ := List.mem_iff_getElem?.mp hx
      obtain rfl : owner = .ofBlock b i :=
        Subject.var.inj (hsubject.symm.trans (h.vars i x hi).subject)
      rw [declaredSymbol?, variableAt, getD_of_getElem? hi]
    · have hmem : r ∈ rs.filter fun r => s.role? r == some .fn :=
        List.mem_filter.mpr ⟨hr, by rw [role?, hsubject]; rfl⟩
      rw [hfunctions] at hmem
      obtain ⟨f, hf, rfl⟩ := List.mem_map.mp hmem
      obtain ⟨i, hi⟩ := List.mem_iff_getElem?.mp hf
      obtain rfl : owner = ⟨b, i⟩ :=
        Subject.fn.inj (hsubject.symm.trans (h.functions i f hi).subject)
      rw [declaredSymbol?, functionAt, getD_of_getElem? hi]
  refine ⟨?_, ?_, ?_, hordered, ?_⟩
  · rw [filterMap_declarationVisit? (ρ := .var) (fun r v hv hne => ?_), hvars, List.filterMap_map]
    · refine filterMap_eq_map_range _ fun i v hi => ?_
      rw [Function.comp_apply, declarationVisit?_var (h.vars i v hi).subject]
      rfl
    · rcases declarationVisit?_cases hv with ⟨-, rfl⟩ | ⟨owner, hsubject, rfl⟩ | ⟨owner, -, rfl⟩
      · exact absurd rfl hne
      · rw [role?, hsubject]
        rfl
      · exact absurd rfl hne
  · rw [filterMap_declarationVisit? (ρ := .fn) (fun r v hv hne => ?_), hfunctions, List.filterMap_map]
    · refine filterMap_eq_map_range _ fun i f hi => ?_
      rw [Function.comp_apply, declarationVisit?_fn (h.functions i f hi).subject]
      rfl
    · rcases declarationVisit?_cases hv with ⟨-, rfl⟩ | ⟨owner, -, rfl⟩ | ⟨owner, hsubject, rfl⟩
      · exact absurd rfl hne
      · exact absurd rfl hne
      · rw [role?, hsubject]
        rfl
  · rw [List.filterMap_filterMap, ← List.filterMap_eq_filter]
    refine List.filterMap_congr fun r _ => ?_
    cases hsubject : (s.symbol r).subject <;>
      simp [declarationVisit?, isTypedef, hsubject, Visit.typedef?, Option.guard]
  · refine List.Nodup.of_map s.declaredSymbol? ?_
    rw [hordered]
    exact (hnodup.filter _).map fun _ _ => Option.some.inj

/-- The visits of the frame of a scope without parameters. -/
theorem Enrolls.declares (hreg : s.Enrolls none σ) (h : s.Sound) (hσ : s.Has σ.entity)
    {first own : List SymbolId} (hsymbols : s.frameSymbols (s.scopeBlock σ) = first ++ own)
    (hown : own.Nodup) (hfirst : ∀ r ∈ first, s.role? r = none) :
    s.Declares (s.scopeBlock σ) own (own.filterMap s.declarationVisit?) := by
  have hmembers : ∀ ρ, (own.filter fun r => s.role? r == some ρ) = s.members (s.scopeBlock σ) ρ := by
    intro ρ
    have hnone : (first.filter fun r => s.role? r == some ρ) = [] :=
      List.filter_eq_nil_iff.mpr fun r hr => by simp [hfirst r hr]
    rw [Store.members, hsymbols, List.filter_append, hnone, List.nil_append]
  refine declares_of_roles (h.blocks _ (h.scopesApart.mem σ hσ)) hown ?_ ?_
  · rw [hmembers]
    exact (hreg.agree .var).trans (by cases σ <;> exact List.append_nil _)
  · rw [hmembers]
    exact (hreg.agree .fn).trans (by cases σ <;> exact List.append_nil _)

/-! ## Passes that remember -/

/-- What a pass meets that enters a template or not by what it has met so far, the template last. -/
def walkTemplates (s : Store) (answer : List Visit → Bool) : List Visit → List TemplateId → List Visit
  | met, [] => met
  | met, t :: ts =>
    let before := met ++ [.templateBefore t]
    s.walkTemplates answer
      (if answer before then before ++ s.bodyVisits t ++ [.templateAfter t] else before) ts

/-- All that such a pass over a document meets. -/
def walk (s : Store) (d : DocumentId) (answer : List Visit → Bool) : List Visit :=
  s.walkTemplates answer (.documentBefore d :: s.globalVisits (s.document d).globals)
      (s.document d).allTemplates
    ++ (s.document d).instances.map .inst ++ (s.document d).lscInstances.map .inst
    ++ (s.document d).processes.map .process ++ [.documentAfter d]

theorem templateVisits_congr {enters enters' : TemplateId → Bool} {t : TemplateId}
    (h : enters t = enters' t) : s.templateVisits enters t = s.templateVisits enters' t := by
  unfold templateVisits
  rw [h]

/-- The pass enters the template if that is its answer when it has met the template. -/
def Asked (answer : List Visit → Bool) (all : List Visit) (enters : TemplateId → Bool) (t : TemplateId) :
    Prop :=
  ∃ met, met ++ [.templateBefore t] <+: all ∧ enters t = answer (met ++ [.templateBefore t])

/-- **A pass asks once about every template**, so its answers are answers about templates. -/
theorem exists_walkTemplates_eq (answer : List Visit → Bool) (met : List Visit) {ts : List TemplateId}
    (hts : ts.Nodup) : ∃ enters : TemplateId → Bool,
      s.walkTemplates answer met ts = met ++ ts.flatMap (s.templateVisits enters)
        ∧ ∀ t ∈ ts, Asked answer (s.walkTemplates answer met ts) enters t := by
  induction ts generalizing met with
  | nil => exact ⟨fun _ => true, (List.append_nil met).symm, fun _ ht => absurd ht List.not_mem_nil⟩
  | cons t ts ih =>
    obtain ⟨ht, hts⟩ := List.nodup_cons.mp hts
    obtain ⟨enters, heq, hasked⟩ := ih (if answer (met ++ [.templateBefore t])
      then met ++ [.templateBefore t] ++ s.bodyVisits t ++ [.templateAfter t]
      else met ++ [.templateBefore t]) hts
    let entersAll : TemplateId → Bool := fun u =>
      if u = t then answer (met ++ [.templateBefore t]) else enters u
    have hself : entersAll t = answer (met ++ [.templateBefore t]) := if_pos rfl
    have hother : ∀ u ∈ ts, entersAll u = enters u := by
      intro u hu
      have hut : u ≠ t := fun heq => ht (heq ▸ hu)
      exact if_neg hut
    have hall : s.walkTemplates answer met (t :: ts)
        = met ++ (t :: ts).flatMap (s.templateVisits entersAll) := by
      rw [walkTemplates, heq, List.flatMap_cons,
        List.flatMap_congr fun u hu => templateVisits_congr (hother u hu), templateVisits, hself]
      by_cases hanswer : answer (met ++ [.templateBefore t]) = true
      · rw [if_pos hanswer, if_pos hanswer]
        simp
      · rw [if_neg hanswer, if_neg hanswer]
        simp
    refine ⟨entersAll, hall, fun u hu => ?_⟩
    rcases List.mem_cons.mp hu with rfl | hu
    · refine ⟨met, ?_, hself⟩
      rw [hall, List.flatMap_cons, templateVisits]
      split <;> simp
    · obtain ⟨before, hprefix, hanswer⟩ := hasked u hu
      exact ⟨before, hprefix, (hother u hu).trans hanswer⟩

/-! ## Later declarations -/

/-- A symbol that becomes that of a template is new, unless a template is made on its own. -/
theorem eq_next_of_newTemplate_mem_writes {op : Operation} {r : SymbolId} {parameters : List SymbolId}
    (h : .newTemplate r parameters ∈ op.writes s) :
    r = s.symbols.next ∨ ∃ globals log style, op = .newTemplate r parameters globals log style := by
  cases op with
  | newTemplate symbol params globals log style =>
    obtain ⟨rfl, rfl⟩ : r = symbol ∧ parameters = params := by simpa [Operation.writes] using h
    exact Or.inr ⟨globals, log, style, rfl⟩
  | addTemplate | addDynamicTemplate =>
    obtain ⟨rfl, -⟩ : r = s.symbols.next ∧ _ := by simpa [Operation.writes] using h
    exact Or.inl rfl
  | _ => simp [Operation.writes] at h

theorem Path.startsWith {P : Write → Prop} (hpath : Path P s s') (h : s.Sound)
    (hP : ∀ w, P w → ∀ t, w.AddsOnce t) {f : FrameId} (hf : f ∈ s.frames) :
    (s'.frame f).StartsWith (s.frame f).symbols := by
  induction hpath with
  | refl => exact .refl _
  | step path hw hstep ih =>
    exact ih.trans (hstep.startsWith (path.sound h) (hP _ hw _) (path.grows.frames f hf).1)

/-- The frame of a scope. -/
def scopeFrame (s : Store) (σ : Scope) : FrameId := (s.block (s.scopeBlock σ)).frame

theorem Grows.scopeFrame_eq (hg : s.Grows s') (h : s.Sound) (hσ : s.Has σ.entity) :
    s'.scopeFrame σ = s.scopeFrame σ := by
  rw [scopeFrame, hg.scopeBlock_eq hσ]
  exact (hg.blocks _ (h.scopesApart.mem σ hσ)).2.frame

/-- **What an operation declares is met after everything else in its scope.** -/
theorem Sound.frameVisits_grow (h : s.Sound) {op : Operation} (hop : op.Admissible s)
    (hkeeps : op.KeepsScopes s) (hσ : s.Has σ.entity) :
    s.frameVisits (s.scopeFrame σ) <+: (s.perform op).frameVisits ((s.perform op).scopeFrame σ) := by
  have hpath := h.path_perform hop
  have hblock := h.scopesApart.mem σ hσ
  have hmem : s.scopeFrame σ ∈ s.frames := (h.blocks _ hblock).frame
  have hframe : ∀ frame symbols, op ≠ .extendFrame frame symbols := by
    rintro frame symbols rfl
    exact hkeeps
  have hinst : ∀ inst symbols, op ≠ .extendParameters inst symbols := by
    rintro inst symbols rfl
    exact hkeeps
  obtain ⟨more, hmore, -⟩ :=
    hpath.startsWith h (fun _ hw => addsOnce_of_mem_writes hframe hinst hw) hmem
  -- No symbol that the frame has comes to stand for something else.
  have hsame : ∀ r ∈ (s.frame (s.scopeFrame σ)).symbols, (s.perform op).symbol r = s.symbol r := by
    intro r hr
    have hr' := (h.frames _ hmem).symbols r hr
    refine hpath.same (e := .symbol r) hr' fun w hw htarget => ?_
    obtain ⟨parameters, rfl⟩ : ∃ parameters, w = .newTemplate r parameters := by
      cases w <;> simp_all [Write.targets]
    rcases eq_next_of_newTemplate_mem_writes hw with rfl | ⟨_, _, _, rfl⟩
    · exact Table.next_not_mem _ hr'
    · exact hkeeps σ (mem_scopes hσ) hr
  have hvisits : (s.frame (s.scopeFrame σ)).symbols.filterMap (s.perform op).declarationVisit?
      = (s.frame (s.scopeFrame σ)).symbols.filterMap s.declarationVisit? := by
    refine List.filterMap_congr fun r hr => ?_
    rw [declarationVisit?, hsame r hr]
    rfl
  rw [hpath.grows.scopeFrame_eq h hσ, frameVisits, frameVisits, hmore, List.filterMap_append, hvisits]
  exact List.prefix_append _ _

/-- **What is declared later is met later.** -/
theorem Run.frameVisits_grow {start : Store} (hrun : Run Operation.KeepsScopes start s)
    (h : start.Sound) (hσ : start.Has σ.entity) :
    start.frameVisits (start.scopeFrame σ) <+: s.frameVisits (s.scopeFrame σ) := by
  induction hrun with
  | refl => exact List.prefix_rfl
  | step run op hadmissible hkeeps ih =>
    have hthere := (run.grows h).has hσ
    exact ih.trans ((run.sound h).frameVisits_grow hadmissible hkeeps hthere)

/-! ## Reachable documents -/

theorem declarationVisit?_of_isBare {r : SymbolId} (hbare : (s.symbol r).subject.isBare = true) :
    s.declarationVisit? r = if s.isTypedef r then some (.typedef r) else none := by
  unfold declarationVisit? isTypedef
  cases hsubject : (s.symbol r).subject <;> simp_all [Subject.isBare]

/-- Symbols at which nothing is met change nothing. -/
theorem Declares.append_left {b : BlockId} {own : List SymbolId} {visits : List Visit}
    (h : s.Declares b own visits) {first : List SymbolId}
    (hfirst : ∀ r ∈ first, s.declarationVisit? r = none) : s.Declares b (first ++ own) visits := by
  have htypedef : first.filter s.isTypedef = [] := by
    refine List.filter_eq_nil_iff.mpr fun r hr htype => ?_
    have hnone := hfirst r hr
    rw [declarationVisit?, isTypedef_iff.mp htype] at hnone
    exact absurd hnone nofun
  have hdeclared : (first.filter fun r => (s.declarationVisit? r).isSome) = [] :=
    List.filter_eq_nil_iff.mpr fun r hr => by simp [hfirst r hr]
  refine { h with typedefs := ?_, ordered := ?_ }
  · rw [List.filter_append, htypedef]
    exact h.typedefs
  · rw [List.filter_append, hdeclared]
    exact h.ordered

/-- What a pass meets in a template: the types among its parameters, in their order, and then what is
    declared in it; with no types among the parameters, what is declared and nothing else. What the body
    of the template lists is numbered by its positions. -/
structure LocalVisits (s : Store) (t : TemplateId) : Prop where
  declared : ∃ own, s.frameSymbols (s.template t).block
      = (s.inst (s.template t).inst).binding.parameters ++ own
    ∧ s.frameVisits (s.localFrame t)
      = ((s.inst (s.template t).inst).binding.parameters.filter s.isTypedef).map .typedef
        ++ own.filterMap s.declarationVisit?
    ∧ s.Declares (s.template t).block own (own.filterMap s.declarationVisit?)
  plain : (∀ r ∈ (s.inst (s.template t).inst).binding.parameters, s.isTypedef r = false) →
    s.Declares (s.template t).block (s.frameSymbols (s.template t).block)
      (s.frameVisits (s.localFrame t))
  numbered : (s.template t).Numbered

theorem Enrolls.localVisits {t : TemplateId} (hreg : s.Enrolls none (.template t)) (h : s.Sound)
    (htidy : s.Tidy) (ht : t ∈ s.templates) (hbare : s.BareParameters t)
    (hnumbered : (s.template t).Numbered) : s.LocalVisits t := by
  obtain ⟨own, hsymbols, hown, -⟩ := htidy.locals t ht
  have hdeclares := hreg.declares h ht hsymbols hown fun r hr =>
    Subject.role?_eq_none_iff.mpr (hbare r hr)
  have hparameters : (s.inst (s.template t).inst).binding.parameters.filterMap s.declarationVisit?
      = ((s.inst (s.template t).inst).binding.parameters.filter s.isTypedef).map .typedef := by
    rw [← List.filterMap_eq_map, List.filterMap_filter]
    exact List.filterMap_congr fun r hr => declarationVisit?_of_isBare (hbare r hr)
  have hvisits : s.frameVisits (s.localFrame t)
      = ((s.inst (s.template t).inst).binding.parameters.filter s.isTypedef).map .typedef
        ++ own.filterMap s.declarationVisit? := by
    rw [frameVisits, hsymbols, List.filterMap_append, hparameters]
  refine ⟨⟨own, hsymbols, hvisits, hdeclares⟩, fun hplain => ?_, hnumbered⟩
  have hnone : (s.inst (s.template t).inst).binding.parameters.filter s.isTypedef = [] :=
    List.filter_eq_nil_iff.mpr fun r hr => by simp [hplain r hr]
  rw [hvisits, hnone, show s.frameSymbols (s.template t).block = _ from hsymbols]
  refine hdeclares.append_left fun r hr => ?_
  rw [declarationVisit?_of_isBare (hbare r hr), hplain r hr]
  rfl

/-- What a pass meets in a document: each part in its place, and of the templates those that it enters, which
    it decides for each when it has met it; the declarations of the global scope and of each template whose
    parameters stand for no entity; no template, instance or process twice; and, as the program goes on,
    later declarations after the earlier ones. -/
structure DocumentVisits (s : Store) (d : DocumentId) : Prop where
  sequence : ∀ enters : TemplateId → Bool,
    s.visits d enters
      = [.documentBefore d]
        ++ s.frameVisits (s.globalFrame d)
        ++ (s.block (s.document d).globals).progress.map .progress
        ++ (s.block (s.document d).globals).gantt.map .gantt
        ++ (s.block (s.document d).globals).io.map .io
        ++ ((s.document d).templates ++ (s.document d).dynamicTemplates).flatMap (fun t =>
          if enters t then
            [.templateBefore t]
              ++ s.frameVisits (s.localFrame t)
              ++ (s.template t).locations.items.map (.location t)
              ++ (s.template t).edges.map (.edge t)
              ++ (s.template t).lines.items.map (.line t)
              ++ (s.template t).messages.map (.message t)
              ++ (s.template t).conditions.map (.condition t)
              ++ (s.template t).updates.map (.update t)
              ++ [.templateAfter t]
          else [.templateBefore t])
        ++ (s.document d).instances.map .inst
        ++ (s.document d).lscInstances.map .inst
        ++ (s.document d).processes.map .process
        ++ [.documentAfter d]
  answers : ∀ answer : List Visit → Bool, ∃ enters : TemplateId → Bool,
    s.walk d answer = s.visits d enters
      ∧ ∀ t ∈ (s.document d).templates ++ (s.document d).dynamicTemplates,
        Asked answer (s.walk d answer) enters t
  globals : s.Declares (s.document d).globals (s.frameSymbols (s.document d).globals)
    (s.frameVisits (s.globalFrame d))
  locals : ∀ t ∈ (s.document d).templates ++ (s.document d).dynamicTemplates,
    s.BareParameters t → s.LocalVisits t
  templates : ((s.document d).templates ++ (s.document d).dynamicTemplates).Nodup
  insts : ((s.document d).instances ++ (s.document d).lscInstances ++ (s.document d).processes).Nodup
  later : ∀ s', Run Operation.KeepsScopes s s' →
    s.frameVisits (s.globalFrame d) <+: s'.frameVisits (s'.globalFrame d)
      ∧ ∀ t ∈ (s.document d).templates ++ (s.document d).dynamicTemplates,
        s.frameVisits (s.localFrame t) <+: s'.frameVisits (s'.localFrame t)

/-- All that a pass meets, part by part. -/
theorem visits_eq (d : DocumentId) (enters : TemplateId → Bool) :
    s.visits d enters
      = [.documentBefore d]
        ++ s.frameVisits (s.globalFrame d)
        ++ (s.block (s.document d).globals).progress.map .progress
        ++ (s.block (s.document d).globals).gantt.map .gantt
        ++ (s.block (s.document d).globals).io.map .io
        ++ ((s.document d).templates ++ (s.document d).dynamicTemplates).flatMap (fun t =>
          if enters t then
            [.templateBefore t]
              ++ s.frameVisits (s.localFrame t)
              ++ (s.template t).locations.items.map (.location t)
              ++ (s.template t).edges.map (.edge t)
              ++ (s.template t).lines.items.map (.line t)
              ++ (s.template t).messages.map (.message t)
              ++ (s.template t).conditions.map (.condition t)
              ++ (s.template t).updates.map (.update t)
              ++ [.templateAfter t]
          else [.templateBefore t])
        ++ (s.document d).instances.map .inst
        ++ (s.document d).lscInstances.map .inst
        ++ (s.document d).processes.map .process
        ++ [.documentAfter d] := by
  have htemplate : s.templateVisits enters = fun t =>
      if enters t then
        [.templateBefore t]
          ++ s.frameVisits (s.localFrame t)
          ++ (s.template t).locations.items.map (.location t)
          ++ (s.template t).edges.map (.edge t)
          ++ (s.template t).lines.items.map (.line t)
          ++ (s.template t).messages.map (.message t)
          ++ (s.template t).conditions.map (.condition t)
          ++ (s.template t).updates.map (.update t)
          ++ [.templateAfter t]
      else [.templateBefore t] := by
    funext t
    simp only [templateVisits, bodyVisits, List.append_assoc, List.cons_append, List.nil_append]
  unfold visits globalVisits
  rw [htemplate]
  simp only [List.append_assoc, List.cons_append, List.nil_append]
  rfl

/-- A pass over a document in its parts. -/
theorem exists_walk_eq (answer : List Visit → Bool) {d : DocumentId}
    (hts : (s.document d).allTemplates.Nodup) : ∃ enters : TemplateId → Bool,
      s.walk d answer = s.visits d enters
        ∧ ∀ t ∈ (s.document d).allTemplates, Asked answer (s.walk d answer) enters t := by
  obtain ⟨enters, heq, hasked⟩ := exists_walkTemplates_eq (s := s) answer
    (.documentBefore d :: s.globalVisits (s.document d).globals) hts
  refine ⟨enters, ?_, fun t ht => ?_⟩
  · rw [walk, heq]
    rfl
  · obtain ⟨met, hprefix, hanswer⟩ := hasked t ht
    refine ⟨met, hprefix.trans ?_, hanswer⟩
    unfold walk
    simp only [List.append_assoc]
    exact List.prefix_append _ _

/-- **A pass meets every declared entity once, in order.** For every document that a program can make,
    with declarations that succeed and fail, copied from template to template or with the whole document,
    as long as it keeps scopes, and for every pass, which may enter a template or not depending on all
    that it met before. -/
theorem visits_once (hrun : Run Operation.KeepsScopes {} s) {d : DocumentId} (hd : d ∈ s.documents) :
    s.DocumentVisits d := by
  have h := hrun.sound sound_empty
  have htidy := (hrun.imp fun _ _ => Operation.KeepsScopes.addsOnce).tidy
  have hdocument := h.documents d hd
  have htemplate : ∀ t ∈ (s.document d).allTemplates, t ∈ s.templates := fun t ht =>
    (hdocument.templates t ht).1
  refine ⟨visits_eq d, fun answer => exists_walk_eq answer hdocument.distinct, ?_, fun t ht hbare => ?_,
    hdocument.distinct, hdocument.listsOnce, fun s' hrun' => ?_⟩
  · obtain ⟨own, hsymbols, hown, -⟩ := htidy.globals d hd
    have hscope : s.frameSymbols (s.scopeBlock (.document d)) = [] ++ own := hsymbols
    have hdeclares := (hrun.enrolled (.document d) hd trivial).declares h hd hscope hown
      fun r hr => absurd hr List.not_mem_nil
    rw [frameVisits, show (s.frame (s.globalFrame d)).symbols = own from hsymbols]
    rw [show s.frameSymbols (s.document d).globals = own from hsymbols]
    exact hdeclares
  · exact (hrun.enrolled (.template t) (htemplate t ht) hbare).localVisits h htidy (htemplate t ht) hbare
      (hrun.bodied t (htemplate t ht)).1
  · exact ⟨hrun'.frameVisits_grow h (σ := .document d) hd, fun t ht =>
      hrun'.frameVisits_grow h (σ := .template t) (htemplate t ht)⟩

/-- In the copy of a document with a name that is taken, a type among the parameters and declarations copied
    from one template to another, a pass that leaves out the second template meets all the rest. -/
theorem visits_once_copied_document : ∃ s : Store, Run Operation.KeepsScopes {} s
    ∧ (s.walk ⟨1⟩ fun met => met.length != 15).map s.visitText
      = ["system", "var int x;", "typedef t", "fn f", "gantt G", "template T", "typedef k",
        "var clock c;", "typedef u", "fn g", "state T.A", "edge T.0", "line T.L", "/template T",
        "template V", "template U", "typedef k", "var clock c;", "fn g", "/template U", "instance I",
        "instance J", "process I", "/system"]
    ∧ s.DocumentVisits ⟨1⟩ := by
  let ops : List Operation :=
    [.openDocument none none, .newSymbol { name := "k", type := "int", subject := .typedef },
      .addVariable ⟨0⟩ ⟨0⟩ "int" "x" .empty {}, .addTypedef ⟨0⟩ ⟨0⟩ "t" "int" {},
      .addFunction ⟨0⟩ ⟨0⟩ "int" "x" {}, .addFunction ⟨0⟩ ⟨0⟩ "int" "f" {},
      .addGantt ⟨0⟩ ⟨"G", {}, []⟩, .addTemplate ⟨0⟩ "T" [⟨0⟩] {} {}, .addTemplate ⟨0⟩ "V" [] {} {},
      .addDynamicTemplate ⟨0⟩ "U" [⟨0⟩] {}, .addVariable ⟨0⟩ ⟨1⟩ "clock" "c" .empty {},
      .addTypedef ⟨0⟩ ⟨1⟩ "u" "int" {}, .addFunction ⟨0⟩ ⟨1⟩ "void" "g" {},
      .addLocation ⟨0⟩ "A" .empty .empty {}, .addLocation ⟨0⟩ "c" .empty .empty {},
      .addVariable ⟨0⟩ ⟨2⟩ "int" "y" .empty {}, .addInstanceLine ⟨0⟩ "L" {},
      .copyVariables ⟨0⟩ ⟨0⟩ ⟨2⟩, .copyFunctions ⟨0⟩ ⟨0⟩ ⟨2⟩, .addEdge ⟨0⟩ ⟨10⟩ ⟨10⟩ true "",
      .addInstance ⟨0⟩ "I" ⟨0⟩ [] [] {}, .addProcess ⟨0⟩ ⟨4⟩ {}, .addLscInstance ⟨0⟩ "J" ⟨0⟩ [] [] {},
      .copyDocument ⟨0⟩]
  have hperforms : ({} : Store).Performs Operation.KeepsScopes ops := by decide +kernel
  have hrun : Run Operation.KeepsScopes {} (ops.foldl perform {}) := Run.refl.performs hperforms
  exact ⟨ops.foldl perform {}, hrun, by decide +kernel, visits_once hrun (by decide +kernel)⟩

end Store

end TimedNet
