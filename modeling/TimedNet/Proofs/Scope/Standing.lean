import TimedNet.Proofs.Run.AppendOnly
import TimedNet.Proofs.Run.Dynamics
import TimedNet.Proofs.Scope.Names

/-!
# `TimedNet.Proofs.Scope.Standing` — the life of a dynamic template

A name is free in a document until something in the global scope has it. If the first to take it is a
call for a dynamic template, the call declares the template and the next one defines it; after that,
and if something else was first, all calls for the name are refused. So a name goes through four
standings, and what the calls for it have given so far can be read off the standing.

* `Standing`: the standings, with what a call gives in each, where it leads, and what calls have given.
* `Store.standing`: how a name stands in a document.
* `Sound.calls`: what a call does; `Sound.standing_perform`: what everything else does.
* `Store.grants`, `Sound.grant?_perform`, `Sound.granted_foldl`: what the calls of a program give.
* `Tidy.standing_relocated`: a copied document goes on where the document stands.
* `DynamicTemplates`: the list, the names that are entered and the global frame agree.
* `dynamic_lifeCycle`: all of it, for every document of a reachable store.
-/

namespace TimedNet

theorem Operation.KeepsDynamics.declaresOnly {s : Store} {op : Operation} (h : op.KeepsDynamics s) :
    op.DeclaresOnly s := by
  cases op with
  | extendFrame | extendParameters => exact h
  | _ => trivial

/-! ## Standings -/

/-- How a name stands in a document: nothing has it, something has it that is no dynamic template, or a
    dynamic template of the name is declared, or it is defined. -/
inductive Standing where
  | free | taken
  | declared (t : TemplateId)
  | defined (t : TemplateId)
deriving DecidableEq

namespace Standing

/-- What a call for the name gives, when `new` is the next template. -/
def answer (new : TemplateId) (name : String) : Standing → Except Problem TemplateId
  | .free => .ok new
  | .declared t => .ok t
  | .taken | .defined _ => .error (ProblemKind.duplicateDefinition.on name)

/-- How the name stands after the call. -/
def called (new : TemplateId) : Standing → Standing
  | .free => .declared new
  | .declared t => .defined t
  | .taken => .taken
  | .defined t => .defined t

/-- What the calls for the name have given so far. -/
def granted : Standing → List TemplateId
  | .free | .taken => []
  | .declared t => [t]
  | .defined t => [t, t]

/-- Whether all calls for the name are refused. -/
def refuses : Standing → Bool
  | .free | .declared _ => false
  | .taken | .defined _ => true

/-- The standing with other names for templates. -/
def map (f : TemplateId → TemplateId) : Standing → Standing
  | .free => .free
  | .taken => .taken
  | .declared t => .declared (f t)
  | .defined t => .defined (f t)

/-- What happens to a standing without a call: a free name may be taken. -/
def Stays (σ τ : Standing) : Prop := τ = σ ∨ σ = .free ∧ τ = .taken

variable {σ τ : Standing}

theorem granted_called (new : TemplateId) (name : String) (σ : Standing) :
    (σ.called new).granted = σ.granted ++ (σ.answer new name).toOption.toList := by
  cases σ <;> rfl

theorem Stays.granted_eq (h : σ.Stays τ) : τ.granted = σ.granted := by
  rcases h with rfl | ⟨rfl, rfl⟩
  · rfl
  · rfl

theorem called_of_refuses (new : TemplateId) (h : σ.refuses = true) : σ.called new = σ := by
  cases σ with
  | taken | defined t => rfl
  | free | declared t => exact absurd h Bool.false_ne_true

theorem Stays.eq_of_refuses (hstays : σ.Stays τ) (h : σ.refuses = true) : τ = σ := by
  rcases hstays with rfl | ⟨rfl, -⟩
  · rfl
  · exact absurd h Bool.false_ne_true

theorem length_granted_le (σ : Standing) : σ.granted.length ≤ 2 := by
  cases σ <;> simp [granted]

/-- The calls for a name have all given the same. -/
theorem eq_of_mem_granted {t u : TemplateId} (ht : t ∈ σ.granted) (hu : u ∈ σ.granted) : t = u := by
  cases σ with
  | free | taken => exact absurd ht List.not_mem_nil
  | declared v => simp_all [granted]
  | defined v => simp_all [granted]

end Standing

namespace Store

variable {s s' : Store} {d : DocumentId} {n : String}

/-- How a name stands in a document. -/
def standing (s : Store) (d : DocumentId) (n : String) : Standing :=
  match s.findDynamicTemplate? d n with
  | some t => if (s.template t).isDefined then .defined t else .declared t
  | none => if (s.lookup (s.frame (s.globalFrame d)) n).isSome then .taken else .free

theorem standing_of_find {t : TemplateId} (hfind : s.findDynamicTemplate? d n = some t) :
    s.standing d n = if (s.template t).isDefined then .defined t else .declared t := by
  rw [standing, hfind]

theorem standing_of_not_found (hfind : s.findDynamicTemplate? d n = none) : s.standing d n
    = if (s.lookup (s.frame (s.globalFrame d)) n).isSome then .taken else .free := by
  rw [standing, hfind]

/-- The dynamic template of a name is the one that the calls for it have given. -/
theorem findDynamicTemplate?_eq_head? (s : Store) (d : DocumentId) (n : String) :
    s.findDynamicTemplate? d n = (s.standing d n).granted.head? := by
  cases hfind : s.findDynamicTemplate? d n with
  | some t =>
    rw [standing_of_find hfind]
    by_cases hdefined : (s.template t).isDefined = true
    · rw [if_pos hdefined]
      rfl
    · rw [if_neg hdefined]
      rfl
  | none =>
    rw [standing_of_not_found hfind]
    by_cases hlookup : (s.lookup (s.frame (s.globalFrame d)) n).isSome = true
    · rw [if_pos hlookup]
      rfl
    · rw [if_neg hlookup]
      rfl

/-! ## What a later store has -/

section Later

variable (h : s.Sound) (hg : s.Grows s') (hd : d ∈ s.documents)
include h hg hd

/-- With more templates at the end of the list, a name is found among the others first. -/
theorem Sound.findDynamicTemplate?_append (h' : s'.Sound) {ts : List TemplateId}
    (hlist : (s'.document d).dynamicTemplates = (s.document d).dynamicTemplates ++ ts) (n : String) :
    s'.findDynamicTemplate? d n
      = (s.findDynamicTemplate? d n).or (ts.find? fun t => s'.templateName t == n) := by
  have hnames : ∀ t ∈ (s.document d).dynamicTemplates,
      (s'.templateName t == n) = (s.templateName t == n) := by
    intro t ht
    rw [hg.templateName_eq h ((h.documents d hd).templates t (List.mem_append_right _ ht)).1]
  rw [h'.findDynamicTemplate?_eq (hg.documents d hd).1, h.findDynamicTemplate?_eq hd, hlist,
    List.find?_append, List.find?_congr hnames]

theorem Sound.findDynamicTemplate?_kept (h' : s'.Sound)
    (hlist : (s'.document d).dynamicTemplates = (s.document d).dynamicTemplates) (n : String) :
    s'.findDynamicTemplate? d n = s.findDynamicTemplate? d n := by
  have hnone : (s'.document d).dynamicTemplates = (s.document d).dynamicTemplates ++ [] := by
    rw [hlist, List.append_nil]
  rw [h.findDynamicTemplate?_append hg hd h' hnone n]
  exact Option.or_none

/-- What the global frame has under a name, it has later. -/
theorem Sound.lookup_isSome (hlookup : (s.lookup (s.frame (s.globalFrame d)) n).isSome = true) :
    (s'.lookup (s'.frame (s'.globalFrame d)) n).isSome = true := by
  have hframe := h.globalFrame_mem hd
  obtain ⟨x, hx⟩ := Option.isSome_iff_exists.mp hlookup
  have hlater : s'.lookup (s'.frame (s.globalFrame d)) n = some x := by
    refine find?_of_extends (hg.frames _ hframe).2.symbols (fun y hy => ?_) hx
    rw [hg.name_eq ((h.frames _ hframe).symbols y hy)]
  rw [h.globalFrame_eq hg hd, hlater]
  rfl

/-- A name stays as it stands if the same template is found under it, as much defined as it was. -/
theorem Sound.standing_stays (hfind : s'.findDynamicTemplate? d n = s.findDynamicTemplate? d n)
    (hdefined : ∀ t, s.findDynamicTemplate? d n = some t →
      (s'.template t).isDefined = (s.template t).isDefined) :
    (s.standing d n).Stays (s'.standing d n) := by
  cases hold : s.findDynamicTemplate? d n with
  | some t =>
    rw [standing_of_find hold, standing_of_find (hfind.trans hold), hdefined t hold]
    exact Or.inl rfl
  | none =>
    rw [standing_of_not_found hold, standing_of_not_found (hfind.trans hold)]
    by_cases htaken : (s.lookup (s.frame (s.globalFrame d)) n).isSome = true
    · rw [if_pos htaken, if_pos (h.lookup_isSome hg hd htaken)]
      exact Or.inl rfl
    · rw [if_neg htaken]
      by_cases hlater : (s'.lookup (s'.frame (s'.globalFrame d)) n).isSome = true
      · rw [if_pos hlater]
        exact Or.inr ⟨rfl, rfl⟩
      · rw [if_neg hlater]
        exact Or.inl rfl

end Later

/-! ## Calls -/

/-- What a call for a free name leads to: a new template of the name is listed last, with its place as
    its index, it is entered under the name, and it is not defined. -/
structure DeclaresDynamic (s : Store) (d : DocumentId) (n : String) (s' : Store) : Prop where
  new : s.templates.next ∉ s.templates
  list : (s'.document d).dynamicTemplates
    = (s.document d).dynamicTemplates ++ [s.templates.next]
  entry : s'.findDynamicTemplate? d n = some s.templates.next
  index : (s'.template s.templates.next).dynindex = (s.document d).dynamicTemplates.length
  undefined : (s'.template s.templates.next).isDefined = false
  name : s'.templateName s.templates.next = n

/-- What a call for a name does. It gives what the standing tells, and the name stands as it should
    afterwards. Only a call for a free name lists a template. -/
structure Calls (s : Store) (d : DocumentId) (n : String) (parameters : List SymbolId) (span : Span) :
    Prop where
  answer : (s.addDynamicTemplate d n parameters span).2 = (s.standing d n).answer s.templates.next n
  standing : (s.addDynamicTemplate d n parameters span).1.standing d n
    = (s.standing d n).called s.templates.next
  declares : s.standing d n = .free →
    s.DeclaresDynamic d n (s.addDynamicTemplate d n parameters span).1
  keeps : s.standing d n ≠ .free →
    ((s.addDynamicTemplate d n parameters span).1.document d).dynamicTemplates
      = (s.document d).dynamicTemplates

section Calls

variable {parameters : List SymbolId} {span : Span}

theorem addDynamicTemplate_of_free (parameters : List SymbolId) (span : Span) (hd : d ∈ s.documents)
    (hfind : s.findDynamicTemplate? d n = none) (hfree : s.lookup (s.frame (s.globalFrame d)) n = none) :
    (s.addDynamicTemplate d n parameters span).2 = .ok s.templates.next
      ∧ s.DeclaresDynamic d n (s.addDynamicTemplate d n parameters span).1 := by
  let x : Symbol := { name := n, type := templateType true, span }
  let s₁ := s.declared (s.globalFrame d) x
  let s₂ := (s₁.newTemplate s.symbols.next parameters (some (s.globalFrame d))
    (s.document d).log {}).1
  let assigned : Template → Template := fun t =>
    { t with dynamic := true, dynindex := (s.document d).dynamicTemplates.length, isDefined := false }
  let s₃ := s₂.modifyTemplate s.templates.next assigned
  let s₄ := s₃.modifyDocument d fun y =>
    { y with
      dynamicTemplates := y.dynamicTemplates ++ [s.templates.next]
      dynamicByName := Ordered.put y.dynamicByName n s.templates.next }
  have hdeclare : s.declare (s.globalFrame d) x = (s₁, .ok s.symbols.next) := declare_of_free hfree
  have hcall : s.addDynamicTemplate d n parameters span = (s₄, .ok s.templates.next) := by
    rw [addDynamicTemplate, hfind]
    dsimp only
    rw [hdeclare]
    rfl
  have hget : s₄.template s.templates.next = assigned (s₂.template s.templates.next) :=
    Table.get_modify_self assigned (Table.next_mem_push _ _)
  have hsymbol : s₄.templateSymbol s.templates.next = s.symbols.next := by
    rw [templateSymbol, hget]
    exact templateSymbol_newTemplate s₁ s.symbols.next parameters _ _ {}
  have hname : s₄.name s.symbols.next = n := by
    have hmade := Table.get_modify_self
      (fun y : Symbol => { y with subject := .template s.templates.next })
      (s.next_mem_declared (s.globalFrame d) x)
    exact (congrArg Symbol.name hmade).trans (congrArg Symbol.name (symbol_declared_next s _ x))
  have hdocument : s₄.document d = { s₃.document d with
      dynamicTemplates := (s₃.document d).dynamicTemplates ++ [s.templates.next]
      dynamicByName := Ordered.put (s₃.document d).dynamicByName n s.templates.next } :=
    Table.get_modify_self _ hd
  rw [hcall]
  refine ⟨rfl, ?_⟩
  exact
    { new := Table.next_not_mem s.templates
      list := congrArg Document.dynamicTemplates hdocument
      entry := by
        rw [findDynamicTemplate?, hdocument]
        exact Ordered.get?_put_of_eq_none hfind
      index := congrArg Template.dynindex hget
      undefined := congrArg Template.isDefined hget
      name := by rw [templateName, hsymbol, hname] }

/-- A call that is refused leaves every name as it stands. -/
theorem Calls.of_refused (log : LogId) (hrefuses : (s.standing d n).refuses = true)
    (hcall : s.addDynamicTemplate d n parameters span
      = s.reject log span (ProblemKind.duplicateDefinition.on n)) : s.Calls d n parameters span := by
  have hanswer : (s.standing d n).answer s.templates.next n
      = .error (ProblemKind.duplicateDefinition.on n) := by
    generalize s.standing d n = σ at hrefuses
    cases σ with
    | taken | defined t => rfl
    | free | declared t => exact absurd hrefuses Bool.false_ne_true
  refine ⟨?_, ?_, fun hfree => ?_, fun _ => ?_⟩
  · rw [hcall, hanswer]
    rfl
  · rw [hcall, Standing.called_of_refuses _ hrefuses]
    rfl
  · rw [hfree] at hrefuses
    exact absurd hrefuses Bool.false_ne_true
  · rw [hcall]
    rfl

/-- **A call gives what the standing of the name tells, and leads to the next standing.** -/
theorem Sound.calls (h : s.Sound) (hd : d ∈ s.documents) (hparameters : s.HasAll parameters) :
    s.Calls d n parameters span := by
  have hpath : Path (fun _ => True) s (s.addDynamicTemplate d n parameters span).1 :=
    h.path_addDynamicTemplate hd hparameters trivial trivial trivial trivial (fun _ _ => trivial) trivial
  have hg := hpath.grows
  have hlater := hpath.sound h
  cases hfind : s.findDynamicTemplate? d n with
  | some t =>
    have ht := h.mem_allTemplates_of_find hd hfind
    have hstanding := standing_of_find hfind
    by_cases hdefined : (s.template t).isDefined = true
    · -- The name is defined.
      rw [if_pos hdefined] at hstanding
      refine .of_refused (s.document d).log (by rw [hstanding]; rfl) ?_
      rw [addDynamicTemplate, hfind]
      exact if_pos hdefined
    · -- The name is declared.
      rw [if_neg hdefined] at hstanding
      have hcall : s.addDynamicTemplate d n parameters span
          = (s.modifyTemplate t fun u => { u with isDefined := true }, .ok t) := by
        rw [addDynamicTemplate, hfind]
        exact if_neg hdefined
      rw [hcall] at hg hlater
      have hfound := h.findDynamicTemplate?_kept hg hd hlater rfl n
      have hchanged : (s.modifyTemplate t fun u => { u with isDefined := true }).template t
          = { s.template t with isDefined := true } :=
        Table.get_modify_self _ ((h.documents d hd).templates t ht).1
      refine ⟨?_, ?_, fun hfree => ?_, fun _ => ?_⟩
      · rw [hcall, hstanding]
        rfl
      · rw [hcall, hstanding, standing_of_find (hfound.trans hfind), hchanged]
        rfl
      · rw [hstanding] at hfree
        exact Standing.noConfusion hfree
      · rw [hcall]
        rfl
  | none =>
    have hstanding := standing_of_not_found hfind
    by_cases htaken : (s.lookup (s.frame (s.globalFrame d)) n).isSome = true
    · -- The name is taken.
      rw [if_pos htaken] at hstanding
      refine .of_refused (s.document d).log (by rw [hstanding]; rfl) ?_
      rw [addDynamicTemplate, hfind]
      dsimp only
      rw [declare_of_taken htaken]
    · -- The name is free.
      rw [if_neg htaken] at hstanding
      have hlookup : s.lookup (s.frame (s.globalFrame d)) n = none := by simpa using htaken
      obtain ⟨hanswer, hdeclares⟩ := addDynamicTemplate_of_free parameters span hd hfind hlookup
      refine ⟨?_, ?_, fun _ => hdeclares, fun hnot => absurd hstanding hnot⟩
      · rw [hanswer, hstanding]
        rfl
      · rw [standing_of_find hdeclares.entry, hdeclares.undefined, hstanding]
        rfl

end Calls

/-! ## Other operations -/

section Others

variable (h : s.Sound) (hd : d ∈ s.documents)
include h hd

/-- Two calls, of which one is for another name or in another document, find different templates. -/
theorem Sound.find_ne_of_call {e : DocumentId} {m : String} (he : e ∈ s.documents)
    (hother : e = d → m ≠ n) {t : TemplateId} (hfind : s.findDynamicTemplate? d n = some t) :
    s.findDynamicTemplate? e m ≠ some t := by
  intro hfound
  have hed : e = d :=
    h.apart.templates e he d hd t (h.mem_allTemplates_of_find he hfound)
      (h.mem_allTemplates_of_find hd hfind)
  have hmn : m = n := ((h.findDynamicTemplate?_iff he).mp hfound).2.symm.trans
    ((h.findDynamicTemplate?_iff hd).mp hfind).2
  exact hother hed hmn

/-- A call for another name or in another document brings nothing under the name. -/
theorem Sound.find_perform_of_call {e : DocumentId} {m : String} {parameters : List SymbolId}
    {span : Span} (hop : (Operation.addDynamicTemplate e m parameters span).Admissible s)
    (hother : e = d → m ≠ n) :
    (s.perform (.addDynamicTemplate e m parameters span)).findDynamicTemplate? d n
      = s.findDynamicTemplate? d n := by
  have hpath := h.path_perform hop
  have hlater := hpath.sound h
  by_cases hed : e = d
  · subst hed
    have hcalls : s.Calls e m parameters span := h.calls hd hop.symbols
    by_cases hfree : s.standing e m = .free
    · have hdeclares := hcalls.declares hfree
      have hname : (s.perform (.addDynamicTemplate e m parameters span)).templateName
          s.templates.next = m := hdeclares.name
      rw [h.findDynamicTemplate?_append hpath.grows hd hlater hdeclares.list n]
      simp [hname, hother rfl]
    · exact h.findDynamicTemplate?_kept hpath.grows hd hlater (hcalls.keeps hfree) n
  · have hdocument : (s.perform (.addDynamicTemplate e m parameters span)).document d
        = s.document d := by
      refine hpath.same (e := .document d) hd fun w hw htarget => hed ?_
      obtain rfl : w = .document d := by cases w <;> simp_all [Write.targets]
      have hde : d = e := by simpa [Operation.writes] using hw
      exact hde.symm
    exact h.findDynamicTemplate?_kept hpath.grows hd hlater
      (congrArg Document.dynamicTemplates hdocument) n

/-- **Without a call for it, a name stays as it stands**, or is taken when it was free. -/
theorem Sound.standing_perform {op : Operation} (hop : op.Admissible s) (hkeeps : op.KeepsDynamics s)
    (hother : ∀ parameters span, op ≠ .addDynamicTemplate d n parameters span) :
    (s.standing d n).Stays ((s.perform op).standing d n) := by
  have hpath := h.path_perform hop
  have hg := hpath.grows
  have hthere : ∀ t, s.findDynamicTemplate? d n = some t → t ∈ s.templates :=
    fun t hfind => ((h.documents d hd).templates t (h.mem_allTemplates_of_find hd hfind)).1
  by_cases hcall : ∃ e m parameters span, op = .addDynamicTemplate e m parameters span
  · obtain ⟨e, m, parameters, span, rfl⟩ := hcall
    have he : e ∈ s.documents := hop.receivers (.document e) List.mem_cons_self
    have hne : e = d → m ≠ n := by
      rintro rfl rfl
      exact hother parameters span rfl
    refine h.standing_stays hg hd (h.find_perform_of_call hd hop hne) fun t hfind => ?_
    refine h.isDefined_perform hop hkeeps (hthere t hfind) fun _ _ _ _ heq => ?_
    cases heq
    exact h.find_ne_of_call hd he hne hfind
  · have hnot : ∀ e m parameters span, op ≠ .addDynamicTemplate e m parameters span :=
      fun e m parameters span heq => hcall ⟨e, m, parameters, span, heq⟩
    refine h.standing_stays hg hd ?_ fun t hfind => ?_
    · exact h.findDynamicTemplate?_kept hg hd (hpath.sound h)
        (h.dynamicTemplates_perform hop hnot hd) n
    · exact h.isDefined_perform hop hkeeps (hthere t hfind) fun e m parameters span heq =>
        absurd heq (hnot e m parameters span)

end Others

/-! ## Any number of operations -/

/-- The template that an operation gives if it is a call for the name and succeeds. -/
def grant? (s : Store) (d : DocumentId) (n : String) : Operation → Option TemplateId
  | .addDynamicTemplate document name parameters span =>
    if document = d ∧ name = n then (s.addDynamicTemplate d n parameters span).2.toOption else none
  | _ => none

/-- The templates that the calls for the name give, one after the other. -/
def grants (s : Store) (d : DocumentId) (n : String) : List Operation → List TemplateId
  | [] => []
  | op :: ops => (s.grant? d n op).toList ++ (s.perform op).grants d n ops

/-- **An operation is a call, which gives what the standing of the name tells and leads to the next
    one, or it gives nothing and leaves the name as it stands.** -/
theorem Sound.grant?_perform (h : s.Sound) (hd : d ∈ s.documents) {op : Operation}
    (hop : op.Admissible s) (hkeeps : op.KeepsDynamics s) :
    s.grant? d n op = ((s.standing d n).answer s.templates.next n).toOption
        ∧ (s.perform op).standing d n = (s.standing d n).called s.templates.next
      ∨ s.grant? d n op = none ∧ (s.standing d n).Stays ((s.perform op).standing d n) := by
  by_cases hcall : ∃ parameters span, op = .addDynamicTemplate d n parameters span
  · obtain ⟨parameters, span, rfl⟩ := hcall
    have hcalls : s.Calls d n parameters span := h.calls hd hop.symbols
    refine Or.inl ⟨?_, hcalls.standing⟩
    rw [← hcalls.answer]
    exact if_pos ⟨rfl, rfl⟩
  · have hother : ∀ parameters span, op ≠ .addDynamicTemplate d n parameters span :=
      fun parameters span heq => hcall ⟨parameters, span, heq⟩
    refine Or.inr ⟨?_, h.standing_perform hd hop hkeeps hother⟩
    cases op with
    | addDynamicTemplate document name parameters span =>
      refine if_neg fun hsame => ?_
      obtain ⟨rfl, rfl⟩ := hsame
      exact hother parameters span rfl
    | _ => rfl

/-- An operation adds what it gives to what was given before. -/
theorem Sound.granted_perform (h : s.Sound) (hd : d ∈ s.documents) {op : Operation}
    (hop : op.Admissible s) (hkeeps : op.KeepsDynamics s) :
    ((s.perform op).standing d n).granted
      = (s.standing d n).granted ++ (s.grant? d n op).toList := by
  rcases h.grant?_perform hd hop hkeeps with ⟨hgrant, hlater⟩ | ⟨hgrant, hstays⟩
  · rw [hgrant, hlater]
    exact Standing.granted_called _ n _
  · rw [hgrant, hstays.granted_eq]
    exact (List.append_nil _).symm

/-- A name for which calls are refused stays as it stands, whatever is done. -/
theorem Sound.standing_perform_of_refuses (h : s.Sound) (hd : d ∈ s.documents) {op : Operation}
    (hop : op.Admissible s) (hkeeps : op.KeepsDynamics s) (hrefuses : (s.standing d n).refuses = true) :
    (s.perform op).standing d n = s.standing d n := by
  rcases h.grant?_perform hd hop hkeeps with ⟨-, hlater⟩ | ⟨-, hstays⟩
  · exact hlater.trans (Standing.called_of_refuses _ hrefuses)
  · exact hstays.eq_of_refuses hrefuses

/-- **What calls have given is what they had given before and what they have given since.** -/
theorem Sound.granted_foldl (h : s.Sound) (hd : d ∈ s.documents) {ops : List Operation}
    (hops : s.Performs Operation.KeepsDynamics ops) :
    ((ops.foldl perform s).standing d n).granted = (s.standing d n).granted ++ s.grants d n ops := by
  induction ops generalizing s with
  | nil => exact (List.append_nil _).symm
  | cons op ops ih =>
    obtain ⟨hop, hkeeps, hrest⟩ := hops
    have hpath := h.path_perform hop
    rw [List.foldl_cons, ih (hpath.sound h) (hpath.grows.documents d hd).1 hrest,
      h.granted_perform hd hop hkeeps, List.append_assoc]
    rfl

theorem Sound.standing_foldl_of_refuses (h : s.Sound) (hd : d ∈ s.documents) {ops : List Operation}
    (hops : s.Performs Operation.KeepsDynamics ops) (hrefuses : (s.standing d n).refuses = true) :
    (ops.foldl perform s).standing d n = s.standing d n := by
  induction ops generalizing s with
  | nil => rfl
  | cons op ops ih =>
    obtain ⟨hop, hkeeps, hrest⟩ := hops
    have hpath := h.path_perform hop
    have hkept := h.standing_perform_of_refuses hd hop hkeeps hrefuses
    rw [List.foldl_cons, ih (hpath.sound h) (hpath.grows.documents d hd).1 hrest (hkept ▸ hrefuses),
      hkept]

/-! ## New documents and copies -/

/-- In a new document every name is free. -/
theorem standing_openDocument (s : Store) (lines : Option LineTableId) (log : Option LogId)
    (n : String) : (s.openDocument lines log).1.standing (s.openDocument lines log).2 n = .free := by
  obtain ⟨u, lineTable, l, heq⟩ : ∃ u lineTable l, s.openDocument lines log
      = (newDocument u lineTable l) := by
    unfold openDocument
    cases log with
    | none => exact ⟨_, _, _, rfl⟩
    | some l => exact ⟨_, _, l, rfl⟩
  rw [heq]
  show (u.newDocument lineTable l).1.standing u.documents.next n = .free
  have hdocument : ((u.newDocument lineTable l).1.document u.documents.next).dynamicByName = [] :=
    congrArg Document.dynamicByName (Table.get_push_next u.documents _)
  have hfind : (u.newDocument lineTable l).1.findDynamicTemplate? u.documents.next n = none := by
    rw [findDynamicTemplate?, hdocument]
    rfl
  rw [standing_of_not_found hfind, u.globalFrame_newDocument lineTable l]
  rfl

/-- **A name stands in a copied document as it does in the document**, with the copies of the
    templates. -/
theorem Tidy.standing_relocated (htidy : s.Tidy) (h : s.Sound) (hd : d ∈ s.documents) (n : String) :
    (s.relocated d).1.standing (s.relocated d).2 n
      = (s.standing d n).map (s.relocations d).templates := by
  have hfind := findDynamicTemplate?_relocated s d n
  cases hold : s.findDynamicTemplate? d n with
  | some t =>
    have hlisted := h.mem_allTemplates_of_find hd hold
    rw [hold] at hfind
    rw [standing_of_find hfind, standing_of_find hold, relocated_template hlisted]
    show (if (s.template t).isDefined then _ else _) = _
    split
    · rfl
    · rfl
  | none =>
    rw [hold] at hfind
    have hframe : ∀ x ∈ (s.frame (s.globalFrame d)).symbols,
        ((s.relocated d).1.name ((s.relocations d).symbols x) == n) = (s.name x == n) := fun x hx => by
      rw [name_relocated
        (mem_mentioned_of_frame (frame_mem_ownedFrames (globals_mem_ownedBlocks s d)) hx)]
    have hlookup : (s.relocated d).1.lookup
        ((s.relocated d).1.frame ((s.relocated d).1.globalFrame (s.relocated d).2)) n
          = (s.lookup (s.frame (s.globalFrame d)) n).map (s.relocations d).symbols := by
      rw [globalFrame_relocated, lookup, htidy.symbols_copiedGlobalFrame hd]
      exact find?_map_eq hframe
    rw [standing_of_not_found hfind, standing_of_not_found hold, hlookup, Option.isSome_map]
    split
    · rfl
    · rfl

/-! ## Every document -/

/-- The dynamic templates of a document: the list of them, what is entered under their names and the
    global frame agree. There is one for each of their names, with its place as its index, and no static
    template has the name. -/
structure DynamicTemplates (s : Store) (d : DocumentId) : Prop where
  entered : (s.document d).dynamicByName
    = (s.document d).dynamicTemplates.map fun t => (s.templateName t, t)
  scope : ∀ t ∈ (s.document d).dynamicTemplates,
    s.lookup (s.frame (s.globalFrame d)) (s.templateName t) = some (s.templateSymbol t)
  found : ∀ n t, s.findDynamicTemplate? d n = some t
    ↔ t ∈ (s.document d).dynamicTemplates ∧ s.templateName t = n
  indices : ∀ (i : Nat) t, (s.document d).dynamicTemplates[i]? = some t → (s.template t).dynindex = i
  apart : ∀ n t u, s.findTemplate? d n = some t → s.findDynamicTemplate? d n ≠ some u

/-- The life of a dynamic template of a name. What a call does, the standing of the name tells; what
    else is done leaves the name as it stands, or takes it when it is free. After any operations, the
    calls have given what they had given before and what they have given since, two times the same at
    most, and this is the dynamic template that is found. When calls are refused, they are refused
    from then on. A copied document goes on where the document stands. -/
structure LifeCycle (s : Store) (d : DocumentId) (n : String) : Prop where
  call : ∀ parameters span, s.HasAll parameters → s.Calls d n parameters span
  other : ∀ op, Operation.Admissible s op → op.KeepsDynamics s →
    (∀ parameters span, op ≠ .addDynamicTemplate d n parameters span) →
    (s.standing d n).Stays ((s.perform op).standing d n)
  afterwards : ∀ ops, s.Performs Operation.KeepsDynamics ops →
    ((ops.foldl perform s).standing d n).granted = (s.standing d n).granted ++ s.grants d n ops
      ∧ (ops.foldl perform s).findDynamicTemplate? d n
        = ((s.standing d n).granted ++ s.grants d n ops).head?
  twice : ∀ ops, s.Performs Operation.KeepsDynamics ops → (s.grants d n ops).length ≤ 2
    ∧ ∀ t ∈ s.grants d n ops, ∀ u ∈ s.grants d n ops, t = u
  refused : ∀ ops, s.Performs Operation.KeepsDynamics ops → (s.standing d n).refuses = true →
    s.grants d n ops = [] ∧ (ops.foldl perform s).standing d n = s.standing d n
  copied : (s.copyDocument d).1.standing (s.copyDocument d).2 n
    = (s.standing d n).map (s.relocations d).templates

theorem Sound.lifeCycle (h : s.Sound) (htidy : s.Tidy) (hd : d ∈ s.documents) (n : String) :
    s.LifeCycle d n where
  call parameters span hparameters := h.calls hd hparameters
  other op hop hkeeps hother := h.standing_perform hd hop hkeeps hother
  afterwards ops hops := by
    have hgranted := h.granted_foldl (n := n) hd hops
    exact ⟨hgranted, by rw [findDynamicTemplate?_eq_head?, hgranted]⟩
  twice ops hops := by
    have hgranted := h.granted_foldl (n := n) hd hops
    constructor
    · have hlength := Standing.length_granted_le ((ops.foldl perform s).standing d n)
      rw [hgranted, List.length_append] at hlength
      omega
    · intro t ht u hu
      have hmem : ∀ v ∈ s.grants d n ops, v ∈ ((ops.foldl perform s).standing d n).granted := by
        intro v hv
        rw [hgranted]
        exact List.mem_append_right _ hv
      exact Standing.eq_of_mem_granted (hmem t ht) (hmem u hu)
  refused ops hops hrefuses := by
    have hkept := h.standing_foldl_of_refuses hd hops hrefuses
    have hgranted := h.granted_foldl (n := n) hd hops
    rw [hkept] at hgranted
    exact ⟨List.self_eq_append_right.mp hgranted, hkept⟩
  copied := by
    rw [h.copyDocument_eq hd]
    exact htidy.standing_relocated h hd n

theorem GlobalNames.dynamicTemplates (hnamed : s.GlobalNames d) (hindexed : s.Indexed) (h : s.Sound)
    (hd : d ∈ s.documents) : s.DynamicTemplates d where
  entered := (h.documents d hd).entered
  scope t ht := hnamed.lookup_templateName (List.mem_append_right _ ht)
  found _ _ := h.findDynamicTemplate?_iff hd
  indices := hindexed d hd
  apart n t u ht hu := by
    rw [hnamed.findDynamicTemplate?_eq_none h hd ht] at hu
    exact Option.some_ne_none u hu.symm

/-- **The life cycle of dynamic templates.** Whatever a program does, short of adding symbols and setting
    indices by hand: of every document, copies among them, the list of dynamic templates, what is entered
    under their names and the global frame agree; the templates have names of their own and their places
    as indices, each name has its life cycle, and in a new document all names are free. -/
theorem dynamic_lifeCycle (hrun : Run Operation.KeepsDynamics {} s) :
    (∀ d ∈ s.documents, s.DynamicTemplates d ∧ ∀ n, s.LifeCycle d n)
      ∧ ∀ lines log n, (s.openDocument lines log).1.standing (s.openDocument lines log).2 n = .free := by
  have h := hrun.sound sound_empty
  have hdeclares : Run Operation.DeclaresOnly {} s :=
    hrun.imp fun _ _ => Operation.KeepsDynamics.declaresOnly
  have htidy : s.Tidy := (hdeclares.imp fun _ _ => Operation.DeclaresOnly.addsOnce).tidy
  constructor
  · intro d hd
    exact ⟨(hdeclares.named d hd).dynamicTemplates hrun.indexed h hd, fun n => h.lifeCycle htidy hd n⟩
  · exact fun lines log n => s.standing_openDocument lines log n

/-- A variable and a template, calls for their names, two dynamic templates, a template under the name
    of one of them, and a copy of the document. -/
def declaring : List Operation :=
  [.openDocument none none, .addVariable ⟨0⟩ ⟨0⟩ "int" "x" .empty {}, .addDynamicTemplate ⟨0⟩ "x" [] {},
    .addDynamicTemplate ⟨0⟩ "T" [] {}, .addTemplate ⟨0⟩ "T" [] {} {}, .addTemplate ⟨0⟩ "U" [] {} {},
    .addDynamicTemplate ⟨0⟩ "U" [] {}, .addDynamicTemplate ⟨0⟩ "V" [] {}, .copyDocument ⟨0⟩]

/-- More calls in the document and in the copy, of which two are for a name that a function has taken
    in the document only. -/
def defining : List Operation :=
  [.addDynamicTemplate ⟨0⟩ "T" [] {}, .addDynamicTemplate ⟨0⟩ "T" [] {},
    .addFunction ⟨0⟩ ⟨0⟩ "int" "W" {}, .addDynamicTemplate ⟨0⟩ "W" [] {},
    .addDynamicTemplate ⟨1⟩ "W" [] {}, .addDynamicTemplate ⟨1⟩ "V" [] {},
    .addDynamicTemplate ⟨1⟩ "W" [] {}, .addDynamicTemplate ⟨1⟩ "V" [] {}]

/-- The store after the first part. -/
def declaredStore : Store := declaring.foldl perform {}

/-- In the document one template gets defined, and in the copy another one. The function keeps its
    name in the document, and in the copy the name goes to a dynamic template with the next index. -/
theorem dynamic_lifeCycle_copied : Run Operation.KeepsDynamics {} declaredStore
    ∧ (∀ d ∈ [(⟨0⟩ : DocumentId), ⟨1⟩], declaredStore.DynamicTemplates d
      ∧ ∀ n, declaredStore.LifeCycle d n)
    ∧ declaredStore.Performs Operation.KeepsDynamics defining
    ∧ ["T", "U", "V", "W", "x"].map (declaredStore.standing ⟨0⟩)
      = [.declared ⟨0⟩, .taken, .declared ⟨2⟩, .free, .taken]
    ∧ ["T", "U", "V", "W", "x"].map (declaredStore.standing ⟨1⟩)
      = [.declared ⟨4⟩, .taken, .declared ⟨5⟩, .free, .taken]
    ∧ ["T", "V", "W"].map (fun n => declaredStore.grants ⟨0⟩ n defining) = [[⟨0⟩], [], []]
    ∧ ["T", "V", "W"].map (fun n => declaredStore.grants ⟨1⟩ n defining) = [[], [⟨5⟩], [⟨6⟩, ⟨6⟩]]
    ∧ (defining.foldl perform declaredStore).findDynamicTemplate? ⟨1⟩ "W" = some ⟨6⟩
    ∧ ((defining.foldl perform declaredStore).template ⟨6⟩).dynindex = 2 := by
  have hperforms : ({} : Store).Performs Operation.KeepsDynamics declaring := by decide +kernel
  have hrun : Run Operation.KeepsDynamics {} declaredStore := Run.refl.performs hperforms
  have hdefining : declaredStore.Performs Operation.KeepsDynamics defining := by decide +kernel
  have hcycle := (dynamic_lifeCycle hrun).1
  refine ⟨hrun, ?_, hdefining, by decide +kernel, by decide +kernel, by decide +kernel, by decide +kernel,
    ?_, by decide +kernel⟩
  · intro d hd
    simp only [List.mem_cons, List.not_mem_nil, or_false] at hd
    rcases hd with rfl | rfl
    · exact hcycle ⟨0⟩ (by decide +kernel)
    · exact hcycle ⟨1⟩ (by decide +kernel)
  · have hfound := (((hcycle ⟨1⟩ (by decide +kernel)).2 "W").afterwards defining hdefining).2
    rw [hfound]
    decide +kernel

end Store

end TimedNet
