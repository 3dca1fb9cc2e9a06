import Mathlib
import TimedNet.Proofs.Run.Frames

/-!
# `TimedNet.Proofs.Run.Closure` — what is restricted is closed under dependencies

To restrict a symbol is to restrict all that its initial value depends on, at once or through other
initialisers, which may refer to each other in circles. The search takes a symbol that is restricted
already from the stack and looks no further; it misses nothing only because what is restricted from
earlier calls is closed, so that all behind such a symbol is restricted too or still on the stack.

* `Store.Mentions`, `Store.DependsOn`, `Store.Closed`: dependencies, chains of them, and sets that no
  chain leaves.
* `Store.searchTurn`, `exists_iterate_searchTurn`: the search as a loop, and after how many turns it
  ends.
* `Store.ClosedUpTo`, `mem_restrictAll`: what the search finds.
* `Store.restrictedIn`, `Store.RestrictsClosure`: one call for a template.
* `Operation.KeepsDependencies`, `Store.LeastClosed`, `Sound.mem_restrictedIn_foldl`: any number of
  calls, with other operations between them.
* `restrict_closes`: all of it.
-/

namespace TimedNet

open Relation (ReflTransGen)

namespace Store

variable {s s' : Store}

/-! ## Dependencies -/

/-- The initial value of what the first symbol stands for mentions the second one. -/
def Mentions (s : Store) (x y : SymbolId) : Prop := y ∈ s.dependencies x

/-- A chain of dependencies leads from the first symbol to the second one. -/
def DependsOn (s : Store) : SymbolId → SymbolId → Prop := ReflTransGen s.Mentions

/-- With a symbol, the set has everything on which the symbol depends. -/
def Closed (s : Store) (set : SymbolId → Prop) : Prop :=
  ∀ x, set x → ∀ y ∈ s.dependencies x, set y

/-- No chain of dependencies leaves a closed set. -/
theorem Closed.of_dependsOn {set : SymbolId → Prop} (hclosed : s.Closed set) {x y : SymbolId} (hx : set x)
    (hchain : s.DependsOn x y) : set y := by
  induction hchain with
  | refl => exact hx
  | tail _ hstep ih => exact hclosed _ ih _ hstep

/-! ## The search as a loop -/

/-- One turn of the search: what is restricted and the stack, after the first symbol was taken from
    it. -/
def searchTurn (s : Store) : List SymbolId × List SymbolId → List SymbolId × List SymbolId
  | (restricted, []) => (restricted, [])
  | (restricted, x :: stack) =>
    if x ∈ restricted then (restricted, stack)
    else (restricted ++ [x], (s.dependencies x).reverse ++ stack)

/-- **The search ends.** It finds some symbols that were not restricted, each of them once, and takes
    a turn for each symbol that was on the stack and for each dependency of a symbol that it finds. -/
theorem exists_iterate_searchTurn (s : Store) (restricted stack : List SymbolId) :
    ∃ found : List SymbolId, s.restrictAll restricted stack = restricted ++ found
      ∧ found.Nodup ∧ (∀ x ∈ found, x ∉ restricted)
      ∧ s.searchTurn^[stack.length + (found.map fun x => (s.dependencies x).length).sum]
          (restricted, stack) = (s.restrictAll restricted stack, []) := by
  fun_induction restrictAll s restricted stack with
  | case1 restricted => exact ⟨[], by simp⟩
  | case2 restricted x stack hmem ih =>
    obtain ⟨found, heq, hnodup, hnew, hturns⟩ := ih
    refine ⟨found, heq, hnodup, hnew, ?_⟩
    have hturn : s.searchTurn (restricted, x :: stack) = (restricted, stack) := if_pos hmem
    rw [List.length_cons, Nat.add_right_comm, Function.iterate_succ_apply, hturn]
    exact hturns
  | case3 restricted x stack hfirst ih =>
    obtain ⟨found, heq, hnodup, hnew, hturns⟩ := ih
    refine ⟨x :: found, ?_, List.nodup_cons.mpr ⟨fun hx => ?_, hnodup⟩, ?_, ?_⟩
    · rw [heq, List.append_assoc]
      rfl
    · exact hnew x hx (List.mem_append_right _ List.mem_cons_self)
    · intro y hy
      rcases List.mem_cons.mp hy with rfl | hy
      · exact hfirst
      · exact fun hmem => hnew y hy (List.mem_append_left _ hmem)
    · have hturn : s.searchTurn (restricted, x :: stack)
          = (restricted ++ [x], (s.dependencies x).reverse ++ stack) := if_neg hfirst
      have hcount : (x :: stack).length + ((x :: found).map fun y => (s.dependencies y).length).sum
          = ((s.dependencies x).reverse ++ stack).length
            + (found.map fun y => (s.dependencies y).length).sum + 1 := by
        simp
        omega
      rw [hcount, Function.iterate_succ_apply, hturn]
      exact hturns

/-! ## What the search finds -/

/-- With a symbol, the list has everything on which the symbol depends, unless it is on the stack. -/
def ClosedUpTo (s : Store) (stack restricted : List SymbolId) : Prop :=
  ∀ x ∈ restricted, ∀ y ∈ s.dependencies x, y ∈ restricted ∨ y ∈ stack

theorem Closed.upTo {restricted : List SymbolId} (hclosed : s.Closed (· ∈ restricted))
    (stack : List SymbolId) : s.ClosedUpTo stack restricted :=
  fun x hx y hy => Or.inl (hclosed x hx y hy)

/-- A chain that leaves the list goes through the stack. -/
theorem ClosedUpTo.of_dependsOn {stack restricted : List SymbolId} (h : s.ClosedUpTo stack restricted)
    {x y : SymbolId} (hx : x ∈ restricted) (hchain : s.DependsOn x y) :
    y ∈ restricted ∨ ∃ z ∈ stack, s.DependsOn z y := by
  induction hchain with
  | refl => exact Or.inl hx
  | tail _ hstep ih =>
    rcases ih with hmem | ⟨z, hz, hchain⟩
    · rcases h _ hmem _ hstep with hmem | hz
      · exact Or.inl hmem
      · exact Or.inr ⟨_, hz, .refl⟩
    · exact Or.inr ⟨z, hz, hchain.tail hstep⟩

/-- **The search finds what chains of dependencies lead to from the stack**, and nothing else. -/
theorem mem_restrictAll {stack restricted : List SymbolId} (h : s.ClosedUpTo stack restricted)
    {x : SymbolId} : x ∈ s.restrictAll restricted stack
      ↔ x ∈ restricted ∨ ∃ y ∈ stack, s.DependsOn y x := by
  fun_induction restrictAll s restricted stack with
  | case1 restricted => simp
  | case2 restricted y stack hmem ih =>
    -- The symbol is restricted already: a chain from it stays inside or goes through the stack.
    have hrest : s.ClosedUpTo stack restricted := by
      intro a ha b hb
      rcases h a ha b hb with hin | hin
      · exact Or.inl hin
      · rcases List.mem_cons.mp hin with rfl | hin
        · exact Or.inl hmem
        · exact Or.inr hin
    rw [ih hrest]
    constructor
    · rintro (hx | ⟨z, hz, hchain⟩)
      · exact Or.inl hx
      · exact Or.inr ⟨z, List.mem_cons_of_mem _ hz, hchain⟩
    · rintro (hx | ⟨z, hz, hchain⟩)
      · exact Or.inl hx
      · rcases List.mem_cons.mp hz with rfl | hz
        · exact hrest.of_dependsOn hmem hchain
        · exact Or.inr ⟨z, hz, hchain⟩
  | case3 restricted y stack _ ih =>
    have hnext : s.ClosedUpTo ((s.dependencies y).reverse ++ stack) (restricted ++ [y]) := by
      intro a ha b hb
      rcases List.mem_append.mp ha with ha | ha
      · rcases h a ha b hb with hin | hin
        · exact Or.inl (List.mem_append_left _ hin)
        · rcases List.mem_cons.mp hin with rfl | hin
          · exact Or.inl (List.mem_append_right _ List.mem_cons_self)
          · exact Or.inr (List.mem_append_right _ hin)
      · rw [List.mem_singleton.mp ha] at hb
        exact Or.inr (List.mem_append_left _ (List.mem_reverse.mpr hb))
    rw [ih hnext]
    constructor
    · rintro (hx | ⟨z, hz, hchain⟩)
      · rcases List.mem_append.mp hx with hx | hx
        · exact Or.inl hx
        · rw [List.mem_singleton.mp hx]
          exact Or.inr ⟨y, List.mem_cons_self, .refl⟩
      · rcases List.mem_append.mp hz with hz | hz
        · exact Or.inr ⟨y, List.mem_cons_self, .head (List.mem_reverse.mp hz) hchain⟩
        · exact Or.inr ⟨z, List.mem_cons_of_mem _ hz, hchain⟩
    · rintro (hx | ⟨z, hz, hchain⟩)
      · exact Or.inl (List.mem_append_left _ hx)
      · rcases List.mem_cons.mp hz with rfl | hz
        · rcases hchain.cases_head with rfl | ⟨b, hb, hchain⟩
          · exact Or.inl (List.mem_append_right _ List.mem_cons_self)
          · exact Or.inr ⟨b, List.mem_append_left _ (List.mem_reverse.mpr hb), hchain⟩
        · exact Or.inr ⟨z, List.mem_append_right _ hz, hchain⟩

/-! ## One call -/

/-- What is restricted in a template. -/
def restrictedIn (s : Store) (t : TemplateId) : List SymbolId :=
  (s.inst (s.template t).inst).binding.restricted

theorem restrictedIn_restrict {t : TemplateId} (hinst : (s.template t).inst ∈ s.insts) (x : SymbolId) :
    (s.restrict t x).restrictedIn t = s.restrictAll (s.restrictedIn t) [x] :=
  congrArg (fun i : Instance => i.binding.restricted) (Table.get_modify_self _ hinst)

/-- In a new template nothing is restricted. -/
theorem restrictedIn_newTemplate (s : Store) (symbol : SymbolId) (parameters : List SymbolId)
    (globals : Option FrameId) (log : LogId) (style : Style) :
    (s.newTemplate symbol parameters globals log style).1.restrictedIn
      (s.newTemplate symbol parameters globals log style).2 = [] := by
  have hmade := s.template_newTemplate symbol parameters globals log style
  show ((Store.inst _ (Store.template _ s.templates.next).inst).binding).restricted = []
  rw [hmade]
  exact congrArg (fun i : Instance => i.binding.restricted) (Table.get_push_next s.insts _)

/-- What a call does that restricts a symbol in a template. The search takes one turn, and one for
    each dependency of a symbol that it finds; then the stack is empty. What is restricted afterwards
    was before, or a chain of dependencies leads to it from the symbol; it is there once and is closed
    again. -/
structure RestrictsClosure (s : Store) (t : TemplateId) (x : SymbolId) : Prop where
  ends : ∃ found : List SymbolId, (s.restrict t x).restrictedIn t = s.restrictedIn t ++ found
    ∧ s.searchTurn^[1 + (found.map fun y => (s.dependencies y).length).sum] (s.restrictedIn t, [x])
      = ((s.restrict t x).restrictedIn t, [])
  mem : ∀ y, y ∈ (s.restrict t x).restrictedIn t ↔ y ∈ s.restrictedIn t ∨ s.DependsOn x y
  nodup : (s.restrictedIn t).Nodup → ((s.restrict t x).restrictedIn t).Nodup
  closed : (s.restrict t x).Closed (· ∈ (s.restrict t x).restrictedIn t)

theorem restrictsClosure {t : TemplateId} (hinst : (s.template t).inst ∈ s.insts)
    (hclosed : s.Closed (· ∈ s.restrictedIn t)) (x : SymbolId) : s.RestrictsClosure t x := by
  have hrestricted := restrictedIn_restrict hinst x
  have hmem : ∀ y, y ∈ (s.restrict t x).restrictedIn t ↔ y ∈ s.restrictedIn t ∨ s.DependsOn x y := by
    intro y
    rw [hrestricted, mem_restrictAll (hclosed.upTo [x])]
    simp
  obtain ⟨found, heq, hnodup, hnew, hturns⟩ := s.exists_iterate_searchTurn (s.restrictedIn t) [x]
  refine ⟨⟨found, hrestricted.trans heq, ?_⟩, hmem, fun hbefore => ?_, fun y hy z hz => ?_⟩
  · rw [hrestricted]
    exact hturns
  · rw [hrestricted, heq]
    exact List.nodup_append.mpr ⟨hbefore, hnodup, fun a ha b hb hab => hnew b hb (hab ▸ ha)⟩
  · -- Initialisers are as they were.
    have hz' : z ∈ s.dependencies y := hz
    rcases (hmem y).mp hy with hold | hchain
    · exact (hmem z).mpr (Or.inl (hclosed y hold z hz'))
    · exact (hmem z).mpr (Or.inr (hchain.tail hz'))

/-! ## Other operations -/

/-- A step leaves alone what is restricted in a template, unless it says otherwise. -/
theorem Step.restrictedIn_eq {w : Write} (hstep : s.Step w s') (h : s.Sound) {t : TemplateId}
    (ht : t ∈ s.templates) (hw : w ≠ .restrict (s.template t).inst) :
    s'.restrictedIn t = s.restrictedIn t := by
  have hinst : (s'.template t).inst = (s.template t).inst := (hstep.grows.templates t ht).2.inst
  have hmem : (s.template t).inst ∈ s.insts := (h.templates t ht).inst
  have hsame : .inst (s.template t).inst ∉ w.targets → s'.restrictedIn t = s.restrictedIn t := by
    intro hnot
    unfold restrictedIn
    rw [hinst, show s'.inst (s.template t).inst = _ from hstep.same (e := .inst _) hmem hnot]
  cases hstep with
  | restrict r rs _ =>
    apply hsame
    simp only [Write.targets, List.mem_singleton, Entity.inst.injEq]
    rintro rfl
    exact hw rfl
  | parameters r rs _ =>
    by_cases hr : r = (s.template t).inst
    · subst hr
      have hmore : (s.extendParameters (s.template t).inst rs).inst (s.template t).inst
          = { s.inst (s.template t).inst with
              binding := { (s.inst (s.template t).inst).binding with
                parameters := (s.inst (s.template t).inst).binding.parameters ++ rs } } :=
        Table.get_modify_self _ hmem
      unfold restrictedIn
      rw [hinst, hmore]
    · exact hsame (by simpa [Write.targets] using Ne.symm hr)
  | bind r template b _ _ hr =>
    -- The instance of a template is never bound again.
    apply hsame
    simpa [Write.targets] using hr t ht
  | _ => exact hsame (by simp [Write.targets])

theorem eq_restrict_of_mem_writes {op : Operation} {r : InstanceId} (h : .restrict r ∈ op.writes s) :
    ∃ t x, op = .restrict t x ∧ r = (s.template t).inst := by
  cases op with
  | restrict t x => exact ⟨t, x, rfl, by simpa [Operation.writes] using h⟩
  | _ => simp [Operation.writes] at h

/-- **Only a call for the template changes what is restricted there.** -/
theorem Sound.restrictedIn_perform (h : s.Sound) {op : Operation} (hop : op.Admissible s) {t : TemplateId}
    (ht : t ∈ s.templates) (hother : ∀ x, op ≠ .restrict t x) :
    (s.perform op).restrictedIn t = s.restrictedIn t := by
  have hwrites : ∀ w ∈ op.writes s, w ≠ .restrict (s.template t).inst := by
    rintro w hw rfl
    obtain ⟨u, x, rfl, hinst⟩ := eq_restrict_of_mem_writes hw
    have hu : u ∈ s.templates := hop.receivers (.template u) List.mem_cons_self
    -- No two templates have one instance, because its symbol stands for one of them.
    have hown := (h.templates u hu).own
    rw [← hinst] at hown
    have hsame : t = u := by simpa using (h.templates t ht).own.unique hown
    exact hother x (hsame ▸ rfl)
  have hkept : t ∈ (s.perform op).templates
      ∧ ((s.perform op).template t).inst = (s.template t).inst
      ∧ (s.perform op).restrictedIn t = s.restrictedIn t := by
    refine (h.path_perform hop).keeps (I := fun u => t ∈ u.templates
      ∧ (u.template t).inst = (s.template t).inst ∧ u.restrictedIn t = s.restrictedIn t) h ?_
      ⟨ht, rfl, rfl⟩
    rintro u v w hw hstep hu ⟨htu, hinst, heq⟩
    have hgrows := hstep.grows.templates t htu
    refine ⟨hgrows.1, hgrows.2.inst.trans hinst, ?_⟩
    rw [hstep.restrictedIn_eq hu htu (hinst ▸ hwrites w hw), heq]
  exact hkept.2.2

end Store

/-! ## Any number of calls -/

/-- The operation leaves the initialisers of what the symbols stand for that there are. -/
def Operation.KeepsDependencies (s : Store) (op : Operation) : Prop :=
  ∀ i < s.symbols.size, (s.perform op).dependencies ⟨i⟩ = s.dependencies ⟨i⟩

instance (s : Store) (op : Operation) : Decidable (op.KeepsDependencies s) :=
  inferInstanceAs (Decidable (∀ i < _, _))

namespace Store

variable {s s' : Store} {t : TemplateId} {ops : List Operation}

/-- Chains from a symbol are the same where no initialiser of its store has changed. -/
theorem Sound.dependsOn_iff (h : s.Sound)
    (hsame : ∀ x ∈ s.symbols, s'.dependencies x = s.dependencies x) {x y : SymbolId}
    (hx : x ∈ s.symbols) : s'.DependsOn x y ↔ s.DependsOn x y := by
  constructor
  · intro hchain
    have hboth : y ∈ s.symbols ∧ s.DependsOn x y := by
      induction hchain with
      | refl => exact ⟨hx, .refl⟩
      | tail _ hstep ih =>
        unfold Mentions at hstep
        rw [hsame _ ih.1] at hstep
        exact ⟨h.hasAll_dependencies _ _ hstep, ih.2.tail hstep⟩
    exact hboth.2
  · intro hchain
    have hboth : y ∈ s.symbols ∧ s'.DependsOn x y := by
      induction hchain with
      | refl => exact ⟨hx, .refl⟩
      | tail _ hstep ih =>
        refine ⟨h.hasAll_dependencies _ _ hstep, ih.2.tail ?_⟩
        unfold Mentions at hstep ⊢
        rw [hsame _ ih.1]
        exact hstep
    exact hboth.2

theorem Sound.dependencies_foldl (h : s.Sound) (hops : s.Performs Operation.KeepsDependencies ops) :
    ∀ x ∈ s.symbols, (ops.foldl perform s).dependencies x = s.dependencies x := by
  induction ops generalizing s with
  | nil => exact fun _ _ => rfl
  | cons op ops ih =>
    obtain ⟨hop, hkeeps, hrest⟩ := hops
    have hpath := h.path_perform hop
    intro x hx
    rw [List.foldl_cons, ih (hpath.sound h) hrest x (hpath.grows.symbols x hx).1]
    exact hkeeps x.index hx

theorem Sound.restrictedIn_mem (h : s.Sound) (ht : t ∈ s.templates) : s.HasAll (s.restrictedIn t) := by
  have hsymbols := (h.insts _ (h.templates t ht).inst).symbols
  unfold Instance.symbols at hsymbols
  exact (hasAll_append.mp hsymbols).2

/-- An operation that keeps initialisers leaves what is restricted closed. -/
theorem Sound.closed_perform (h : s.Sound) {op : Operation} (hop : op.Admissible s)
    (hkeeps : op.KeepsDependencies s) (ht : t ∈ s.templates) (hclosed : s.Closed (· ∈ s.restrictedIn t)) :
    (s.perform op).Closed (· ∈ (s.perform op).restrictedIn t) := by
  by_cases hcall : ∃ x, op = .restrict t x
  · obtain ⟨x, rfl⟩ := hcall
    exact (restrictsClosure (h.templates t ht).inst hclosed x).closed
  · have heq := h.restrictedIn_perform hop ht fun x hx => hcall ⟨x, hx⟩
    intro x hx y hy
    rw [heq] at hx ⊢
    rw [hkeeps x.index (h.restrictedIn_mem ht x hx)] at hy
    exact hclosed x hx y hy

/-- **What is restricted after any operations** was before, or a chain leads to it from a symbol for
    which there was a call. -/
theorem Sound.mem_restrictedIn_foldl (h : s.Sound) (ht : t ∈ s.templates)
    (hclosed : s.Closed (· ∈ s.restrictedIn t)) (hops : s.Performs Operation.KeepsDependencies ops)
    {x : SymbolId} : x ∈ (ops.foldl perform s).restrictedIn t
      ↔ x ∈ s.restrictedIn t ∨ ∃ y, .restrict t y ∈ ops ∧ (ops.foldl perform s).DependsOn y x := by
  induction ops generalizing s with
  | nil => simp
  | cons op ops ih =>
    have hlater := h.dependencies_foldl hops
    obtain ⟨hop, hkeeps, hrest⟩ := hops
    have hpath := h.path_perform hop
    have hnext := ih (hpath.sound h) (hpath.grows.templates t ht).1
      (h.closed_perform hop hkeeps ht hclosed) hrest
    rw [List.foldl_cons] at hlater ⊢
    rw [hnext]
    by_cases hcall : ∃ y, op = .restrict t y
    · obtain ⟨y, rfl⟩ := hcall
      have hy : y ∈ s.symbols := hop.symbols y List.mem_cons_self
      rw [perform, (restrictsClosure (h.templates t ht).inst hclosed y).mem,
        ← h.dependsOn_iff hlater hy, or_assoc]
      refine or_congr_right ⟨?_, ?_⟩
      · rintro (hchain | ⟨z, hz, hchain⟩)
        · exact ⟨y, List.mem_cons_self, hchain⟩
        · exact ⟨z, List.mem_cons_of_mem _ hz, hchain⟩
      · rintro ⟨z, hz, hchain⟩
        rcases List.mem_cons.mp hz with heq | hz
        · obtain rfl : z = y := by simpa using heq
          exact Or.inl hchain
        · exact Or.inr ⟨z, hz, hchain⟩
    · rw [h.restrictedIn_perform hop ht fun y hy => hcall ⟨y, hy⟩]
      refine or_congr_right (exists_congr fun z => and_congr_left fun _ => ?_)
      rw [List.mem_cons]
      exact ⟨Or.inr, fun hz => hz.resolve_left fun heq => hcall ⟨z, heq.symm⟩⟩

/-- Calls alone leave initialisers as they are. -/
theorem dependencies_foldl_restrict (s : Store) (t : TemplateId) (symbols : List SymbolId) :
    ((symbols.map (Operation.restrict t)).foldl perform s).dependencies = s.dependencies := by
  induction symbols generalizing s with
  | nil => rfl
  | cons x symbols ih => exact ih (s.restrict t x)

theorem Sound.performs_restrict (h : s.Sound) (ht : t ∈ s.templates) {symbols : List SymbolId}
    (hsymbols : s.HasAll symbols) :
    s.Performs Operation.KeepsDependencies (symbols.map (Operation.restrict t)) := by
  induction symbols generalizing s with
  | nil => exact trivial
  | cons x symbols ih =>
    obtain ⟨hx, hsymbols⟩ := hasAll_cons.mp hsymbols
    have hop : (Operation.restrict t x).Admissible s := by
      constructor
      · intro e he
        rw [List.mem_singleton.mp he]
        exact ht
      · intro e he
        exact absurd he List.not_mem_nil
      · intro r hr
        rw [List.mem_singleton.mp hr]
        exact hx
      · exact trivial
    have hpath := h.path_perform hop
    refine ⟨hop, fun _ _ => rfl, ?_⟩
    exact ih (hpath.sound h) (hpath.grows.templates t ht).1
      fun r hr => (hpath.grows.symbols r (hsymbols r hr)).1

/-- The least closed set that has these symbols. -/
structure LeastClosed (s : Store) (seeds : SymbolId → Prop) (set : List SymbolId) : Prop where
  contains : ∀ x, seeds x → x ∈ set
  closed : s.Closed (· ∈ set)
  least : ∀ other : SymbolId → Prop, s.Closed other → (∀ x, seeds x → other x) → ∀ x ∈ set, other x

/-- **What is restricted in a template is closed under dependencies**, and nothing is restricted
    without a reason. In any store in which it is closed, a call for a symbol ends, and restricts the
    symbol and what chains of dependencies lead to, in circles or not. In a new template nothing is
    restricted. From a closed set on, a program of a reachable store may carry out calls and other
    operations as it likes, as long as it leaves initialisers alone: what is restricted then is the
    least closed set that has what was restricted and the symbols of the calls, so that neither the
    order nor the number of the calls matters. -/
theorem restrict_closes :
    (∀ (s : Store) (t : TemplateId), (s.template t).inst ∈ s.insts →
      s.Closed (· ∈ s.restrictedIn t) → ∀ x, s.RestrictsClosure t x)
    ∧ (∀ (s : Store) (symbol : SymbolId) (parameters : List SymbolId) (globals : Option FrameId)
        (log : LogId) (style : Style),
      (s.newTemplate symbol parameters globals log style).1.restrictedIn
        (s.newTemplate symbol parameters globals log style).2 = [])
    ∧ ∀ s : Store, Run (fun _ _ => True) {} s → ∀ t ∈ s.templates,
      s.Closed (· ∈ s.restrictedIn t) → ∀ ops, s.Performs Operation.KeepsDependencies ops →
        (ops.foldl perform s).LeastClosed (fun x => x ∈ s.restrictedIn t ∨ .restrict t x ∈ ops)
          ((ops.foldl perform s).restrictedIn t)
        ∧ ∀ others, s.Performs Operation.KeepsDependencies others →
          (∀ x, .restrict t x ∈ ops ↔ .restrict t x ∈ others) →
          (ops.foldl perform s).dependencies = (others.foldl perform s).dependencies →
          ∀ x, x ∈ (ops.foldl perform s).restrictedIn t
            ↔ x ∈ (others.foldl perform s).restrictedIn t := by
  refine ⟨fun s t hinst hclosed x => restrictsClosure hinst hclosed x, restrictedIn_newTemplate, ?_⟩
  intro s hrun t ht hclosed ops hops
  have h := hrun.sound sound_empty
  have hmem : ∀ x, _ := fun x => h.mem_restrictedIn_foldl ht hclosed hops (x := x)
  refine ⟨⟨?_, ?_, ?_⟩, ?_⟩
  · rintro x (hx | hcall)
    · exact (hmem x).mpr (Or.inl hx)
    · exact (hmem x).mpr (Or.inr ⟨x, hcall, .refl⟩)
  · intro x hx y hy
    rcases (hmem x).mp hx with hold | ⟨z, hcall, hchain⟩
    · rw [h.dependencies_foldl hops x (h.restrictedIn_mem ht x hold)] at hy
      exact (hmem y).mpr (Or.inl (hclosed x hold y hy))
    · exact (hmem y).mpr (Or.inr ⟨z, hcall, hchain.tail hy⟩)
  · intro other hother hseeds x hx
    rcases (hmem x).mp hx with hold | ⟨z, hcall, hchain⟩
    · exact hseeds x (Or.inl hold)
    · exact hother.of_dependsOn (hseeds z (Or.inr hcall)) hchain
  · intro others hothers hcalls hsame x
    have hchains : (ops.foldl perform s).DependsOn = (others.foldl perform s).DependsOn := by
      unfold DependsOn Mentions
      rw [hsame]
    rw [hmem x, h.mem_restrictedIn_foldl ht hclosed hothers, hchains]
    simp only [hcalls]

/-- A template and four variables: `a` and `b` with initialisers that refer to each other and to
    themselves, `c` on which `a` depends, and `d`, which depends on `c`. -/
def circle : List Operation :=
  let mention : Nat → Term SymbolId := fun i => .identifier ⟨i⟩ {}
  [.openDocument none none, .addTemplate ⟨0⟩ "T" [] {} {},
    .addVariable ⟨0⟩ ⟨0⟩ "int" "a" .empty {}, .addVariable ⟨0⟩ ⟨0⟩ "int" "b" .empty {},
    .addVariable ⟨0⟩ ⟨0⟩ "int" "c" .empty {}, .addVariable ⟨0⟩ ⟨0⟩ "int" "d" ⟨.built 0, mention 3⟩ {},
    .setInitialiser (.ofBlock ⟨0⟩ 0) ⟨.built 1, .compound "f" [mention 2, mention 1, mention 3] {}⟩,
    .setInitialiser (.ofBlock ⟨0⟩ 1) ⟨.built 2, .compound "+" [mention 1, mention 2] {}⟩]

/-- The store in which the circle stands. -/
def circular : Store := circle.foldl perform {}

/-- A call for `a` restricts `a`, `b` and `c`, and calls for `b` and then for `a` restrict the same as
    a call for `a` and two for `b`. -/
theorem restrict_closes_circle : Run (fun _ _ => True) {} circular
    ∧ circular.dependencies ⟨1⟩ = [⟨2⟩, ⟨1⟩, ⟨3⟩] ∧ circular.dependencies ⟨2⟩ = [⟨1⟩, ⟨2⟩]
    ∧ circular.RestrictsClosure ⟨0⟩ ⟨1⟩
    ∧ (∀ x ∈ [⟨1⟩, ⟨2⟩, ⟨3⟩], x ∈ (circular.restrict ⟨0⟩ ⟨1⟩).restrictedIn ⟨0⟩)
    ∧ ∀ x, x ∈ (([⟨2⟩, ⟨1⟩].map (Operation.restrict ⟨0⟩)).foldl perform circular).restrictedIn ⟨0⟩
      ↔ x ∈ (([⟨1⟩, ⟨2⟩, ⟨2⟩].map (Operation.restrict ⟨0⟩)).foldl perform circular).restrictedIn ⟨0⟩ := by
  have hperforms : ({} : Store).Performs (fun _ _ => True) circle := by decide
  have hrun : Run (fun _ _ => True) {} circular := Run.refl.performs hperforms
  have h : circular.Sound := hrun.sound sound_empty
  have ht : (⟨0⟩ : TemplateId) ∈ circular.templates := by decide
  have ha : circular.dependencies ⟨1⟩ = [⟨2⟩, ⟨1⟩, ⟨3⟩] := by decide
  have hclosed : circular.Closed (· ∈ circular.restrictedIn ⟨0⟩) := by
    have hnone : circular.restrictedIn ⟨0⟩ = [] := by decide
    intro x hx
    rw [hnone] at hx
    exact absurd hx List.not_mem_nil
  have hclosure := restrict_closes.1 circular ⟨0⟩ (by decide) hclosed ⟨1⟩
  have hfirst : ∀ x ∈ ([⟨2⟩, ⟨1⟩] : List SymbolId), x ∈ circular.symbols := by decide
  have hother : ∀ x ∈ ([⟨1⟩, ⟨2⟩, ⟨2⟩] : List SymbolId), x ∈ circular.symbols := by decide
  have hordered := (restrict_closes.2.2 circular hrun ⟨0⟩ ht hclosed _ (h.performs_restrict ht hfirst)).2 _
    (h.performs_restrict ht hother)
  refine ⟨hrun, ha, by decide, hclosure, ?_, hordered ?_ ?_⟩
  · intro x hx
    apply (hclosure.mem x).mpr
    right
    have hcases : x = ⟨1⟩ ∨ x ∈ circular.dependencies ⟨1⟩ := by
      rw [ha]
      simpa [or_comm, or_left_comm] using hx
    rcases hcases with rfl | hdep
    · exact .refl
    · exact .single hdep
  · intro x
    simp [or_comm]
  · rw [dependencies_foldl_restrict, dependencies_foldl_restrict]

end Store

end TimedNet
