import TimedNet.Proofs.Copy.SelfContained
import TimedNet.Proofs.Separation.Foreign
import TimedNet.Proofs.Separation.Operations

/-!
# `TimedNet.Proofs.Separation.Copy` — a document and its copy do not interfere

A self-contained document and its copy have no part and no symbol in common, so whatever is done to one
of them is not seen in the other. Their templates refuse each other's handles and reject each other's
nodes, for as long as the two exist.

* `Store.SameView`: what is seen of an entity is the same in two stores.
* `Sound.separate_relocated`: a copy logs and locates problems in a place of its own.
* `Sound.disjoint_relocated`: a copy shares no part and no symbol.
* `copy_independent`.
-/

namespace TimedNet.Store

open Relation (ReflTransGen)

variable {s s' : Store} {d : DocumentId}

/-! ## What is seen of an entity -/

/-- What is seen of an entity is the same in two stores: the same entities are reached from it, and each
    of them is the same. -/
structure SameView (s s' : Store) (e : Entity) : Prop where
  reaches : ∀ f, s'.Reaches e f ↔ s.Reaches e f
  same : ∀ f, s.Reaches e f → s.Same s' f

/-- When all that is reached is the same, nothing else is reached. -/
theorem SameView.of_same {e : Entity} (h : ∀ f, s.Reaches e f → s.Same s' f) : s.SameView s' e where
  reaches := by
    intro f
    constructor
    · intro hf
      induction hf with
      | refl => exact .refl
      | tail _ hg ih =>
        rw [(h _ ih).references] at hg
        exact .tail ih hg
    · intro hf
      induction hf with
      | refl => exact .refl
      | tail hmid hg ih =>
        rw [← (h _ hmid).references] at hg
        exact .tail ih hg
  same := h

/-! ## A copy and what it was made from -/

theorem mem_documents_relocated (s : Store) (d : DocumentId) :
    (s.relocated d).2 ∈ (s.relocated d).1.documents :=
  Table.next_mem_push _ _

/-- Copying a document changes nothing that was there. -/
theorem same_relocated (hd : d ∈ s.documents) {e : Entity} (he : s.Has e) :
    s.Same (s.relocated d).1 e :=
  (Step.copy d hd).same he List.not_mem_nil

/-- **A copy has a log and a line table of its own.** -/
theorem Sound.separate_relocated (h : s.Sound) (hd : d ∈ s.documents) :
    (s.relocated d).1.Separate (s.relocated d).2 d := by
  have hdocument : (s.relocated d).1.document d = s.document d :=
    same_relocated hd (e := .document d) hd
  have hlog : (s.relocated d).1.log (s.document d).log = s.log (s.document d).log :=
    same_relocated hd (e := .log _) (h.documents d hd).log
  refine ⟨(Table.ne_next_of_mem hd).symm, ?_, fun l hcopy hsource => ?_⟩
  · rw [relocated_document, hdocument]
    exact (Table.ne_next_of_mem (h.documents d hd).log).symm
  · -- Both line tables of the copy are the new one, both of the document were there before.
    have hnew : l = s.lineTables.next := by
      rw [Part, relocated_document] at hcopy
      rcases hcopy with rfl | rfl
      · rfl
      · exact congrArg Log.lineTable (relocated_log s d)
    have hold : l ∈ s.lineTables := by
      rw [Part, hdocument, hlog] at hsource
      rcases hsource with rfl | rfl
      · exact (h.documents d hd).lineTable
      · exact (h.logs _ (h.documents d hd).log).lineTable
    exact Table.ne_next_of_mem hold hnew

/-- The parts of a document are still its parts when it has been copied. -/
theorem Sound.part_relocated (h : s.Sound) (hd : d ∈ s.documents) {e : Entity} :
    (s.relocated d).1.Part d e ↔ s.Part d e :=
  part_iff_of_same fun _ he => same_relocated hd (h.has_of_part hd he)

/-- **A document and its copy share no part, and mention no symbol both.** -/
theorem Sound.disjoint_relocated (h : s.Sound) (hd : d ∈ s.documents) {e : Entity}
    (hcopy : (s.relocated d).1.Part (s.relocated d).2 e) :
    ¬ (s.relocated d).1.Part d e := by
  intro hsource
  cases e with
  | symbol r =>
    -- What the copy mentions are copies, and they were not there before.
    obtain ⟨q, hq, rfl⟩ := h.exists_of_mentioned_relocated hd hcopy
    have hold : (s.relocations d).symbols q ∈ s.symbols :=
      h.hasAll_mentioned hd _ ((h.part_relocated hd).mp hsource)
    exact Relocation.ne_apply_of_mem (ρ := (s.relocations d).symbols) rfl hold hq rfl
  | _ =>
    have hold := ((grows_relocated s d).documents d hd).1
    exact absurd hsource ((h.relocated hd).disjoint (mem_documents_relocated s d) hold
      (h.separate_relocated hd) (by simp) hcopy)

/-! ## Independence -/

/-- What is reached from a self-contained document when it has been copied is a part of it. -/
theorem SelfContained.part_of_reaches_relocated (hself : s.SelfContained d) (h : s.Sound)
    (hd : d ∈ s.documents) {e : Entity} (he : (s.relocated d).1.Reaches (.document d) e) :
    (s.relocated d).1.Part d e := by
  have hview : s.SameView (s.relocated d).1 (.document d) := .of_same fun f hf =>
    same_relocated hd (h.has_of_part hd (hself.part_of_reaches h hd hf))
  exact (h.part_relocated hd).mpr (hself.part_of_reaches h hd ((hview.reaches e).mp he))

/-- Of two documents that share no log and no line table, the one from which only its parts are reached
    looks the same after any operations on the other. -/
theorem Sound.sameView_of_run (h : s.Sound) {c : DocumentId} (hc : c ∈ s.documents)
    (hd : d ∈ s.documents) (hsep : s.Separate c d)
    (hparts : ∀ e, s.Reaches (.document d) e → s.Part d e)
    (hrun : Run (fun s op => op.On s c) s s') : s.SameView s' (.document d) :=
  .of_same fun e he => (h.same_of_run hc hd hsep hrun (hparts e he)).2.2

/-- **A document and its copy never interfere.** Of a self-contained document `d` of any store that a
    program reaches, let `c` be the copy. Making the copy is not seen in `d`, and nothing is reached
    from both. After any number of operations on `c` and on what belongs to it, whether they succeed or
    fail, `d` looks as it did, and `c` looks as it did after operations on `d`. Whatever happens later to
    both, a template of the one refuses every handle stored in a template of the other, and rejects its
    locations, branchpoints and lines wherever it asks for a node of its own. -/
theorem copy_independent {condition : Store → Operation → Prop} (hrun : Run condition {} s)
    (hd : d ∈ s.documents) (hself : s.SelfContained d) {t : Store} {c : DocumentId}
    (hcopy : s.copyDocument d = (t, c)) :
    s.SameView t (.document d)
    ∧ (∀ e, t.Reaches (.document c) e → ¬ t.Reaches (.document d) e)
    ∧ (∀ u, Run (fun s op => op.On s c) t u → t.SameView u (.document d))
    ∧ (∀ u, Run (fun s op => op.On s d) t u → t.SameView u (.document c))
    ∧ ∀ u, Run (fun _ _ => True) t u → ∀ x ∈ (u.document c).allTemplates,
        ∀ y ∈ (u.document d).allTemplates, u.Shuns x y ∧ u.Shuns y x := by
  have h : s.Sound := hrun.sound sound_empty
  rw [h.copyDocument_eq hd] at hcopy
  obtain ⟨rfl, rfl⟩ : (s.relocated d).1 = t ∧ (s.relocated d).2 = c :=
    ⟨congrArg Prod.fst hcopy, congrArg Prod.snd hcopy⟩
  have ht := h.relocated hd
  have hc := mem_documents_relocated s d
  have hd' : d ∈ (s.relocated d).1.documents := ((grows_relocated s d).documents d hd).1
  have hsep := h.separate_relocated hd
  have hparts : ∀ e, (s.relocated d).1.Reaches (.document d) e → (s.relocated d).1.Part d e :=
    fun e => hself.part_of_reaches_relocated h hd
  have hpartsCopy : ∀ e, (s.relocated d).1.Reaches (.document (s.relocated d).2) e →
      (s.relocated d).1.Part (s.relocated d).2 e :=
    fun e => (hself.relocated h hd).part_of_reaches ht hc
  refine ⟨.of_same fun e he => same_relocated hd (h.has_of_part hd (hself.part_of_reaches h hd he)),
    fun e he he' => h.disjoint_relocated hd (hpartsCopy e he) (hparts e he'),
    fun u hu => ht.sameView_of_run hc hd' hsep hparts hu,
    fun u hu => ht.sameView_of_run hd' hc hsep.symm hpartsCopy hu, ?_⟩
  intro u hu x hx y hy
  have hlater := hu.sound ht
  have hgrows := hu.grows ht
  have hcu := (hgrows.documents _ hc).1
  have hdu := (hgrows.documents _ hd').1
  have hxu := ((hlater.documents _ hcu).templates x hx).1
  have hyu := ((hlater.documents _ hdu).templates y hy).1
  -- A template of both would make them one document.
  have hxy : x ≠ y := by
    rintro rfl
    exact hsep.distinct (hlater.apart.templates _ hcu _ hdu x hx hy)
  exact ⟨hlater.shuns hyu hxu hxy.symm, hlater.shuns hxu hyu hxy⟩

/-- A document with a variable and a template that has a location. -/
def located : Store :=
  [Operation.openDocument none none, .addVariable ⟨0⟩ ⟨0⟩ "int" "x" .empty {},
    .addTemplate ⟨0⟩ "T" [] {} {}, .addLocation ⟨0⟩ "A" .empty .empty {}, .setInitial ⟨0⟩ ⟨2⟩].foldl
    perform {}

/-- The same with a copy. -/
def locatedTwice : Store := (located.copyDocument ⟨0⟩).1

/-- Another location of the copied template. -/
def locating : Operation := .addLocation ⟨1⟩ "B" .empty .empty {}

theorem on_locating (hmem : (⟨1⟩ : TemplateId) ∈ (s.document ⟨1⟩).allTemplates) : locating.On s ⟨1⟩ :=
  List.forall_mem_singleton.mpr hmem

/-- The copied template gets another location, and fails to get a third of the same name. None of this is
    seen in the document. -/
theorem copy_independent_two_locations : ∃ s t u : Store, Run (fun _ _ => True) {} s
    ∧ s.SelfContained ⟨0⟩ ∧ s.copyDocument ⟨0⟩ = (t, ⟨1⟩)
    ∧ Run (fun s op => op.On s ⟨1⟩) t u ∧ (u.template ⟨1⟩).locations.size = 2
    ∧ (u.log ⟨1⟩).errors.length = 1 ∧ t.SameView u (.document ⟨0⟩) := by
  have hrun : Run (fun _ _ => True) {} located := Run.refl.performs (by decide +kernel)
  have hself : located.SelfContained ⟨0⟩ := ⟨by decide +kernel, by decide +kernel⟩
  have hid : (located.copyDocument ⟨0⟩).2 = ⟨1⟩ := by decide +kernel
  have hcopy : located.copyDocument ⟨0⟩ = (locatedTwice, ⟨1⟩) := by
    rw [← hid, locatedTwice]
  have hlater : Run (fun s op => op.On s ⟨1⟩) locatedTwice
      ((locatedTwice.perform locating).perform locating) :=
    .step (.step .refl locating (by decide +kernel) (on_locating (by decide +kernel))) locating
      (by decide +kernel) (on_locating (by decide +kernel))
  have hview := (copy_independent hrun (by decide +kernel) hself hcopy).2.2.1 _ hlater
  exact ⟨located, locatedTwice, _, hrun, hself, hcopy, hlater, by decide +kernel, by decide +kernel, hview⟩

end TimedNet.Store
