import TimedNet.Proofs.Copy.Image
import TimedNet.Proofs.Copy.SelfContained

/-!
# `TimedNet.Proofs.Copy.Isomorphism` — a copy is the document with new symbols

The copy of a self-contained document has the picture of the document, with every symbol replaced by a
new one that is like it. Templates are found by their names in the copy where they are found in the
document.

A copied template is made from its parameters, as every template is, and a copied frame takes up no symbol
that it has. So this asks that nobody adds a symbol by hand to the parameters of a template, or to a frame
that has the symbol.

* `Store.Renames`: a renaming of the symbols of a document to those of another.
* `SelfContained.renames_relocated`: copying is one.
* `findTemplate?_relocated`, `Sound.findDynamicTemplate?_relocated`: templates by name.
* `copy_isomorphic`; `copy_not_isomorphic`: what symbols that are added by hand can do.
-/

namespace TimedNet

/-- The symbols that an operation adds by hand, each with what gets it; what an edge gets counts for the
    template of the edge. -/
def Operation.addedByHand : Operation → List (Entity × SymbolId)
  | .extendFrame frame symbols => symbols.map fun r => (.frame frame, r)
  | .extendParameters inst symbols => symbols.map fun r => (.inst inst, r)
  | .extendEdge template _ select _ => select.map fun r => (.template template, r)
  | _ => []

namespace Store

variable {s t : Store} {c d : DocumentId}

/-- A renaming of the symbols that the document `d` of `s` mentions to those that `c` mentions in `t`:
    different symbols get different ones, which are new, have the names, types and places of the old ones,
    and stand for entities of the same kind. -/
structure Renames (s : Store) (d : DocumentId) (t : Store) (c : DocumentId)
    (φ : SymbolId → SymbolId) : Prop where
  injective : ∀ q ∈ s.mentioned d, ∀ r ∈ s.mentioned d, φ q = φ r → q = r
  surjective : ∀ q ∈ t.mentioned c, ∃ r ∈ s.mentioned d, φ r = q
  fresh : ∀ r ∈ s.mentioned d, φ r ∉ s.symbols ∧ φ r ∈ t.symbols
  name : ∀ r ∈ s.mentioned d, (t.symbol (φ r)).name = (s.symbol r).name
  type : ∀ r ∈ s.mentioned d, (t.symbol (φ r)).type = (s.symbol r).type
  span : ∀ r ∈ s.mentioned d, (t.symbol (φ r)).span = (s.symbol r).span
  kind : ∀ r ∈ s.mentioned d, (t.symbol (φ r)).subject.word = (s.symbol r).subject.word

theorem word_subject (ρ : Relocations) (o : Subject) : (ρ.subject o).word = o.word := by
  cases o <;> rfl

/-- **Copying a self-contained document renames its symbols.** -/
theorem SelfContained.renames_relocated (hself : s.SelfContained d) (h : s.Sound)
    (hd : d ∈ s.documents) :
    s.Renames d (s.relocated d).1 (s.relocated d).2 (s.relocations d).symbols := by
  have hsymbol : ∀ r ∈ s.mentioned d, (s.relocated d).1.symbol ((s.relocations d).symbols r)
      = { s.symbol r with subject := (s.relocations d).subject (s.symbol r).subject } := by
    intro r hr
    rw [relocated_symbol hr, hself.copiedSymbol h hd hr]
  exact
    { injective := fun q hq r hr heq => Relocation.apply_injective_of_mem hq hr heq
      surjective := by
        intro q hq
        obtain ⟨r, hr, rfl⟩ := h.exists_of_mentioned_relocated hd hq
        exact ⟨r, hr, rfl⟩
      fresh := fun r hr =>
        ⟨fun hold => Relocation.ne_apply_of_mem (ρ := (s.relocations d).symbols) rfl hold hr rfl,
          mem_symbols_relocated hr⟩
      name := fun r hr => by rw [hsymbol r hr]
      type := fun r hr => by rw [hsymbol r hr]
      span := fun r hr => by rw [hsymbol r hr]
      kind := fun r hr => by rw [hsymbol r hr, word_subject] }

/-! ## Look-up by name -/

/-- What is found among images is the image of what is found, when both tests agree. -/
theorem find?_map_eq {α β : Type} {l : List α} {f : α → β} {p : β → Bool} {q : α → Bool}
    (hpq : ∀ a ∈ l, p (f a) = q a) : (l.map f).find? p = (l.find? q).map f := by
  induction l with
  | nil => rfl
  | cons a l ih =>
    rw [List.forall_mem_cons] at hpq
    rw [List.map_cons, List.find?_cons, List.find?_cons, hpq.1]
    cases q a with
    | true => rfl
    | false => exact ih hpq.2

/-- Under a name the copy has the copy of the template that the document has under it. -/
theorem findTemplate?_relocated (s : Store) (d : DocumentId) (name : String) :
    (s.relocated d).1.findTemplate? (s.relocated d).2 name
      = (s.findTemplate? d name).map (s.relocations d).templates := by
  rw [findTemplate?, relocated_document]
  refine find?_map_eq fun x hx => ?_
  rw [templateName_relocated (List.mem_append_left _ hx)]

/-- The same of dynamic templates, which are entered under their names. -/
theorem findDynamicTemplate?_relocated (s : Store) (d : DocumentId) (name : String) :
    (s.relocated d).1.findDynamicTemplate? (s.relocated d).2 name
      = (s.findDynamicTemplate? d name).map (s.relocations d).templates := by
  rw [findDynamicTemplate?, relocated_document, findDynamicTemplate?, Ordered.get?, Ordered.get?]
  show ((List.map _ _).find? _).map _ = _
  rw [find?_map_eq fun _ _ => rfl, Option.map_map, Option.map_map]
  rfl

/-- The copy of a template of the document has the copy of its symbol. -/
theorem map_templateSymbol_relocated {x? : Option TemplateId}
    (hx : ∀ x ∈ x?, x ∈ (s.document d).allTemplates) :
    (x?.map (s.relocations d).templates).map (s.relocated d).1.templateSymbol
      = (x?.map s.templateSymbol).map (s.relocations d).symbols := by
  cases x? with
  | none => rfl
  | some x => exact congrArg some (templateSymbol_relocated (hx x rfl))

/-! ## The copy -/

/-- A document with a variable, two templates, one of them dynamic, and an instance of the other, which has
    a parameter, a location with an edge to itself and signals. -/
def furnished : Store :=
  [.newSymbol { name := "p", type := "int", subject := .parameter }, .openDocument none none,
    .addVariable ⟨0⟩ ⟨0⟩ "int" "x" .empty {}, .addTemplate ⟨0⟩ "T" [⟨0⟩] {} {},
    .addLocation ⟨0⟩ "A" .empty .empty {}, .setInitial ⟨0⟩ ⟨3⟩, .addEdge ⟨0⟩ ⟨3⟩ ⟨3⟩ true "",
    .newIODecl ⟨1⟩, .setIODecl ⟨1⟩ 0 { instanceName := "I", inputs := [.identifier ⟨1⟩ {}] },
    .addInstance ⟨0⟩ "I" ⟨0⟩ [] [.identifier ⟨1⟩ {}] {}, .addDynamicTemplate ⟨0⟩ "D" [] {}].foldl
      perform {}

/-- The same with a copy. -/
def furnishedTwice : Store := (furnished.copyDocument ⟨0⟩).1

/-- **A copy is an isomorphic image.** Let a program never add by hand a symbol to a frame that has it,
    and none to the parameters of a template, and let `d` be a self-contained document of any store that
    it reaches. Then the symbols of `d` can be renamed to new ones, which are like them, so that the copy
    of `d` holds all that `d` holds, in the same order, under the new symbols. Templates are found by name
    where they are found in `d`, no symbol of the copy stands for anything outside of it, and its local
    frames lie in its own global frame. -/
theorem copy_isomorphic (hrun : Run Operation.AddsOnce {} s) (hd : d ∈ s.documents)
    (hself : s.SelfContained d) (hcopy : s.copyDocument d = (t, c)) :
    ∃ φ : SymbolId → SymbolId, s.Renames d t c φ
      ∧ t.picture c = (s.picture d).map φ
      ∧ (∀ name, (t.findTemplate? c name).map t.templateSymbol
          = ((s.findTemplate? d name).map s.templateSymbol).map φ)
      ∧ (∀ name, (t.findDynamicTemplate? c name).map t.templateSymbol
          = ((s.findDynamicTemplate? d name).map s.templateSymbol).map φ)
      ∧ t.SelfContained c
      ∧ ∀ x ∈ (t.document c).allTemplates,
          (t.frame (t.localFrame x)).parent = some (t.globalFrame c)
            ∧ (t.template x).log = (t.document c).log := by
  have h : s.Sound := hrun.sound sound_empty
  rw [h.copyDocument_eq hd] at hcopy
  obtain ⟨rfl, rfl⟩ : (s.relocated d).1 = t ∧ (s.relocated d).2 = c :=
    ⟨congrArg Prod.fst hcopy, congrArg Prod.snd hcopy⟩
  have hdocument := (h.relocated hd).documents _ (Table.next_mem_push _ _)
  refine ⟨(s.relocations d).symbols, hself.renames_relocated h hd,
    hself.picture_relocated h hrun.tidy hd, fun name => ?_, fun name => ?_,
    hself.relocated h hd, fun x hx => ⟨(hdocument.scopes x hx).parent, (hdocument.templates x hx).2⟩⟩
  · rw [findTemplate?_relocated]
    exact map_templateSymbol_relocated fun x hx =>
      List.mem_append_left _ (List.mem_of_find?_eq_some hx)
  · rw [findDynamicTemplate?_relocated]
    exact map_templateSymbol_relocated fun x hx =>
      List.mem_append_right _ ((h.findDynamicTemplate?_iff hd).mp hx).1

/-- A document with a variable, a template that has a parameter, an edge and a declaration of signals, an
    instance of it and a dynamic template; in the copy, all of them have new symbols. -/
theorem copy_isomorphic_one_instance : ∃ (s t : Store) (φ : SymbolId → SymbolId),
    Run Operation.AddsOnce {} s ∧ s.SelfContained ⟨0⟩ ∧ s.copyDocument ⟨0⟩ = (t, ⟨1⟩)
      ∧ s.mentioned ⟨0⟩ ≠ [] ∧ s.Renames ⟨0⟩ t ⟨1⟩ φ ∧ t.picture ⟨1⟩ = (s.picture ⟨0⟩).map φ := by
  have hrun : Run Operation.AddsOnce {} furnished := Run.refl.performs (by decide +kernel)
  have hself : furnished.SelfContained ⟨0⟩ := ⟨by decide +kernel, by decide +kernel⟩
  have hid : (furnished.copyDocument ⟨0⟩).2 = ⟨1⟩ := by decide +kernel
  have hcopy : furnished.copyDocument ⟨0⟩ = (furnishedTwice, ⟨1⟩) := by
    rw [← hid, furnishedTwice]
  obtain ⟨φ, hφ, hpicture, -⟩ := copy_isomorphic hrun (by decide +kernel) hself hcopy
  exact ⟨furnished, furnishedTwice, φ, hrun, hself, hcopy, by decide +kernel, hφ, hpicture⟩

/-! ## Symbols that are added by hand -/

/-- A template gets a second parameter by hand. -/
def widening : List Operation :=
  [.newSymbol { name := "p", type := "int", subject := .parameter }, .openDocument none none,
    .addTemplate ⟨0⟩ "T" [⟨0⟩] {} {}, .newSymbol { name := "q", type := "int", subject := .parameter },
    .extendParameters ⟨0⟩ [⟨2⟩]]

/-- A local frame, which has the parameter of its template, gets it once more by hand. -/
def doubling : List Operation :=
  [.newSymbol { name := "p", type := "int", subject := .parameter }, .openDocument none none,
    .addTemplate ⟨0⟩ "T" [⟨0⟩] {} {}, .extendFrame ⟨1⟩ [⟨0⟩]]

/-- What shows of a template that was made anew: how many parameters are open, and how many symbols its
    frame has. -/
def openings (p : DocumentPicture SymbolId) : List (Nat × Nat) :=
  p.templates.map fun t => (t.inst.binding.unbound, t.block.frame.length)

theorem openings_map (p : DocumentPicture SymbolId) (φ : SymbolId → SymbolId) :
    openings (p.map φ) = openings p := by
  simp [openings, DocumentPicture.map, TemplatePicture.map, InstancePicture.map, Binding.map,
    BlockPicture.map]

/-- A program after which the first document is self-contained and its copy is no image of it under a
    renaming, although nothing gets a symbol twice by hand. -/
structure CopyDiffers (ops : List Operation) : Prop where
  performs : ({} : Store).Performs (fun _ _ => True) ops
  once : (ops.flatMap Operation.addedByHand).Nodup
  selfContained : (ops.foldl perform {}).SelfContained ⟨0⟩
  no_renaming : ¬ ∃ φ : SymbolId → SymbolId,
    (ops.foldl perform {}).Renames ⟨0⟩ ((ops.foldl perform {}).copyDocument ⟨0⟩).1
        ((ops.foldl perform {}).copyDocument ⟨0⟩).2 φ
      ∧ ((ops.foldl perform {}).copyDocument ⟨0⟩).1.picture ((ops.foldl perform {}).copyDocument ⟨0⟩).2
        = ((ops.foldl perform {}).picture ⟨0⟩).map φ

theorem no_renaming_of_openings_ne {c : DocumentId}
    (hdiffer : openings (t.picture c) ≠ openings (s.picture d)) :
    ¬ ∃ φ : SymbolId → SymbolId, s.Renames d t c φ ∧ t.picture c = (s.picture d).map φ := by
  rintro ⟨φ, -, hpicture⟩
  exact hdiffer ((congrArg openings hpicture).trans (openings_map _ φ))

/-- **Not every copy is an isomorphic image**, not even when no symbol is added to anything twice by hand.
    The copy of a template has all its parameters open and in its local frame, and has each of them there
    once, whatever was added to the parameters and to the frame of the template. -/
theorem copy_not_isomorphic : CopyDiffers widening ∧ CopyDiffers doubling where
  left :=
    { performs := by decide
      once := by decide
      selfContained := ⟨by decide, by decide⟩
      no_renaming := no_renaming_of_openings_ne (by decide +kernel) }
  right :=
    { performs := by decide
      once := by decide
      selfContained := ⟨by decide, by decide⟩
      no_renaming := no_renaming_of_openings_ne (by decide +kernel) }

end Store

end TimedNet
