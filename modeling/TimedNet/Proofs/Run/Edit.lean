import TimedNet.Proofs.Run.Sound

/-!
# `TimedNet.Proofs.Run.Edit` — changes inside one entity

What an operation can do to a function, a block, a template or a document that is there, with what has
to be true of what it puts in. An edit leaves a sound entity sound.

* `forall_getElem?_concat`, `forall_getElem?_modify`: members by their places.
* `Store.Introduces`: a declared symbol has a name of its own in its frame.
* `Function.Edit`, `Block.Edit`, `Template.Edit`, `Document.Edit`.
* `Block.Edit.sound`, `Template.Edit.sound`, `Document.Edit.sound`.
-/

namespace TimedNet

/-! ## Lists with one more member, or with one place changed

What is known of the members by their places, or of all of them, is known afterwards. -/

section Lists

variable {α : Type} {l : List α}

theorem forall_getElem?_concat {P : Nat → α → Prop} {a : α} (h : ∀ i b, l[i]? = some b → P i b)
    (ha : P l.length a) : ∀ i b, (l ++ [a])[i]? = some b → P i b := by
  intro i b hb
  rw [List.getElem?_append] at hb
  split at hb
  · exact h i b hb
  · next hi =>
    rcases Nat.eq_zero_or_pos (i - l.length) with hzero | hpos
    · rw [hzero, List.getElem?_cons_zero] at hb
      obtain rfl := Option.some.inj hb
      obtain rfl : i = l.length := by omega
      exact ha
    · -- There is nothing after the last member.
      obtain ⟨n, hn⟩ := Nat.exists_eq_add_of_lt hpos
      rw [hn] at hb
      exact absurd hb (by simp)

theorem forall_getElem?_modify {P : Nat → α → Prop} {i : Nat} {f : α → α}
    (h : ∀ j a, l[j]? = some a → P j a) (hf : ∀ a, l[i]? = some a → P i (f a)) :
    ∀ j a, (l.modify i f)[j]? = some a → P j a := by
  intro j a ha
  rw [List.getElem?_modify] at ha
  obtain ⟨b, hb, rfl⟩ := Option.map_eq_some_iff.mp ha
  split
  · next hij =>
    subst hij
    exact hf b hb
  · exact h j b hb

theorem forall_mem_modify {P : α → Prop} {i : Nat} {f : α → α} (h : ∀ a ∈ l, P a)
    (hf : ∀ a, l[i]? = some a → P (f a)) : ∀ a ∈ l.modify i f, P a := by
  intro a ha
  obtain ⟨j, hj⟩ := List.mem_iff_getElem?.mp ha
  exact forall_getElem?_modify (P := fun _ => P) (fun k b hb => h b (List.mem_of_getElem? hb)) hf j a hj

theorem forall_mem_concat {P : α → Prop} {a : α} (h : ∀ b ∈ l, P b) (ha : P a) :
    ∀ b ∈ l ++ [a], P b :=
  List.forall_mem_append.mpr ⟨h, List.forall_mem_singleton.mpr ha⟩

end Lists

/-! ## Functions and blocks -/

/-- The changes of a function. -/
inductive Function.Edit (s : Store) (r : FunctionRef) : Function → Function → Prop where
  | body (f : Function) (body : Option (Term SymbolId))
      (hbody : s.HasAll (body.toList.flatMap Term.occurrences)) : Edit s r f { f with body }
  | effects (f : Function) (changes depends : List SymbolId) (hchanges : s.HasAll changes)
      (hdepends : s.HasAll depends) :
      Edit s r f
        { f with
          changes := Ordered.union f.changes changes
          depends := Ordered.union f.depends depends }
  | addLocal (f : Function) (v : Variable) (hsymbols : s.HasAll v.symbols)
      (hstands : s.Stands v.symbol (.var (.ofFunction r f.locals.length))) :
      Edit s r f { f with locals := f.locals ++ [v] }
  | initialiser (f : Function) (index : Nat) (init : Expression)
      (hinit : s.HasAll init.term.occurrences) :
      Edit s r f { f with locals := f.locals.modify index fun v => { v with init } }
  | fill (f g : Function) (hnew : f.locals = []) (hsymbol : g.symbol = f.symbol)
      (hsymbols : s.HasAll g.symbols)
      (hlocals : ∀ j v, g.locals[j]? = some v → s.Stands v.symbol (.var (.ofFunction r j))) :
      Edit s r f g

/-- A symbol is in a frame, if there is the frame, and nothing else in it has the name of the symbol. -/
def Store.Introduces (s : Store) (r : FrameId) (x : SymbolId) : Prop :=
  r ∈ s.frames → x ∈ (s.frame r).symbols ∧ ∀ q ∈ (s.frame r).symbols, s.name q = s.name x → q = x

/-- The changes of a block. What is declared in it has a name of its own in the frame. -/
inductive Block.Edit (s : Store) (r : BlockId) : Block → Block → Prop where
  | addVariable (b : Block) (v : Variable) (hsymbols : s.HasAll v.symbols)
      (hstands : s.Stands v.symbol (.var (.ofBlock r b.vars.length)))
      (hname : s.Introduces b.frame v.symbol) :
      Edit s r b { b with vars := b.vars ++ [v] }
  | initialiser (b : Block) (index : Nat) (init : Expression)
      (hinit : s.HasAll init.term.occurrences) :
      Edit s r b { b with vars := b.vars.modify index fun v => { v with init } }
  | addFunction (b : Block) (symbol : SymbolId)
      (hstands : s.Stands symbol (.fn ⟨r, b.functions.length⟩))
      (hname : s.Introduces b.frame symbol) :
      Edit s r b { b with functions := b.functions ++ [{ symbol }] }
  | function (b : Block) (index : Nat) (g : Function → Function)
      (hg : ∀ f, b.functions[index]? = some f → Function.Edit s ⟨r, index⟩ f (g f)) :
      Edit s r b { b with functions := b.functions.modify index g }
  | addProgress (b : Block) (p : Progress) (hsymbols : s.HasAll p.symbols) :
      Edit s r b { b with progress := b.progress ++ [p] }
  | addGantt (b : Block) (g : Gantt) (hsymbols : s.HasAll g.symbols) :
      Edit s r b { b with gantt := b.gantt ++ [g] }
  | newIODecl (b : Block) : Edit s r b { b with io := b.io ++ [{}] }
  | setIODecl (b : Block) (index : Nat) (d : IODecl) (hsymbols : s.HasAll d.symbols) :
      Edit s r b { b with io := b.io.set index d }

section Blocks

variable {s : Store}

theorem Variable.hasAll_symbols {v : Variable} :
    s.HasAll v.symbols ↔ v.symbol ∈ s.symbols ∧ s.HasAll v.init.term.occurrences :=
  Store.hasAll_cons

theorem Function.hasAll_symbols {f : Function} :
    s.HasAll f.symbols ↔ f.symbol ∈ s.symbols ∧ s.HasAll f.changes ∧ s.HasAll f.depends
      ∧ (∀ v ∈ f.locals, s.HasAll v.symbols)
      ∧ s.HasAll (f.body.toList.flatMap Term.occurrences) := by
  unfold Function.symbols
  simp only [List.cons_append, Store.hasAll_cons, Store.hasAll_append, Store.hasAll_flatMap,
    and_assoc]

theorem Block.hasAll_symbols {b : Block} :
    s.HasAll b.symbols ↔ (∀ v ∈ b.vars, s.HasAll v.symbols)
      ∧ (∀ f ∈ b.functions, s.HasAll f.symbols) ∧ (∀ p ∈ b.progress, s.HasAll p.symbols)
      ∧ (∀ d ∈ b.io, s.HasAll d.symbols) ∧ (∀ g ∈ b.gantt, s.HasAll g.symbols) := by
  unfold Block.symbols
  simp only [Store.hasAll_append, Store.hasAll_flatMap, and_assoc]

theorem Store.HasAll.union {rs qs : List SymbolId} (hr : s.HasAll rs) (hq : s.HasAll qs) :
    s.HasAll (Ordered.union rs qs) :=
  fun r h => (Ordered.mem_union.mp h).elim (hr r) (hq r)

variable {r : BlockId} {b c : Block}

theorem Function.Edit.symbol {q : FunctionRef} {f g : Function} (h : f.Edit s q g) :
    g.symbol = f.symbol := by
  cases h with
  | fill _ _ hsymbol => exact hsymbol
  | _ => rfl

theorem Function.Edit.hasAll {q : FunctionRef} {f g : Function} (h : f.Edit s q g)
    (hf : s.HasAll f.symbols) : s.HasAll g.symbols := by
  rw [Function.hasAll_symbols] at hf
  obtain ⟨hsymbol, hchanges, hdepends, hlocals, hbody⟩ := hf
  cases h with
  | body body hbody' =>
    exact Function.hasAll_symbols.mpr ⟨hsymbol, hchanges, hdepends, hlocals, hbody'⟩
  | effects changes depends hchanges' hdepends' =>
    exact Function.hasAll_symbols.mpr
      ⟨hsymbol, hchanges.union hchanges', hdepends.union hdepends', hlocals, hbody⟩
  | addLocal v hsymbols _ =>
    exact Function.hasAll_symbols.mpr
      ⟨hsymbol, hchanges, hdepends, forall_mem_concat hlocals hsymbols, hbody⟩
  | initialiser index init hinit =>
    refine Function.hasAll_symbols.mpr
      ⟨hsymbol, hchanges, hdepends, forall_mem_modify hlocals fun v hv => ?_, hbody⟩
    have hv' := Variable.hasAll_symbols.mp (hlocals v (List.mem_of_getElem? hv))
    exact Variable.hasAll_symbols.mpr ⟨hv'.1, hinit⟩
  | fill _ _ _ hsymbols => exact hsymbols

/-- After a change the symbols of the local variables stand for them. -/
theorem Function.Edit.locals {q : FunctionRef} {f g : Function} (h : f.Edit s q g)
    (hf : ∀ j v, f.locals[j]? = some v → s.Stands v.symbol (.var (.ofFunction q j))) :
    ∀ j v, g.locals[j]? = some v → s.Stands v.symbol (.var (.ofFunction q j)) := by
  cases h with
  | body _ _ => exact hf
  | effects _ _ _ _ => exact hf
  | addLocal v _ hstands => exact forall_getElem?_concat hf hstands
  | initialiser index init _ => exact forall_getElem?_modify hf fun v hv => hf index v hv
  | fill _ _ _ _ hlocals => exact hlocals

theorem Block.Edit.keeps (h : b.Edit s r c) : b.Keeps c := by
  cases h <;> exact ⟨rfl⟩

/-- **A changed block is sound.** -/
theorem Block.Edit.sound (h : b.Edit s r c) (hb : b.Sound s r) : c.Sound s r := by
  obtain ⟨hvars, hfunctions, hprogress, hio, hgantt⟩ := Block.hasAll_symbols.mp hb.symbols
  cases h with
  | addVariable v hsymbols hstands _ =>
    exact
      { hb with
        symbols := Block.hasAll_symbols.mpr
          ⟨forall_mem_concat hvars hsymbols, hfunctions, hprogress, hio, hgantt⟩
        vars := forall_getElem?_concat hb.vars hstands }
  | initialiser index init hinit =>
    refine { hb with symbols := Block.hasAll_symbols.mpr ⟨?_, hfunctions, hprogress, hio, hgantt⟩,
                     vars := forall_getElem?_modify hb.vars fun v hv => hb.vars index v hv }
    refine forall_mem_modify hvars fun v hv => ?_
    have hv' := Variable.hasAll_symbols.mp (hvars v (List.mem_of_getElem? hv))
    exact Variable.hasAll_symbols.mpr ⟨hv'.1, hinit⟩
  | addFunction symbol hstands _ =>
    refine { hb with symbols := Block.hasAll_symbols.mpr ⟨hvars, ?_, hprogress, hio, hgantt⟩,
                     functions := forall_getElem?_concat hb.functions hstands, locals := ?_ }
    · refine forall_mem_concat hfunctions (Function.hasAll_symbols.mpr
        ⟨hstands.1, Store.hasAll_nil s, Store.hasAll_nil s, ?_, Store.hasAll_nil s⟩)
      exact fun v hv => absurd hv List.not_mem_nil
    · -- A function has no local variables at first.
      refine forall_getElem?_concat (P := fun i (f : Function) => ∀ j v, f.locals[j]? = some v →
        s.Stands v.symbol (.var (.ofFunction ⟨r, i⟩ j))) hb.locals ?_
      exact fun j v hv => absurd hv (by simp)
  | function index g hg =>
    refine { hb with symbols := Block.hasAll_symbols.mpr ⟨hvars, ?_, hprogress, hio, hgantt⟩,
                     functions := ?_, locals := ?_ }
    · refine forall_mem_modify hfunctions fun f hf => ?_
      exact (hg f hf).hasAll (hfunctions f (List.mem_of_getElem? hf))
    · refine forall_getElem?_modify hb.functions fun f hf => ?_
      rw [(hg f hf).symbol]
      exact hb.functions index f hf
    · exact forall_getElem?_modify (P := fun i f => ∀ j v, f.locals[j]? = some v →
        s.Stands v.symbol (.var (.ofFunction ⟨r, i⟩ j))) hb.locals
        fun f hf => (hg f hf).locals (hb.locals index f hf)
  | addProgress p hsymbols =>
    refine { hb with symbols := Block.hasAll_symbols.mpr ⟨hvars, hfunctions, ?_, hio, hgantt⟩ }
    exact forall_mem_concat hprogress hsymbols
  | addGantt g hsymbols =>
    refine { hb with symbols := Block.hasAll_symbols.mpr ⟨hvars, hfunctions, hprogress, hio, ?_⟩ }
    exact forall_mem_concat hgantt hsymbols
  | newIODecl =>
    refine { hb with symbols := Block.hasAll_symbols.mpr ⟨hvars, hfunctions, hprogress, ?_, hgantt⟩ }
    exact forall_mem_concat hio (Store.hasAll_nil s)
  | setIODecl index d hsymbols =>
    refine { hb with symbols := Block.hasAll_symbols.mpr ⟨hvars, hfunctions, hprogress, ?_, hgantt⟩ }
    intro x hx
    rcases List.mem_or_eq_of_mem_set hx with hold | rfl
    · exact hio x hold
    · exact hsymbols

end Blocks

theorem Instance.hasAll_symbols {s : Store} {i : Instance} : s.HasAll i.symbols ↔ i.symbol ∈ s.symbols
    ∧ s.HasAll i.binding.parameters
    ∧ (∀ pair ∈ i.binding.mapping, pair.1 ∈ s.symbols ∧ s.HasAll pair.2.occurrences)
    ∧ s.HasAll i.binding.restricted := by
  unfold Instance.symbols
  simp only [Store.hasAll_cons, Store.hasAll_append, Store.hasAll_flatMap, and_assoc]
  exact ⟨fun ⟨hmapping, hsymbol, hparameters, hrestricted⟩ =>
      ⟨hsymbol, hparameters, hmapping, hrestricted⟩,
    fun ⟨hsymbol, hparameters, hmapping, hrestricted⟩ =>
      ⟨hmapping, hsymbol, hparameters, hrestricted⟩⟩

/-! ## Templates -/

/-- What a change of a template is about: what the template is made of, which location is the initial
    one, whether the template is a dynamic one and defined, or the marks that are set by hand. -/
inductive Template.Aspect where
  | body | initial | definition | marks

/-- A symbol is in the frame of the block of a template. -/
def Template.Declares (s : Store) (t : Template) (x : SymbolId) : Prop :=
  x ∈ (s.frame (s.block t.block).frame).symbols

/-- No document lists the template. -/
def Store.UnlistedTemplate (s : Store) (t : TemplateId) : Prop :=
  ∀ d ∈ s.documents, t ∉ (s.document d).allTemplates

/-- The changes of a template. What is added gets the next number, and its symbol, if it has one, is in
    the local frame. A template becomes a dynamic one before any document lists it. -/
inductive Template.Edit (s : Store) (r : TemplateId) :
    Template → Template.Aspect → Template → Prop where
  | addLocation (t : Template) (l : Location) (hsymbols : s.HasAll l.symbols)
      (hstands : s.Stands l.symbol (.location r t.locations.size)) (hnr : l.nr = t.locations.size)
      (hframe : t.Declares s l.symbol) :
      Edit s r t .body { t with locations := t.locations.push l }
  | addBranchpoint (t : Template) (b : Branchpoint)
      (hstands : s.Stands b.symbol (.branchpoint r t.branchpoints.size))
      (hnr : b.nr = t.branchpoints.size) (hframe : t.Declares s b.symbol) :
      Edit s r t .body { t with branchpoints := t.branchpoints.push b }
  | addEdge (t : Template) (e : Edge) (hsymbols : s.HasAll e.symbols)
      (hsource : t.hasEndpoint e.source = true) (htarget : t.hasEndpoint e.target = true)
      (hnr : e.nr = t.edges.length) :
      Edit s r t .body { t with edges := t.edges ++ [e] }
  | addLine (t : Template) (l : InstanceLine) (hinst : l.inst ∈ s.insts) (howner : l.owner = r)
      (hstands : s.Stands (s.inst l.inst).symbol (.line r t.lines.size)) (hnr : l.nr = t.lines.size)
      (hframe : t.Declares s (s.inst l.inst).symbol) :
      Edit s r t .body { t with lines := t.lines.push l }
  | addMessage (t : Template) (m : Message) (hsymbols : s.HasAll m.label.term.occurrences)
      (hsource : t.lines.owns m.source = true) (htarget : t.lines.owns m.target = true)
      (hnr : m.nr = t.messages.length) :
      Edit s r t .body
        { t with messages := t.messages ++ [m], hasPrechart := t.hasPrechart || m.prechart }
  | addCondition (t : Template) (c : Condition) (hsymbols : s.HasAll c.label.term.occurrences)
      (hanchors : ∀ h ∈ c.anchors, t.lines.owns h = true) (hnr : c.nr = t.conditions.length) :
      Edit s r t .body
        { t with conditions := t.conditions ++ [c], hasPrechart := t.hasPrechart || c.prechart }
  | addUpdate (t : Template) (u : Update) (hsymbols : s.HasAll u.label.term.occurrences)
      (hanchor : t.lines.owns u.anchor = true) (hnr : u.nr = t.updates.length) :
      Edit s r t .body
        { t with updates := t.updates ++ [u], hasPrechart := t.hasPrechart || u.prechart }
  | addDynamicEval (t : Template) (term : Term SymbolId) (hsymbols : s.HasAll term.occurrences) :
      Edit s r t .body { t with dynamicEvals := t.dynamicEvals ++ [term] }
  | makeDynamic (t : Template) (dynindex : Int) (hfree : s.UnlistedTemplate r) :
      Edit s r t .definition { t with dynamic := true, dynindex, isDefined := false }
  | define (t : Template) : Edit s r t .definition { t with isDefined := true }
  | setInitial (t : Template) (symbol : SymbolId) (hsymbol : symbol ∈ s.symbols) :
      Edit s r t .initial { t with initial := some symbol }
  | assign (t : Template) (style : Style) (hasPrechart dynamic : Bool) (dynindex : Int)
      (isDefined : Bool) :
      Edit s r t .marks { t with style, hasPrechart, dynamic, dynindex, isDefined }
  | editLocation (t : Template) (index : Nat) (f : Location → Location)
      (hkeeps : ∀ l, (f l).symbol = l.symbol ∧ (f l).nr = l.nr)
      (hsymbols : ∀ l, s.HasAll l.symbols → s.HasAll (f l).symbols) :
      Edit s r t .body
        { t with locations := { t.locations with items := t.locations.items.modify index f } }
  | editEdge (t : Template) (index : Nat) (f : Edge → Edge)
      (hkeeps : ∀ e, (f e).source = e.source ∧ (f e).target = e.target ∧ (f e).nr = e.nr)
      (hsymbols : ∀ e, s.HasAll e.symbols → s.HasAll (f e).symbols) :
      Edit s r t .body { t with edges := t.edges.modify index f }

section Templates

variable {s : Store} {r : TemplateId} {a : Template.Aspect} {t u : Template}

theorem Template.hasAll_symbols :
    s.HasAll t.symbols ↔ (∀ x ∈ t.initial, x ∈ s.symbols)
      ∧ (∀ l ∈ t.locations.items, s.HasAll l.symbols)
      ∧ (∀ b ∈ t.branchpoints.items, b.symbol ∈ s.symbols)
      ∧ (∀ e ∈ t.edges, s.HasAll e.symbols) ∧ (∀ x ∈ t.dynamicEvals, s.HasAll x.occurrences)
      ∧ (∀ m ∈ t.messages, s.HasAll m.label.term.occurrences)
      ∧ (∀ c ∈ t.conditions, s.HasAll c.label.term.occurrences)
      ∧ (∀ x ∈ t.updates, s.HasAll x.label.term.occurrences) := by
  unfold Template.symbols
  simp only [Store.hasAll_append, Store.hasAll_flatMap, and_assoc]
  simp [Store.HasAll]

/-- More nodes in the arenas do not take the ends of an edge away. -/
theorem Template.hasEndpoint_mono (hlocations : u.locations.id = t.locations.id
      ∧ t.locations.size ≤ u.locations.size)
    (hbranchpoints : u.branchpoints.id = t.branchpoints.id
      ∧ t.branchpoints.size ≤ u.branchpoints.size) {e : Endpoint} (h : t.hasEndpoint e = true) :
    u.hasEndpoint e = true := by
  cases e with
  | location handle => exact Arena.owns_mono hlocations.1 hlocations.2 h
  | branchpoint handle => exact Arena.owns_mono hbranchpoints.1 hbranchpoints.2 h

theorem Template.Edit.keeps (h : t.Edit s r a u) : t.Keeps u := by
  cases h with
  | addLocation l _ _ _ _ =>
    refine { Keeps.refl t with locations := ⟨rfl, ?_⟩ }
    show t.locations.size ≤ (t.locations.push l).size
    rw [Arena.size_push]
    exact Nat.le_succ _
  | addBranchpoint b _ _ _ =>
    refine { Keeps.refl t with branchpoints := ⟨rfl, ?_⟩ }
    show t.branchpoints.size ≤ (t.branchpoints.push b).size
    rw [Arena.size_push]
    exact Nat.le_succ _
  | addLine l _ _ _ _ _ =>
    refine { Keeps.refl t with lines := ⟨rfl, ?_⟩ }
    show t.lines.size ≤ (t.lines.push l).size
    rw [Arena.size_push]
    exact Nat.le_succ _
  | editLocation index f _ _ =>
    refine { Keeps.refl t with locations := ⟨rfl, ?_⟩ }
    show t.locations.items.length ≤ (t.locations.items.modify index f).length
    exact Nat.le_of_eq (by rw [List.length_modify])
  | _ => exact { Keeps.refl t with }

/-- **A changed template is sound.** -/
theorem Template.Edit.sound (h : t.Edit s r a u) (ht : t.Sound s r) : u.Sound s r := by
  obtain ⟨hinitial, hlocations, hbranchpoints, hedges, hevals, hmessages, hconditions, hupdates⟩ :=
    Template.hasAll_symbols.mp ht.symbols
  have hkeeps := h.keeps
  have hends : ∀ e ∈ t.edges, u.hasEndpoint e.source = true ∧ u.hasEndpoint e.target = true := by
    intro e he
    exact ⟨hasEndpoint_mono hkeeps.locations hkeeps.branchpoints (ht.edges e he).1,
      hasEndpoint_mono hkeeps.locations hkeeps.branchpoints (ht.edges e he).2⟩
  have howns : ∀ {h : Handle}, t.lines.owns h = true → u.lines.owns h = true :=
    Arena.owns_mono hkeeps.lines.1 hkeeps.lines.2
  cases h with
  | addLocation l hsymbols hstands _ _ =>
    refine { ht with symbols := Template.hasAll_symbols.mpr ⟨hinitial, ?_, hbranchpoints, hedges,
                       hevals, hmessages, hconditions, hupdates⟩,
                     locations := forall_getElem?_concat ht.locations hstands, edges := hends }
    exact forall_mem_concat hlocations hsymbols
  | addBranchpoint b hstands _ _ =>
    refine { ht with symbols := Template.hasAll_symbols.mpr ⟨hinitial, hlocations, ?_, hedges,
                       hevals, hmessages, hconditions, hupdates⟩,
                     branchpoints := forall_getElem?_concat ht.branchpoints hstands, edges := hends }
    exact forall_mem_concat hbranchpoints hstands.1
  | addEdge e hsymbols hsource htarget _ =>
    refine { ht with symbols := Template.hasAll_symbols.mpr ⟨hinitial, hlocations, hbranchpoints,
                       ?_, hevals, hmessages, hconditions, hupdates⟩,
                     edges := forall_mem_concat hends ⟨hsource, htarget⟩ }
    exact forall_mem_concat hedges hsymbols
  | addLine l hinst howner hstands _ _ =>
    refine { ht with lines := forall_getElem?_concat ht.lines ⟨hinst, hstands⟩, messages := ?_,
                     conditions := ?_, updates := ?_, owners := forall_mem_concat ht.owners howner }
    · exact fun m hm => ⟨howns (ht.messages m hm).1, howns (ht.messages m hm).2⟩
    · exact fun c hc a ha => howns (ht.conditions c hc a ha)
    · exact fun x hx => howns (ht.updates x hx)
  | addMessage m hsymbols hsource htarget _ =>
    refine { ht with symbols := Template.hasAll_symbols.mpr ⟨hinitial, hlocations, hbranchpoints,
                       hedges, hevals, ?_, hconditions, hupdates⟩,
                     messages := forall_mem_concat ht.messages ⟨hsource, htarget⟩ }
    exact forall_mem_concat hmessages hsymbols
  | addCondition c hsymbols hanchors _ =>
    refine { ht with symbols := Template.hasAll_symbols.mpr ⟨hinitial, hlocations, hbranchpoints,
                       hedges, hevals, hmessages, ?_, hupdates⟩,
                     conditions := forall_mem_concat ht.conditions hanchors }
    exact forall_mem_concat hconditions hsymbols
  | addUpdate x hsymbols hanchor _ =>
    refine { ht with symbols := Template.hasAll_symbols.mpr ⟨hinitial, hlocations, hbranchpoints,
                       hedges, hevals, hmessages, hconditions, ?_⟩,
                     updates := forall_mem_concat ht.updates hanchor }
    exact forall_mem_concat hupdates hsymbols
  | addDynamicEval term hsymbols =>
    refine { ht with symbols := Template.hasAll_symbols.mpr ⟨hinitial, hlocations, hbranchpoints,
                       hedges, ?_, hmessages, hconditions, hupdates⟩ }
    exact forall_mem_concat hevals hsymbols
  | setInitial symbol hsymbol =>
    refine { ht with symbols := Template.hasAll_symbols.mpr ⟨?_, hlocations, hbranchpoints, hedges,
                       hevals, hmessages, hconditions, hupdates⟩ }
    intro x hx
    rw [Option.mem_def] at hx
    rw [← Option.some.inj hx]
    exact hsymbol
  | assign | makeDynamic | define =>
    exact { ht with symbols := Template.hasAll_symbols.mpr ⟨hinitial, hlocations, hbranchpoints,
                      hedges, hevals, hmessages, hconditions, hupdates⟩ }
  | editLocation index f hsame hsymbols =>
    refine { ht with symbols := Template.hasAll_symbols.mpr ⟨hinitial, ?_, hbranchpoints, hedges,
                       hevals, hmessages, hconditions, hupdates⟩,
                     locations := ?_, edges := hends }
    · refine forall_mem_modify hlocations fun l hl => ?_
      exact hsymbols l (hlocations l (List.mem_of_getElem? hl))
    · refine forall_getElem?_modify ht.locations fun l hl => ?_
      rw [(hsame l).1]
      exact ht.locations index l hl
  | editEdge index f hsame hsymbols =>
    refine { ht with symbols := Template.hasAll_symbols.mpr ⟨hinitial, hlocations, hbranchpoints,
                       ?_, hevals, hmessages, hconditions, hupdates⟩,
                     edges := ?_ }
    · refine forall_mem_modify hedges fun e he => ?_
      exact hsymbols e (hedges e (List.mem_of_getElem? he))
    · refine forall_mem_modify ht.edges fun e he => ?_
      rw [(hsame e).1, (hsame e).2.1]
      exact ht.edges e (List.mem_of_getElem? he)

end Templates

/-! ## Documents -/

/-- No document lists the instance. -/
def Store.UnlistedInst (s : Store) (i : InstanceId) : Prop :=
  ∀ d ∈ s.documents, i ∉ (s.document d).listed

/-- A symbol is in the frame of the global block of a document. -/
def Document.Declares (s : Store) (d : Document) (x : SymbolId) : Prop :=
  x ∈ (s.frame (s.block d.globals).frame).symbols

/-- The changes of a document. The symbol of a template that is added is in the global frame, and a dynamic
    template has the next index. -/
inductive Document.Edit (s : Store) : Document → Document → Prop where
  | addTemplate (d : Document) (t : TemplateId) (ht : t ∈ s.templates)
      (hlog : (s.template t).log = d.log) (hfree : s.UnlistedTemplate t)
      (hscope : s.Nested (s.template t).block (some (s.block d.globals).frame))
      (hframe : d.Declares s (s.templateSymbol t)) :
      Edit s d { d with templates := d.templates ++ [t] }
  | addDynamicTemplate (d : Document) (t : TemplateId) (name : String) (ht : t ∈ s.templates)
      (hlog : (s.template t).log = d.log) (hfree : s.UnlistedTemplate t)
      (hscope : s.Nested (s.template t).block (some (s.block d.globals).frame))
      (hframe : d.Declares s (s.templateSymbol t))
      (hindex : (s.template t).dynindex = d.dynamicTemplates.length)
      (hname : s.templateName t = name) (hnew : Ordered.get? d.dynamicByName name = none) :
      Edit s d
        { d with
          dynamicTemplates := d.dynamicTemplates ++ [t]
          dynamicByName := Ordered.put d.dynamicByName name t }
  | addInstance (d : Document) (i : InstanceId) (hi : i ∈ s.insts)
      (hstands : s.Stands (s.inst i).symbol (.inst i)) (hfree : s.UnlistedInst i) :
      Edit s d { d with instances := d.instances ++ [i] }
  | addLscInstance (d : Document) (i : InstanceId) (hi : i ∈ s.insts)
      (hstands : s.Stands (s.inst i).symbol (.inst i)) (hfree : s.UnlistedInst i) :
      Edit s d { d with lscInstances := d.lscInstances ++ [i] }
  | addProcess (d : Document) (i : InstanceId) (hi : i ∈ s.insts)
      (hstands : s.Stands (s.inst i).symbol (.process i)) (hfree : s.UnlistedInst i) :
      Edit s d { d with processes := d.processes ++ [i] }
  | removeProcess (d : Document) (i : InstanceId) :
      Edit s d { d with processes := d.processes.erase i }
  | settings (d : Document) (chanPriorities : List ChanPriority)
      (procPriority : List (String × Int)) (queries : List Query) (options : List ModelOption)
      (methods : Methods) (beforeUpdate afterUpdate : Expression) (features : Features)
      (syncUsed : Int) (strings : List String) (libraries : List Nat) (modified : Bool)
      (obsTA : String)
      (hsymbols : s.HasAll (chanPriorities.flatMap ChanPriority.symbols
        ++ beforeUpdate.term.occurrences ++ afterUpdate.term.occurrences)) :
      Edit s d
        { d with chanPriorities, procPriority, queries, options, methods, beforeUpdate, afterUpdate,
                 features, syncUsed, strings, libraries, modified, obsTA }

section Documents

variable {s : Store} {d e : Document}

theorem Document.Edit.keeps (h : d.Edit s e) : d.Keeps e := by
  cases h <;> exact ⟨rfl, rfl, rfl⟩

/-- What a document lists afterwards it listed before, or no document did, and the global frame has its
    symbol. -/
theorem Document.Edit.mem_allTemplates (h : d.Edit s e) {t : TemplateId} (ht : t ∈ e.allTemplates) :
    t ∈ d.allTemplates
      ∨ t ∈ s.templates ∧ s.UnlistedTemplate t ∧ d.Declares s (s.templateSymbol t) := by
  cases h with
  | addTemplate u hu _ hfree _ hframe =>
    have hmem : t ∈ (d.templates ++ [u]) ++ d.dynamicTemplates := ht
    rw [List.mem_append, List.mem_append] at hmem
    rcases hmem with (hold | hnew) | hold
    · exact Or.inl (List.mem_append_left _ hold)
    · rw [List.mem_singleton.mp hnew]
      exact Or.inr ⟨hu, hfree, hframe⟩
    · exact Or.inl (List.mem_append_right _ hold)
  | addDynamicTemplate u _ hu _ hfree _ hframe _ _ _ =>
    have hmem : t ∈ d.templates ++ (d.dynamicTemplates ++ [u]) := ht
    rw [← List.append_assoc, List.mem_append] at hmem
    rcases hmem with hold | hnew
    · exact Or.inl hold
    · rw [List.mem_singleton.mp hnew]
      exact Or.inr ⟨hu, hfree, hframe⟩
  | _ => exact Or.inl ht

theorem Document.Edit.mem_listed (h : d.Edit s e) {i : InstanceId} (hi : i ∈ e.listed) :
    i ∈ d.listed ∨ s.UnlistedInst i := by
  have hsplit : ∀ x : Document, i ∈ x.listed ↔
      i ∈ x.instances ∨ i ∈ x.lscInstances ∨ i ∈ x.processes := by
    intro x
    rw [Document.listed, List.mem_append, List.mem_append, or_assoc]
  rw [hsplit] at hi ⊢
  cases h with
  | addInstance j _ _ hfree =>
    rcases hi with hi | hi
    · rcases List.mem_append.mp hi with hold | hnew
      · exact Or.inl (Or.inl hold)
      · rw [List.mem_singleton.mp hnew]
        exact Or.inr hfree
    · exact Or.inl (Or.inr hi)
  | addLscInstance j _ _ hfree =>
    rcases hi with hi | hi | hi
    · exact Or.inl (Or.inl hi)
    · rcases List.mem_append.mp hi with hold | hnew
      · exact Or.inl (Or.inr (Or.inl hold))
      · rw [List.mem_singleton.mp hnew]
        exact Or.inr hfree
    · exact Or.inl (Or.inr (Or.inr hi))
  | addProcess j _ _ hfree =>
    rcases hi with hi | hi | hi
    · exact Or.inl (Or.inl hi)
    · exact Or.inl (Or.inr (Or.inl hi))
    · rcases List.mem_append.mp hi with hold | hnew
      · exact Or.inl (Or.inr (Or.inr hold))
      · rw [List.mem_singleton.mp hnew]
        exact Or.inr hfree
  | removeProcess j =>
    rcases hi with hi | hi | hi
    · exact Or.inl (Or.inl hi)
    · exact Or.inl (Or.inr (Or.inl hi))
    · exact Or.inl (Or.inr (Or.inr (List.mem_of_mem_erase hi)))
  | _ => exact Or.inl hi

/-- A document that takes up what no document lists lists nothing twice. -/
theorem Document.Edit.nodup_listed (h : d.Edit s e)
    (hfree : ∀ i, s.UnlistedInst i → i ∉ d.listed) (hd : d.listed.Nodup) : e.listed.Nodup := by
  have hcons : ∀ {i : InstanceId} {is : List InstanceId}, is.Perm (i :: d.listed) →
      s.UnlistedInst i → is.Nodup := fun hperm hi =>
    hperm.nodup_iff.mpr (List.nodup_cons.mpr ⟨hfree _ hi, hd⟩)
  cases h with
  | addInstance i _ _ hi =>
    refine hcons (i := i) ?_ hi
    unfold Document.listed
    rw [List.append_assoc, List.append_assoc, List.append_assoc]
    exact List.perm_middle
  | addLscInstance i _ _ hi =>
    refine hcons (i := i) ?_ hi
    unfold Document.listed
    rw [← List.append_assoc, List.append_assoc]
    exact List.perm_middle
  | addProcess i _ _ hi =>
    refine hcons (i := i) ?_ hi
    unfold Document.listed
    rw [← List.append_assoc]
    exact List.perm_append_singleton i _
  | removeProcess i => exact hd.sublist (List.Sublist.append_left List.erase_sublist _)
  | _ => exact hd

/-- What a document needs to know of its templates, it knows with one more that no document listed. -/
theorem Document.Sound.templates_of_perm (hd : d.Sound s) {t : TemplateId} {ts : List TemplateId}
    (hperm : ts.Perm (t :: d.allTemplates)) (ht : t ∈ s.templates)
    (hlog : (s.template t).log = d.log) (hfree : t ∉ d.allTemplates)
    (hscope : s.Nested (s.template t).block (some (s.block d.globals).frame)) :
    (∀ u ∈ ts, u ∈ s.templates ∧ (s.template u).log = d.log) ∧ ts.Nodup
      ∧ ∀ u ∈ ts, s.Nested (s.template u).block (some (s.block d.globals).frame) := by
  refine ⟨?_, hperm.nodup_iff.mpr (List.nodup_cons.mpr ⟨hfree, hd.distinct⟩), ?_⟩
  · intro u hu
    rcases List.mem_cons.mp (hperm.mem_iff.mp hu) with rfl | hold
    · exact ⟨ht, hlog⟩
    · exact hd.templates u hold
  · intro u hu
    rcases List.mem_cons.mp (hperm.mem_iff.mp hu) with rfl | hold
    · exact hscope
    · exact hd.scopes u hold

/-- **A changed document of a store is sound.** -/
theorem Document.Edit.sound {r : DocumentId} (hr : r ∈ s.documents) (h : (s.document r).Edit s e)
    (hd : (s.document r).Sound s) : e.Sound s := by
  generalize hdoc : s.document r = d at h hd
  have honce : e.listed.Nodup := h.nodup_listed (fun i hi => hdoc ▸ hi r hr) hd.listsOnce
  cases h with
  | addTemplate t ht hlog hfree hscope _ =>
    have hperm : ((d.templates ++ [t]) ++ d.dynamicTemplates).Perm (t :: d.allTemplates) := by
      rw [List.append_assoc]
      exact List.perm_middle
    obtain ⟨htemplates, hdistinct, hscopes⟩ :=
      hd.templates_of_perm hperm ht hlog (hdoc ▸ hfree r hr) hscope
    exact { hd with templates := htemplates, distinct := hdistinct, scopes := hscopes }
  | addDynamicTemplate t name ht hlog hfree hscope _ _ hname hnone =>
    subst hname
    have hperm : (d.templates ++ (d.dynamicTemplates ++ [t])).Perm (t :: d.allTemplates) := by
      rw [← List.append_assoc]
      exact List.perm_append_singleton t _
    obtain ⟨htemplates, hdistinct, hscopes⟩ :=
      hd.templates_of_perm hperm ht hlog (hdoc ▸ hfree r hr) hscope
    have hnew : s.templateName t ∉ d.dynamicTemplates.map s.templateName :=
      hd.keys_dynamicByName ▸ Ordered.get?_eq_none_iff.mp hnone
    refine { hd with templates := htemplates, distinct := hdistinct, scopes := hscopes,
                     names := ?_, entered := ?_ }
    · rw [List.map_append]
      exact (List.perm_append_singleton _ _).nodup_iff.mpr (List.nodup_cons.mpr ⟨hnew, hd.names⟩)
    · rw [Ordered.put_of_not_mem (hd.keys_dynamicByName ▸ hnew), hd.entered, List.map_append]
      rfl
  | addInstance i hi hstands _ =>
    refine { hd with instances := ?_, listsOnce := honce }
    intro j hj
    rw [List.append_assoc, List.mem_append, List.mem_append] at hj
    rcases hj with hj | hj | hj
    · exact hd.instances j (List.mem_append_left _ hj)
    · rw [List.mem_singleton.mp hj]
      exact ⟨hi, hstands⟩
    · exact hd.instances j (List.mem_append_right _ hj)
  | addLscInstance i hi hstands _ =>
    refine { hd with instances := ?_, listsOnce := honce }
    rw [← List.append_assoc]
    exact forall_mem_concat hd.instances ⟨hi, hstands⟩
  | addProcess i hi hstands _ =>
    exact { hd with processes := forall_mem_concat hd.processes ⟨hi, hstands⟩, listsOnce := honce }
  | removeProcess i =>
    exact { hd with processes := fun j hj => hd.processes j (List.mem_of_mem_erase hj),
                    listsOnce := honce }
  | settings _ _ _ _ _ _ _ _ _ _ _ _ _ hsymbols => exact { hd with symbols := hsymbols }

end Documents

end TimedNet
