import Mathlib.Data.List.Nodup
import TimedNet.Proofs.Run.Writes

/-!
# `TimedNet.Proofs.Run.Declarations` — the steps of declarations

A declaration is a new symbol in a frame followed by a change of the block whose entity the symbol
stands for.

* `introduces_declared`: a declared symbol has a name of its own.
* `localRelocation`, `localSymbols`, `filled`: a new function with the contents of another.
* `path_declareVariable`, `path_declareLocal`, `path_declareFunction`, `path_declareType`.
* `path_foldl`: a loop that declares entries, by induction on what they are made from; `path_copyVariable`,
  `path_copyFunction`: one turn of such loops.
-/

namespace TimedNet.Store

variable {s : Store} {P : Write → Prop}

/-! ## One declaration -/

/-- A declared symbol has a name that nothing else in its frame has. -/
theorem introduces_declared (r : FrameId) {x : Symbol} (hnew : s.lookup (s.frame r) x.name = none) :
    (s.declared r x).Introduces r s.symbols.next := by
  intro hr
  have hframe : (s.declared r x).frame r = (s.frame r).add s.symbols.next :=
    Table.get_modify_self (t := s.frames) (fun f => f.add s.symbols.next) (Table.mem_modify.mp hr)
  rw [hframe, Frame.symbols_add]
  refine ⟨List.mem_append_right _ (List.mem_singleton.mpr rfl), fun q hq heq => ?_⟩
  rcases List.mem_append.mp hq with hold | hlast
  · by_contra hne
    -- An older symbol has the name that it had, and no symbol had the name of the new one.
    have hsame : (s.declared r x).name q = s.name q :=
      congrArg Symbol.name (Table.get_eq_of_get? ((Table.get?_push s.symbols x q).trans (if_neg hne)))
    have hnext : (s.declared r x).name s.symbols.next = x.name :=
      congrArg Symbol.name (Table.get_push_next s.symbols x)
    rw [hsame, hnext] at heq
    have hlookup := List.find?_eq_none.mp hnew q hold
    rw [heq, beq_self_eq_true] at hlookup
    exact hlookup rfl
  · exact List.mem_singleton.mp hlast

theorem path_declareVariable {block : BlockId} {type name : String} {init : Expression} {span : Span}
    (hinit : s.HasAll init.term.occurrences) (hframe : P (.declare (s.block block).frame))
    (hblock : P (.block block)) :
    Path P s (s.declareVariable block type name init span).1 := by
  let owner := VariableRef.ofBlock block (s.block block).vars.length
  let x : Symbol := { name, type, span, subject := .var owner }
  rcases s.declare_cases (s.block block).frame x with heq | ⟨hnew, heq⟩ <;>
    rw [declareVariable, heq]
  · exact .refl
  · have hstands := stands_declared s (s.block block).frame (x := x) rfl
    have hg := s.grows_declared (s.block block).frame x
    refine (Path.single hframe (.declare _ x hnew)).step hblock (.editBlock block _ fun _ => ?_)
    exact .addVariable _ _ (hasAll_cons.mpr ⟨hstands.mem, hinit.mono hg⟩) hstands
      (introduces_declared _ hnew)

/-- If there is no such function, the symbol is declared all the same and nothing else happens. -/
theorem path_declareLocal {function : FunctionRef} {frame : FrameId} {type name : String}
    {init : Expression} {span : Span}
    (hinit : s.HasAll init.term.occurrences) (hframe : P (.declare frame))
    (hblock : P (.block function.block)) :
    Path P s (s.declareLocal function frame type name init span).1 := by
  let owner := VariableRef.ofFunction function (s.functionAt function).locals.length
  let x : Symbol := { name, type, span, subject := .var owner }
  rcases s.declare_cases frame x with heq | ⟨hnew, heq⟩ <;> rw [declareLocal, heq]
  · exact .refl
  · have hstands := stands_declared s frame (x := x) rfl
    have hg := s.grows_declared frame x
    refine (Path.single hframe (.declare _ x hnew)).step hblock
      (.editBlock function.block _ fun _ => .function _ _ _ fun f hf => ?_)
    have hf' : (s.block function.block).functions[function.index]? = some f := hf
    have hat : s.functionAt function = f := by rw [functionAt, getD_of_getElem? hf']
    refine .addLocal f _ (hasAll_cons.mpr ⟨hstands.mem, hinit.mono hg⟩) ?_
    rw [← hat]
    exact hstands

theorem path_declareFunction {block : BlockId} {type name : String} {span : Span}
    (hframe : P (.declare (s.block block).frame)) (hblock : P (.block block)) :
    Path P s (s.declareFunction block type name span).1 := by
  let owner : FunctionRef := ⟨block, (s.block block).functions.length⟩
  let x : Symbol := { name, type, span, subject := .fn owner }
  rcases s.declare_cases (s.block block).frame x with heq | ⟨hnew, heq⟩ <;>
    rw [declareFunction, heq]
  · exact .refl
  · have hstands := stands_declared s (s.block block).frame (x := x) rfl
    refine (Path.single hframe (.declare _ x hnew)).step hblock (.editBlock block _ fun _ => ?_)
    exact .addFunction _ _ hstands (introduces_declared _ hnew)

theorem path_declareType {block : BlockId} {name type : String} {span : Span}
    (hframe : P (.declare (s.block block).frame)) :
    Path P s (s.declareType block name type span).1 :=
  path_declare _ _ hframe

/-! ## Declarations of a document -/

/-- A warning is a log entry, if there is a warning. -/
theorem warnShadowing_cases (s : Store) (log : LogId) (block : BlockId) (name : String)
    (span : Span) : s.warnShadowing log block name span = s
      ∨ s.warnShadowing log block name span
        = s.report log span (ProblemKind.shadowsAVariable.on name) "" := by
  rw [warnShadowing]
  split
  · exact Or.inl rfl
  · split
    · exact Or.inr rfl
    · exact Or.inl rfl

theorem path_addVariable {document : DocumentId} {block : BlockId} {type name : String}
    {init : Expression} {span : Span} (hinit : s.HasAll init.term.occurrences)
    (hlog : P (.log (s.document document).log)) (hframe : P (.declare (s.block block).frame))
    (hblock : P (.block block)) :
    Path P s (s.addVariable document block type name init span).1 := by
  refine path_logged _ _ hlog ?_
  rcases s.warnShadowing_cases (s.document document).log block name span with heq | heq <;>
    rw [heq]
  · exact path_declareVariable hinit hframe hblock
  · exact (path_report _ span _ "" hlog).trans (path_declareVariable hinit hframe hblock)

/-! ## Entries and later knowledge -/

theorem path_modifyFunction {function : FunctionRef} {g : Function → Function}
    (hg : ∀ f, (s.block function.block).functions[function.index]? = some f →
      Function.Edit s function f (g f)) (hblock : P (.block function.block)) :
    Path P s (s.modifyFunction function g) :=
  .single hblock (.editBlock function.block _ fun _ => .function _ _ _ hg)

theorem path_setInitialiser {owner : VariableRef} {init : Expression}
    (hinit : s.HasAll init.term.occurrences) (hblock : P (.block owner.block)) :
    Path P s (s.setInitialiser owner init) := by
  cases owner with
  | ofBlock block index =>
    exact .single hblock (.editBlock block _ fun _ => .initialiser _ index init hinit)
  | ofFunction function index =>
    exact path_modifyFunction (fun f _ => .initialiser f index init hinit) hblock

/-! ## Copying declarations between templates -/

/-- One variable copied into a block. -/
def copyVariable (log : LogId) (block : BlockId) (s : Store) (v : Variable) : Store :=
  let symbol := s.symbol v.symbol
  (logged log symbol.span (s.declareVariable block symbol.type symbol.name v.init symbol.span)).1

/-- One function copied into a block. -/
def copyFunction (log : LogId) (block : BlockId) (s : Store) (f : Function) : Store :=
  let symbol := s.symbol f.symbol
  match logged log symbol.span (s.declareFunction block symbol.type symbol.name symbol.span) with
  | (s, .ok g) => s.fillFunction f g
  | (s, .error _) => s

theorem copyVariables_eq_foldl (s : Store) (d : DocumentId) (source target : TemplateId) :
    s.copyVariables d source target = (s.block (s.template source).block).vars.foldl
      (copyVariable (s.document d).log (s.template target).block) s :=
  rfl

theorem copyFunctions_eq_foldl (s : Store) (d : DocumentId) (source target : TemplateId) :
    s.copyFunctions d source target = (s.block (s.template source).block).functions.foldl
      (copyFunction (s.document d).log (s.template target).block) s :=
  rfl

/-- A function that was declared is filled. -/
theorem copyFunction_of_ok {s' : Store} {log : LogId} {block : BlockId} {f : Function} {r : FunctionRef}
    (h : s.declareFunction block (s.symbol f.symbol).type (s.symbol f.symbol).name
      (s.symbol f.symbol).span = (s', .ok r)) :
    s.copyFunction log block f = s'.fillFunction f r := by
  unfold copyFunction
  dsimp only
  rw [h]
  rfl

/-- If the name is taken there is no function to fill. -/
theorem copyFunction_of_error {s' : Store} {log : LogId} {block : BlockId} {f : Function} {p : Problem}
    (h : s.declareFunction block (s.symbol f.symbol).type (s.symbol f.symbol).name
      (s.symbol f.symbol).span = (s', .error p)) :
    s.copyFunction log block f = s'.report log (s.symbol f.symbol).span p "" := by
  unfold copyFunction
  dsimp only
  rw [h]
  rfl

/-- A loop that declares entries in a block, if each turn takes the steps that it may take. -/
theorem path_foldl {α : Type} {turn : Store → α → Store} {block : BlockId} {Q : Store → α → Prop}
    (hlater : ∀ {s s' : Store} {a : α}, s.Grows s' → Q s a → Q s' a)
    (hturn : ∀ {s : Store} {a : α}, block ∈ s.blocks → P (.declare (s.block block).frame) → Q s a →
      Path P s (turn s a)) (as : List α) (hmem : block ∈ s.blocks)
    (hframe : P (.declare (s.block block).frame)) (has : ∀ a ∈ as, Q s a) :
    Path P s (as.foldl turn s) := by
  induction as generalizing s with
  | nil => exact .refl
  | cons a as ih =>
    obtain ⟨ha, has⟩ := List.forall_mem_cons.mp has
    have hfirst := hturn hmem hframe ha
    have hsame : ((turn s a).block block).frame = (s.block block).frame :=
      (hfirst.grows.blocks block hmem).2.frame
    apply hfirst.trans
    apply ih (hfirst.grows.blocks block hmem).1
    · rw [hsame]
      exact hframe
    · intro x hx
      exact hlater hfirst.grows (has x hx)

theorem path_copyVariable {log : LogId} {block : BlockId} {v : Variable}
    (hinit : s.HasAll v.init.term.occurrences) (hlog : P (.log log))
    (hframe : P (.declare (s.block block).frame)) (hblock : P (.block block)) :
    Path P s (s.copyVariable log block v) :=
  path_logged _ _ hlog (path_declareVariable hinit hframe hblock)

/-- The local variables of a function, which symbols of their own stand for. -/
def HasLocals (s : Store) (f : Function) : Prop :=
  ∃ q, ∀ j v, f.locals[j]? = some v → s.Stands v.symbol (.var (.ofFunction q j))

theorem HasLocals.mono {s' : Store} (hg : s.Grows s') {f : Function} (h : s.HasLocals f) :
    s'.HasLocals f := by
  obtain ⟨q, hq⟩ := h
  exact ⟨q, fun j v hv => (hq j v hv).mono hg⟩

/-- No two local variables have one symbol, since it stands for one of them. -/
theorem HasLocals.nodup {f : Function} (h : s.HasLocals f) :
    (f.locals.map fun v => v.symbol).Nodup := by
  obtain ⟨q, hq⟩ := h
  rw [List.nodup_iff_getElem?_ne_getElem?]
  intro i j hij hj heq
  rw [List.getElem?_map, List.getElem?_map] at heq
  rw [List.length_map] at hj
  rw [List.getElem?_eq_getElem hj, List.getElem?_eq_getElem (Nat.lt_trans hij hj)] at heq
  have hsymbol : f.locals[i].symbol = f.locals[j].symbol := Option.some.inj heq
  have hi := hq i _ (List.getElem?_eq_getElem (Nat.lt_trans hij hj))
  rw [hsymbol] at hi
  have hplace := hi.unique (hq j _ (List.getElem?_eq_getElem hj))
  simp only [Subject.var.injEq, VariableRef.ofFunction.injEq] at hplace
  exact Nat.ne_of_lt hij hplace.2

/-! ## The contents of a new function -/

/-- Where the local variables of a function go when it is copied now. -/
def localRelocation (s : Store) (f : Function) : Relocation .symbol :=
  ⟨f.locals.map fun v => v.symbol, s.symbols.size⟩

/-- The symbols of the new local variables. -/
def localSymbols (s : Store) (f : Function) (r : FunctionRef) : List Symbol :=
  (f.locals.map fun v => v.symbol).mapIdx fun j x =>
    { s.symbol x with subject := .var (.ofFunction r j) }

/-- A new function with the contents of `f`. -/
def filled (s : Store) (f : Function) (r : FunctionRef) (g : Function) : Function :=
  { g with
    changes := f.changes
    depends := f.depends
    locals := f.locals.mapIdx fun j v =>
      ⟨s.localRelocation f v.symbol,
        v.init.renamed (s.localRelocation f) (.madeFor (.initialiser (.ofFunction r j)))⟩
    body := f.body.map (Term.map (s.localRelocation f)) }

theorem fillFunction_eq (s : Store) (f : Function) (r : FunctionRef) : s.fillFunction f r
    = { s with symbols := s.symbols.pushAll (s.localSymbols f r) }.modifyFunction r (s.filled f r) :=
  rfl

theorem length_localSymbols (s : Store) (f : Function) (r : FunctionRef) :
    (s.localSymbols f r).length = (s.localRelocation f).sources.length :=
  List.length_mapIdx

/-- Each local variable goes to a new symbol, which stands for the new variable at the same place. -/
theorem HasLocals.get_localSymbols {f : Function} (h : s.HasLocals f) (r : FunctionRef) {j : Nat}
    {v : Variable} (hv : f.locals[j]? = some v) :
    (s.symbols.pushAll (s.localSymbols f r)).get (s.localRelocation f v.symbol)
      = { s.symbol v.symbol with subject := .var (.ofFunction r j) } := by
  have hat : (f.locals.map fun v => v.symbol)[j]? = some v.symbol := by
    rw [List.getElem?_map, hv]
    rfl
  have hnew : (s.localSymbols f r)[j]?
      = some { s.symbol v.symbol with subject := .var (.ofFunction r j) } := by
    unfold localSymbols
    rw [List.getElem?_mapIdx, hat]
    rfl
  -- No two local variables have one symbol, so the new symbols stand in the order of the variables.
  have hplace : s.localRelocation f v.symbol = ⟨s.symbols.size + j⟩ :=
    Relocation.apply_of_getElem? h.nodup hat
  rw [hplace, Table.get_pushAll_add, hnew]
  rfl

/-- **A new function is filled in two steps**: new symbols, and then the contents. -/
theorem path_fillFunction {f : Function} {target : FunctionRef} (hf : s.HasAll f.symbols)
    (hlocals : s.HasLocals f)
    (htarget : ∀ g, (s.block target.block).functions[target.index]? = some g →
      g.locals = [] ∧ g.symbol ∈ s.symbols)
    (hfresh : P .fresh) (hblock : P (.block target.block)) : Path P s (s.fillFunction f target) := by
  obtain ⟨_, hchanges, hdepends, hvars, hbody⟩ := Function.hasAll_symbols.mp hf
  let ρ := s.localRelocation f
  let t : Store := { s with symbols := s.symbols.pushAll (s.localSymbols f target) }
  have hg : s.Grows t := s.grows_newSymbols _
  have hlength := s.length_localSymbols f target
  -- What is copied with the symbols replaced exists.
  have hmap : ∀ {rs : List SymbolId}, s.HasAll rs → t.HasAll (rs.map ρ) := by
    intro rs hrs q hq
    obtain ⟨r, hr, rfl⟩ := List.mem_map.mp hq
    exact Relocation.apply_mem_pushAll rfl hlength (hrs r hr)
  rw [fillFunction_eq]
  refine (Path.single hfresh (.symbols _)).step hblock
    (.editBlock target.block _ fun _ => .function _ _ _ fun g hget => ?_)
  obtain ⟨hnew, hsymbol⟩ := htarget g hget
  refine .fill g _ hnew rfl (Function.hasAll_symbols.mpr ⟨?_, ?_, ?_, ?_, ?_⟩) ?_
  · exact (hg.symbols _ hsymbol).1
  · exact hchanges.mono hg
  · exact hdepends.mono hg
  · intro v hv
    obtain ⟨i, w, hw, rfl⟩ := mem_mapIdx_iff.mp hv
    have hw' := hvars w (List.mem_of_getElem? hw)
    rw [Variable.symbols, Expression.term_renamed, Term.occurrences_map]
    exact hmap hw'
  · show t.HasAll ((f.body.map (Term.map ρ)).toList.flatMap Term.occurrences)
    cases hb : f.body with
    | none => exact hasAll_nil t
    | some body =>
      rw [hb] at hbody
      have hall : t.HasAll (body.occurrences.map ρ) :=
        hmap (hasAll_flatMap.mp hbody body List.mem_cons_self)
      refine hasAll_flatMap.mpr fun u hu => ?_
      rw [List.mem_singleton.mp hu, Term.occurrences_map]
      exact hall
  · intro j v hv
    have hv' : (f.locals.mapIdx _)[j]? = some v := hv
    rw [List.getElem?_mapIdx] at hv'
    obtain ⟨w, hw, rfl⟩ := Option.map_eq_some_iff.mp hv'
    have hmem : w.symbol ∈ ρ.sources := List.mem_map_of_mem (List.mem_of_getElem? hw)
    refine ⟨Relocation.mem_pushAll_apply rfl hlength hmem, ?_, rfl⟩
    exact congrArg Symbol.subject (hlocals.get_localSymbols target hw)

/-- A new function has no local variables. -/
theorem declareFunction_ok {block : BlockId} {type name : String} {span : Span} {s' : Store}
    {r : FunctionRef} (hmem : block ∈ s.blocks)
    (h : s.declareFunction block type name span = (s', .ok r)) :
    r.block = block ∧ ∀ g, (s'.block r.block).functions[r.index]? = some g →
      g.locals = [] ∧ g.symbol ∈ s'.symbols := by
  let owner : FunctionRef := ⟨block, (s.block block).functions.length⟩
  let x : Symbol := { name, type, span, subject := .fn owner }
  rcases s.declare_cases (s.block block).frame x with heq | ⟨_, heq⟩ <;>
    rw [declareFunction, heq] at h
  · exact absurd (congrArg Prod.snd h) (by simp)
  · obtain ⟨rfl, hr⟩ := Prod.mk.inj h
    obtain rfl := Except.ok.inj hr
    refine ⟨rfl, fun g hget => ?_⟩
    let grown : Block → Block := fun b =>
      { b with functions := b.functions ++ [{ symbol := s.symbols.next }] }
    have hblock : ((s.declared (s.block block).frame x).modifyBlock block grown).block block
        = grown (s.block block) :=
      Table.get_modify_self grown hmem
    have hlast : (grown (s.block block)).functions[(s.block block).functions.length]? = some g :=
      (congrArg (fun b : Block => b.functions[(s.block block).functions.length]?) hblock).symm.trans
        hget
    rw [show (grown (s.block block)).functions = _ from rfl, List.getElem?_concat_length] at hlast
    obtain rfl := Option.some.inj hlast
    exact ⟨rfl, s.next_mem_declared (s.block block).frame x⟩

theorem path_copyFunction {log : LogId} {block : BlockId} {f : Function} (hf : s.HasAll f.symbols)
    (hlocals : s.HasLocals f) (hmem : block ∈ s.blocks) (hlog : P (.log log)) (hfresh : P .fresh)
    (hframe : P (.declare (s.block block).frame)) (hblock : P (.block block)) :
    Path P s (s.copyFunction log block f) := by
  let x := s.symbol f.symbol
  have hdeclare : Path P s (s.declareFunction block x.type x.name x.span).1 :=
    path_declareFunction hframe hblock
  cases hout : s.declareFunction block x.type x.name x.span with
  | mk s' outcome =>
    rw [hout] at hdeclare
    cases outcome with
    | error p =>
      rw [copyFunction_of_error hout]
      exact hdeclare.trans (path_report log x.span p "" hlog)
    | ok r =>
      have hg := hdeclare.grows
      rw [copyFunction_of_ok hout]
      obtain ⟨hr, htarget⟩ := declareFunction_ok hmem hout
      apply hdeclare.trans
      exact path_fillFunction (hf.mono hg) (hlocals.mono hg) htarget hfresh (hr ▸ hblock)

end TimedNet.Store
