import TimedNet.Proofs.Scope.Registry

/-!
# `TimedNet.Proofs.Scope.Steps` — what a step does to the scopes

Most steps leave the names and the lists of all scopes alone. A declaration brings a symbol into one
frame, where it is to be listed if it stands for an entity, and a new template turns a bare symbol into
one that is to be listed.

* `Sound.scopesApart`: no two scopes have one block.
* `Step.sameNames`, `Step.listed_eq`: what a step leaves alone.
* `Enrolled.declared`: a declaration.
* `Enrolled.newTemplate`: a new template.
* `Write.Quiet`, `Step.enrolled`, `Path.enrolled`: steps that list nothing.
-/

namespace TimedNet

/-- A step that can make entities and write bindings, logs and line tables, and nothing else. -/
def Write.Quiet : Write → Prop
  | .fresh | .aside | .inst _ | .restrict _ | .bind .. | .log _ | .lineTable _ => True
  | _ => False

namespace Store

variable {s s' : Store} {p q : Option Pending} {σ : Scope}

/-! ## Scopes of a sound store -/

/-- Every scope has a block, and no two have the same. -/
structure ScopesApart (s : Store) : Prop where
  mem : ∀ σ : Scope, s.Has σ.entity → s.scopeBlock σ ∈ s.blocks
  unique : ∀ σ τ : Scope, s.Has σ.entity → s.Has τ.entity →
    s.scopeBlock σ = s.scopeBlock τ → σ = τ

theorem Sound.scopesApart (h : s.Sound) : s.ScopesApart where
  mem σ hσ := by
    cases σ with
    | document d => exact (h.documents d hσ).globals
    | template t => exact (h.templates t hσ).block
  unique σ τ hσ hτ heq := by
    cases σ with
    | document d =>
      cases τ with
      | document e => exact congrArg Scope.document (h.apart.globals d hσ e hτ heq)
      | template t => exact absurd heq (h.apart.globals_blocks d hσ t hτ)
    | template t =>
      cases τ with
      | document e => exact absurd heq.symm (h.apart.globals_blocks e hτ t hσ)
      | template u => exact congrArg Scope.template (h.apart.blocks t hσ u hτ heq)

theorem Sound.hasAll_frameSymbols (h : s.Sound) {b : BlockId} (hb : b ∈ s.blocks) :
    s.HasAll (s.frameSymbols b) :=
  (h.frames _ (h.blocks b hb).frame).symbols

/-! ## What a step leaves alone -/

theorem Grows.name_eq (hg : s.Grows s') {r : SymbolId} (hr : r ∈ s.symbols) :
    s'.name r = s.name r :=
  (hg.symbols r hr).2.name

theorem Grows.scopeBlock_eq (hg : s.Grows s') (hσ : s.Has σ.entity) :
    s'.scopeBlock σ = s.scopeBlock σ := by
  cases σ with
  | document d => exact (hg.documents d hσ).2.globals
  | template t => exact (hg.templates t hσ).2.block

theorem Sound.templateSymbol_eq (h : s.Sound) (hg : s.Grows s') {t : TemplateId}
    (ht : t ∈ s.templates) : s'.templateSymbol t = s.templateSymbol t := by
  have hinst : (s'.template t).inst = (s.template t).inst := (hg.templates t ht).2.inst
  rw [templateSymbol, hinst]
  exact (hg.insts _ (h.templates t ht).inst).2.symbol

/-- The symbols that a document lists are the same in a later store. -/
theorem Sound.listedByDocument_eq (h : s.Sound) (hg : s.Grows s') {d : Document} (hd : d.Sound s)
    (ρ : Role) : s'.listedByDocument d ρ = s.listedByDocument d ρ := by
  cases ρ with
  | template => exact List.map_congr_left fun t ht => h.templateSymbol_eq hg (hd.templates t ht).1
  | inst => exact List.map_congr_left fun i hi => (hg.insts i (hd.instances i hi).1).2.symbol
  | _ => rfl

/-- The symbols that a template lists are the same in a later store. -/
theorem Grows.listedByTemplate_eq (hg : s.Grows s') {t : TemplateId} {u : Template}
    (hu : u.Sound s t) (ρ : Role) : s'.listedByTemplate u ρ = s.listedByTemplate u ρ := by
  cases ρ with
  | line =>
    refine List.map_congr_left fun l hl => ?_
    obtain ⟨i, hi⟩ := List.mem_iff_getElem?.mp hl
    exact (hg.insts _ (hu.lines i l hi).1).2.symbol
  | _ => rfl

section Steps

variable {w : Write} (hstep : s.Step w s') (h : s.Sound)
include hstep h

/-- What is bare afterwards was bare before: parameters stay, and so do the entities behind them. -/
theorem Step.bareScope (hσ : s.Has σ.entity) (hbare : s'.BareScope σ) : s.BareScope σ := by
  cases σ with
  | document d => trivial
  | template t =>
    have hg := hstep.grows
    have hinst : (s'.template t).inst = (s.template t).inst := (hg.templates t hσ).2.inst
    have hall := (Instance.hasAll_symbols.mp (h.insts _ (h.templates t hσ).inst).symbols).2.1
    rw [BareScope, BareParameters, hinst] at hbare
    intro r hr
    cases hreal : (s.symbol r).subject.isBare with
    | true => rfl
    | false =>
      have hkept : (s'.symbol r).subject = (s.symbol r).subject :=
        (hg.symbols r (hall r hr)).2.subject hreal
      rw [← hkept, hbare r ((hstep.parameters_part h hσ).subset hr)] at hreal
      exact hreal.symm

/-- What is proper afterwards was proper before, as names stay too. -/
theorem Step.properScope (hσ : s.Has σ.entity) (hproper : s'.ProperScope σ) : s.ProperScope σ := by
  have hbare := hstep.bareScope h hσ hproper.bare
  cases σ with
  | document d => trivial
  | template t =>
    have hg := hstep.grows
    have hinst : (s'.template t).inst = (s.template t).inst := (hg.templates t hσ).2.inst
    have hall := (Instance.hasAll_symbols.mp (h.insts _ (h.templates t hσ).inst).symbols).2.1
    have hnames := hproper.1
    rw [hinst] at hnames
    have hpart := hnames.sublist ((hstep.parameters_part h hσ).sublist.map s'.name)
    rw [List.map_congr_left fun r hr => hg.name_eq (hall r hr)] at hpart
    exact ⟨hpart, hbare⟩

theorem Step.frameSymbols_eq {b : BlockId} (hb : b ∈ s.blocks)
    (hframe : .frame (s.block b).frame ∉ w.targets) : s'.frameSymbols b = s.frameSymbols b := by
  have hkeeps : (s'.block b).frame = (s.block b).frame := (hstep.grows.blocks b hb).2.frame
  have hsame : s'.frame (s.block b).frame = s.frame (s.block b).frame :=
    hstep.same (e := .frame _) (h.blocks b hb).frame hframe
  rw [frameSymbols, hkeeps, hsame]
  rfl

theorem Step.sameNames (hσ : s.Has σ.entity)
    (hframe : .frame (s.block (s.scopeBlock σ)).frame ∉ w.targets)
    (hsymbols : ∀ r ∈ s.frameSymbols (s.scopeBlock σ), .symbol r ∉ w.targets) :
    s.SameNames s' σ where
  block := hstep.grows.scopeBlock_eq hσ
  symbols := hstep.frameSymbols_eq h (h.scopesApart.mem σ hσ) hframe
  named r hr := by
    have hmem := h.hasAll_frameSymbols (h.scopesApart.mem σ hσ) r hr
    have hsame : s'.symbol r = s.symbol r := hstep.same (e := .symbol r) hmem (hsymbols r hr)
    exact ⟨congrArg Symbol.name hsame, congrArg (fun x => x.subject.role?) hsame⟩
  bare := hstep.bareScope h hσ
  proper := hstep.properScope h hσ

theorem Step.listed_eq (hσ : s.Has σ.entity) (hblock : .block (s.scopeBlock σ) ∉ w.targets)
    (hentity : σ.entity ∉ w.targets) (ρ : Role) : s'.listed σ ρ = s.listed σ ρ := by
  have hsame : s'.block (s.scopeBlock σ) = s.block (s.scopeBlock σ) :=
    hstep.same (e := .block _) (h.scopesApart.mem σ hσ) hblock
  rw [listed, hstep.grows.scopeBlock_eq hσ, hsame, listed]
  refine congrArg _ ?_
  cases σ with
  | document d =>
    have hdocument : s'.document d = s.document d := hstep.same (e := .document d) hσ hentity
    rw [listedByOwner, hdocument]
    exact h.listedByDocument_eq hstep.grows (h.documents d hσ) ρ
  | template t =>
    have htemplate : s'.template t = s.template t := hstep.same (e := .template t) hσ hentity
    rw [listedByOwner, htemplate]
    exact hstep.grows.listedByTemplate_eq (h.templates t hσ) ρ

end Steps

/-! ## Declarations -/

/-- The frame in which a symbol is declared has it last, and other frames are as they were. -/
theorem frameSymbols_declared {r : FrameId} (hr : r ∈ s.frames) (x : Symbol) (b : BlockId) :
    (s.declared r x).frameSymbols b
      = if (s.block b).frame = r then s.frameSymbols b ++ [s.symbols.next] else s.frameSymbols b := by
  show ((s.frames.modify r fun f => f.add s.symbols.next).get (s.block b).frame).symbols = _
  split
  · next heq =>
    subst heq
    rw [Table.get_modify_self _ hr]
    rfl
  · next hne =>
    rw [Table.get_modify_of_ne _ (Ne.symm hne)]
    rfl

theorem symbol_declared_of_mem {r : FrameId} {x : Symbol} {y : SymbolId} (hy : y ∈ s.symbols) :
    (s.declared r x).symbol y = s.symbol y :=
  Table.get_push_of_mem x hy

theorem symbol_declared_next (s : Store) (r : FrameId) (x : Symbol) :
    (s.declared r x).symbol s.symbols.next = x :=
  Table.get_push_next s.symbols x

section Declared

variable (h : s.Sound) {b : BlockId} (hb : b ∈ s.blocks) {x : Symbol}
include h hb

/-- A name that is declared is new: no symbol of the frame has it, or the look-up would have found
    it. -/
theorem Sound.nodup_names_declared (hnew : s.lookup (s.frame (s.block b).frame) x.name = none)
    (hnames : ((s.frameSymbols b).map s.name).Nodup) :
    (((s.declared (s.block b).frame x).frameSymbols b).map
      (s.declared (s.block b).frame x).name).Nodup := by
  have hall := h.hasAll_frameSymbols hb
  have hfree : ∀ y ∈ s.frameSymbols b, s.name y ≠ x.name := fun y hy heq =>
    absurd (beq_iff_eq.mpr heq) (List.find?_eq_none.mp hnew y hy)
  have hkept : (s.frameSymbols b).map (s.declared (s.block b).frame x).name
      = (s.frameSymbols b).map s.name :=
    List.map_congr_left fun y hy => congrArg Symbol.name (symbol_declared_of_mem (hall y hy))
  have hname : (s.declared (s.block b).frame x).name s.symbols.next = x.name :=
    congrArg Symbol.name (symbol_declared_next s _ x)
  rw [frameSymbols_declared (h.blocks b hb).frame, if_pos rfl, List.map_append, hkept,
    List.map_singleton, hname]
  refine List.nodup_append.mpr ⟨hnames, List.nodup_singleton _, ?_⟩
  intro a ha c hc
  obtain ⟨y, hy, rfl⟩ := List.mem_map.mp ha
  rw [List.mem_singleton.mp hc]
  exact hfree y hy

/-- What is declared comes to the end of its role. -/
theorem Sound.members_declared (ρ : Role) :
    (s.declared (s.block b).frame x).members b ρ
      = s.members b ρ ++ if x.subject.role? = some ρ then [s.symbols.next] else [] := by
  have hall := h.hasAll_frameSymbols hb
  have hroles : ∀ y ∈ s.frameSymbols b,
      ((s.declared (s.block b).frame x).role? y == some ρ) = (s.role? y == some ρ) := fun y hy => by
    rw [role?, symbol_declared_of_mem (hall y hy)]
    rfl
  have hrole : (s.declared (s.block b).frame x).role? s.symbols.next = x.subject.role? :=
    congrArg (fun x => x.subject.role?) (symbol_declared_next s _ x)
  rw [members, frameSymbols_declared (h.blocks b hb).frame, if_pos rfl, List.filter_append,
    List.filter_congr hroles, List.filter_singleton, hrole]
  simp only [Bool.cond_eq_ite, beq_iff_eq]
  rfl

end Declared

/-- **A declaration** brings a new name into the scope of a frame. If the symbol stands for an entity,
    it is to be listed there. -/
theorem Enrolled.declared (hreg : s.Enrolled none) (h : s.Sound) {r : FrameId}
    {x : Symbol} (hnew : s.lookup (s.frame r) x.name = none)
    (hawaited : ∀ σ : Scope, s.Has σ.entity → ∀ ρ, Pending.awaited q (s.scopeBlock σ) ρ
      = if (s.block (s.scopeBlock σ)).frame = r ∧ x.subject.role? = some ρ then [s.symbols.next]
        else []) : (s.declared r x).Enrolled q := by
  have hstep : s.Step (.declare r) (s.declared r x) := .declare r x hnew
  intro σ hσ' hbare
  have hσ : s.Has σ.entity := by cases σ <;> exact hσ'
  have hold := hreg σ hσ (hstep.bareScope h hσ hbare)
  have hmem := h.scopesApart.mem σ hσ
  have hblock : (s.declared r x).scopeBlock σ = s.scopeBlock σ := hstep.grows.scopeBlock_eq hσ
  by_cases hframe : (s.block (s.scopeBlock σ)).frame = r
  · subst hframe
    refine hold.append (f := fun ρ => if x.subject.role? = some ρ then [s.symbols.next] else [])
      (fun hproper => ?_) (fun ρ => ?_) (fun ρ => rfl) fun ρ => ?_
    · rw [hblock]
      exact h.nodup_names_declared hmem hnew (hold.names (hstep.properScope h hσ hproper))
    · rw [hblock]
      exact h.members_declared hmem ρ
    · rw [hblock, hawaited σ hσ]
      simp
  · refine hold.relist (hstep.sameNames h hσ ?_ fun y _ => ?_) fun ρ => ?_
    · simpa [Write.targets] using hframe
    · simp [Write.targets]
    · rw [hawaited σ hσ, if_neg fun hboth => hframe hboth.1]
      exact .of_eq rfl

/-- A scope has the frame of a block only if it has the block. -/
theorem Sound.scopeBlock_eq_of_frame (h : s.Sound) (hσ : s.Has σ.entity) {b : BlockId}
    (hb : b ∈ s.blocks) (heq : (s.block (s.scopeBlock σ)).frame = (s.block b).frame) :
    s.scopeBlock σ = b :=
  h.apart.frames _ (h.scopesApart.mem σ hσ) b hb heq

/-- A symbol for an entity of a block. -/
theorem Enrolled.declareIn (hreg : s.Enrolled none) (h : s.Sound) {b : BlockId}
    (hb : b ∈ s.blocks) {x : Symbol} (hnew : s.lookup (s.frame (s.block b).frame) x.name = none)
    {ρ : Role} (hρ : x.subject.role? = some ρ) :
    (s.declared (s.block b).frame x).Enrolled (some ⟨b, ρ, s.symbols.next⟩) := by
  refine hreg.declared h hnew fun σ hσ π => ?_
  by_cases hblock : b = s.scopeBlock σ
  · subst hblock
    rw [Pending.awaited_self, hρ]
    simp
  · rw [Pending.awaited_of_block_ne hblock, if_neg]
    exact fun hboth => hblock (h.scopeBlock_eq_of_frame hσ hb hboth.1).symm

/-- A symbol that stands for nothing. -/
theorem Enrolled.declareBare (hreg : s.Enrolled none) (h : s.Sound) {r : FrameId}
    {x : Symbol} (hnew : s.lookup (s.frame r) x.name = none)
    (hbare : x.subject.isBare = true) : (s.declared r x).Enrolled none := by
  refine hreg.declared h hnew fun σ _ ρ => ?_
  rw [Subject.role?_eq_none_iff.mpr hbare]
  simp

/-- A symbol in a frame of no scope. -/
theorem Enrolled.declareElsewhere (hreg : s.Enrolled none) (h : s.Sound) {r : FrameId}
    {x : Symbol} (hnew : s.lookup (s.frame r) x.name = none)
    (helse : ∀ σ : Scope, s.Has σ.entity → (s.block (s.scopeBlock σ)).frame ≠ r) :
    (s.declared r x).Enrolled none := by
  refine hreg.declared h hnew fun σ hσ ρ => ?_
  simp [helse σ hσ]

/-! ## New scopes -/

/-- The scope of a new document is empty. -/
theorem enrolls_newDocument (s : Store) (lineTable : LineTableId) (log : LogId)
    (hp : ∀ ρ, Pending.awaited p s.blocks.next ρ = []) :
    (s.newDocument lineTable log).1.Enrolls p (.document s.documents.next) := by
  have hdocument : (s.newDocument lineTable log).1.document s.documents.next
      = { lineTable, log, globals := s.blocks.next } := Table.get_push_next s.documents _
  have hscope : (s.newDocument lineTable log).1.scopeBlock (.document s.documents.next)
      = s.blocks.next := congrArg Document.globals hdocument
  have hblock : (s.newDocument lineTable log).1.block s.blocks.next = { frame := s.frames.next } :=
    Table.get_push_next s.blocks _
  have hsymbols : (s.newDocument lineTable log).1.frameSymbols s.blocks.next = [] := by
    rw [frameSymbols, hblock]
    exact congrArg Frame.symbols (Table.get_push_next s.frames _)
  refine ⟨fun _ => ?_, fun ρ => .of_eq ?_⟩
  · rw [hscope, hsymbols]
    exact List.nodup_nil
  · rw [members, listed, hscope, hsymbols, hp, hblock, listedByOwner, hdocument]
    cases ρ <;> rfl

section NewTemplate

variable {symbol : SymbolId} {parameters : List SymbolId} {globals : Option FrameId} {log : LogId}
  {style : Style}

theorem frameSymbols_newTemplate :
    (s.newTemplate symbol parameters globals log style).1.frameSymbols s.blocks.next
      = parameters := by
  have hblock : ((s.newTemplate symbol parameters globals log style).1.block s.blocks.next).frame
      = s.frames.next := congrArg Block.frame (Table.get_push_next s.blocks _)
  have hframe : (s.newTemplate symbol parameters globals log style).1.frame s.frames.next
      = { parent := globals, symbols := parameters } :=
    (Table.get_push_of_mem _ (Table.next_mem_push _ _)).trans (Table.get_push_next s.frames _)
  rw [frameSymbols, hblock, hframe]

theorem parameters_newTemplate :
    ((s.newTemplate symbol parameters globals log style).1.inst
      ((s.newTemplate symbol parameters globals log style).1.template
        s.templates.next).inst).binding.parameters = parameters := by
  rw [template_newTemplate]
  exact congrArg (fun i => i.binding.parameters) (Table.get_push_next s.insts _)

/-- The scope of a new template has the parameters, which are no entities if they are bare. -/
theorem enrolls_newTemplate (hp : ∀ ρ, Pending.awaited p s.blocks.next ρ = [])
    (hbare : (s.newTemplate symbol parameters globals log style).1.BareParameters s.templates.next) :
    (s.newTemplate symbol parameters globals log style).1.Enrolls p
      (.template s.templates.next) := by
  have hscope : (s.newTemplate symbol parameters globals log style).1.scopeBlock
      (.template s.templates.next) = s.blocks.next :=
    congrArg Template.block (template_newTemplate s symbol parameters globals log style)
  have hblock : (s.newTemplate symbol parameters globals log style).1.block s.blocks.next
      = { frame := s.frames.next } := Table.get_push_next s.blocks _
  rw [BareParameters, parameters_newTemplate] at hbare
  refine ⟨fun hproper => ?_, fun ρ => .of_eq ?_⟩
  · have hnames := hproper.1
    rw [parameters_newTemplate] at hnames
    rw [hscope, frameSymbols_newTemplate]
    exact hnames
  · have hnone : (s.newTemplate symbol parameters globals log style).1.members s.blocks.next ρ
        = [] := by
      rw [members, frameSymbols_newTemplate, List.filter_eq_nil_iff]
      intro r hr
      rw [role?, Subject.role?_eq_none_iff.mpr (hbare r hr)]
      simp
    rw [hscope, hnone, listed, hscope, hp, hblock, listedByOwner, template_newTemplate]
    cases ρ <;> rfl

section Listed

variable (h : s.Sound) (hsymbol : symbol ∈ s.symbols)
  (hbare : (s.symbol symbol).subject.isBare = true)
  (hstep : s.Step (.newTemplate symbol parameters)
    (s.newTemplate symbol parameters globals log style).1)
include h hsymbol hbare hstep

/-- A bare symbol at the end of a frame comes to the end of the templates there: it had no role and has
    one now, and the roles of the others are as they were. -/
theorem Sound.members_newTemplate {b : BlockId} (hb : b ∈ s.blocks) {rs : List SymbolId}
    (hsymbols : s.frameSymbols b = rs ++ [symbol]) (hnot : symbol ∉ rs) (ρ : Role) :
    (s.newTemplate symbol parameters globals log style).1.members b ρ
      = s.members b ρ ++ if Role.template = ρ then [symbol] else [] := by
  have hall := h.hasAll_frameSymbols hb
  have hroles : ∀ r ∈ rs, ((s.newTemplate symbol parameters globals log style).1.role? r == some ρ)
      = (s.role? r == some ρ) := by
    intro r hr
    have hne : r ≠ symbol := fun heq => hnot (heq ▸ hr)
    have hmem : r ∈ s.symbols := hall r (hsymbols ▸ List.mem_append_left _ hr)
    have hsame := hstep.same (e := .symbol r) hmem (by simpa [Write.targets] using hne)
    rw [role?, show (s.newTemplate symbol parameters globals log style).1.symbol r
      = s.symbol r from hsame]
    rfl
  have hbefore : s.role? symbol = none := Subject.role?_eq_none_iff.mpr hbare
  have hafter : (s.newTemplate symbol parameters globals log style).1.role? symbol
      = some .template :=
    congrArg (fun x => x.subject.role?) (Table.get_modify_self (t := s.symbols)
      (fun x => { x with subject := .template s.templates.next }) hsymbol)
  rw [members, members, hstep.frameSymbols_eq h hb (by simp [Write.targets]), hsymbols,
    List.filter_append, List.filter_append, List.filter_congr hroles, List.filter_singleton,
    List.filter_singleton, hbefore, hafter]
  simp [Bool.cond_eq_ite]

/-- **A new template** makes its symbol one that is to be listed, in the scope that has the symbol
    last. -/
theorem Enrolled.newTemplate (hreg : s.Enrolled none)
    (hq : ∀ ρ, Pending.awaited q s.blocks.next ρ = [])
    (hscopes : ∀ σ : Scope, s.Has σ.entity →
      (symbol ∉ s.frameSymbols (s.scopeBlock σ) ∧ ∀ ρ, Pending.awaited q (s.scopeBlock σ) ρ = [])
      ∨ (∃ rs, s.frameSymbols (s.scopeBlock σ) = rs ++ [symbol] ∧ symbol ∉ rs)
        ∧ ∀ ρ, Pending.awaited q (s.scopeBlock σ) ρ = if Role.template = ρ then [symbol] else []) :
    (s.newTemplate symbol parameters globals log style).1.Enrolled q := by
  intro σ hσ' hbareScope
  by_cases hσ : s.Has σ.entity
  · have hold := hreg σ hσ (hstep.bareScope h hσ hbareScope)
    have hlisted := hstep.listed_eq h hσ (by simp [Write.targets])
      (by cases σ <;> simp [Write.targets, Scope.entity])
    rcases hscopes σ hσ with ⟨hnot, hawaited⟩ | ⟨⟨rs, hsymbols, hnot⟩, hawaited⟩
    · refine hold.relist (hstep.sameNames h hσ (by simp [Write.targets]) fun r hr => ?_) fun ρ => ?_
      · rintro hmem
        obtain rfl : r = symbol := by simpa [Write.targets] using hmem
        exact hnot hr
      · rw [hlisted, hawaited]
        exact .of_eq rfl
    · have hblock := hstep.grows.scopeBlock_eq hσ
      have hmem := h.scopesApart.mem σ hσ
      have hkept := hstep.frameSymbols_eq h hmem (by simp [Write.targets])
      refine hold.append (f := fun ρ => if Role.template = ρ then [symbol] else []) (fun hproper => ?_)
        (fun ρ => ?_) hlisted fun ρ => by rw [hblock, hawaited]
      · rw [hblock, hkept, List.map_congr_left fun r hr =>
          hstep.grows.name_eq (h.hasAll_frameSymbols hmem r hr)]
        exact hold.names (hstep.properScope h hσ hproper)
      · rw [hblock]
        exact h.members_newTemplate hsymbol hbare hstep hmem hsymbols hnot ρ
  · -- The scope is that of the new template.
    cases σ with
    | document d => exact absurd hσ' hσ
    | template t =>
      obtain rfl := (Table.mem_push.mp hσ').resolve_left hσ
      exact enrolls_newTemplate hq hbareScope

end Listed

end NewTemplate

/-! ## Steps that list nothing -/

theorem Write.targets_of_quiet {w : Write} (hw : w.Quiet) {e : Entity} (he : e ∈ w.targets) :
    (∃ i, e = .inst i) ∨ (∃ l, e = .log l) ∨ ∃ l, e = .lineTable l := by
  cases w <;> simp_all [Write.Quiet, Write.targets]

/-- **A quiet step** leaves all scopes alone, and a new document has an empty one. -/
theorem Step.enrolled {w : Write} (hstep : s.Step w s') (h : s.Sound) (hw : w.Quiet)
    (hp : ∀ ρ, Pending.awaited p s.blocks.next ρ = []) (hreg : s.Enrolled p) :
    s'.Enrolled p := by
  have hframe : ∀ f, .frame f ∉ w.targets := fun f hf => by
    simpa using Write.targets_of_quiet hw hf
  have hsymbol : ∀ r, .symbol r ∉ w.targets := fun r hr => by
    simpa using Write.targets_of_quiet hw hr
  have hblock : ∀ b, .block b ∉ w.targets := fun b hb => by
    simpa using Write.targets_of_quiet hw hb
  have hentity : ∀ σ : Scope, σ.entity ∉ w.targets := fun σ hσ => by
    have := Write.targets_of_quiet hw hσ
    cases σ <;> simp [Scope.entity] at this
  refine hreg.keep (fun σ hσ => ⟨hstep.sameNames h hσ (hframe _) fun r _ => hsymbol r,
    fun ρ => ?_⟩) fun σ hσ => ?_
  · rw [hstep.listed_eq h hσ (hblock _) (hentity σ)]
    exact .of_eq rfl
  · cases hstep with
    | document lineTable log _ _ =>
      cases σ with
      | template t => exact Or.inl hσ
      | document d =>
        rcases Table.mem_push.mp hσ with hold | rfl
        · exact Or.inl hold
        · exact Or.inr fun _ => enrolls_newDocument s lineTable log hp
    | aside s' ha =>
      refine Or.inl ?_
      cases σ with
      | document d => exact (ha.documents ▸ hσ : d ∈ s.documents)
      | template t => exact (ha.templates ▸ hσ : t ∈ s.templates)
    | editBlock | editTemplate | editDocument | newTemplate | copy => exact absurd hw id
    | _ => exact Or.inl (by cases σ <;> exact hσ)

theorem Path.enrolled {P : Write → Prop} (hpath : Path P s s') (h : s.Sound)
    (hP : ∀ w, P w → w.Quiet) (hreg : s.Enrolled none) : s'.Enrolled none :=
  hpath.keeps h (fun hw hstep hsound => hstep.enrolled hsound (hP _ hw) fun _ => rfl) hreg

end Store

end TimedNet
