import TimedNet.Proofs.Run.Frames

/-!
# `TimedNet.Proofs.Scope.Registry` — what is in a scope and what is listed

A document has a scope, and so has each template: a frame with the names, and lists of the entities that
have them. The scope enrolls its entities when the frame has, for each role that a symbol can have, the
symbols of the entities that are listed for it. Parameters may have any names, so only a scope whose
parameters are proper registers its entities, no name being there twice.

* `Role`, `Role.Agree`: what a symbol can be the symbol of, and the same symbols in a role.
* `Scope`, `Store.members`, `Store.listed`: what the frame has and what is listed.
* `Store.BareScope`, `Store.ProperScope`: what parameters are.
* `Pending`, `Store.Enrolls`, `Store.Registers`: all this, but for one symbol that is not listed yet.
* `Store.Enrolled`, `Store.Registered`: every scope with such parameters enrolls its entities, or registers
  them.
* `Store.SameNames`, `Enrolled.keep`: what has to be shown of a change.
-/

namespace TimedNet

/-! ## Roles -/

/-- What a symbol can be the symbol of. -/
inductive Role where
  | var | fn | location | branchpoint | line | template | inst | process
deriving DecidableEq

/-- The role of a symbol that stands for this. -/
def Subject.role? : Subject → Option Role
  | .nothing | .parameter | .typedef => none
  | .var _ => some .var
  | .fn _ => some .fn
  | .location .. => some .location
  | .branchpoint .. => some .branchpoint
  | .line .. => some .line
  | .template _ => some .template
  | .inst _ => some .inst
  | .process _ => some .process

theorem Subject.role?_eq_none_iff {o : Subject} : o.role? = none ↔ o.isBare = true := by
  cases o <;> simp [role?, isBare]

/-- The same symbols in the same order. Templates and instances, for which a document has two lists, may
    be in another order. -/
def Role.Agree : Role → List SymbolId → List SymbolId → Prop
  | .template, rs, qs | .inst, rs, qs => rs.Perm qs
  | _, rs, qs => rs = qs

namespace Role

variable {ρ : Role} {rs qs ps : List SymbolId}

theorem Agree.of_eq (h : rs = qs) : ρ.Agree rs qs := by
  subst h
  cases ρ <;> exact .refl _

theorem Agree.trans (h : ρ.Agree rs qs) (h' : ρ.Agree qs ps) : ρ.Agree rs ps := by
  cases ρ <;> first | exact List.Perm.trans h h' | exact Eq.trans h h'

theorem Agree.append_right (h : ρ.Agree rs qs) (ps : List SymbolId) :
    ρ.Agree (rs ++ ps) (qs ++ ps) := by
  cases ρ <;> first | exact List.Perm.append_right ps h | exact congrArg (· ++ ps) h

theorem Agree.map (h : ρ.Agree rs qs) (f : SymbolId → SymbolId) :
    ρ.Agree (rs.map f) (qs.map f) := by
  cases ρ <;> first | exact List.Perm.map f h | exact congrArg (List.map f) h

end Role

/-! ## Scopes -/

/-- A document or a template, each of which has a block with a frame. -/
inductive Scope where
  | document (d : DocumentId)
  | template (t : TemplateId)
deriving DecidableEq

/-- The document or template itself. -/
def Scope.entity : Scope → Entity
  | .document d => .document d
  | .template t => .template t

/-- The symbols that a block lists in a role. -/
def Block.listed (b : Block) : Role → List SymbolId
  | .var => b.vars.map fun v => v.symbol
  | .fn => b.functions.map fun f => f.symbol
  | _ => []

namespace Store

/-- The symbols that a document lists in a role, its block apart. -/
def listedByDocument (s : Store) (d : Document) : Role → List SymbolId
  | .template => d.allTemplates.map s.templateSymbol
  | .inst => (d.instances ++ d.lscInstances).map fun i => (s.inst i).symbol
  | _ => []

/-- The symbols that a template lists in a role, its block apart. -/
def listedByTemplate (s : Store) (t : Template) : Role → List SymbolId
  | .location => t.locations.items.map fun l => l.symbol
  | .branchpoint => t.branchpoints.items.map fun b => b.symbol
  | .line => t.lines.items.map fun l => (s.inst l.inst).symbol
  | _ => []

/-- The same for either. -/
def listedByOwner (s : Store) : Scope → Role → List SymbolId
  | .document d => s.listedByDocument (s.document d)
  | .template t => s.listedByTemplate (s.template t)

/-- The block of a scope. -/
def scopeBlock (s : Store) : Scope → BlockId
  | .document d => (s.document d).globals
  | .template t => (s.template t).block

/-- The symbols that a scope lists in a role, those of its block first. -/
def listed (s : Store) (σ : Scope) (ρ : Role) : List SymbolId :=
  (s.block (s.scopeBlock σ)).listed ρ ++ s.listedByOwner σ ρ

/-- The symbols in the frame of a block. -/
def frameSymbols (s : Store) (b : BlockId) : List SymbolId := (s.frame (s.block b).frame).symbols

/-- The role of a symbol. -/
def role? (s : Store) (r : SymbolId) : Option Role := (s.symbol r).subject.role?

/-- The symbols in the frame of a block that have a role. -/
def members (s : Store) (b : BlockId) (ρ : Role) : List SymbolId :=
  (s.frameSymbols b).filter fun r => s.role? r == some ρ

/-- The parameters of a template have no entities behind them. -/
def BareParameters (s : Store) (t : TemplateId) : Prop :=
  ∀ r ∈ (s.inst (s.template t).inst).binding.parameters, (s.symbol r).subject.isBare = true

instance (s : Store) (t : TemplateId) : Decidable (s.BareParameters t) :=
  inferInstanceAs (Decidable (∀ r ∈ _, _))

/-- The same of a scope, where a document has no parameters. -/
def BareScope (s : Store) : Scope → Prop
  | .document _ => True
  | .template t => s.BareParameters t

/-- The parameters of a template have different names and no entities behind them. -/
def ProperParameters (s : Store) (t : TemplateId) : Prop :=
  ((s.inst (s.template t).inst).binding.parameters.map s.name).Nodup
    ∧ ∀ r ∈ (s.inst (s.template t).inst).binding.parameters, (s.symbol r).subject.isBare = true

instance (s : Store) (t : TemplateId) : Decidable (s.ProperParameters t) :=
  inferInstanceAs (Decidable (_ ∧ _))

/-- The same of a scope, where a document has no parameters. -/
def ProperScope (s : Store) : Scope → Prop
  | .document _ => True
  | .template t => s.ProperParameters t

theorem ProperScope.bare {s : Store} {σ : Scope} (hproper : s.ProperScope σ) : s.BareScope σ := by
  cases σ with
  | document d => trivial
  | template t => exact hproper.2

end Store

/-! ## Symbols that are not listed yet -/

/-- A symbol that the frame of a block has and that is to be listed in a role. -/
structure Pending where
  block : BlockId
  role : Role
  symbol : SymbolId

namespace Pending

/-- What is still to be listed in a role for the scope of a block. -/
def awaited : Option Pending → BlockId → Role → List SymbolId
  | none, _, _ => []
  | some p, b, ρ => if p.block = b ∧ p.role = ρ then [p.symbol] else []

@[simp] theorem awaited_none (b : BlockId) (ρ : Role) : awaited none b ρ = [] := rfl

theorem awaited_of_block_ne {b c : BlockId} {ρ π : Role} {x : SymbolId} (h : b ≠ c) :
    awaited (some ⟨b, ρ, x⟩) c π = [] := by simp [awaited, h]

theorem awaited_self (b : BlockId) (ρ π : Role) (x : SymbolId) :
    awaited (some ⟨b, ρ, x⟩) b π = if ρ = π then [x] else [] := by simp [awaited]

end Pending

/-! ## Enrolls -/

namespace Store

variable {s s' : Store} {p q : Option Pending} {σ : Scope}

/-- The frame of the scope has the symbols of what is listed, and what is still to be listed. If the
    parameters are proper, it has no name twice. -/
structure Enrolls (s : Store) (p : Option Pending) (σ : Scope) : Prop where
  names : s.ProperScope σ → ((s.frameSymbols (s.scopeBlock σ)).map s.name).Nodup
  members : ∀ ρ : Role, ρ.Agree (s.members (s.scopeBlock σ) ρ)
    (s.listed σ ρ ++ Pending.awaited p (s.scopeBlock σ) ρ)

/-- Every scope enrolls its entities if its parameters are bare. -/
def Enrolled (s : Store) (p : Option Pending) : Prop :=
  ∀ σ, s.Has σ.entity → s.BareScope σ → s.Enrolls p σ

/-- No name is twice in the frame of the scope, and the frame has the symbols of what is listed, and
    what is still to be listed. -/
structure Registers (s : Store) (p : Option Pending) (σ : Scope) : Prop where
  names : ((s.frameSymbols (s.scopeBlock σ)).map s.name).Nodup
  members : ∀ ρ : Role, ρ.Agree (s.members (s.scopeBlock σ) ρ)
    (s.listed σ ρ ++ Pending.awaited p (s.scopeBlock σ) ρ)

/-- Every scope registers its entities if its parameters are proper. -/
def Registered (s : Store) (p : Option Pending) : Prop :=
  ∀ σ, s.Has σ.entity → s.ProperScope σ → s.Registers p σ

/-- What is enrolled is registered where the parameters are proper. -/
theorem Enrolled.registered (hreg : s.Enrolled p) : s.Registered p := by
  intro σ hσ hproper
  have henrolls := hreg σ hσ hproper.bare
  exact ⟨henrolls.names hproper, henrolls.members⟩

/-- When nothing is awaited, the frame has the symbols of what is listed. -/
theorem Enrolls.agree (hreg : s.Enrolls none σ) (ρ : Role) :
    ρ.Agree (s.members (s.scopeBlock σ) ρ) (s.listed σ ρ) := by
  have hagree := hreg.members ρ
  rwa [Pending.awaited_none, List.append_nil] at hagree

theorem Registers.agree (hreg : s.Registers none σ) (ρ : Role) :
    ρ.Agree (s.members (s.scopeBlock σ) ρ) (s.listed σ ρ) :=
  Enrolls.agree ⟨fun _ => hreg.names, hreg.members⟩ ρ

/-- More symbols in a frame, which are to be listed. -/
theorem Enrolls.append {f : Role → List SymbolId} (hreg : s.Enrolls none σ)
    (hnames : s'.ProperScope σ → ((s'.frameSymbols (s'.scopeBlock σ)).map s'.name).Nodup)
    (hmembers : ∀ ρ, s'.members (s'.scopeBlock σ) ρ = s.members (s.scopeBlock σ) ρ ++ f ρ)
    (hlisted : ∀ ρ, s'.listed σ ρ = s.listed σ ρ)
    (hawaited : ∀ ρ, Pending.awaited q (s'.scopeBlock σ) ρ = f ρ) : s'.Enrolls q σ where
  names := hnames
  members ρ := by
    rw [hmembers, hlisted, hawaited]
    exact (hreg.agree ρ).append_right (f ρ)

/-! ## Changes that leave the frame of a scope alone -/

/-- The frame of a scope has the same symbols, and they have the same names and roles. -/
structure SameNames (s s' : Store) (σ : Scope) : Prop where
  block : s'.scopeBlock σ = s.scopeBlock σ
  symbols : s'.frameSymbols (s.scopeBlock σ) = s.frameSymbols (s.scopeBlock σ)
  named : ∀ r ∈ s.frameSymbols (s.scopeBlock σ), s'.name r = s.name r ∧ s'.role? r = s.role? r
  bare : s'.BareScope σ → s.BareScope σ
  proper : s'.ProperScope σ → s.ProperScope σ

theorem SameNames.names (h : s.SameNames s' σ) :
    (s'.frameSymbols (s'.scopeBlock σ)).map s'.name
      = (s.frameSymbols (s.scopeBlock σ)).map s.name := by
  rw [h.block, h.symbols]
  exact List.map_congr_left fun r hr => (h.named r hr).1

theorem SameNames.members (h : s.SameNames s' σ) (ρ : Role) :
    s'.members (s'.scopeBlock σ) ρ = s.members (s.scopeBlock σ) ρ := by
  rw [Store.members, h.block, h.symbols]
  exact List.filter_congr fun r hr => by rw [(h.named r hr).2]

/-- What is listed afterwards, or still to be listed, is what was before. -/
def Relists (s : Store) (p : Option Pending) (s' : Store) (q : Option Pending) (σ : Scope) : Prop :=
  ∀ ρ : Role, ρ.Agree (s.listed σ ρ ++ Pending.awaited p (s.scopeBlock σ) ρ)
    (s'.listed σ ρ ++ Pending.awaited q (s.scopeBlock σ) ρ)

theorem Enrolls.relist (hreg : s.Enrolls p σ) (hsame : s.SameNames s' σ)
    (hlisted : s.Relists p s' q σ) : s'.Enrolls q σ where
  names hproper := by
    rw [hsame.names]
    exact hreg.names (hsame.proper hproper)
  members ρ := by
    rw [hsame.members, hsame.block]
    exact (hreg.members ρ).trans (hlisted ρ)

/-- **What has to be shown of a change** that adds no symbol to the frame of a scope. -/
theorem Enrolled.keep (hreg : s.Enrolled p)
    (hold : ∀ σ, s.Has σ.entity → s.SameNames s' σ ∧ s.Relists p s' q σ)
    (hnew : ∀ σ, s'.Has σ.entity → s.Has σ.entity ∨ (s'.BareScope σ → s'.Enrolls q σ)) :
    s'.Enrolled q := by
  intro σ hσ hbare
  rcases hnew σ hσ with hthere | henrolls
  · obtain ⟨hsame, hlisted⟩ := hold σ hthere
    exact (hreg σ hthere (hsame.bare hbare)).relist hsame hlisted
  · exact henrolls hbare

end Store

end TimedNet
