import TimedNet.Proofs.Scope.Steps

/-!
# `TimedNet.Proofs.Scope.Edits` — what a change of a list does to the scopes

A block, a template or a document that is changed takes up the symbol that is still to be listed, or it
lists what it listed before.

* `Enrolled.keepAt`: what has to be shown of a change of one scope.
* `Enrolled.modifyBlock`, `Enrolled.modifyTemplate`, `Enrolled.modifyDocument`: of its lists.
* `Enrolled.editBlock`, `Enrolled.editTemplate`, `Enrolled.editDocument`: with the same lists.
* `Enrolled.listInBlock`, `Enrolled.listInTemplate`, `Enrolled.listInDocument`: with one more
  symbol, which was awaited.
-/

namespace TimedNet

theorem Role.Agree.append_left {ρ : Role} {rs qs : List SymbolId} (h : ρ.Agree rs qs)
    (ps : List SymbolId) : ρ.Agree (ps ++ rs) (ps ++ qs) := by
  cases ρ <;> first | exact List.Perm.append_left ps h | exact congrArg (ps ++ ·) h

/-- A member changed at one place shows what it showed. -/
theorem map_modify_eq {α β : Type} {g : α → β} {f : α → α} {l : List α} {i : Nat}
    (hf : ∀ a, l[i]? = some a → g (f a) = g a) : (l.modify i f).map g = l.map g := by
  refine List.ext_getElem? fun j => ?_
  rw [List.getElem?_map, List.getElem?_map, List.getElem?_modify]
  cases ha : l[j]? with
  | none => rfl
  | some a =>
    by_cases hij : i = j
    · subst hij
      simp [hf a ha]
    · simp [hij]

/-- A template lists the same symbols. -/
structure Template.SameLists (t u : Template) : Prop where
  inst : u.inst = t.inst
  block : u.block = t.block
  locations : u.locations.items.map (fun l => l.symbol) = t.locations.items.map fun l => l.symbol
  branchpoints : u.branchpoints.items = t.branchpoints.items
  lines : u.lines.items = t.lines.items

/-- A document lists the same templates and instances. -/
structure Document.SameLists (d e : Document) : Prop where
  globals : e.globals = d.globals
  templates : e.allTemplates = d.allTemplates
  instances : e.instances ++ e.lscInstances = d.instances ++ d.lscInstances

/-- A symbol that is awaited in one scope is taken up there, and nothing is awaited in the others. -/
theorem Pending.awaited_none_of_ne {b : BlockId} {ρ : Role} {x : SymbolId} :
    ∀ c, c ≠ b → ∀ π, awaited none c π = awaited (some ⟨b, ρ, x⟩) c π :=
  fun _ hc _ => (awaited_of_block_ne (Ne.symm hc)).symm

namespace Store

variable {s s' : Store} {p q : Option Pending} {σ τ : Scope} {ρ : Role} {x : SymbolId}

/-- What a block lists has other roles than what its document or template lists. -/
theorem listed_append_owner (s : Store) (b : Block) (σ : Scope) (ρ : Role) :
    b.listed ρ ++ s.listedByOwner σ ρ = s.listedByOwner σ ρ ++ b.listed ρ := by
  cases σ <;> cases ρ <;> simp [Block.listed, listedByOwner, listedByDocument, listedByTemplate]

/-- What has to be shown of a change in the lists of one scope. -/
theorem Enrolled.keepAt (hreg : s.Enrolled p) (hapart : s.ScopesApart) (hτ : s.Has τ.entity)
    (hsame : ∀ σ, s.Has σ.entity → s.SameNames s' σ)
    (hothers : ∀ σ, s.Has σ.entity → σ ≠ τ → ∀ ρ, s'.listed σ ρ = s.listed σ ρ)
    (hlisted : s.Relists p s' q τ)
    (hawaited : ∀ b, b ≠ s.scopeBlock τ → ∀ ρ, Pending.awaited q b ρ = Pending.awaited p b ρ)
    (hnew : ∀ σ : Scope, s'.Has σ.entity → s.Has σ.entity) : s'.Enrolled q := by
  refine hreg.keep (fun σ hσ => ⟨hsame σ hσ, ?_⟩) fun σ hσ => Or.inl (hnew σ hσ)
  by_cases heq : σ = τ
  · exact heq ▸ hlisted
  · intro ρ
    rw [hothers σ hσ heq, hawaited _ fun hblock => heq (hapart.unique σ τ hσ hτ hblock)]
    exact .of_eq rfl

/-! ## Blocks -/

section Blocks

variable (hapart : s.ScopesApart) {b : BlockId} {f : Block → Block}
  (hframe : ∀ c, (f c).frame = c.frame)
include hapart hframe

theorem Enrolled.modifyBlock (hreg : s.Enrolled p)
    (hlisted : ∀ ρ, (s.block b).listed ρ ++ Pending.awaited p b ρ
      = (f (s.block b)).listed ρ ++ Pending.awaited q b ρ)
    (hawaited : ∀ c, c ≠ b → ∀ ρ, Pending.awaited q c ρ = Pending.awaited p c ρ) :
    (s.modifyBlock b f).Enrolled q := by
  refine hreg.keep (fun σ hσ => ?_) fun σ hσ => Or.inl (by cases σ <;> exact hσ)
  have howner : ∀ ρ, (s.modifyBlock b f).listedByOwner σ ρ = s.listedByOwner σ ρ := by
    cases σ <;> exact fun _ => rfl
  have hbare : (s.modifyBlock b f).BareScope σ → s.BareScope σ := by cases σ <;> exact id
  have hproper : (s.modifyBlock b f).ProperScope σ → s.ProperScope σ := by cases σ <;> exact id
  by_cases hb : b = s.scopeBlock σ
  · subst hb
    have hchanged : (s.modifyBlock (s.scopeBlock σ) f).block (s.scopeBlock σ)
        = f (s.block (s.scopeBlock σ)) := Table.get_modify_self f (hapart.mem σ hσ)
    refine ⟨⟨by cases σ <;> rfl, ?_, fun r _ => ⟨rfl, rfl⟩, hbare, hproper⟩, fun ρ => .of_eq ?_⟩
    · rw [frameSymbols, hchanged, hframe]
      rfl
    · rw [listed, show (s.modifyBlock (s.scopeBlock σ) f).listed σ ρ
        = (f (s.block (s.scopeBlock σ))).listed ρ ++ s.listedByOwner σ ρ by
          rw [← howner, ← hchanged]; cases σ <;> rfl]
      rw [listed_append_owner, listed_append_owner, List.append_assoc, List.append_assoc, hlisted]
  · have hkept : (s.modifyBlock b f).block (s.scopeBlock σ) = s.block (s.scopeBlock σ) :=
      Table.get_modify_of_ne f hb
    refine ⟨⟨by cases σ <;> rfl, ?_, fun r _ => ⟨rfl, rfl⟩, hbare, hproper⟩, fun ρ => .of_eq ?_⟩
    · rw [frameSymbols, hkept]
      rfl
    · rw [listed, show (s.modifyBlock b f).listed σ ρ
        = (s.block (s.scopeBlock σ)).listed ρ ++ s.listedByOwner σ ρ by
          rw [← howner, ← hkept]; cases σ <;> rfl, hawaited _ (Ne.symm hb)]

/-- A change of a block that lists the same. -/
theorem Enrolled.editBlock (hreg : s.Enrolled p)
    (hlisted : ∀ ρ, (f (s.block b)).listed ρ = (s.block b).listed ρ) :
    (s.modifyBlock b f).Enrolled p :=
  hreg.modifyBlock hapart hframe (fun ρ => by rw [hlisted]) fun _ _ _ => rfl

/-- The awaited symbol comes to the end of a list of the block. -/
theorem Enrolled.listInBlock (hreg : s.Enrolled (some ⟨b, ρ, x⟩))
    (hlisted : ∀ π, (f (s.block b)).listed π
      = (s.block b).listed π ++ if ρ = π then [x] else []) :
    (s.modifyBlock b f).Enrolled none := by
  refine hreg.modifyBlock hapart hframe (fun π => ?_) Pending.awaited_none_of_ne
  rw [Pending.awaited_self, Pending.awaited_none, List.append_nil, hlisted]

end Blocks

/-- A function that is changed keeps its symbol. -/
theorem Enrolled.modifyFunction (hreg : s.Enrolled p) (hapart : s.ScopesApart) {r : FunctionRef}
    {g : Function → Function} (hg : ∀ f, (g f).symbol = f.symbol) :
    (s.modifyFunction r g).Enrolled p := by
  refine hreg.editBlock hapart (fun _ => rfl) fun ρ => ?_
  cases ρ with
  | fn => exact map_modify_eq fun f _ => hg f
  | _ => rfl

/-! ## Templates -/

section Templates

variable (hapart : s.ScopesApart) {t : TemplateId} (ht : t ∈ s.templates) {f : Template → Template}
include hapart ht

theorem Enrolled.modifyTemplate (hreg : s.Enrolled p)
    (hkeeps : ∀ u, (f u).inst = u.inst ∧ (f u).block = u.block)
    (hlisted : ∀ ρ, s.listedByTemplate (s.template t) ρ ++ Pending.awaited p (s.template t).block ρ
      = s.listedByTemplate (f (s.template t)) ρ ++ Pending.awaited q (s.template t).block ρ)
    (hawaited : ∀ b, b ≠ (s.template t).block →
      ∀ ρ, Pending.awaited q b ρ = Pending.awaited p b ρ) :
    (s.modifyTemplate t f).Enrolled q := by
  have hchanged : (s.modifyTemplate t f).template t = f (s.template t) :=
    Table.get_modify_self f ht
  have hkept : ∀ u, t ≠ u → (s.modifyTemplate t f).template u = s.template u :=
    fun u hne => Table.get_modify_of_ne f hne
  have hparts : ∀ u, ((s.modifyTemplate t f).template u).inst = (s.template u).inst
      ∧ ((s.modifyTemplate t f).template u).block = (s.template u).block := by
    intro u
    by_cases hu : t = u
    · subst hu
      rw [hchanged]
      exact hkeeps _
    · rw [hkept u hu]
      exact ⟨rfl, rfl⟩
  have hsymbol : (s.modifyTemplate t f).templateSymbol = s.templateSymbol := by
    funext u
    rw [templateSymbol, (hparts u).1]
    rfl
  have hblock : ∀ σ, (s.modifyTemplate t f).scopeBlock σ = s.scopeBlock σ := by
    intro σ
    cases σ with
    | document d => rfl
    | template u => exact (hparts u).2
  refine hreg.keepAt hapart (τ := .template t) ht
    (fun σ hσ => ⟨hblock σ, rfl, fun r _ => ⟨rfl, rfl⟩, ?_, ?_⟩) (fun σ hσ hne ρ => ?_)
    (fun ρ => .of_eq ?_) hawaited fun σ hσ => ?_
  · cases σ with
    | document d => exact id
    | template u =>
      intro hbare
      rw [BareScope, BareParameters, (hparts u).1] at hbare
      exact hbare
  · cases σ with
    | document d => exact id
    | template u =>
      intro hproper
      rw [ProperScope, ProperParameters, (hparts u).1] at hproper
      exact hproper
  · rw [listed, hblock, listed]
    refine congrArg _ ?_
    cases σ with
    | document d =>
      cases ρ with
      | template => exact congrArg (fun g => List.map g (s.document d).allTemplates) hsymbol
      | _ => rfl
    | template u =>
      rw [listedByOwner, hkept u fun heq => hne (heq ▸ rfl)]
      rfl
  · have howner : (s.modifyTemplate t f).listedByOwner (.template t) ρ
        = s.listedByTemplate (f (s.template t)) ρ := by
      rw [listedByOwner, hchanged]
      rfl
    rw [listed, List.append_assoc, listed, hblock, List.append_assoc, howner]
    exact congrArg _ (hlisted ρ)
  · cases σ with
    | document d => exact hσ
    | template u => exact Table.mem_modify.mp hσ

/-- A change of a template that lists the same. -/
theorem Enrolled.editTemplate (hreg : s.Enrolled p) (hf : ∀ u, Template.SameLists u (f u)) :
    (s.modifyTemplate t f).Enrolled p := by
  refine hreg.modifyTemplate hapart ht (fun u => ⟨(hf u).inst, (hf u).block⟩) (fun ρ => ?_)
    fun _ _ _ => rfl
  refine congrArg (· ++ _) ?_
  have hsame := hf (s.template t)
  cases ρ with
  | location => exact hsame.locations.symm
  | branchpoint => exact congrArg (List.map _) hsame.branchpoints.symm
  | line => exact congrArg (List.map _) hsame.lines.symm
  | _ => rfl

/-- The awaited symbol comes to the end of a list of the template. -/
theorem Enrolled.listInTemplate (hreg : s.Enrolled (some ⟨(s.template t).block, ρ, x⟩))
    (hkeeps : ∀ u, (f u).inst = u.inst ∧ (f u).block = u.block)
    (hlisted : ∀ π, s.listedByTemplate (f (s.template t)) π
      = s.listedByTemplate (s.template t) π ++ if ρ = π then [x] else []) :
    (s.modifyTemplate t f).Enrolled none := by
  refine hreg.modifyTemplate hapart ht hkeeps (fun π => ?_) Pending.awaited_none_of_ne
  rw [Pending.awaited_self, Pending.awaited_none, List.append_nil, hlisted]

end Templates

/-! ## Documents -/

section Documents

variable (hapart : s.ScopesApart) {d : DocumentId} (hd : d ∈ s.documents) {f : Document → Document}
include hapart hd

theorem Enrolled.modifyDocument (hreg : s.Enrolled p)
    (hkeeps : ∀ x, (f x).globals = x.globals)
    (hlisted : ∀ ρ : Role, ρ.Agree
      (s.listedByDocument (s.document d) ρ ++ Pending.awaited p (s.document d).globals ρ)
      (s.listedByDocument (f (s.document d)) ρ ++ Pending.awaited q (s.document d).globals ρ))
    (hawaited : ∀ b, b ≠ (s.document d).globals →
      ∀ ρ, Pending.awaited q b ρ = Pending.awaited p b ρ) :
    (s.modifyDocument d f).Enrolled q := by
  have hchanged : (s.modifyDocument d f).document d = f (s.document d) :=
    Table.get_modify_self f hd
  have hkept : ∀ e, d ≠ e → (s.modifyDocument d f).document e = s.document e :=
    fun e hne => Table.get_modify_of_ne f hne
  have hblock : ∀ σ, (s.modifyDocument d f).scopeBlock σ = s.scopeBlock σ := by
    intro σ
    cases σ with
    | document e =>
      by_cases he : d = e
      · subst he
        rw [scopeBlock, hchanged]
        exact hkeeps _
      · rw [scopeBlock, hkept e he]
        rfl
    | template t => rfl
  refine hreg.keepAt hapart (τ := .document d) hd
    (fun σ hσ => ⟨hblock σ, rfl, fun r _ => ⟨rfl, rfl⟩, by cases σ <;> exact id,
      by cases σ <;> exact id⟩) (fun σ hσ hne ρ => ?_) (fun ρ => ?_) hawaited fun σ hσ => ?_
  · rw [listed, hblock, listed]
    refine congrArg _ ?_
    cases σ with
    | document e =>
      rw [listedByOwner, hkept e fun heq => hne (heq ▸ rfl)]
      rfl
    | template t => rfl
  · have howner : (s.modifyDocument d f).listedByOwner (.document d) ρ
        = s.listedByDocument (f (s.document d)) ρ := by
      rw [listedByOwner, hchanged]
      rfl
    rw [listed, List.append_assoc, listed, hblock, List.append_assoc, howner]
    exact (hlisted ρ).append_left _
  · cases σ with
    | document e => exact Table.mem_modify.mp hσ
    | template t => exact hσ

/-- A change of a document that lists the same. -/
theorem Enrolled.editDocument (hreg : s.Enrolled p) (hf : ∀ x, Document.SameLists x (f x)) :
    (s.modifyDocument d f).Enrolled p := by
  refine hreg.modifyDocument hapart hd (fun x => (hf x).globals) (fun ρ => .of_eq ?_)
    fun _ _ _ => rfl
  refine congrArg (· ++ _) ?_
  have hsame := hf (s.document d)
  cases ρ with
  | template => exact congrArg (List.map _) hsame.templates.symm
  | inst => exact congrArg (List.map _) hsame.instances.symm
  | _ => rfl

/-- The awaited symbol comes into a list of the document. -/
theorem Enrolled.listInDocument (hreg : s.Enrolled (some ⟨(s.document d).globals, ρ, x⟩))
    (hkeeps : ∀ x, (f x).globals = x.globals)
    (hlisted : ∀ π : Role, π.Agree
      (s.listedByDocument (s.document d) π ++ if ρ = π then [x] else [])
      (s.listedByDocument (f (s.document d)) π)) :
    (s.modifyDocument d f).Enrolled none := by
  refine hreg.modifyDocument hapart hd hkeeps (fun π => ?_) Pending.awaited_none_of_ne
  rw [Pending.awaited_self, Pending.awaited_none, List.append_nil]
  exact hlisted π

end Documents

end Store

end TimedNet
