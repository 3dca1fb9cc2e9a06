import TimedNet.Proofs.Run.Sound

/-!
# `TimedNet.Proofs.Separation.Foreign` — handles and nodes of another template

No two templates of a sound store have an arena number in common, so the arenas of a template refuse
every handle that is stored in another one. A symbol that stands for a node of another template is
rejected by whatever looks for a node of this one.

* `Template.handles`, `Template.Refuses`; `Sound.refuses`.
* `Store.nodes`, `Store.Rejects`; `Sound.alien_of_mem_nodes`.
* `Sound.shuns`: both at once.
-/

namespace TimedNet

/-! ## Handles -/

/-- The handle behind an endpoint, whichever arena it leads to. -/
def Endpoint.handle : Endpoint → Handle
  | .location h | .branchpoint h => h

/-- The handles stored in a template: those of its edges, messages, conditions and updates. -/
def Template.handles (t : Template) : List Handle :=
  t.edges.flatMap (fun e => [e.source.handle, e.target.handle])
    ++ t.messages.flatMap (fun m => [m.source, m.target])
    ++ t.conditions.flatMap (fun c => c.anchors) ++ t.updates.map fun u => u.anchor

/-- All arenas of the template refuse the handle as one of another arena. -/
structure Template.Refuses (t : Template) (h : Handle) : Prop where
  locations : t.locations.get h = .error (.foreign h.arena t.locations.label t.locations.id)
  branchpoints :
    t.branchpoints.get h = .error (.foreign h.arena t.branchpoints.label t.branchpoints.id)
  lines : t.lines.get h = .error (.foreign h.arena t.lines.label t.lines.id)

/-- An arena refuses the handles of arenas that have other numbers. -/
theorem Arena.get_of_arena_ne {α : Type} {a : Arena α} {h : Handle} (hne : h.arena ≠ a.id) :
    a.get h = .error (.foreign h.arena a.label a.id) := if_neg hne

theorem Arena.arena_of_owns {α : Type} {a : Arena α} {h : Handle} (howns : a.owns h = true) :
    h.arena = a.id := by
  simp only [Arena.owns, Bool.and_eq_true, decide_eq_true_eq] at howns
  exact howns.1.1

/-- The handle behind an endpoint of a template leads to its locations or to its branchpoints. -/
theorem Template.arena_of_hasEndpoint {t : Template} {p : Endpoint} (hp : t.hasEndpoint p = true) :
    p.handle.arena = t.locations.id ∨ p.handle.arena = t.branchpoints.id := by
  cases p with
  | location h => exact Or.inl (Arena.arena_of_owns hp)
  | branchpoint h => exact Or.inr (Arena.arena_of_owns hp)

namespace Store

variable {s : Store} {x y : TemplateId}

/-- Every handle stored in a template leads into one of its three arenas. -/
theorem Sound.arena_of_mem_handles (h : s.Sound) (hx : x ∈ s.templates) {a : Handle}
    (ha : a ∈ (s.template x).handles) :
    a.arena = (s.template x).locations.id ∨ a.arena = (s.template x).branchpoints.id
      ∨ a.arena = (s.template x).lines.id := by
  have hsound := h.templates x hx
  have hnode : ∀ {p : Endpoint}, (s.template x).hasEndpoint p = true →
      p.handle.arena = (s.template x).locations.id
        ∨ p.handle.arena = (s.template x).branchpoints.id
        ∨ p.handle.arena = (s.template x).lines.id := fun hp =>
    (Template.arena_of_hasEndpoint hp).imp_right Or.inl
  have hline : ∀ {a : Handle}, (s.template x).lines.owns a = true →
      a.arena = (s.template x).locations.id ∨ a.arena = (s.template x).branchpoints.id
        ∨ a.arena = (s.template x).lines.id := fun ha => Or.inr (Or.inr (Arena.arena_of_owns ha))
  unfold Template.handles at ha
  simp only [List.mem_append, List.mem_flatMap, List.mem_map, List.mem_cons, List.not_mem_nil,
    or_false] at ha
  rcases ha with ((⟨e, he, rfl | rfl⟩ | ⟨m, hm, rfl | rfl⟩) | ⟨c, hc, ha⟩) | ⟨u, hu, rfl⟩
  · exact hnode (hsound.edges e he).1
  · exact hnode (hsound.edges e he).2
  · exact hline (hsound.messages m hm).1
  · exact hline (hsound.messages m hm).2
  · exact hline (hsound.conditions c hc a ha)
  · exact hline (hsound.updates u hu)

/-- The numbers of the arenas of two templates lie in two different ranges. -/
theorem Sound.arenas_apart (h : s.Sound) (hx : x ∈ s.templates) (hy : y ∈ s.templates)
    (hxy : x ≠ y) : (s.template x).lines.id < (s.template y).locations.id
      ∨ (s.template y).lines.id < (s.template x).locations.id := by
  rcases Nat.lt_trichotomy x.index y.index with hlt | heq | hlt
  · exact Or.inl (h.apart.arenas x hx y hy hlt)
  · exact absurd (congrArg Ref.mk heq) hxy
  · exact Or.inr (h.apart.arenas y hy x hx hlt)

/-- **A template refuses the handles that are stored in another one.** -/
theorem Sound.refuses (h : s.Sound) (hx : x ∈ s.templates) (hy : y ∈ s.templates) (hxy : x ≠ y)
    {a : Handle} (ha : a ∈ (s.template x).handles) : (s.template y).Refuses a := by
  -- The handle has a number of the one range, and the arenas have those of the other.
  have hrange := h.arenas_apart hx hy hxy
  obtain ⟨hbx, hlx, -⟩ := (h.templates x hx).arenas
  obtain ⟨hby, hly, -⟩ := (h.templates y hy).arenas
  have hmine := h.arena_of_mem_handles hx ha
  exact
    { locations := Arena.get_of_arena_ne (by omega)
      branchpoints := Arena.get_of_arena_ne (by omega)
      lines := Arena.get_of_arena_ne (by omega) }

/-! ## Nodes -/

/-- The symbols of the locations, the branchpoints and the lines of a template. -/
def nodes (s : Store) (t : TemplateId) : List SymbolId :=
  (s.template t).locations.items.map (fun l => l.symbol)
    ++ (s.template t).branchpoints.items.map (fun b => b.symbol)
    ++ (s.template t).lines.items.map fun l => (s.inst l.inst).symbol

/-- Wherever the template asks for a node, the symbol is rejected: nothing is added, and the failure is
    logged. Of two symbols the first that is no node is named. -/
structure Rejects (s : Store) (t : TemplateId) (r : SymbolId) : Prop where
  initial : s.setInitial t r = s.notALocation t r
  edges : ∀ source target control actname, r ∈ [source, target] →
    ∃ q ∈ [source, target], s.addEdge t source target control actname = s.notALocation t q
  messages : ∀ source target location prechart label, r ∈ [source, target] →
    ∃ q ∈ [source, target],
      s.addMessage t source target location prechart label = s.notALine t q
  conditions : ∀ anchors location prechart hot label, r ∈ anchors →
    ∃ q ∈ anchors, s.addCondition t anchors location prechart hot label = s.notALine t q
  updates : ∀ location prechart label, s.addUpdate t r location prechart label = s.notALine t r

/-- What is neither an endpoint nor a line of the template. -/
structure Alien (s : Store) (t : TemplateId) (r : SymbolId) : Prop where
  endpoint : s.endpoint? t r = none
  line : s.lineHandle? t r = none

/-- Looking for the lines of several symbols fails at one of them when it fails for one of them. -/
theorem Alien.lineHandles {r : SymbolId} (h : s.Alien x r) {anchors : List SymbolId}
    (hr : r ∈ anchors) : ∃ q ∈ anchors, s.lineHandles x anchors = .error q := by
  induction anchors with
  | nil => exact absurd hr List.not_mem_nil
  | cons anchor anchors ih =>
    cases hanchor : s.lineHandle? x anchor with
    | none => exact ⟨anchor, List.mem_cons_self, by rw [Store.lineHandles, hanchor]⟩
    | some handle =>
      have hne : r ≠ anchor := by
        rintro rfl
        exact absurd (hanchor.symm.trans h.line) (by simp)
      obtain ⟨q, hq, hfail⟩ := ih ((List.mem_cons.mp hr).resolve_left hne)
      refine ⟨q, List.mem_cons_of_mem _ hq, ?_⟩
      rw [Store.lineHandles, hanchor]
      show (s.lineHandles x anchors).map _ = _
      rw [hfail]
      rfl

theorem Alien.rejects {r : SymbolId} (h : s.Alien x r) : s.Rejects x r where
  initial := by rw [setInitial, h.endpoint]
  edges := by
    intro source target control actname hr
    cases hsource : s.endpoint? x source with
    | none => exact ⟨source, by simp, by rw [addEdge, hsource]⟩
    | some start =>
      -- The source is a node, so the symbol in question is the target.
      have hne : r ≠ source := by
        rintro rfl
        exact absurd (hsource.symm.trans h.endpoint) (by simp)
      obtain rfl : r = target := by simpa [hne] using hr
      exact ⟨r, by simp, by rw [addEdge, hsource, h.endpoint]⟩
  messages := by
    intro source target location prechart label hr
    cases hsource : s.lineHandle? x source with
    | none => exact ⟨source, by simp, by rw [addMessage, hsource]⟩
    | some start =>
      have hne : r ≠ source := by
        rintro rfl
        exact absurd (hsource.symm.trans h.line) (by simp)
      obtain rfl : r = target := by simpa [hne] using hr
      exact ⟨r, by simp, by rw [addMessage, hsource, h.line]⟩
  conditions := by
    intro anchors location prechart hot label hr
    obtain ⟨q, hq, hfail⟩ := h.lineHandles hr
    exact ⟨q, hq, by rw [addCondition, hfail]⟩
  updates := fun location prechart label => by rw [addUpdate, h.line]

/-- **A node of another template is no node of this one.** -/
theorem Sound.alien_of_mem_nodes (h : s.Sound) (hx : x ∈ s.templates) (hxy : x ≠ y) {r : SymbolId}
    (hr : r ∈ s.nodes x) : s.Alien y r := by
  have hsound := h.templates x hx
  unfold nodes at hr
  simp only [List.mem_append, List.mem_map] at hr
  rcases hr with (⟨l, hl, rfl⟩ | ⟨b, hb, rfl⟩) | ⟨l, hl, rfl⟩
  · obtain ⟨i, hi⟩ := List.mem_iff_getElem?.mp hl
    have hsubject := (hsound.locations i l hi).subject
    exact ⟨by rw [endpoint?, hsubject]; exact if_neg fun hboth => hxy hboth.1,
      by rw [lineHandle?, hsubject]⟩
  · obtain ⟨i, hi⟩ := List.mem_iff_getElem?.mp hb
    have hsubject := (hsound.branchpoints i b hi).subject
    exact ⟨by rw [endpoint?, hsubject]; exact if_neg fun hboth => hxy hboth.1,
      by rw [lineHandle?, hsubject]⟩
  · obtain ⟨i, hi⟩ := List.mem_iff_getElem?.mp hl
    have hsubject := (hsound.lines i l hi).2.subject
    exact ⟨by rw [endpoint?, hsubject],
      by rw [lineHandle?, hsubject]; exact if_neg fun hboth => hxy hboth.1⟩

/-- A template refuses the handles that are stored in another one and rejects its nodes. -/
structure Shuns (s : Store) (y x : TemplateId) : Prop where
  handles : ∀ a ∈ (s.template x).handles, (s.template y).Refuses a
  nodes : ∀ r ∈ s.nodes x, s.Rejects y r

/-- **A template has nothing to do with any other.** -/
theorem Sound.shuns (h : s.Sound) (hx : x ∈ s.templates) (hy : y ∈ s.templates) (hxy : x ≠ y) :
    s.Shuns y x :=
  ⟨fun _ ha => h.refuses hx hy hxy ha, fun _ hr => (h.alien_of_mem_nodes hx hxy hr).rejects⟩

end Store

end TimedNet
