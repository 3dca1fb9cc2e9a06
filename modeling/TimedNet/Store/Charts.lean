import TimedNet.Store.Templates

/-!
# `TimedNet.Store.Charts` — building and reading scenario charts

## Contents
- `addInstanceLine`: a line of a chart, at first an instance of the chart itself.
- `lineHandle?`: the line of a template that a symbol stands for.
- `addMessage`, `addCondition`, `addUpdate`: events, refused for a symbol that stands for no line of
  this template; an event of the prechart makes the chart one with a prechart.
- `deriveRegions`, `modifyRegion`: simregions as entities.
- `newCut`, `addToCut`, `eraseFromCut`: cuts as entities.
-/

namespace TimedNet.Store

/-- The name of a line. -/
def lineName (s : Store) (line : InstanceLine) : String := s.name (s.inst line.inst).symbol

/-- A line of a chart. -/
def addInstanceLine (s : Store) (t : TemplateId) (name : String) (span : Span) : Attempt Nat :=
  let index := (s.template t).lines.size
  match s.declare (s.localFrame t)
      { name, type := "instance-line", span, subject := .line t index } with
  | (s, .error p) => s.reject (s.template t).log span p
  | (s, .ok symbol) =>
    let inst := s.insts.next
    let s := { s with insts := s.insts.push { symbol, template := t } }
    (s.modifyTemplate t fun template =>
      { template with lines := template.lines.push { nr := index, inst, owner := t } }, .ok index)

/-- The handle of the line of the template that a symbol stands for. -/
def lineHandle? (s : Store) (t : TemplateId) (symbol : SymbolId) : Option Handle :=
  match (s.symbol symbol).subject with
  | .line owner index =>
    let arena := (s.template t).lines
    if owner = t ∧ index < arena.size then some (arena.handleAt index) else none
  | _ => none

/-- The failure for a symbol that is no line of the template, logged at the place of the symbol. -/
def notALine {α : Type} (s : Store) (t : TemplateId) (symbol : SymbolId) : Attempt α :=
  s.reject (s.template t).log (s.symbol symbol).span
    (ProblemKind.notAnInstanceLine.on (s.name symbol))

/-- The handles of the lines that symbols stand for, or the first symbol that stands for none. -/
def lineHandles (s : Store) (t : TemplateId) : List SymbolId → Except SymbolId (List Handle)
  | [] => .ok []
  | symbol :: symbols =>
    match s.lineHandle? t symbol with
    | none => .error symbol
    | some handle => (s.lineHandles t symbols).map fun handles => handle :: handles

/-- A message between two lines of the chart. -/
def addMessage (s : Store) (t : TemplateId) (source target : SymbolId) (location : Int)
    (prechart : Bool) (label : Expression) : Attempt Nat :=
  match s.lineHandle? t source with
  | none => s.notALine t source
  | some start =>
    match s.lineHandle? t target with
    | none => s.notALine t target
    | some stop =>
      let nr := (s.template t).messages.length
      let message : Message := { nr, location, source := start, target := stop, label, prechart }
      (s.modifyTemplate t fun t =>
        { t with
          messages := t.messages ++ [message]
          hasPrechart := t.hasPrechart || prechart }, .ok nr)

/-- A condition over lines of the chart. -/
def addCondition (s : Store) (t : TemplateId) (anchors : List SymbolId) (location : Int)
    (prechart : Bool) (hot : Bool) (label : Expression) : Attempt Nat :=
  match s.lineHandles t anchors with
  | .ok anchors =>
    let nr := (s.template t).conditions.length
    let condition : Condition := { nr, location, anchors, label, prechart, hot }
    (s.modifyTemplate t fun t =>
      { t with
        conditions := t.conditions ++ [condition]
        hasPrechart := t.hasPrechart || prechart }, .ok nr)
  | .error symbol => s.notALine t symbol

/-- An update on a line of the chart. -/
def addUpdate (s : Store) (t : TemplateId) (anchor : SymbolId) (location : Int)
    (prechart : Bool) (label : Expression) : Attempt Nat :=
  match s.lineHandle? t anchor with
  | some anchor =>
    let nr := (s.template t).updates.length
    let update : Update := { nr, location, anchor, label, prechart }
    (s.modifyTemplate t fun t =>
      { t with
        updates := t.updates ++ [update]
        hasPrechart := t.hasPrechart || prechart }, .ok nr)
  | none => s.notALine t anchor

/-! ## Simregions and cuts -/

/-- New simregions, in the order given. -/
def newRegions (s : Store) (regions : List Simregion) : Store × List RegionId :=
  ({ s with regions := s.regions.pushAll regions },
    (List.range regions.length).map fun i => ⟨s.regions.size + i⟩)

/-- The simregions of a chart, as new entities. -/
def deriveRegions (s : Store) (events : Events) (precedence : Precedence) :
    Store × List RegionId :=
  s.newRegions (events.simregions precedence)

/-- The store with a simregion changed. -/
def modifyRegion (s : Store) (r : RegionId) (f : Simregion → Simregion) : Store :=
  { s with regions := s.regions.modify r f }

/-- A new cut. -/
def newCut (s : Store) (cut : Cut RegionId) : Store × CutId :=
  ({ s with cuts := s.cuts.push cut }, s.cuts.next)

/-- The store with a simregion added to a cut. -/
def addToCut (s : Store) (c : CutId) (r : RegionId) : Store :=
  { s with cuts := s.cuts.modify c fun cut => cut.add s.region r }

/-- The store with a simregion removed from a cut, and whether an equal one was there. -/
def eraseFromCut (s : Store) (c : CutId) (r : RegionId) : Store × Bool :=
  ({ s with cuts := s.cuts.modify c fun cut => cut.erase s.region r },
    (s.cut c).contains s.region r)

end TimedNet.Store
