import Mathlib.Logic.Function.Basic
import TimedNet.Proofs.Source.Lines
import TimedNet.Proofs.Transfer.Functions
import TimedNet.Proofs.Transfer.Variables

/-!
# `TimedNet.Proofs.Source.Arrivals` — the line tables of a store that a program reaches

A history says which lines arrived in each line table. It follows the operations: a line that is registered
arrives in one table, a copy of a table starts with the history of the original, and nothing else lets lines
arrive. Every table is then the stable sort of its history.

* `Operation.Arrives`: what an operation does to a history.
* `lineTables_cases`: the operations that leave lines alone.
* `Recorded`: the tables are what the history says; `Recorded.perform`, by one case for each way to arrive.
* `History`: a run with its history; `History.recorded`.
* `line_tables_sorted`: what the tables of a run contain and what is found in them.
-/

namespace TimedNet

/-- The lines that arrived in each table, in the order of their arrival. -/
abbrev Arrivals := LineTableId → List LineInfo

/-- The operation concerns the lines of a table. -/
def Operation.concernsLines : Operation → Bool
  | .newLineTable _ | .addLine .. | .copyDocument _ => true
  | _ => false

/-- A step with this label may make a line table or change one. -/
def Write.concernsLines : Write → Bool
  | .fresh | .lineTable _ | .copy _ => true
  | _ => false

/-- What an operation does to the history of the line tables. A new table was filled line by line, or is a
    copy of another one. -/
inductive Operation.Arrives (s : Store) (a : Arrivals) : Operation → Arrivals → Prop where
  | add (r : LineTableId) (e : LineInfo) :
      Arrives s a (.addLine r e) (Function.update a r (a r ++ [e]))
  | fill (es : List LineInfo) :
      Arrives s a (.newLineTable (es.foldl LineTable.insert {})) (Function.update a s.lineTables.next es)
  | clone (r : LineTableId) (hr : r ∈ s.lineTables) :
      Arrives s a (.newLineTable (s.lineTable r)) (Function.update a s.lineTables.next (a r))
  | copy (d : DocumentId) :
      Arrives s a (.copyDocument d)
        (Function.update a s.lineTables.next (a (s.document d).lineTable))
  | other {op : Operation} (hop : op.concernsLines = false) : Arrives s a op a

/-- A new table is filled line by line or is a copy of another one. -/
def Operation.FillsTables (s : Store) : Operation → Prop
  | .newLineTable t =>
    (∃ es : List LineInfo, t = es.foldl LineTable.insert {}) ∨ ∃ r ∈ s.lineTables, t = s.lineTable r
  | _ => True

namespace Store

variable {s u : Store} {op : Operation} {a b : Arrivals}

/-! ## Operations that leave lines alone -/

theorem Step.lineTables_eq {w : Write} (hstep : s.Step w u) (hw : w.concernsLines = false) :
    u.lineTables = s.lineTables := by
  cases hstep with
  | aside _ h => exact h.lineTables
  | extend | declare | editBlock | inst | restrict | parameters | bind | newTemplate | editTemplate
  | editDocument | editLog => rfl
  | _ => exact absurd hw (by simp [Write.concernsLines])

theorem Path.lineTables_eq {P : Write → Prop} (hpath : Path P s u) (hP : ∀ w, P w → w.concernsLines = false) :
    u.lineTables = s.lineTables := by
  induction hpath with
  | refl => rfl
  | step _ hw hstep ih => exact (hstep.lineTables_eq (hP _ hw)).trans ih

theorem lineTableOrNew_cases (s : Store) (lines : Option LineTableId) :
    (s.lineTableOrNew lines).1.lineTables = s.lineTables
      ∨ (s.lineTableOrNew lines).1.lineTables = s.lineTables.push {} := by
  cases lines with
  | some l => exact Or.inl rfl
  | none => exact Or.inr rfl

theorem lineTables_openDocument (s : Store) (lines : Option LineTableId) (log : Option LogId) :
    (s.openDocument lines log).1.lineTables = (s.lineTableOrNew lines).1.lineTables := by
  cases log <;> rfl

theorem lineTables_addProcess (s : Store) (d : DocumentId) (i : InstanceId) (span : Span) :
    (s.addProcess d i span).1.lineTables = s.lineTables := by
  unfold addProcess
  dsimp only
  split <;> rfl

/-- **The other operations** leave the line tables as they are, or open an empty one. -/
theorem Sound.lineTables_cases (h : s.Sound) (hdeclared : ∀ b ∈ s.blocks, s.Declared b)
    (hadmissible : op.Admissible s) (hop : op.concernsLines = false) :
    (s.perform op).lineTables = s.lineTables
      ∨ (s.perform op).lineTables = s.lineTables.push {} := by
  have hpath := h.path_perform hadmissible
  obtain ⟨hreceivers, hothers, -, -⟩ := hadmissible
  cases op with
  | newLineTable | addLine | copyDocument => exact absurd hop (by simp [Operation.concernsLines])
  | newSymbol | newFrame | newBlock | copyLog => exact Or.inl rfl
  | openLog lines => exact s.lineTableOrNew_cases lines
  | openDocument lines log =>
    have hopen : (s.perform (.openDocument lines log)).lineTables
        = (s.lineTableOrNew lines).1.lineTables := s.lineTables_openDocument lines log
    rw [hopen]
    exact s.lineTableOrNew_cases lines
  | addProcess d i span => exact Or.inl (s.lineTables_addProcess d i span)
  | copyVariables d source target =>
    have hd : d ∈ s.documents := hreceivers (.document d) (by simp [Operation.receivers])
    have hsource : source ∈ s.templates := hothers (.template source) (by simp [Operation.others])
    have htarget : target ∈ s.templates := hreceivers (.template target) (by simp [Operation.receivers])
    exact Or.inl (h.copied_copyVariables hdeclared hd hsource htarget).1.confined.lineTables_eq
  | copyFunctions d source target =>
    have hd : d ∈ s.documents := hreceivers (.document d) (by simp [Operation.receivers])
    have hsource : source ∈ s.templates := hothers (.template source) (by simp [Operation.others])
    have htarget : target ∈ s.templates := hreceivers (.template target) (by simp [Operation.receivers])
    exact Or.inl (h.copied_copyFunctions hdeclared hd hsource htarget).1.confined.lineTables_eq
  | _ =>
    refine Or.inl (hpath.lineTables_eq ?_)
    simp [Operation.writes, Write.concernsLines]

/-! ## Tables and their history -/

/-- Each table has what the history says, and nothing arrived in tables that are not there yet. -/
structure Recorded (s : Store) (a : Arrivals) : Prop where
  tables : ∀ r ∈ s.lineTables, (s.lineTable r).HasArrived (a r)
  later : ∀ r, r ∉ s.lineTables → a r = []

theorem recorded_empty : Recorded {} fun _ => [] where
  tables _ hr := absurd hr (Nat.not_lt_zero _)
  later _ _ := rfl

/-- A new table comes with its history. -/
theorem Recorded.push (h : s.Recorded a) {t : LineTable} (hu : u.lineTables = s.lineTables.push t)
    {es : List LineInfo} (ht : t.HasArrived es) :
    u.Recorded (Function.update a s.lineTables.next es) where
  tables r hr := by
    rw [hu, Table.mem_push] at hr
    rw [lineTable, hu]
    rcases hr with hold | rfl
    · have hne : r ≠ s.lineTables.next := fun heq => s.lineTables.next_not_mem (heq ▸ hold)
      rw [Table.get_push_of_mem _ hold, Function.update_of_ne hne]
      exact h.tables r hold
    · rwa [Table.get_push_next, Function.update_self]
  later r hr := by
    rw [hu, Table.mem_push, not_or] at hr
    rw [Function.update_of_ne hr.2]
    exact h.later r hr.1

/-- A line that is registered arrives in its table and in no other. -/
theorem Recorded.addLine (h : s.Recorded a) {r : LineTableId} (hr : r ∈ s.lineTables) (e : LineInfo) :
    (s.addLine r e).Recorded (Function.update a r (a r ++ [e])) where
  tables q hq := by
    have hq' : q ∈ s.lineTables := Table.mem_modify.mp hq
    by_cases heq : q = r
    · subst heq
      have hadded : (s.addLine q e).lineTable q = (s.lineTable q).insert e :=
        Table.get_modify_self (t := s.lineTables) _ hr
      rw [hadded, Function.update_self]
      exact (h.tables q hr).insert e
    · have hkept : (s.addLine r e).lineTable q = s.lineTable q :=
        Table.get_modify_of_ne (t := s.lineTables) _ (Ne.symm heq)
      rw [hkept, Function.update_of_ne heq]
      exact h.tables q hq'
  later q hq := by
    have hq' : q ∉ s.lineTables := fun hmem => hq (Table.mem_modify.mpr hmem)
    have hne : q ≠ r := fun heq => hq' (heq ▸ hr)
    rw [Function.update_of_ne hne]
    exact h.later q hq'

/-- **An operation keeps the tables and their history together.** -/
theorem Recorded.perform (h : s.Recorded a) (hs : s.Sound) (hdeclared : ∀ b ∈ s.blocks, s.Declared b)
    (hadmissible : op.Admissible s) (hop : op.Arrives s a b) : (s.perform op).Recorded b := by
  cases hop with
  | add r e =>
    have hr : r ∈ s.lineTables := hadmissible.receivers (.lineTable r) (by simp [Operation.receivers])
    exact h.addLine hr e
  | fill es =>
    refine h.push rfl ?_
    simpa using LineTable.hasArrived_nil.foldl es
  | clone r hr => exact h.push rfl (h.tables r hr)
  | copy d =>
    have hd : d ∈ s.documents := hadmissible.others (.document d) (by simp [Operation.others])
    refine h.push ?_ (h.tables _ (hs.documents d hd).lineTable)
    rw [Store.perform, hs.copyDocument_eq hd]
    rfl
  | other hop =>
    rcases hs.lineTables_cases hdeclared hadmissible hop with heq | heq
    · refine ⟨fun r hr => ?_, fun r hr => ?_⟩
      · rw [lineTable, heq]
        exact h.tables r (heq ▸ hr)
      · exact h.later r (heq ▸ hr)
    · -- Nothing arrived in the table that is opened.
      have hupdate : Function.update a s.lineTables.next [] = a := by
        rw [Function.update_eq_self_iff]
        exact (h.later _ s.lineTables.next_not_mem).symm
      rw [← hupdate]
      exact h.push heq LineTable.hasArrived_nil

/-! ## Runs -/

/-- A run from the empty store, with what arrived in each table on the way. -/
inductive History : Store → Arrivals → Prop where
  | start : History {} fun _ => []
  | step {s : Store} {op : Operation} {a b : Arrivals} (rest : History s a)
      (hadmissible : op.Admissible s) (hop : op.Arrives s a b) : History (s.perform op) b

theorem History.run (h : History s a) : Run (fun _ _ => True) {} s := by
  induction h with
  | start => exact .refl
  | step _ hadmissible _ ih => exact .step ih _ hadmissible trivial

theorem History.recorded (h : History s a) : s.Recorded a := by
  induction h with
  | start => exact recorded_empty
  | step rest hadmissible hop ih =>
    exact ih.perform (rest.run.sound sound_empty) rest.run.declared hadmissible hop

/-- Every run with such tables has a history. -/
theorem Run.exists_history (hrun : Run Operation.FillsTables {} s) : ∃ a, History s a := by
  induction hrun with
  | refl => exact ⟨_, .start⟩
  | step run op hadmissible hop ih =>
    obtain ⟨a, h⟩ := ih
    cases hconcerns : op.concernsLines with
    | false => exact ⟨a, h.step hadmissible (.other hconcerns)⟩
    | true =>
      cases op with
      | newLineTable t =>
        rcases hop with ⟨es, rfl⟩ | ⟨r, hr, rfl⟩
        · exact ⟨_, h.step hadmissible (.fill es)⟩
        · exact ⟨_, h.step hadmissible (.clone r hr)⟩
      | addLine r e => exact ⟨_, h.step hadmissible (.add r e)⟩
      | copyDocument d => exact ⟨_, h.step hadmissible (.copy d)⟩
      | _ => exact absurd hconcerns (by simp [Operation.concernsLines])

/-- **Line tables are sorted by position and by arrival.** For every run of operations, in which lines are
    registered in any order and tables and documents are copied at any time, and for every line table at the
    end: it is the stable sort of the lines that arrived in it, and putting one more line at the place that
    the search finds is the same as registering it, also when it is appended. Nothing is found for an offset
    just when every line starts after it; otherwise the line is found that arrived last at the greatest
    position up to the offset. -/
theorem line_tables_sorted (h : History s a) {r : LineTableId} (hr : r ∈ s.lineTables) :
    (s.lineTable r).entries.toList = (a r).mergeSort (fun x y => x.position ≤ y.position)
      ∧ (∀ y, ((s.lineTable r).entries.toList.filter fun x => x.position == y)
        = (a r).filter fun x => x.position == y)
      ∧ (∀ e, (s.lineTable r).insert e = ⟨(s.lineTable r).entries.insertIdx
          ((s.lineTable r).upperBound e.position) e ((s.lineTable r).upperBound_le e.position)⟩)
      ∧ (∀ q, (s.lineTable r).find q = none ↔ ∀ x ∈ a r, q < x.position)
      ∧ ∀ q e, (s.lineTable r).find q = some e ↔ LineTable.Latest (a r) q e := by
  have harrived := h.recorded.tables r hr
  refine ⟨harrived.toList_eq, harrived.filter, fun e => ?_, fun q => ?_, fun q e => ?_⟩
  · exact LineTable.insert_eq_insertIdx harrived.ordered e
  · exact harrived.find_eq_none_iff
  · exact harrived.find_eq_some_iff

/-- A table with three lines, and a copy of it; then both get one more line. -/
def copiedTable : List Operation :=
  [.newLineTable {}, .addLine ⟨0⟩ ⟨10, 0, 1, "a"⟩, .addLine ⟨0⟩ ⟨5, 0, 1, "b"⟩,
    .addLine ⟨0⟩ ⟨10, 0, 1, "c"⟩, .openDocument (some ⟨0⟩) none, .copyDocument ⟨0⟩,
    .addLine ⟨0⟩ ⟨5, 0, 1, "d"⟩, .addLine ⟨1⟩ ⟨7, 0, 1, "e"⟩]

/-- The lines of both tables are in order, and the line that arrived last at 5 is found in the one table and
    not in the other. -/
theorem line_tables_sorted_copied_table : ∃ a, History (copiedTable.foldl perform {}) a
    ∧ (a ⟨0⟩).map LineInfo.path = ["a", "b", "c", "d"] ∧ (a ⟨1⟩).map LineInfo.path = ["a", "b", "c", "e"]
    ∧ LineTable.Latest (a ⟨0⟩) 9 ⟨5, 0, 1, "d"⟩ ∧ LineTable.Latest (a ⟨1⟩) 9 ⟨7, 0, 1, "e"⟩
    ∧ (((copiedTable.foldl perform {}).lineTable ⟨0⟩).entries.toList.map LineInfo.path)
      = ["b", "d", "a", "c"]
    ∧ ((copiedTable.foldl perform {}).lineTable ⟨1⟩).find 4 = none := by
  have hempty : History _ _ := .step .start (by decide +kernel) (.fill [])
  have hthree : History _ _ := ((hempty.step (by decide +kernel) (.add ⟨0⟩ ⟨10, 0, 1, "a"⟩)).step
    (by decide +kernel) (.add ⟨0⟩ ⟨5, 0, 1, "b"⟩)).step (by decide +kernel) (.add ⟨0⟩ ⟨10, 0, 1, "c"⟩)
  have hother : ∀ {t : Store} {a : Arrivals}, (Operation.openDocument (some ⟨0⟩) none).Arrives t a a :=
    .other rfl
  have hcopied : History _ _ := (hthree.step (by decide +kernel) hother).step (by decide +kernel) (.copy ⟨0⟩)
  have hall : History _ _ := (hcopied.step (by decide +kernel) (.add ⟨0⟩ ⟨5, 0, 1, "d"⟩)).step
    (by decide +kernel) (.add ⟨1⟩ ⟨7, 0, 1, "e"⟩)
  refine ⟨_, hall, by decide +kernel, by decide +kernel, ?_, ?_, by decide +kernel, by decide +kernel⟩
  · exact ((line_tables_sorted hall (by decide +kernel)).2.2.2.2 9 _).mp (by decide +kernel)
  · exact ((line_tables_sorted hall (by decide +kernel)).2.2.2.2 9 _).mp (by decide +kernel)

end Store

end TimedNet
