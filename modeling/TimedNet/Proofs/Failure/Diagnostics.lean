import TimedNet.Store.Operation

/-!
# `TimedNet.Proofs.Failure.Diagnostics` — stores that are the same apart from their logs

Two stores are alike when nothing is different but that the logs of the second have additional entries.
Whatever does not look at logs is the same in both, and what is added to a log of both leaves them alike.

* `Log.Within`, `Logs.Within`: logs with additional entries.
* `Store.withLogs`: other logs, everything else the same; what does not look at them.
* `Store.Alike`, `Store.AlikeAfter`: alike stores, and operations that end in such.
* `Alike.report`, `Alike.reject`, `AlikeAfter.logged`: entries for a problem.
* `Alike.newLog`, `Alike.openLog`, `Alike.openDocument`: new logs.
-/

namespace TimedNet

/-! ## Additional entries -/

/-- The second log has all entries of the first, in their order, and may have more. -/
structure Log.Within (l m : Log) : Prop where
  lineTable : m.lineTable = l.lineTable
  errors : l.errors.Sublist m.errors
  warnings : l.warnings.Sublist m.warnings

namespace Log

variable {l m : Log}

theorem Within.refl (l : Log) : l.Within l := ⟨rfl, .refl _, .refl _⟩

theorem Within.addError (h : l.Within m) (lines : LineTable) (span : Span)
    (message context : String) :
    (l.addError lines span message context).Within (m.addError lines span message context) where
  lineTable := h.lineTable
  errors := h.errors.append_right _
  warnings := h.warnings

theorem Within.addWarning (h : l.Within m) (lines : LineTable) (span : Span)
    (message context : String) :
    (l.addWarning lines span message context).Within (m.addWarning lines span message context) where
  lineTable := h.lineTable
  errors := h.errors
  warnings := h.warnings.append_right _

theorem Within.report (h : l.Within m) (lines : LineTable) (span : Span) (p : Problem)
    (context : String) : (l.report lines span p context).Within (m.report lines span p context) := by
  unfold Log.report
  cases p.severity with
  | error => exact h.addError lines span p.message context
  | warning => exact h.addWarning lines span p.message context

/-- A log is within the one with one more problem. -/
theorem within_report (l : Log) (lines : LineTable) (span : Span) (p : Problem) (context : String) :
    l.Within (l.report lines span p context) := by
  unfold Log.report
  cases p.severity with
  | error => exact ⟨rfl, List.sublist_append_left _ _, .refl _⟩
  | warning => exact ⟨rfl, .refl _, List.sublist_append_left _ _⟩

theorem Within.clearErrors (h : l.Within m) : l.clearErrors.Within m.clearErrors :=
  ⟨h.lineTable, .refl _, h.warnings⟩

theorem Within.clearWarnings (h : l.Within m) : l.clearWarnings.Within m.clearWarnings :=
  ⟨h.lineTable, h.errors, .refl _⟩

theorem Within.withLineTable (h : l.Within m) (lineTable : LineTableId) :
    ({ l with lineTable } : Log).Within { m with lineTable } :=
  ⟨rfl, h.errors, h.warnings⟩

end Log

/-- The logs of the second table are those of the first with additional entries. -/
structure Logs.Within (t u : Table .log Log) : Prop where
  size : u.size = t.size
  log : ∀ r ∈ t, (t.get r).Within (u.get r)

namespace Logs

variable {t u : Table .log Log}

theorem Within.refl (t : Table .log Log) : Within t t := ⟨rfl, fun r _ => .refl (t.get r)⟩

theorem Within.next (h : Within t u) : u.next = t.next := congrArg Ref.mk h.size

theorem Within.mem_iff (h : Within t u) {r : LogId} : r ∈ u ↔ r ∈ t := by
  rw [Table.mem_def, Table.mem_def, h.size]

/-- A log that is not there has no entries. -/
theorem Within.get (h : Within t u) (r : LogId) : (t.get r).Within (u.get r) := by
  by_cases hr : r ∈ t
  · exact h.log r hr
  · have hu := mt h.mem_iff.mp hr
    rw [Table.get, Table.get, Table.get?_eq_none_iff.mpr (Nat.le_of_not_lt hr),
      Table.get?_eq_none_iff.mpr (Nat.le_of_not_lt hu)]
    exact .refl _

theorem Within.push (h : Within t u) {l m : Log} (hl : l.Within m) :
    Within (t.push l) (u.push m) where
  size := by rw [Table.size_push, Table.size_push, h.size]
  log r hr := by
    rcases Table.mem_push.mp hr with hr | rfl
    · rw [Table.get_push_of_mem l hr, Table.get_push_of_mem m (h.mem_iff.mpr hr)]
      exact h.log r hr
    · rw [Table.get_push_next, ← h.next, Table.get_push_next]
      exact hl

theorem Within.modify (h : Within t u) (q : LogId) {f g : Log → Log}
    (hf : ∀ l m : Log, l.Within m → (f l).Within (g m)) :
    Within (t.modify q f) (u.modify q g) where
  size := by rw [Table.size_modify, Table.size_modify, h.size]
  log r hr := by
    rw [Table.mem_modify] at hr
    by_cases hq : q = r
    · subst hq
      rw [Table.get_modify_self f hr, Table.get_modify_self g (h.mem_iff.mpr hr)]
      exact hf _ _ (h.log q hr)
    · rw [Table.get_modify_of_ne f hq, Table.get_modify_of_ne g hq]
      exact h.log r hr

end Logs

namespace Store

/-! ## What does not look at logs -/

/-- The store with other logs. -/
def withLogs (s : Store) (logs : Table .log Log) : Store := { s with logs }

section WithLogs

variable (s : Store) (logs : Table .log Log)

@[simp] theorem insts_withLogs : (s.withLogs logs).insts = s.insts := rfl
@[simp] theorem symbol_withLogs : (s.withLogs logs).symbol = s.symbol := rfl
@[simp] theorem frame_withLogs : (s.withLogs logs).frame = s.frame := rfl
@[simp] theorem block_withLogs : (s.withLogs logs).block = s.block := rfl
@[simp] theorem inst_withLogs : (s.withLogs logs).inst = s.inst := rfl
@[simp] theorem template_withLogs : (s.withLogs logs).template = s.template := rfl
@[simp] theorem document_withLogs : (s.withLogs logs).document = s.document := rfl
@[simp] theorem name_withLogs : (s.withLogs logs).name = s.name := rfl
@[simp] theorem functionAt_withLogs : (s.withLogs logs).functionAt = s.functionAt := rfl
@[simp] theorem lookup_withLogs : (s.withLogs logs).lookup = s.lookup := rfl
@[simp] theorem globalFrame_withLogs : (s.withLogs logs).globalFrame = s.globalFrame := rfl
@[simp] theorem localFrame_withLogs : (s.withLogs logs).localFrame = s.localFrame := rfl
@[simp] theorem dependencies_withLogs : (s.withLogs logs).dependencies = s.dependencies := rfl
@[simp] theorem endpoint?_withLogs : (s.withLogs logs).endpoint? = s.endpoint? := rfl
@[simp] theorem lineHandle?_withLogs : (s.withLogs logs).lineHandle? = s.lineHandle? := rfl
@[simp] theorem bind_withLogs : (s.withLogs logs).bind = s.bind := rfl
@[simp] theorem findDynamicTemplate?_withLogs :
    (s.withLogs logs).findDynamicTemplate? = s.findDynamicTemplate? := rfl

@[simp] theorem lineHandles_withLogs (t : TemplateId) (symbols : List SymbolId) :
    (s.withLogs logs).lineHandles t symbols = s.lineHandles t symbols := by
  induction symbols with
  | nil => rfl
  | cons symbol symbols ih => simp only [lineHandles, lineHandle?_withLogs, ih]

@[simp] theorem resolve_withLogs (r : FrameId) (name : String) :
    (s.withLogs logs).resolve r name = s.resolve r name := by
  fun_induction resolve s r name with
  | case1 r symbol hfound => rw [resolve, lookup_withLogs, frame_withLogs, hfound]
  | case2 r hnone hparent => rw [resolve, lookup_withLogs, frame_withLogs, hnone, hparent]
  | case3 r hnone parent hparent hlt ih =>
    rw [resolve, lookup_withLogs, frame_withLogs, hnone, hparent]
    exact (if_pos hlt).trans ih
  | case4 r hnone parent hparent hle =>
    rw [resolve, lookup_withLogs, frame_withLogs, hnone, hparent]
    exact if_neg hle

@[simp] theorem restrictAll_withLogs (restricted stack : List SymbolId) :
    (s.withLogs logs).restrictAll restricted stack = s.restrictAll restricted stack := by
  fun_induction restrictAll s restricted stack with
  | case1 restricted => rw [restrictAll]
  | case2 restricted symbol stack hmem ih => rw [restrictAll, if_pos hmem, ih]
  | case3 restricted symbol stack hnew ih =>
    rw [restrictAll, if_neg hnew, dependencies_withLogs, ih]

end WithLogs

/-! ## Alike stores -/

/-- The second store has additional entries in its logs, and nothing else is different. -/
structure Alike (s s' : Store) : Prop where
  same : s' = s.withLogs s'.logs
  logs : Logs.Within s.logs s'.logs

/-- Two operations end in alike stores and give the same. -/
structure AlikeAfter {α : Type} (a b : Store × α) : Prop where
  store : a.1.Alike b.1
  given : a.2 = b.2

variable {s s' : Store}

theorem alike_withLogs {logs : Table .log Log} (h : Logs.Within s.logs logs) :
    s.Alike (s.withLogs logs) := ⟨rfl, h⟩

theorem Alike.refl (s : Store) : s.Alike s := alike_withLogs (.refl s.logs)

theorem Alike.exists_logs (h : s.Alike s') :
    ∃ logs, Logs.Within s.logs logs ∧ s' = s.withLogs logs := ⟨_, h.logs, h.same⟩

theorem AlikeAfter.elim {α : Type} {a b : Store × α} (h : AlikeAfter a b) :
    ∃ t t' r, t.Alike t' ∧ a = (t, r) ∧ b = (t', r) :=
  ⟨a.1, b.1, b.2, h.store, Prod.ext rfl h.given, rfl⟩

/-! ## Logs -/

theorem Alike.modifyLog (h : s.Alike s') (r : LogId) {f g : Log → Log}
    (hf : ∀ l m : Log, l.Within m → (f l).Within (g m)) :
    (s.modifyLog r f).Alike (s'.modifyLog r g) := by
  obtain ⟨logs, hlogs, rfl⟩ := h.exists_logs
  exact ⟨rfl, hlogs.modify r hf⟩

theorem Alike.addError (h : s.Alike s') (log : LogId) (span : Span) (message context : String) :
    (s.addError log span message context).Alike (s'.addError log span message context) := by
  obtain ⟨logs, hlogs, rfl⟩ := h.exists_logs
  refine h.modifyLog log fun l m hl => ?_
  rw [hl.lineTable]
  exact hl.addError _ span message context

theorem Alike.addWarning (h : s.Alike s') (log : LogId) (span : Span) (message context : String) :
    (s.addWarning log span message context).Alike (s'.addWarning log span message context) := by
  obtain ⟨logs, hlogs, rfl⟩ := h.exists_logs
  refine h.modifyLog log fun l m hl => ?_
  rw [hl.lineTable]
  exact hl.addWarning _ span message context

theorem Alike.report (h : s.Alike s') (log : LogId) (span : Span) (p : Problem) (context : String) :
    (s.report log span p context).Alike (s'.report log span p context) := by
  obtain ⟨logs, hlogs, rfl⟩ := h.exists_logs
  refine h.modifyLog log fun l m hl => ?_
  rw [hl.lineTable]
  exact hl.report _ span p context

theorem alike_report (s : Store) (log : LogId) (span : Span) (p : Problem) (context : String) :
    s.Alike (s.report log span p context) where
  same := rfl
  logs :=
    { size := Table.size_modify ..
      log := fun _ hr => (Table.keeps_modify Log.Within.refl
        fun _ => Log.within_report _ _ span p context) _ hr |>.2 }

theorem Alike.reject {α : Type} (h : s.Alike s') (log : LogId) (span : Span) (p : Problem) :
    AlikeAfter (s.reject log span p : Attempt α) (s'.reject log span p) :=
  ⟨h.report log span p "", rfl⟩

theorem AlikeAfter.logged {α : Type} {a b : Attempt α} (h : AlikeAfter a b) (log : LogId)
    (span : Span) : AlikeAfter (logged log span a) (logged log span b) := by
  obtain ⟨t, t', outcome, ht, rfl, rfl⟩ := h.elim
  cases outcome with
  | ok _ => exact ⟨ht, rfl⟩
  | error p => exact ht.reject log span p

theorem Alike.newLog (h : s.Alike s') {l m : Log} (hl : l.Within m) :
    AlikeAfter (s.newLog l) (s'.newLog m) := by
  obtain ⟨logs, hlogs, rfl⟩ := h.exists_logs
  exact ⟨⟨rfl, hlogs.push hl⟩, congrArg Ref.mk hlogs.size.symm⟩

theorem Alike.lineTableOrNew (h : s.Alike s') (lines : Option LineTableId) :
    AlikeAfter (s.lineTableOrNew lines) (s'.lineTableOrNew lines) := by
  obtain ⟨logs, hlogs, rfl⟩ := h.exists_logs
  cases lines with
  | none => exact ⟨alike_withLogs hlogs, rfl⟩
  | some lines => exact ⟨alike_withLogs hlogs, rfl⟩

theorem Alike.openLog (h : s.Alike s') (lines : Option LineTableId) :
    AlikeAfter (s.openLog lines) (s'.openLog lines) := by
  obtain ⟨t, t', lines, ht, heq, heq'⟩ := (h.lineTableOrNew lines).elim
  rw [Store.openLog, Store.openLog, heq, heq']
  exact ht.newLog (.refl _)

theorem Alike.newDocument (h : s.Alike s') (lines : LineTableId) (log : LogId) :
    AlikeAfter (s.newDocument lines log) (s'.newDocument lines log) := by
  obtain ⟨logs, hlogs, rfl⟩ := h.exists_logs
  exact ⟨alike_withLogs hlogs, rfl⟩

theorem Alike.openDocument (h : s.Alike s') (lines : Option LineTableId) (log : Option LogId) :
    AlikeAfter (s.openDocument lines log) (s'.openDocument lines log) := by
  obtain ⟨t, t', lines, ht, heq, heq'⟩ := (h.lineTableOrNew lines).elim
  rw [Store.openDocument, Store.openDocument, heq, heq']
  cases log with
  | some log => exact ht.newDocument lines log
  | none =>
    obtain ⟨u, u', log, hu, hnew, hnew'⟩ := (ht.newLog (.refl { lineTable := lines })).elim
    dsimp only
    rw [hnew, hnew']
    exact hu.newDocument lines log

end Store

end TimedNet
