import Datalink.Proofs.Session.Breakdown

/-!
# Tables that are read

Input: an operation that reads rows, on a session that is connected or through open
transactions.  Its statement is a text, its parameters can be bound, and no call to the
engine fails.  What the engine describes and which rows it has is left open.

Results: the operation ends in a table if and only if every row is as wide as the columns.
Then the table is what the engine answered, and otherwise the first row of another width is
the fault.  The ledger takes one observation of it either way, and the session can be used
behind it.
-/

namespace Datalink

open Routine (run)

namespace Table

/-- The first row that does not have a width. -/
def firstOff? (width : Nat) (rows : List (List Value)) : Option (List Value) :=
  rows.find? fun row => row.length != width

theorem firstOff?_eq_none_iff
    (width : Nat) (rows : List (List Value)) :
    firstOff? width rows = none ↔ ∀ row ∈ rows, row.length = width := by
  simp [firstOff?]

/-- Rows are admitted unless there is one that does not fit, and the first one is the
fault. -/
theorem admitRows_eq
    (columns : List Value) (rows : List (List Value)) :
    admitRows columns rows =
      match firstOff? columns.length rows with
      | none => .ok rows
      | some row => .error (.rowWidth row.length columns.length) := by
  induction rows with
  | nil =>
      rfl
  | cons row rows ih =>
      by_cases hrow : row.length = columns.length
      · have hfirst : firstOff? columns.length (row :: rows) = firstOff? columns.length rows := by
          simp [firstOff?, hrow]
        rw [hfirst, admitRows, admitRow, if_pos hrow, ih]
        cases firstOff? columns.length rows <;> rfl
      · have hfirst : firstOff? columns.length (row :: rows) = some row := by
          simp [firstOff?, hrow]
        rw [hfirst, admitRows, admitRow, if_neg hrow]

theorem ofRows_eq
    (columns : List Value) (rows : List (List Value)) :
    ofRows columns rows =
      match firstOff? columns.length rows with
      | none => .ok ⟨columns, rows⟩
      | some row => .error (.rowWidth row.length columns.length) := by
  rw [ofRows, admitRows_eq]
  cases firstOff? columns.length rows <;> rfl

/-- What becomes of columns and rows: the table of them if every row fits, and otherwise the
fault of the first row that does not. -/
structure Made (columns : List Value) (rows : List (List Value)) (r : Except Fault Table) :
    Prop where
  isOk_iff : r.isOk = true ↔ ∀ row ∈ rows, row.length = columns.length
  table : ∀ t, r = .ok t →
    t.columns = columns ∧ t.rows = rows ∧
      ∀ row ∈ t.toList, row.columns = t.columns ∧ row.values.length = t.columns.length
  fault : ∀ f, r = .error f →
    f.kind = "ConnectorInvariantError" ∧
      ∃ row, firstOff? columns.length rows = some row ∧
        f = .rowWidth row.length columns.length

theorem made_ofRows
    (columns : List Value) (rows : List (List Value)) :
    Made columns rows (ofRows columns rows) := by
  have hfit := firstOff?_eq_none_iff columns.length rows
  rw [ofRows_eq]
  cases hoff : firstOff? columns.length rows with
  | none =>
      have hall := hfit.mp hoff
      exact
        { isOk_iff := iff_of_true rfl hall
          table := by
            rintro t ⟨⟩
            refine ⟨rfl, rfl, fun row hrow => ?_⟩
            obtain ⟨values, hmem, rfl⟩ := List.mem_map.mp hrow
            exact ⟨rfl, hall values hmem⟩
          fault := by rintro f ⟨⟩ }
  | some row =>
      have hsome : ¬ ∀ row ∈ rows, row.length = columns.length := by
        rw [← hfit, hoff]
        rintro ⟨⟩
      exact
        { isOk_iff := iff_of_false (by rintro ⟨⟩) hsome
          table := by rintro t ⟨⟩
          fault := by
            rintro f ⟨⟩
            exact ⟨rfl, row, hoff, rfl⟩ }

end Table

/-- What callers ask for who want rows. -/
inductive Reading where
  | queryRaw (sql params : Value)
  | raw (sql params : Value)
  | query (q : Subject)
  | select (q : Subject)
deriving Inhabited

namespace Reading

/-- Rows read through what a handle stands for. -/
def perform (s : Session) (h : Handle) : Reading → Routine Table
  | queryRaw sql params => h.queryRaw s sql params
  | raw sql params => h.raw s sql params
  | query q => h.query s q
  | select q => h.select s q

/-- Reading rows is an operation. -/
def operation : Reading → Operation
  | queryRaw sql params => .queryRaw sql params
  | raw sql params => .raw sql params
  | query q => .query q
  | select q => .select q

/-- Reading rows comes to what its statement comes to. -/
theorem run_perform
    (s : Session) {r : Reading} {h : Handle} {w w' : World} (hopen : h.IsOpen w) {sql : Value}
    {values : List Value} (hprepare : r.operation.prepare = .ok (sql, values))
    {t : Except Fault Table}
    (hrun : run (Measure.run .measure (.text Channel.reading.name) sql (.tuple values)
      (s.fetchTable sql values)) w = (t, w')) :
    run (r.perform s h) w = (t, w') := by
  cases t with
  | ok table =>
      cases r <;> exact Operation.run_perform_of_prepared s hopen hprepare hrun
  | error f =>
      cases r <;> exact Operation.run_perform_of_prepared s hopen hprepare hrun

end Reading

namespace Exchange

/-- If no call of a reading statement fails, it is not refused, and its cursor can be read
from and closed. -/
theorem answered_of_failures_eq_nil
    {e : Exchange} {sql : Value} {values : List Value}
    (h : e.failures (Channel.reading.calls sql values) = []) :
    e.refusal? sql = none ∧ e.next.cursorFailures = ⟨none, none⟩ := by
  simp only [Channel.calls, failures, failure?, after, List.append_eq_nil_iff,
    Option.toList_eq_nil_iff, Option.map_eq_none_iff, and_true] at h
  obtain ⟨hsent, hfetch, hclose⟩ := h
  rw [send_of_answered hsent] at hfetch hclose
  rcases hcursor : e.next.cursorFailures with ⟨onFetch, onClose⟩
  rw [hcursor] at hfetch hclose
  exact ⟨hsent, congr (congrArg CursorFailures.mk hfetch) hclose⟩

end Exchange

namespace Engine

variable {e : Exchange} {w : World} (h : e.answers = w.answers) {sql : Value}
variable (values : List Value)
include h

/-- The cursor of a statement that is not refused is closed behind what is done with it. -/
theorem run_cursor_of_answered
    {α : Type} (look : Answer → Routine α) {w' : World} {r : Except Fault α}
    (hsent : e.refusal? sql = none) (hclose : e.next.cursorFailures.onClose = none)
    (hlook : run (look e.next)
      { w.addCall (.execute sql values) with answers := w.answers.tail } = (r, w')) :
    run (do
        let cursor ← execute sql values
        closingCursor cursor (look cursor)) w = (r, w'.addCall .closeCursor) := by
  rw [Routine.run_bind, run_execute_of_answered h values hsent]
  change run (closingCursor e.next (look e.next)) _ = _
  rw [run_closingCursor hlook, hclose]

end Engine

namespace Session

variable (s : Session) {w : World} {sql : Value} {values : List Value}

/-- A statement that no call fails for makes a table of its rows, or a fault of the first one
that does not fit.  Beside that there are the calls and the lines that were written. -/
theorem run_fetchTable_of_answered
    (hconnected : w.connected = true) (hsql : s.logQueries = true → sql.displayable = true)
    (hvalues : Value.allPrintable values = true)
    (hclean : (Exchange.start w).failures (Channel.reading.calls sql values) = []) :
    let a := (Exchange.start w).next
    ∃ ls, run (s.fetchTable sql values) w =
      (Table.ofRows (a.columns.getD []) a.rows,
        { w with
          answers := w.answers.tail
          calls := w.calls ++ Channel.reading.calls sql values
          lines := w.lines ++ ls }) := by
  intro a
  obtain ⟨hsent, hcursor⟩ := Exchange.answered_of_failures_eq_nil hclean
  obtain ⟨ls, hnote⟩ := s.run_noteStatement hsql (fun _ => hvalues) w
  let noted : World := { w with lines := w.lines ++ ls }
  let sent : World := { noted.addCall (.execute sql values) with answers := w.answers.tail }
  have hlook : run (do
      let rows ← Engine.fetch a
      return (a.columns.getD [], rows)) sent =
        (.ok (a.columns.getD [], a.rows), sent.addCall .fetch) := by
    simp [Engine.fetch, Engine.report, Engine.raise?, a, hcursor]
  have hread := Engine.run_cursor_of_answered (e := .start w) (w := noted) rfl values
    (fun cursor => do
      let rows ← Engine.fetch cursor
      return (cursor.columns.getD [], rows)) hsent (by rw [hcursor]) hlook
  have hturn : run (s.guarded do
      s.noteStatement sql values
      s.wrapping sql do
        let cursor ← Engine.execute sql values
        Engine.closingCursor cursor do
          let rows ← Engine.fetch cursor
          return (cursor.columns.getD [], rows)) w =
        (.ok (a.columns.getD [], a.rows), (sent.addCall .fetch).addCall .closeCursor) := by
    rw [s.run_guarded hconnected, Routine.run_bind, hnote]
    exact s.run_wrapping_ok hread sql
  refine ⟨ls, ?_⟩
  rw [fetchTable, Routine.run_bind, hturn]
  simp [sent, noted, World.addCall, Channel.calls]

/-- Whether a session can be used: it is connected, and every operation whose statement is a
text and whose parameters can be bound makes its calls to the engine. -/
structure Usable (s : Session) (w : World) : Prop where
  connected : w.connected = true
  operations : ∀ (h : Handle) (o : Operation) (text : Text) (values : List Value),
    h.IsOpen w → o.prepare = .ok (.text text, values) →
      (run (o.perform s h) w).2.calls =
        w.calls ++ (Exchange.start w).reached (.text text) (o.channel.calls (.text text) values)

theorem usable_of_connected
    {w : World} (h : w.connected = true) :
    s.Usable w where
  connected := h
  operations _ _ _ _ hopen hprepare :=
    Operation.calls_perform s hopen hprepare h fun _ => rfl

/-- What came of reading rows with a statement, in a world whose engine has an answer. -/
structure Tabled (s : Session) (w : World) (text : Text) (values : List Value) (a : Answer)
    (r : Except Fault Table) (w' : World) : Prop where
  made : Table.Made (a.columns.getD []) a.rows r
  /-- The ledger, if there is one, takes one observation, of a success or of a failure. -/
  ledger : ∃ elapsed, w'.ledger = w.ledger.map fun l =>
    (l.record (Measure.observation Channel.reading.name text values elapsed r) w.files).1
  phases : w'.phases = w.phases
  usable : s.Usable w'

/-- Reading rows on a connection, through whatever transactions that are open, ends in the
table that the engine answered if every row is as wide as the columns, and in the fault of the
first one that is not if there is one.  Either way the ledger takes one observation, and the
session can be used. -/
theorem tabled_of_answered
    (hconnected : w.connected = true) (r : Reading) {h : Handle} (hopen : h.IsOpen w)
    {text : Text} {values : List Value} (hprepare : r.operation.prepare = .ok (.text text, values))
    (hclean : (Exchange.start w).failures (Channel.reading.calls (.text text) values) = []) :
    let after := run (r.perform s h) w
    s.Tabled w text values (Exchange.start w).next after.1 after.2 := by
  intro after
  let a := (Exchange.start w).next
  let table := Table.ofRows (a.columns.getD []) a.rows
  obtain ⟨c, hc⟩ := w.nextReading_eq
  have hvalues := Operation.allPrintable_of_prepare hprepare
  obtain ⟨ls, hsent⟩ := s.run_fetchTable_of_answered (w := w.nextReading.2)
    (by rw [hc]; exact hconnected) (fun _ => rfl) hvalues (by rw [hc]; exact hclean)
  have htable : Measure.Measurable table := by
    cases ht : table with
    | ok t =>
        trivial
    | error f =>
        have hf := (Table.ofRows_failsInternally ..).error ht
        have hworded : f.words = .ok f.message := hf.worded
        exact ⟨hf.not_interrupt, by rw [hworded]; rfl⟩
  have hitems : (Value.tuple values).asItems = .ok values := rfl
  rw [hc] at hsent
  obtain ⟨w', hmeasured, hpublished⟩ := Measure.run_measurable .measure Channel.reading.name text
    hitems hvalues (by rw [hc]; exact hsent) htable
  have hafter : after = (table, w') := Reading.run_perform s hopen hprepare hmeasured
  rw [hafter]
  exact
    { made := Table.made_ofRows ..
      ledger := ⟨_, hpublished.ledger⟩
      phases := hpublished.phases
      usable := s.usable_of_connected (hpublished.connected.trans hconnected) }

/-- An answer with a column name that stands twice, and a row that is too short. -/
def ragged : Answer :=
  { Answer.silent with
    columns := some [.text "id", .text "id"]
    rows := [[.int 1, .int 2], [.int 3], [.int 4, .int 5, .int 6]] }

/-- A session with a ledger and an open transaction, whose engine gives that answer. -/
def raggedWorld : World :=
  { answering ragged with
    ledger := some (Ledger.empty 10 none)
    phases := [.started] }

/-- The short row is the fault, through the transaction as well, and the ledger takes a
failure. -/
theorem tabled_ragged :
    let h := Handle.within 0 .session
    let rows := Reading.query (.query ⟨"Select", false, .text "t", .select [] [] [] none none⟩)
    let calls := Channel.reading.calls (.text "SELECT * FROM `t`") []
    let after := run (rows.perform default h) raggedWorld
    raggedWorld.connected = true ∧ h.IsOpen raggedWorld ∧
      rows.operation.prepare = .ok (.text "SELECT * FROM `t`", []) ∧
      (Exchange.start raggedWorld).failures calls = [] ∧ after.1 = .error (.rowWidth 1 2) ∧
      (∃ o, o.success = .bool false ∧
        after.2.ledger = some ((Ledger.empty 10 none).record o raggedWorld.files).1) ∧
      Session.Usable default after.2 := by
  intro h rows calls after
  have hconnected : raggedWorld.connected = true := rfl
  have hopen : h.IsOpen raggedWorld := ⟨rfl, trivial⟩
  have hprepare : rows.operation.prepare = .ok (.text "SELECT * FROM `t`", []) := by
    rfl
  have hclean : (Exchange.start raggedWorld).failures calls = [] := by
    rfl
  obtain ⟨hmade, ⟨elapsed, hledger⟩, -, husable⟩ :=
    tabled_of_answered default hconnected rows hopen hprepare hclean
  have hfault : after.1 = .error (.rowWidth 1 2) := by
    cases hresult : after.1 with
    | ok t =>
        have hall := hmade.isOk_iff.mp (congrArg Except.isOk hresult)
        have hshort : [Value.int 3] ∈ ragged.rows := by
          simp [ragged]
        cases hall _ hshort
    | error f =>
        obtain ⟨-, row, hfirst, rfl⟩ := hmade.fault f hresult
        cases hfirst
        rfl
  have hfailed : after.1.isOk = false := congrArg Except.isOk hfault
  exact ⟨hconnected, hopen, hprepare, hclean, hfault,
    ⟨_, congrArg Value.bool hfailed, hledger⟩, husable⟩

end Session

end Datalink
