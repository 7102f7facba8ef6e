import Datalink.Proofs.Engine.Interleaving
import Datalink.Proofs.Session.Binding
import Datalink.Proofs.Session.Breakdown

/-!
# Queries lowered to statements

Input: a structured query that can be put into words, a session in any state, and an engine
that answers as it likes.  Other routines may run on the session whenever this one waits:
for its turn on the connection, and for the engine.

Results: a query that reads is its statement.  A query that changes rows goes abreast with
its statement, and both end with the same fault or with what the one cursor says that ran
the statement: the number of the row that was added, and the number of rows changed, which
is taken to be an integer of the machine.  A negative number of rows is never a result: minus
one says that no rows were changed, and any other is refused as an invariant that was broken.
-/

namespace Datalink

open Routine (run runAmong Prompt)

/-- Whether the number of rows of an answer is an integer of the machine, as that of a cursor
is, which the engine counts in 64 bits. -/
def Answer.Counted (a : Answer) : Prop :=
  ∃ n : Int, a.rowCount = .int n ∧ Parameter.fits n = true

/-- Whether the number of rows of every answer that the engine has still to give is one. -/
def World.Counted (w : World) : Prop := ∀ a ∈ w.answers, a.Counted

theorem counted_next
    {w : World} (h : w.Counted) :
    (Exchange.start w).next.Counted := by
  change (w.answers.headD .silent).Counted
  cases hanswers : w.answers with
  | nil =>
      exact ⟨-1, rfl, rfl⟩
  | cons a rest =>
      exact h a (by rw [hanswers]; exact List.mem_cons_self)

namespace Session

variable {α : Type} (s : Session)

theorem prompt_noteStatement
    (sql : Value) (values : List Value) :
    Prompt (s.noteStatement sql values) := by
  unfold noteStatement
  split
  · exact (Routine.prompt_ofExcept _).bind fun _ => Measure.prompt_note _ _ _
  · exact Routine.prompt_pure ()

/-- A routine has the connection to itself in the world in which it gets its turn. -/
theorem runAmong_guarded
    (m : Routine α) (turn : World) (ws : List World) (w : World) :
    runAmong (s.guarded m) (turn :: ws) w =
      if turn.connected then runAmong m ws turn
      else (.error (.closed s.settings.path), turn, ws) := by
  have hconnected : runAmong connected ws turn = (.ok turn.connected, turn, ws) :=
    (Routine.prompt_step _).runAmong_eq ws turn
  rw [guarded, Routine.runAmong_bind, Routine.runAmong_wait]
  dsimp only
  rw [Routine.runAmong_bind, hconnected]
  dsimp only
  split
  · rfl
  · exact (Routine.prompt_fail _).runAmong_eq ws turn

/-- What is wrapped with a statement ends as it would have ended, but for the faults that
are wrapped. -/
theorem runAmong_wrapping
    (sql : Value) {m : Routine α} {ws ws' : List World} {w w' : World} {r : Except Fault α}
    (hm : runAmong m ws w = (r, w', ws')) :
    ∃ w'', runAmong (s.wrapping sql m) ws w =
      (r.mapError fun f => (s.wrapped f sql).1, w'', ws') := by
  have halone : runAmong (s.wrapping sql m) ws w =
      ((run (s.wrapping sql (Routine.goTo r w')) w).1,
        (run (s.wrapping sql (Routine.goTo r w')) w).2, ws') := by
    refine Routine.runAmong_attempt_bind (fun r => ?_) hm
    cases r with
    | ok a =>
        exact Routine.prompt_pure a
    | error f =>
        dsimp only
        split
        · refine (Routine.prompt_ofExcept _).bind fun _ => ?_
          exact (Measure.prompt_note _ _ _).bind fun _ => Routine.prompt_fail _
        · exact Routine.prompt_fail f
  have hgo : run (Routine.goTo r w') w = (r, w') := by
    rfl
  rw [halone]
  cases r with
  | ok a =>
      rw [s.run_wrapping_ok hgo]
      exact ⟨w', rfl⟩
  | error f =>
      rw [s.run_wrapping_error hgo]
      exact ⟨_, rfl⟩

/-- What is asked of a cursor: the number of rows changed, and the number of the row added
last. -/
def asked (cursor : Answer) : Routine (Value × Value) := do
  let count ← Routine.ofExcept (changedRows cursor.rowCount)
  return (count, cursor.lastRow)

theorem run_asked
    (cursor : Answer) (w : World) :
    run (asked cursor) w =
      ((changedRows cursor.rowCount).map fun count => (count, cursor.lastRow), w) := by
  rw [asked, Routine.run_bind, Routine.run_ofExcept]
  cases changedRows cursor.rowCount <;> rfl

/-- What a cursor tells that is closed behind the question. -/
def told (cursor : Answer) : Routine (Value × Value) :=
  Engine.closingCursor cursor (asked cursor)

theorem run_told
    (cursor : Answer) (w : World) :
    (run (told cursor) w).1 =
      match cursor.cursorFailures.onClose with
      | none => (changedRows cursor.rowCount).map fun count => (count, cursor.lastRow)
      | some i => .error (.ofIncident i) := by
  cases hclose : cursor.cursorFailures.onClose <;>
    simp only [told, Engine.run_closingCursor (run_asked cursor w), hclose]

theorem prompt_told
    (cursor : Answer) :
    Prompt (told cursor) :=
  Engine.prompt_closingCursor cursor
    ((Routine.prompt_ofExcept _).bind fun _ => Routine.prompt_pure _)

/-- What comes of a statement that changes rows, in the world in which the engine answers: a
refusal, the failure to close its cursor, or what the cursor tells. -/
def changedBy (sql : Value) (engine : World) : Except Fault (Value × Value) :=
  let e := Exchange.start engine
  match e.refusal? sql with
  | some f => .error f
  | none =>
      match e.next.cursorFailures.onClose with
      | none => (changedRows e.next.rowCount).map fun count => (count, e.next.lastRow)
      | some i => .error (.ofIncident i)

/-- The cursor that is asked is the one of the statement that was executed. -/
theorem runAmong_cursor
    (sql : Value) (values : List Value) (engine : World) (ws : List World) (w : World) :
    ∃ w', runAmong (do
        let cursor ← Engine.execute sql values
        told cursor) (engine :: ws) w = (changedBy sql engine, w', ws) := by
  have hwait : runAmong (do
        let cursor ← Engine.execute sql values
        told cursor) (engine :: ws) w =
      runAmong (do
        let cursor ← Engine.checkEncodable sql >>= fun _ => Engine.answer
        told cursor) ws engine := by
    simp only [Engine.execute, bind_assoc]
    rfl
  obtain ⟨r, hrun, hran, hfails⟩ :=
    Exchange.run_answer (e := .start engine) (w := engine) rfl sql
  -- Behind the wait for the engine nothing waits any more.
  have hprompt : Prompt (do
      let cursor ← Engine.checkEncodable sql >>= fun _ => Engine.answer
      told cursor) :=
    ((Engine.prompt_checkEncodable sql).bind fun _ => Engine.prompt_answer).bind prompt_told
  rw [hwait, hprompt.runAmong_eq, Routine.run_bind, hrun, changedBy]
  cases r with
  | error f =>
      rw [(hfails f).mp rfl]
      exact ⟨_, rfl⟩
  | ok cursor =>
      have hsent : (Exchange.start engine).refusal? sql = none := by
        cases hrefusal : (Exchange.start engine).refusal? sql with
        | none =>
            rfl
        | some f =>
            cases (hfails f).mpr hrefusal
      rw [Exchange.send_of_answered hsent] at hran
      obtain ⟨-, rfl⟩ := hran
      rw [hsent]
      exact ⟨_, Prod.ext (run_told ..) rfl⟩

/-- Rows are changed in two worlds: that in which the session gets its turn, and that in
which the engine answers. -/
theorem runAmong_changeRows
    {sql : Value} {values : List Value} (hsql : sql.displayable = true)
    (hvalues : Value.allPrintable values = true) (turn engine : World) (ws : List World)
    (w : World) :
    ∃ w' ws', runAmong (s.changeRows sql values) (turn :: engine :: ws) w =
      (if turn.connected then (changedBy sql engine).mapError fun f => (s.wrapped f sql).1
        else .error (.closed s.settings.path), w', ws') := by
  rw [changeRows, runAmong_guarded]
  split
  · obtain ⟨ls, hnote⟩ := s.run_noteStatement (fun _ => hsql) (fun _ => hvalues) turn
    obtain ⟨w', hcursor⟩ := runAmong_cursor sql values engine ws
      { turn with lines := turn.lines ++ ls }
    obtain ⟨w'', hwrapping⟩ := s.runAmong_wrapping sql hcursor
    refine ⟨w'', ws, ?_⟩
    rw [Routine.runAmong_bind, (s.prompt_noteStatement sql values).runAmong_eq, hnote]
    exact hwrapping
  · exact ⟨turn, engine :: ws, rfl⟩

/-- A statement is executed and its cursor tells of it: its parameters can be bound, the
session is connected when its turn comes, the engine does not refuse the statement, and the
cursor can be closed. -/
structure Reaches (sql : Text) (params : Value) (turn engine : World) : Prop where
  bound : (Parameter.bindAll params).isOk = true
  connected : turn.connected = true
  answered : (Exchange.start engine).refusal? (.text sql) = none
  closes : (Exchange.start engine).next.cursorFailures.onClose = none

/-- A statement that changes rows ends, measured, with what comes of it in its two worlds. -/
theorem runAmong_executeStatement
    {sql : Text} {params : Value} {values : List Value}
    (hbound : Parameter.bindAll params = .ok values) (turn engine : World) (ws : List World)
    (w : World) :
    (runAmong (s.executeStatement (.text sql) params) (turn :: engine :: ws) w).1 =
      (if turn.connected then
          (changedBy (.text sql) engine).mapError fun f => (s.wrapped f (.text sql)).1
        else .error (.closed s.settings.path)).mapError Measure.leaving := by
  have hprepare : (Operation.executeRaw (.text sql) params).prepare = .ok (.text sql, values) := by
    rw [Operation.prepare_of_statement rfl, hbound]
    rfl
  have hvalues := Operation.allPrintable_of_prepare hprepare
  have hsql : (Value.text sql).displayable = true := rfl
  obtain ⟨w', ws', hchange⟩ :=
    s.runAmong_changeRows hsql hvalues turn engine ws w.nextReading.2
  have hgo : ∀ r : Except Fault (Value × Value),
      run (Routine.goTo r w') w.nextReading.2 = (r, w') := fun _ => rfl
  have hitems : (Value.tuple values).asItems = .ok values := rfl
  obtain ⟨w'', ls, hmeasured, -⟩ :=
    Measure.run_measured .measure "sqlite.execute_raw" sql hitems hvalues (hgo _)
  have hstatement : s.executeStatement (.text sql) params =
      Measure.run .measure executeName (.text sql) (.tuple values)
        (s.changeRows (.text sql) values) := by
    rw [executeStatement, hbound]
    rfl
  rw [hstatement, Measure.runAmong_measured .measure _ _ _ hchange]
  exact congrArg Prod.fst hmeasured

/-- A statement that is executed ends with what its cursor tells. -/
theorem runAmong_executeStatement_of_reaches
    {sql : Text} {params : Value} {turn engine : World} (h : Reaches sql params turn engine)
    (ws : List World) (w : World) :
    let cursor := (Exchange.start engine).next
    (runAmong (s.executeStatement (.text sql) params) (turn :: engine :: ws) w).1 =
      (changedRows cursor.rowCount).map fun count => (count, cursor.lastRow) := by
  intro cursor
  cases hbound : Parameter.bindAll params with
  | error f =>
      have hok := h.bound
      rw [hbound] at hok
      cases hok
  | ok values =>
      rw [s.runAmong_executeStatement hbound, if_pos h.connected, changedBy, h.answered]
      simp only [h.closes]
      cases hcount : changedRows cursor.rowCount with
      | ok count =>
          rfl
      | error f =>
          -- A number of rows that is refused is no failure of the engine, and it has words.
          have hinternal := (changedRows_failsInternally cursor.rowCount).error hcount
          have hworded : f.words = .ok f.message := hinternal.worded
          have hwrapped : s.wrapped f (.text sql) = (f, []) := by
            simp [wrapped, hinternal.not_engineFailure]
          have hleaving : Measure.leaving f = f := by
            simp [Measure.leaving, hinternal.not_interrupt, hworded]
          change Except.error (Measure.leaving (s.wrapped f (.text sql)).1) = Except.error f
          rw [hwrapped, hleaving]

/-- Any other statement ends with a fault. -/
theorem runAmong_executeStatement_of_not_reaches
    {sql : Text} {params : Value} {turn engine : World} (h : ¬ Reaches sql params turn engine)
    (ws : List World) (w : World) :
    ∃ f, (runAmong (s.executeStatement (.text sql) params) (turn :: engine :: ws) w).1 =
      .error f := by
  cases hbound : Parameter.bindAll params with
  | error f =>
      refine ⟨f, ?_⟩
      rw [executeStatement, hbound]
      rfl
  | ok values =>
      rw [s.runAmong_executeStatement hbound]
      cases hconnected : turn.connected with
      | false =>
          exact ⟨_, rfl⟩
      | true =>
          rw [if_pos rfl, changedBy]
          cases hrefusal : (Exchange.start engine).refusal? (.text sql) with
          | some f =>
              exact ⟨_, rfl⟩
          | none =>
              cases hclose : (Exchange.start engine).next.cursorFailures.onClose with
              | some i =>
                  exact ⟨_, rfl⟩
              | none =>
                  exact absurd ⟨by rw [hbound]; rfl, hconnected, hrefusal, hclose⟩ h

/-- A number of rows that is a result is not negative. -/
theorem not_negative_of_changedRows
    {count c : Value} (h : changedRows count = .ok c) :
    c.compare .less (.int 0) = .ok false := by
  unfold changedRows at h
  split at h
  · cases h
  · cases h
    rfl
  · split at h
    · cases h
    · cases h
    · rename_i hcompare
      cases h
      exact hcompare

/-- What a query that changes rows and its statement tell of a cursor. -/
structure Tells (q : Subject) (cursor : Answer) (id : Except Fault (Option RowId))
    (count : Except Fault Value) : Prop where
  /-- The number of the row that was added last, if a row was added. -/
  row : id = count.map fun _ => if q.isInsert then RowId.ofLast? cursor.lastRow else none
  /-- Minus one says that no rows were changed. -/
  unchanged : cursor.rowCount = .int (-1) → count = .ok (.int 0)
  changed : ∀ n, 0 ≤ n → cursor.rowCount = .int n → count = .ok (.int n)
  /-- A number below that is refused. -/
  refused : ∀ n, n < -1 → cursor.rowCount = .int n → ∃ f, count = .error f ∧
    f.kind = "ConnectorInvariantError"
  /-- No number that is a result is negative, whatever the cursor says. -/
  nonnegative : ∀ c, count = .ok c → c.compare .less (.int 0) = .ok false

theorem tells_changedRows
    (q : Subject) {cursor : Answer} (hcounted : cursor.Counted) :
    Tells q cursor
      ((changedRows cursor.rowCount).map fun _ =>
        if q.isInsert then RowId.ofLast? cursor.lastRow else none)
      (changedRows cursor.rowCount) where
  row := rfl
  unchanged h := by
    rw [h, changedRows_int, if_pos rfl]
  changed n hn h := by
    rw [h, changedRows_int, if_neg (by omega), if_neg (by omega)]
  refused n hn h := by
    obtain ⟨m, hm, hfits⟩ := hcounted
    obtain rfl : m = n := Value.int.inj (hm.symm.trans h)
    have hdisplayable : (Value.int m).displayable = Numeral.writable m := rfl
    rw [h, changedRows_int, if_neg (by omega), if_pos (by omega), refuseCount, hdisplayable,
      if_pos (Parameter.writable_of_fits hfits)]
    exact ⟨_, rfl, rfl⟩
  nonnegative c h := not_negative_of_changedRows h

/-- A query that can be put into words comes to what its statement comes to. -/
theorem query_agrees_with_statement
    {q : Subject} {st : Fragment} (hrender : q.render = .ok st) :
    let sql : Value := .text st.sql
    let params : Value := .list st.params
    s.query q = s.queryRaw sql params ∧
      (∀ w, Progress.Abreast (s.execute q w) (s.executeRaw sql params w)) ∧
      ∀ (turn engine : World) (ws : List World) (w : World), engine.Counted →
        let id := (runAmong (s.execute q) (turn :: engine :: ws) w).1
        let count := (runAmong (s.executeRaw sql params) (turn :: engine :: ws) w).1
        (Reaches st.sql params turn engine →
            Tells q (Exchange.start engine).next id count) ∧
          (¬ Reaches st.sql params turn engine → ∃ f, id = .error f ∧ count = .error f) := by
  intro sql params
  have hquery : s.query q = s.queryRaw sql params := by
    rw [query, hrender]
    rfl
  have hexecute : s.execute q = Operation.added q <$> s.executeStatement sql params := by
    rw [execute, hrender]
    rfl
  have hraw : s.executeRaw sql params = Prod.fst <$> s.executeStatement sql params := by
    rfl
  have habreast : ∀ w, Progress.Abreast (s.execute q w) (s.executeRaw sql params w) := by
    intro w
    rw [hexecute, hraw]
    exact Progress.abreast_bind (s.executeStatement sql params w) (Operation.added q) Prod.fst
  refine ⟨hquery, habreast, fun turn engine ws w hcounted => ⟨fun h => ?_, fun h => ?_⟩⟩
  · rw [hexecute, hraw, Routine.runAmong_map, Routine.runAmong_map,
      s.runAmong_executeStatement_of_reaches h]
    have htells := tells_changedRows q (counted_next hcounted)
    cases hcount : changedRows (Exchange.start engine).next.rowCount <;>
      rw [hcount] at htells <;> exact htells
  · obtain ⟨f, hf⟩ := s.runAmong_executeStatement_of_not_reaches h ws w
    have hcount : (runAmong (s.executeRaw sql params) (turn :: engine :: ws) w).1 = .error f := by
      rw [hraw, Routine.runAmong_map, hf]
      rfl
    exact ⟨f, (((habreast w).settleAmong _).2 f).mpr hcount, hcount⟩

/-- A row added. -/
def addRow : Subject :=
  .query ⟨"Insert", false, .text "t", .insert [(.text "a", .int 7)]⟩

/-- Between the turn of the session and the answer of the engine others may have used the
connection; the number of the row is the one that this answer tells. -/
theorem row_of_addRow :
    let st : Fragment := ⟨"INSERT INTO `t` (`a`) VALUES (?)", [.int 7]⟩
    let turn := answering { Answer.silent with lastRow := .int 1 }
    let engine := answering { Answer.silent with rowCount := .int 1, lastRow := .int 5 }
    let id := (runAmong ((default : Session).execute addRow) [turn, engine] default).1
    addRow.render = .ok st ∧ engine.Counted ∧
      Reaches st.sql (.list st.params) turn engine ∧ id = .ok (some ⟨.int 5⟩) := by
  intro st turn engine id
  have hrender : addRow.render = .ok st := by
    rfl
  have hreaches : Reaches st.sql (.list st.params) turn engine := by
    refine ⟨?_, rfl, ?_, rfl⟩
    · rfl
    · rfl
  have hcounted : engine.Counted := by
    intro a ha
    obtain rfl := List.mem_singleton.mp ha
    exact ⟨1, rfl, rfl⟩
  obtain ⟨-, -, hends⟩ := query_agrees_with_statement default hrender
  have htells := (hends turn engine [] default hcounted).1 hreaches
  refine ⟨hrender, hcounted, hreaches, ?_⟩
  have hcount := htells.changed 1 (by decide) rfl
  have hrow := htells.row
  rw [hcount] at hrow
  exact hrow

end Session

end Datalink
