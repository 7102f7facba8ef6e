import Datalink.Proofs.Engine.Exchange
import Datalink.Proofs.Engine.Measuring
import Datalink.Proofs.Session.Operation

/-!
# Statements that are sent

Input: a statement sent over a channel, on a connection, that can be written if statements
are logged.

Results: what taking a turn, noting a statement and wrapping failures add to what is done,
and that none of it makes a call, no more than measuring does.  So the statement makes all
the calls of its channel, or the first alone if the engine refuses it.  A failure to fetch
rows leaves none of them out, since the cursor is closed all the same.
-/

namespace Datalink

open Routine (run)

theorem undisturbed_calls
    (calls : List EngineCall) :
    Undisturbed fun w => w.calls = calls :=
  have hsteady : Steady (fun _ => False) fun w => w.calls = calls :=
    .of_core (fun _ _ _ hcalls _ h => hcalls.trans h) fun _ _ hc => hc.elim
  hsteady.toUndisturbed

/-- A measured operation makes the calls that it makes without being measured. -/
theorem Measure.calls_run
    {α : Type} (logger : Logger) (name sql params : Value) (m : Routine α) (w : World) :
    (Routine.run (run logger name sql params m) w).2.calls =
      (Routine.run m w.nextReading.2).2.calls := by
  rcases hrun : Routine.run m w.nextReading.2 with ⟨r, w'⟩
  have hconclude := fun (failure : Option Fault) =>
    ((undisturbed_calls w'.calls).conclude logger name sql params w.nextReading.1 failure).world
      w' rfl
  cases r with
  | ok a =>
      have hkept := hconclude none
      rcases hdone : Routine.run (conclude logger name sql params w.nextReading.1 none) w' with
        ⟨r, w''⟩
      rw [hdone] at hkept
      cases r <;> simpa [run, now, hrun, hdone] using hkept
  | error f =>
      by_cases hstop : f.isInterrupt = true
      · simp [run, now, hrun, hstop]
      · have hkept := hconclude (some f)
        rcases hdone : Routine.run (conclude logger name sql params w.nextReading.1 (some f)) w'
          with ⟨r, w''⟩
        rw [hdone] at hkept
        cases r <;> simpa [run, now, hrun, hstop, hdone] using hkept

namespace Exchange

/-- How far a statement with its calls comes: to the end, or to the first call if the engine
refuses it. -/
def reached (e : Exchange) (sql : Value) (calls : List EngineCall) : List EngineCall :=
  if (e.refusal? sql).isSome then calls.take 1 else calls

/-- A statement is handed to the engine whether it is refused or not. -/
theorem executed_reached
    (e : Exchange) (c : Channel) (sql : Value) (values : List Value) :
    executed (e.reached sql (c.calls sql values)) = executed (c.calls sql values) := by
  unfold reached
  split
  · cases c <;> rfl
  · rfl

variable {e : Exchange} {w : World}

/-- A statement is executed, and fails if and only if it is refused. -/
theorem run_execute
    (h : e.answers = w.answers) (sql : Value) (values : List Value) :
    ∃ r w', run (Engine.execute sql values) w = (r, w') ∧
      w'.calls = w.calls ++ [.execute sql values] ∧ ((e.refusal? sql).isSome = !r.isOk) := by
  obtain ⟨r, hrun, -, hfails⟩ := run_answer (w := w.addCall (.execute sql values)) h sql
  refine ⟨r, _, hrun, rfl, ?_⟩
  cases r with
  | error f =>
      rw [(hfails f).mp rfl]
      rfl
  | ok cursor =>
      cases hrefusal : e.refusal? sql with
      | none =>
          rfl
      | some f =>
          cases (hfails f).mpr hrefusal

/-- What is done with the cursor of a statement comes between its first call and the last. -/
theorem calls_cursor
    {α : Type} (h : e.answers = w.answers) (sql : Value) (values : List Value)
    {inner : Answer → Routine α} {between : List EngineCall}
    (hinner : ∀ cursor w, (run (inner cursor) w).2.calls = w.calls ++ between) :
    (run (do
        let cursor ← Engine.execute sql values
        Engine.closingCursor cursor (inner cursor)) w).2.calls =
      w.calls ++ e.reached sql (.execute sql values :: (between ++ [.closeCursor])) := by
  obtain ⟨r, w', hrun, hcalls, hrefused⟩ := run_execute h sql values
  rw [Routine.run_bind, hrun, reached, hrefused]
  cases r with
  | error f =>
      exact hcalls
  | ok cursor =>
      rcases hdone : run (inner cursor) w' with ⟨r, w''⟩
      have hbetween := hinner cursor w'
      rw [hdone, hcalls] at hbetween
      change (run (Engine.closingCursor cursor (inner cursor)) w').2.calls = _
      rw [Engine.run_closingCursor hdone]
      change w''.calls ++ [.closeCursor] = _
      have hall : w''.calls = w.calls ++ [.execute sql values] ++ between := hbetween
      simp [hall, Except.isOk, Except.toBool]

/-- A script is one call, be it refused or not. -/
theorem calls_script
    (h : e.answers = w.answers) (sql : Value) :
    (run (Engine.script sql) w).2.calls = w.calls ++ [.script sql] := by
  obtain ⟨r, hrun, -⟩ := run_answer (w := w.addCall (.script sql)) h sql
  have hscript : run (Engine.script sql) w =
      run ((Engine.checkEncodable sql >>= fun _ => Engine.answer) >>= fun _ => pure ())
        (w.addCall (.script sql)) := by
    simp only [Engine.script, Engine.report, Routine.run_bind, Routine.run_change,
      Routine.run_wait, bind_assoc]
  rw [hscript, Routine.run_bind, hrun]
  cases r <;> rfl

end Exchange

namespace Session

/-- A fault passed on as it is unless it is the engine's, and wrapped with a statement
behind one line of error if it is.  One that has no words cannot be written about. -/
def wrapped (s : Session) : Ending := fun x sql =>
  if x.isEngineFailure then
    match x.words with
    | .ok text => (.statement sql x, [⟨s.logger, .error, statementFailure sql text⟩])
    | .error g => (g, [])
  else
    (x, [])

variable {α : Type} (s : Session) {m : Routine α} {w w' : World}

theorem run_guarded
    (hconnected : w.connected = true) :
    run (s.guarded m) w = run m w := by
  simp [guarded, connected, hconnected]

theorem run_guarded_of_closed
    (hclosed : w.connected = false) :
    run (s.guarded m) w = (.error (.closed s.settings.path), w) := by
  simp [guarded, connected, hclosed]

theorem run_wrapping_ok
    {a : α} (hrun : run m w = (.ok a, w')) (sql : Value) :
    run (s.wrapping sql m) w = (.ok a, w') := by
  simp [wrapping, hrun]

theorem run_wrapping_error
    {f : Fault} (hrun : run m w = (.error f, w')) (sql : Value) :
    run (s.wrapping sql m) w =
      (.error (s.wrapped f sql).1, { w' with lines := w'.lines ++ (s.wrapped f sql).2 }) := by
  by_cases hengine : f.isEngineFailure = true
  · cases hwords : f.words with
    | ok text =>
        simp [wrapping, wrapped, hrun, hengine, hwords, Measure.note]
        rfl
    | error g =>
        simp [wrapping, wrapped, hrun, hengine, hwords]
  · simp [wrapping, wrapped, hrun, hengine]

theorem calls_wrapping
    (sql : Value) (m : Routine α) (w : World) :
    (run (s.wrapping sql m) w).2.calls = (run m w).2.calls := by
  rcases hrun : run m w with ⟨r, w'⟩
  cases r with
  | ok a =>
      rw [s.run_wrapping_ok hrun]
  | error f =>
      rw [s.run_wrapping_error hrun]

/-- A statement that can be written is noted, and nothing but a line comes of it. -/
theorem run_noteStatement
    {sql : Value} {values : List Value} (hsql : s.logQueries = true → sql.displayable = true)
    (hvalues : s.logQueries = true → Value.allPrintable values = true) (w : World) :
    ∃ ls, run (s.noteStatement sql values) w = (.ok (), { w with lines := w.lines ++ ls }) := by
  by_cases hlog : s.logQueries = true
  · have hwords : sql.words = .ok sql.display := by
      simp [Value.words, hsql hlog]
    have hprinted : (Value.list values).printed = .ok (Value.list values).print := by
      have hprintable : (Value.list values).printable = true := hvalues hlog
      simp [Value.printed, hprintable]
    have htext : statementText sql values =
        .ok (sql.display ++ " | " ++ (Value.list values).print) := by
      rw [statementText, hwords, hprinted]
      rfl
    have hnote : s.noteStatement sql values = (do
        let text ← Routine.ofExcept (statementText sql values)
        Measure.note s.logger .info text) :=
      if_pos hlog
    rw [hnote, htext]
    exact ⟨_, rfl⟩
  · have hnote : s.noteStatement sql values = .result () := if_neg hlog
    rw [hnote]
    exact ⟨[], by simp⟩

/-- What is sent in its turn makes the calls that it makes on its own. -/
theorem calls_sent
    {sql : Value} {values : List Value} (hsql : s.logQueries = true → sql.displayable = true)
    (hvalues : Value.allPrintable values = true) (hconnected : w.connected = true)
    {m : Routine α} {calls : List EngineCall}
    (hm : ∀ w', w'.answers = w.answers → w'.calls = w.calls →
      (run m w').2.calls = w.calls ++ calls) :
    (run (s.guarded do
        s.noteStatement sql values
        s.wrapping sql m) w).2.calls = w.calls ++ calls := by
  obtain ⟨ls, hnote⟩ := s.run_noteStatement hsql (fun _ => hvalues) w
  have hturn : run (s.guarded do
      s.noteStatement sql values
      s.wrapping sql m) w = run (s.wrapping sql m) { w with lines := w.lines ++ ls } := by
    rw [s.run_guarded hconnected, Routine.run_bind, hnote]
  rw [hturn, calls_wrapping]
  exact hm _ rfl rfl

end Session

/-- Fetching rows is one call, whatever is made of them. -/
theorem Engine.calls_fetch
    {α : Type} (cursor : Answer) (next : List (List Value) → Routine α)
    (hnext : ∀ rows w, (run (next rows) w).2 = w) (w : World) :
    (run (fetch cursor >>= next) w).2.calls = w.calls ++ [.fetch] := by
  cases hfetch : cursor.cursorFailures.onFetch with
  | none =>
      simp [fetch, report, raise?, hfetch, hnext, World.addCall]
  | some i =>
      simp [fetch, report, raise?, hfetch, World.addCall]

/-- A routine whose result is looked at is in the same world behind that. -/
theorem Routine.world_bind_ofExcept
    {α β : Type} (m : Routine α) (look : α → Except Fault β) (w : World) :
    (run (m >>= fun a => ofExcept (look a)) w).2 = (run m w).2 := by
  rw [run_bind]
  rcases run m w with ⟨r, w'⟩
  cases r <;> rfl

/-- A statement sent on a connection makes all the calls of its channel, or the first alone
if it is refused. -/
theorem Channel.calls_send
    (s : Session) (c : Channel) {sql : Value} {values : List Value} {w : World}
    (hconnected : w.connected = true)
    (hsql : s.logQueries = true → sql.displayable = true)
    (hvalues : Value.allPrintable values = true) :
    (run (c.send s sql values) w).2.calls =
      w.calls ++ (Exchange.start w).reached sql (c.calls sql values) := by
  cases c with
  | reading =>
      have hrows := s.calls_sent hsql hvalues hconnected fun w' hanswers hcalls =>
        hcalls ▸ Exchange.calls_cursor (e := .start w) hanswers.symm sql values fun cursor =>
          Engine.calls_fetch cursor (fun rows => pure (cursor.columns.getD [], rows))
            fun _ _ => rfl
      exact (congrArg World.calls (Routine.world_bind_ofExcept _
        (fun table => Table.ofRows table.1 table.2) w)).trans hrows
  | changing =>
      have hcount : ∀ (cursor : Answer) (w : World), (run (do
          let count ← Routine.ofExcept (Session.changedRows cursor.rowCount)
          return (count, cursor.lastRow)) w).2.calls = w.calls ++ [] := by
        intro cursor w
        cases hchanged : Session.changedRows cursor.rowCount <;> simp
      exact s.calls_sent hsql hvalues hconnected fun w' hanswers hcalls =>
        hcalls ▸ Exchange.calls_cursor (e := .start w) hanswers.symm sql values hcount
  | script =>
      have hnone : Value.allPrintable [] = true := rfl
      have hscript : (Exchange.start w).reached sql (Channel.script.calls sql values) =
          [.script sql] := by
        simp [Exchange.reached, calls]
      rw [hscript]
      exact s.calls_sent hsql hnone hconnected fun w' hanswers hcalls =>
        hcalls ▸ Exchange.calls_script (e := .start w) hanswers.symm sql

end Datalink
