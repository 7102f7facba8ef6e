import Datalink.Engine.Basic
import Datalink.Engine.Measure
import Datalink.Parameter
import Datalink.RowId
import Datalink.Settings
import Datalink.Statement.Render

/-!
# Sessions

A session is one connection to the engine.  The connection is opened on a database
in memory; the file that the settings name is attached on demand.

Every operation takes its turn on the connection and keeps it for its whole
sequence of calls.  A failure of the engine is wrapped with the text of the
statement that was being run; every other failure leaves the operation as it is.
-/

namespace Datalink

/-- What stays the same about a session. -/
structure Session where
  settings : Settings
  logQueries : Bool
  logger : Logger
deriving Inhabited

/-- How a session logs. -/
structure SessionOptions where
  logQueries : Bool
  logger : Logger
deriving DecidableEq, Inhabited

namespace Session

open Datalink.Measure (note)

/-- A session in text. -/
def print (s : Session) (connected : Bool) : Text :=
  "Sqlite(file_path=" ++ s.settings.path.print ++ ", closed=" ++
    (Value.bool (!connected)).print ++ ")"

/-- Lines about discarded settings. -/
def noteDiscarded : List Text → Routine Unit
  | [] => .result ()
  | key :: keys => do
      note .settings .debug (Settings.discardNote key)
      noteDiscarded keys

/-- A session with settings. -/
def openWith (options : SessionOptions) (settings : Settings) : Routine Session := do
  match ← (Engine.connect settings.cacheSize).attempt with
  | .ok () =>
      Routine.change fun w => { w with connected := true }
      return ⟨settings, options.logQueries, options.logger⟩
  | .error f =>
      if f.isEngineFailure then
        let _ ← Routine.ofExcept f.words
        Routine.fail (.openFailed settings.path f)
      else
        Routine.fail f

/-- A session at an address. -/
def openAt (surroundings : Surroundings) (options : SessionOptions) (address : Value) :
    Routine Session := do
  let (discarded, settings) := Settings.read surroundings address
  noteDiscarded discarded
  let settings ← Routine.ofExcept settings
  openWith options settings

/-- Whether the connection is there. -/
def connected : Routine Bool := .step fun w => (w.connected, w)

/-- A routine that has the connection to itself. -/
def guarded {α : Type} (s : Session) (m : Routine α) : Routine α := do
  Routine.wait .turn
  if ← connected then m else Routine.fail (.closed s.settings.path)

/-- The text of a statement that is sent to the engine, with its parameters. -/
def statementText (sql : Value) (params : List Value) : Except Fault Text := do
  let sql ← sql.words
  let params ← (Value.list params).printed
  return sql ++ " | " ++ params

/-- The line about a statement that is sent to the engine, if statements are
logged. -/
def noteStatement (s : Session) (sql : Value) (params : List Value) : Routine Unit :=
  if s.logQueries then do
    let text ← Routine.ofExcept (statementText sql params)
    note s.logger .info text
  else
    .result ()

/-- The line about a statement that the engine refused. -/
def statementFailure (sql : Value) (failure : Text) : Text :=
  "SQLite error during query: " ++ failure ++ " | " ++ sql.display

/-- A routine whose failures, if they are the engine's, are logged and wrapped. -/
def wrapping {α : Type} (s : Session) (sql : Value) (m : Routine α) : Routine α := do
  match ← m.attempt with
  | .ok a => return a
  | .error f =>
      if f.isEngineFailure then
        let failure ← Routine.ofExcept f.words
        note s.logger .error (statementFailure sql failure)
        Routine.fail (.statement sql f)
      else
        Routine.fail f

/-- The refusal of a number of rows changed. -/
def refuseCount (count : Value) : Fault :=
  if count.displayable then .negativeCount count else .digitLimit

/-- The number of rows changed, which is not negative; minus one says that the
statement changes no rows. -/
def changedRows (count : Value) : Except Fault Value :=
  match count.equals (.int (-1)) with
  | .error f => .error f
  | .ok true => .ok (.int 0)
  | .ok false =>
      match count.compare .less (.int 0) with
      | .error f => .error f
      | .ok true => .error (refuseCount count)
      | .ok false => .ok count

theorem changedRows_int
    (n : Int) :
    changedRows (.int n) =
      if n = -1 then .ok (.int 0)
      else if n < 0 then .error (refuseCount (.int n))
      else .ok (.int n) := by
  by_cases h : n = -1
  · simp [changedRows, h]
  · have hne : (n == -1) = false := by
      simpa using h
    by_cases hneg : n < 0 <;> simp [changedRows, h, hne, hneg]

/-- The rows that a statement yields. -/
def fetchTable (s : Session) (sql : Value) (params : List Value) : Routine Table := do
  let (columns, rows) ← s.guarded do
    s.noteStatement sql params
    s.wrapping sql do
      let cursor ← Engine.execute sql params
      Engine.closingCursor cursor do
        let rows ← Engine.fetch cursor
        return (cursor.columns.getD [], rows)
  Routine.ofExcept (Table.ofRows columns rows)

/-- The number of rows that a statement changes, and the number of the row that it
added last. -/
def changeRows (s : Session) (sql : Value) (params : List Value) :
    Routine (Value × Value) :=
  s.guarded do
    s.noteStatement sql params
    s.wrapping sql do
      let cursor ← Engine.execute sql params
      Engine.closingCursor cursor do
        let count ← Routine.ofExcept (changedRows cursor.rowCount)
        return (count, cursor.lastRow)

/-- A script run. -/
def runScript (s : Session) (sql : Value) : Routine Unit :=
  s.guarded do
    s.noteStatement sql []
    s.wrapping sql (Engine.script sql)

/-- The name under which reading statements are measured. -/
def queryName : Value := .text "sqlite.query_raw"

/-- The name under which changing statements are measured. -/
def executeName : Value := .text "sqlite.execute_raw"

/-- The name under which scripts are measured. -/
def scriptName : Value := .text "sqlite.raw_cmd"

/-- A reading statement with its parameters. -/
def queryRaw (s : Session) (sql params : Value) : Routine Table := do
  let values ← Routine.ofExcept (Parameter.bindAll params)
  Measure.run .measure queryName sql (.tuple values) (s.fetchTable sql values)

/-- A changing statement with its parameters. -/
def executeStatement (s : Session) (sql params : Value) : Routine (Value × Value) := do
  let values ← Routine.ofExcept (Parameter.bindAll params)
  Measure.run .measure executeName sql (.tuple values) (s.changeRows sql values)

/-- The number of rows that a changing statement changes. -/
def executeRaw (s : Session) (sql params : Value) : Routine Value := do
  let (count, _) ← s.executeStatement sql params
  return count

/-- A script of statements without parameters. -/
def script (s : Session) (sql : Value) : Routine Unit :=
  Measure.run .measure scriptName sql (.tuple []) (s.runScript sql)

/-- A structured query that reads. -/
def query (s : Session) (q : Subject) : Routine Table := do
  let statement ← Routine.ofExcept q.render
  s.queryRaw (.text statement.sql) (.list statement.params)

/-- A structured query that changes rows.  A query that adds a row yields the number
of that row. -/
def execute (s : Session) (q : Subject) : Routine (Option RowId) := do
  let statement ← Routine.ofExcept q.render
  let (_, last) ← s.executeStatement (.text statement.sql) (.list statement.params)
  return (if q.isInsert then RowId.ofLast? last else none)

/-- The statement that turns foreign key constraints on or off. -/
def foreignKeyStatement (on : Bool) : Value :=
  .text (if on then "PRAGMA foreign_keys = ON" else "PRAGMA foreign_keys = OFF")

/-- Foreign key constraints turned on or off. -/
def foreignKeys (s : Session) (on : Bool) : Routine Unit := do
  let _ ← s.queryRaw (foreignKeyStatement on) .null
  return ()

/-- The second column of every row, whose values must be usable as names. -/
def secondColumn : List (List Value) → Except Fault (List Value)
  | [] => .ok []
  | (_ :: v :: _) :: rows =>
      match v.checkKey with
      | .error f => .error f
      | .ok () =>
          match secondColumn rows with
          | .error f => .error f
          | .ok vs => .ok (v :: vs)
  | _ :: _ => .error .indexOutOfRange

/-- The statement that lists the attached databases. -/
def listStatement : Value := .text "PRAGMA database_list"

/-- The statement that attaches a file under a name. -/
def attachStatement : Value := .text "ATTACH DATABASE ? AS ?"

/-- The session's file attached under a name, unless that name is attached already,
and foreign key constraints turned on. -/
def attach (s : Session) (name : Value) : Routine Unit :=
  s.guarded do
    let attached ← s.wrapping listStatement do
      let cursor ← Engine.execute listStatement []
      Engine.closingCursor cursor do
        let rows ← Engine.fetch cursor
        Routine.ofExcept (secondColumn rows)
    let known ← Routine.ofExcept (name.isIn attached)
    if !known then
      let params : List Value := [s.settings.path, name]
      s.noteStatement attachStatement params
      let _ ← s.wrapping attachStatement (Engine.execute attachStatement params)
    let _ ← s.wrapping (foreignKeyStatement true)
      (Engine.execute (foreignKeyStatement true) [])
    return ()

/-- The line about a connection that was closed. -/
def closedNote (s : Session) : Text :=
  "Closed connection for " ++ s.settings.path.display

/-- The connection closed.  Closing it again does nothing. -/
def close (s : Session) : Routine Unit := do
  Routine.wait .turn
  if ← connected then
    Routine.change fun w => { w with connected := false }
    Engine.disconnect
    note s.logger .info s.closedNote

end Session
end Datalink
