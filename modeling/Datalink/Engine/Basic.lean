import Datalink.Engine.Routine

/-!
# Calls to the engine

Every call is reported before it is made.  The engine makes its callers wait while it
executes a statement or a script, and while it fetches rows.  A statement without
encoding is refused when its turn comes, before the engine answers.

A failure that the engine reports leaves a routine, so the one that says that there are
no more items becomes another.
-/

namespace Datalink
namespace Engine

/-- A call reported. -/
def report (c : EngineCall) : Routine Unit := .change fun w => w.addCall c

/-- The fault of a statement that has no encoding. -/
def encodingFault? (sql : Value) : Option Fault :=
  match sql.asEncodable with
  | .error f => some f
  | .ok t => t.firstRun?.map .unencodable

/-- A statement that has an encoding. -/
def checkEncodable (sql : Value) : Routine Unit :=
  match encodingFault? sql with
  | some f => .fail f
  | none => .result ()

/-- A failure of the engine, if it reports one. -/
def raise? : Option Incident → Routine Unit
  | some i => .fail (.ofIncident i)
  | none => .result ()

/-- The engine's next answer, which may be a failure. -/
def answer : Routine Answer := do
  let a ← Routine.step World.nextAnswer
  raise? a.failure
  return a

/-- A connection opened. -/
def connect (cacheSize : Value) : Routine Unit := do
  report (.connect cacheSize)
  let _ ← answer
  return ()

/-- A statement executed; the answer is its cursor. -/
def execute (sql : Value) (params : List Value) : Routine Answer := do
  report (.execute sql params)
  Routine.wait .engine
  checkEncodable sql
  answer

/-- The rows of a cursor. -/
def fetch (cursor : Answer) : Routine (List (List Value)) := do
  report .fetch
  Routine.wait .engine
  raise? cursor.cursorFailures.onFetch
  return cursor.rows

/-- A cursor closed. -/
def closeCursor (cursor : Answer) : Routine Unit := do
  report .closeCursor
  raise? cursor.cursorFailures.onClose

/-- A cursor closed behind whatever was done with it. -/
def closingCursor {α : Type} (cursor : Answer) (m : Routine α) : Routine α :=
  m.followedBy (closeCursor cursor)

/-- A script of statements executed. -/
def script (sql : Value) : Routine Unit := do
  report (.script sql)
  Routine.wait .engine
  checkEncodable sql
  let _ ← answer
  return ()

/-- The connection closed. -/
def disconnect : Routine Unit := do
  report .disconnect
  let _ ← answer
  return ()

end Engine
end Datalink
