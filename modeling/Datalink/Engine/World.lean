import Datalink.Ledger
import Datalink.Table.Basic

/-!
# What operations see and change

Everything that an operation on a session can see or change is one value: whether
the connection is there, what the engine will answer, the calls made to the engine,
the lines written to the logs, the clock, the ledger with its files, and the phases
of the transactions.

Results: an answer, a reading of the clock, and what is done to the ledger change that
part of the world alone.
-/

namespace Datalink

/-- The weight of a line in a log. -/
inductive Level where
  | debug
  | info
  | error
deriving DecidableEq, Inhabited

/-- The logs that lines are written to: that of the reader of addresses, that of
sessions and their transactions, that of measurements, and one of the caller. -/
inductive Logger where
  | settings
  | session
  | measure
  | caller
deriving DecidableEq, Inhabited

/-- The name of a weight. -/
def Level.name : Level → Text
  | debug => "DEBUG"
  | info => "INFO"
  | error => "ERROR"

/-- The name of a log. -/
def Logger.name : Logger → Text
  | settings => "connector.params"
  | session => "connector.sqlite"
  | measure => "metrics.metrics"
  | caller => "injected"

/-- A line in a log. -/
structure LogLine where
  logger : Logger
  level : Level
  text : Text
deriving DecidableEq, Inhabited

/-- How a cursor fails on its own: when its rows are fetched, and when it is closed. -/
structure CursorFailures where
  onFetch : Option Incident
  onClose : Option Incident
deriving Inhabited

/-- A cursor of which nothing but a failure to fetch is told can be closed. -/
instance : Coe (Option Incident) CursorFailures := ⟨fun onFetch => ⟨onFetch, none⟩⟩

/-- What the engine answers to a call: a failure, or a cursor with the names of its
columns, its rows, the number of rows changed, and the number of the row added
last.  The cursor may fail on its own. -/
structure Answer where
  failure : Option Incident
  columns : Option (List Value)
  rows : List (List Value)
  rowCount : Value
  lastRow : Value
  cursorFailures : CursorFailures
deriving Inhabited

/-- An engine with nothing to say answers with an empty cursor. -/
def Answer.silent : Answer := ⟨none, none, [], .int (-1), .null, ⟨none, none⟩⟩

/-- A call made to the engine. -/
inductive EngineCall where
  | connect (cacheSize : Value)
  | execute (sql : Value) (params : List Value)
  | fetch
  | closeCursor
  | script (sql : Value)
  | disconnect
deriving Inhabited

/-- A clock is its readings, in seconds, one after the other.  While it stands it shows
zero and none of its readings is taken. -/
structure Clock where
  reading : Nat → Float
  taken : Nat
  standing : Bool
deriving Inhabited

/-- A clock that moves a quarter of a second with every reading. -/
def Clock.quarters : Clock := ⟨fun n => n.toFloat * 0.25, 0, false⟩

/-- A clock with the given readings, the last one repeating. -/
def Clock.ofList (readings : List Float) : Clock :=
  match readings.getLast? with
  | none => Clock.quarters
  | some last => ⟨fun n => readings.getD n last, 0, false⟩

/-- What operations see and change. -/
structure World where
  connected : Bool
  answers : List Answer
  calls : List EngineCall
  lines : List LogLine
  clock : Clock
  ledger : Option Ledger
  files : FileTree
  phases : List Phase
deriving Inhabited

namespace World

/-- A call more. -/
def addCall (w : World) (c : EngineCall) : World := { w with calls := w.calls ++ [c] }

/-- A line more. -/
def addLine (w : World) (line : LogLine) : World := { w with lines := w.lines ++ [line] }

/-- The next answer of the engine. -/
def nextAnswer (w : World) : Answer × World :=
  match w.answers with
  | [] => (Answer.silent, w)
  | a :: rest => (a, { w with answers := rest })

/-- The next reading of the clock. -/
def nextReading (w : World) : Float × World :=
  let c := w.clock
  if c.standing then (0.0, w)
  else (c.reading c.taken, { w with clock := { c with taken := c.taken + 1 } })

/-- Something done to the ledger and its files, if there is a ledger. -/
def onLedger (w : World)
    (f : Ledger → FileTree → Ledger × FileTree × Except Fault Unit) :
    Except Fault Unit × World :=
  match w.ledger with
  | none => (.ok (), w)
  | some l =>
      let (l, files, r) := f l w.files
      (r, { w with ledger := some l, files := files })

/-- An answer of the engine leaves fewer of them, and nothing else changes. -/
theorem nextAnswer_eq
    (w : World) :
    ∃ answers, w.nextAnswer.2 = { w with answers := answers } := by
  unfold nextAnswer
  cases w.answers with
  | nil =>
      exact ⟨w.answers, rfl⟩
  | cons a rest =>
      exact ⟨rest, rfl⟩

/-- Reading the clock changes the clock alone. -/
theorem nextReading_eq
    (w : World) :
    ∃ c, w.nextReading.2 = { w with clock := c } := by
  by_cases hstanding : w.clock.standing = true
  · exact ⟨w.clock, by simp [nextReading, hstanding]⟩
  · exact ⟨_, by simp only [nextReading, hstanding]; rfl⟩

/-- What is done to the ledger and its files changes nothing else. -/
theorem onLedger_eq
    (w : World) (f : Ledger → FileTree → Ledger × FileTree × Except Fault Unit) :
    ∃ ledger files, (w.onLedger f).2 = { w with ledger := ledger, files := files } := by
  unfold onLedger
  cases w.ledger with
  | none =>
      exact ⟨w.ledger, w.files, rfl⟩
  | some l =>
      exact ⟨_, _, rfl⟩

/-- The phase of a transaction. -/
def phase (w : World) (id : Nat) : Phase := w.phases.getD id .new

/-- A transaction in another phase. -/
def setPhase (w : World) (id : Nat) (phase : Phase) : World :=
  { w with phases := w.phases.set id phase }

/-- A transaction more, which is new. -/
def addTransaction (w : World) : Nat × World :=
  (w.phases.length, { w with phases := w.phases ++ [.new] })

end World
end Datalink
