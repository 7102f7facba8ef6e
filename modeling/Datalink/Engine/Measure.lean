import Datalink.Engine.Routine

/-!
# Measured operations

An operation is measured from outside: its result or its failure is passed on
unchanged, one line about it is written to a log, and the ledger takes one
observation of it.  A ledger that fails costs a further line and nothing else.
-/

namespace Datalink
namespace Measure

/-- A line in a log. -/
def note (logger : Logger) (level : Level) (text : Text) : Routine Unit :=
  .change fun w => w.addLine ⟨logger, level, text⟩

/-- A reading of the clock, in seconds. -/
def now : Routine Float := .step World.nextReading

/-- An observation handed to the ledger, if there is one. -/
def enter (o : Observation) : Routine (Except Fault Unit) :=
  .step fun w => w.onLedger fun l files => l.record o files

/-- The line about a ledger that failed. -/
def ledgerFailure (name : Value) (f : Fault) : Text :=
  "Failed to record metrics for " ++ name.display ++ ": " ++ f.message

/-- An observation written about and handed to the ledger. -/
def publish (logger : Logger) (o : Observation) : Routine Unit := do
  let line ← Routine.ofExcept o.line
  note logger .debug line
  match ← enter o with
  | .ok () => return ()
  | .error f => note logger .error (ledgerFailure o.name f)

/-- The text of a failure, if there was one. -/
def failureText : Option Fault → Except Fault Value
  | none => .ok .null
  | some f =>
      match f.words with
      | .error g => .error g
      | .ok t => .ok (.text t)

/-- The end of a measured operation, with its failure if it failed: the line about it,
and its observation. -/
def conclude (logger : Logger) (name sql params : Value) (start : Float)
    (failure : Option Fault) : Routine Unit := do
  let stop ← now
  let error ← Routine.ofExcept (failureText failure)
  let o ← Routine.ofExcept
    (Observation.make name sql params (.real ((stop - start) * 1000.0))
      (.bool failure.isNone) error)
  publish logger o

/-- An operation, measured.  A request to stop the program is no outcome to
measure. -/
def run {α : Type} (logger : Logger) (name sql params : Value) (m : Routine α) :
    Routine α := do
  let start ← now
  match ← m.attempt with
  | .ok a =>
      conclude logger name sql params start none
      return a
  | .error f =>
      if f.isInterrupt then
        Routine.fail f
      else
        conclude logger name sql params start (some f)
        Routine.fail f

end Measure
end Datalink
