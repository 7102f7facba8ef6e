import Datalink.Session.Basic

/-!
# Transactions

A transaction runs over a session or over another transaction, and every operation
on it is handed on to what it runs over, provided that it is open.  Statements of
other callers of the same session may run in between.

Results: a control statement that succeeds moves the transaction to its next phase,
and one that fails leaves it where it is.
-/

namespace Datalink

/-- What operations are called on: the session, or a transaction over it or over
another transaction. -/
inductive Handle where
  | session
  | within (id : Nat) (base : Handle)
deriving DecidableEq, Inhabited

/-- A transaction. -/
structure Transaction where
  id : Nat
  logger : Logger
  base : Handle
deriving DecidableEq, Inhabited

namespace Handle

/-- The phase of a transaction. -/
def phase (id : Nat) : Routine Phase := .step fun w => (w.phase id, w)

/-- Whether a transaction is open. -/
def ensureStarted (id : Nat) : Routine Unit := do
  let phase ← phase id
  if phase = .started then return () else Routine.fail (.notStarted phase)

/-- An operation of the session, called through every transaction on the way. -/
def forward {α : Type} (h : Handle) (m : Routine α) : Routine α :=
  match h with
  | session => m
  | within id base => do
      ensureStarted id
      base.forward m

/-- A reading statement with its parameters. -/
def queryRaw (s : Session) (h : Handle) (sql params : Value) : Routine Table :=
  h.forward (s.queryRaw sql params)

/-- A changing statement with its parameters. -/
def executeRaw (s : Session) (h : Handle) (sql params : Value) : Routine Value :=
  h.forward (s.executeRaw sql params)

/-- A script of statements without parameters. -/
def script (s : Session) (h : Handle) (sql : Value) : Routine Unit :=
  h.forward (s.script sql)

/-- A structured query that reads. -/
def query (s : Session) (h : Handle) (q : Subject) : Routine Table :=
  h.forward (s.query q)

/-- A structured query that changes rows. -/
def execute (s : Session) (h : Handle) (q : Subject) : Routine (Option RowId) :=
  h.forward (s.execute q)

/-- A structured query that changes rows, whose result is of no interest. -/
def executeQuietly (s : Session) (h : Handle) (q : Subject) : Routine Unit := do
  let _ ← h.execute s q
  return ()

/-- Foreign key constraints turned on or off. -/
def foreignKeys (s : Session) (h : Handle) (on : Bool) : Routine Unit :=
  h.forward (s.foreignKeys on)

/-- A reading statement with its parameters, by its shorter name. -/
def raw (s : Session) (h : Handle) (sql params : Value) : Routine Table :=
  h.queryRaw s sql params

/-- Rows selected. -/
def select (s : Session) (h : Handle) (q : Subject) : Routine Table := h.query s q

/-- A row added. -/
def insert (s : Session) (h : Handle) (q : Subject) : Routine (Option RowId) := h.execute s q

/-- Rows changed. -/
def update (s : Session) (h : Handle) (q : Subject) : Routine Unit := h.executeQuietly s q

/-- Rows removed. -/
def delete (s : Session) (h : Handle) (q : Subject) : Routine Unit := h.executeQuietly s q

/-- An operation, by its name, that sessions have and transactions have not. -/
def sessionOnly {α : Type} (h : Handle) (operation : Text) (m : Routine α) : Routine α :=
  match h with
  | session => m
  | within .. => Routine.fail (.memberMissing "Transaction" operation)

/-- The session's file attached under a name. -/
def attach (s : Session) (h : Handle) (name : Value) : Routine Unit :=
  h.sessionOnly "attach_database" (s.attach name)

/-- The connection closed. -/
def close (s : Session) (h : Handle) : Routine Unit := h.sessionOnly "close" s.close

/-- Whether the connection is there, for a caller who wants to know about the
session. -/
def connected (h : Handle) : Routine Bool := h.sessionOnly "file_path" Session.connected

end Handle

namespace Transaction

open Datalink.Measure (note)

/-- The handle of a transaction. -/
def handle (t : Transaction) : Handle := .within t.id t.base

/-- A new transaction over a session. -/
def overSession (s : Session) : Routine Transaction := do
  let id ← Routine.step World.addTransaction
  return ⟨id, s.logger, .session⟩

/-- A new transaction over another one, which there must be. -/
def overTransaction (outer : Option Transaction) (logger : Option Logger) :
    Routine Transaction :=
  match outer with
  | none => Routine.fail .noBackend
  | some outer => do
      let id ← Routine.step World.addTransaction
      return ⟨id, logger.getD outer.logger, outer.handle⟩

/-- The phase of a transaction. -/
def phase (t : Transaction) : Routine Phase := Handle.phase t.id

/-- The refusal of a control statement in the wrong phase. -/
def refusal (c : Control) (phase : Phase) : Fault :=
  match c with
  | .start => .alreadyStarted phase
  | _ => .notStarted phase

/-- The line about a control statement that failed. -/
def failureNote (c : Control) (failure : Text) : Text :=
  "Failed to " ++ c.keyword ++ " transaction: " ++ failure

/-- The line about a control statement that succeeded. -/
def successNote (c : Control) : Text := c.keyword ++ " transaction"

/-- A control statement. -/
def control (s : Session) (t : Transaction) (c : Control) : Routine Unit := do
  let phase ← t.phase
  if phase = c.before then
    match ← (t.base.executeRaw s (.text c.keyword) .null).attempt with
    | .ok _ =>
        Routine.change fun w => w.setPhase t.id c.after
        note t.logger .info (successNote c)
    | .error f =>
        if f.isInterrupt then
          Routine.fail f
        else
          let failure ← Routine.ofExcept f.words
          note t.logger .error (failureNote c failure)
          Routine.fail (.control c f)
  else
    Routine.fail (refusal c phase)

/-- The way into a block: a new transaction is begun. -/
def enter (s : Session) (t : Transaction) : Routine Unit := do
  let phase ← t.phase
  if phase = .new then t.control s .start else return ()

/-- The line about a block that failed. -/
def blockFailure (failure : Text) : Text :=
  "ROLLBACK transaction after error: " ++ failure

/-- The line about a rollback that failed after the block had failed. -/
def rollbackFailure (f : Fault) : Text :=
  "Rollback after error failed, keeping original error: " ++ f.message

/-- The way out of a block: an open transaction is committed if the block ended, and
rolled back if it failed.  A rollback that fails is only logged. -/
def leave (s : Session) (t : Transaction) (failure : Option Fault) : Routine Unit := do
  let phase ← t.phase
  if phase = .started then
    match failure with
    | none => t.control s .commit
    | some f =>
        let failure ← Routine.ofExcept f.described
        note t.logger .error (blockFailure failure)
        match ← (t.control s .rollback).attempt with
        | .ok () => return ()
        | .error g =>
            if g.isTransactionFault then
              note t.logger .error (rollbackFailure g)
            else
              Routine.fail g
  else
    return ()

/-- A block within a transaction. -/
def block {α : Type} (s : Session) (t : Transaction) (body : Routine α) : Routine α := do
  t.enter s
  match ← body.attempt with
  | .ok a =>
      t.leave s none
      return a
  | .error f =>
      t.leave s (some f)
      Routine.fail f

/-- A new transaction over a session, begun. -/
def start (s : Session) : Routine Transaction := do
  let t ← overSession s
  t.control s .start
  return t

/-- A new transaction over what a handle stands for, which must be a session. -/
def new (s : Session) (h : Handle) : Routine Transaction :=
  h.sessionOnly "transaction" (overSession s)

/-- A new transaction over what a handle stands for, begun. -/
def begun (s : Session) (h : Handle) : Routine Transaction :=
  h.sessionOnly "start_transaction" (start s)

/-- An operation, by its name, that transactions have and sessions have not. -/
def only {α : Type} (t : Option Transaction) (operation : Text)
    (m : Transaction → Routine α) : Routine α :=
  match t with
  | some t => m t
  | none => Routine.fail (.memberMissing "Sqlite" operation)

end Transaction
end Datalink
