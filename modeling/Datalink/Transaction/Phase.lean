import Datalink.Text.Basic

/-!
# Phases of a transaction

A transaction is new, then open, and at last committed or rolled back.  Three
control statements lead from one phase to the next.
-/

namespace Datalink

/-- How far a transaction has come. -/
inductive Phase where
  | new
  | started
  | committed
  | rolledBack
deriving DecidableEq, Inhabited

/-- The name of a phase in messages. -/
def Phase.name : Phase → Text
  | new => "new"
  | started => "open"
  | committed => "committed"
  | rolledBack => "rolled back"

/-- Whether a transaction in a phase is open. -/
def Phase.isOpen (p : Phase) : Bool := p = started

/-- A control statement. -/
inductive Control where
  | start
  | commit
  | rollback
deriving DecidableEq, Inhabited

namespace Control

/-- The text of a control statement. -/
def keyword : Control → Text
  | start => "BEGIN"
  | commit => "COMMIT"
  | rollback => "ROLLBACK"

/-- What a control statement does, in messages. -/
def deed : Control → Text
  | start => "begin"
  | commit => "commit"
  | rollback => "roll back"

/-- The phase that a control statement needs. -/
def before : Control → Phase
  | start => .new
  | commit => .started
  | rollback => .started

/-- The phase that a control statement leads to. -/
def after : Control → Phase
  | start => .started
  | commit => .committed
  | rollback => .rolledBack

end Control
end Datalink
