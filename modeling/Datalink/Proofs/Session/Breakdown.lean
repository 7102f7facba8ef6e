import Datalink.Proofs.Engine.Exchange
import Datalink.Proofs.Session.Binding

/-!
# Operations that break off

Input: an operation on a session that is connected, or a request to attach a database, and
an engine that answers as it likes.  The calls that are made and the answers tell whether
exactly one call failed.

Results: if one did, no more is sent to the engine, and the session stays connected.  A
failure of the engine is wrapped with the statement that was being run behind one line of
error, and any other fault is passed on without one.  The failures that the engine makes are
taken to have words.
-/

namespace Datalink

open Routine (run)

namespace Session

/-- A fault passed on as it should be: behind one line of error if it is the engine's, and
wrapped with the statement then. -/
def passedOn (s : Session) : Ending := fun x sql =>
  if x.isEngineFailure then
    (.statement sql x, [⟨s.logger, .error, statementFailure sql x.message⟩])
  else
    (x, [])

theorem complaints_wrapped
    (s : Session) (x : Fault) (sql : Value) :
    complaints (s.wrapped x sql).2 = (s.wrapped x sql).2 := by
  unfold wrapped
  split
  · split <;> rfl
  · rfl

end Session

namespace Talks

open Exchange (Holds Ran)

variable {α : Type} (s : Session) {P : Exchange → Prop} {E : Ending} {m : Routine α}
variable {Q : Exchange → Except Fault α → Prop}

theorem guarded
    (hm : Talks P E m Q) :
    Talks P E (s.guarded m) Q := by
  intro e w he hanswers hconnected
  rw [s.run_guarded hconnected]
  exact hm e w he hanswers hconnected

theorem noteStatement
    (sql : Value) (values : List Value) :
    Talks P E (s.noteStatement sql values) fun _ _ => True := by
  unfold Session.noteStatement
  split
  · have htext : Talks P E (Routine.ofExcept (Session.statementText sql values))
        fun _ _ => True :=
      ofExcept (Session.statementText_failsInternally sql values) fun _ _ => trivial
    exact htext.bind (fun _ => note _ (by rintro ⟨⟩) _) fun _ _ _ => trivial
  · exact ofExcept (r := .ok ()) trivial fun _ _ => trivial

/-- What is wrapped with a statement is done while that statement is being run. -/
theorem wrapping
    {sql : Value} (hm : Talks P .plain m Q) (hsql : ∀ e r, Q e r → e.statement = sql) :
    Talks P s.wrapped (s.wrapping sql m) fun _ _ => True := by
  intro e w he hanswers hconnected
  obtain ⟨cs, ls, h⟩ := hm e w he hanswers hconnected
  rcases hrun : run m w with ⟨r, w'⟩
  rw [hrun] at h
  cases r with
  | ok a =>
      rw [s.run_wrapping_ok hrun]
      refine ⟨cs, ls, { h with post := trivial, broken := ?_ }⟩
      intro x hx
      obtain ⟨sql', -, hfault, -⟩ := h.broken x hx
      cases hfault
  | error f =>
      rw [s.run_wrapping_error hrun]
      refine ⟨cs, ls ++ (s.wrapped f sql).2, ?_⟩
      exact
        { calls := h.calls
          lines := by
            rw [← List.append_assoc, ← h.lines]
          answers := h.answers
          connected := h.connected
          post := trivial
          clean := by
            intro hclean
            obtain ⟨hquiet, hblame⟩ := h.clean hclean
            have hf := hblame f rfl
            have hwrapped : s.wrapped f sql = (f, []) := by
              simp [Session.wrapped, hf]
            rw [hwrapped, List.append_nil]
            refine ⟨hquiet, ?_⟩
            rintro g ⟨⟩
            exact hf
          broken := by
            intro x hx
            obtain ⟨sql', hoff, hfault, hquiet⟩ := h.broken x hx
            obtain rfl : f = x := Except.error.inj hfault
            obtain rfl : sql = sql' := (hsql _ _ h.post).symm.trans hoff.statement_eq
            refine ⟨sql, hoff, rfl, ?_⟩
            rw [complaints_append, hquiet, s.complaints_wrapped]
            rfl }

/-- What is sent in its turn is noted first, and wrapped with its statement. -/
theorem sent
    (sql : Value) (values : List Value) (hm : Talks (fun _ => True) .plain m Q)
    (hsql : ∀ e r, Q e r → e.statement = sql) :
    Talks P s.wrapped
      (s.guarded do
        s.noteStatement sql values
        s.wrapping sql m) fun _ _ => True := by
  refine guarded s ?_
  exact (noteStatement s sql values).bind (fun _ => wrapping s hm hsql) fun _ _ _ => trivial

/-- A statement executed, and something done with its cursor before that is closed. -/
theorem cursor
    (sql : Value) (values : List Value) {inner : Answer → Routine α}
    (hinner : ∀ cursor,
      Talks (Holds sql cursor) .plain (inner cursor) fun e _ => e.Holds sql cursor) :
    Talks P .plain
      (do
        let cursor ← Engine.execute sql values
        Engine.closingCursor cursor (inner cursor))
      fun e _ => e.statement = sql := by
  refine (execute sql values).bind (fun cursor => ?_) fun _ _ he => he
  exact (closingCursor (hinner cursor)).mono (fun _ he => he) fun _ _ he => he.1

/-- Rows fetched and looked at. -/
theorem fetched
    (sql : Value) (cursor : Answer) {look : List (List Value) → Except Fault α}
    (hlook : ∀ rows, FailsInternally (look rows)) :
    Talks (Holds sql cursor) .plain
      (do
        let rows ← Engine.fetch cursor
        Routine.ofExcept (look rows))
      fun e _ => e.Holds sql cursor :=
  (fetch sql cursor).bind (fun rows => ofExcept (hlook rows) fun _ he => he) fun _ _ he => he

theorem send
    (c : Channel) (sql : Value) (values : List Value) :
    Talks P s.wrapped (c.send s sql values) fun _ _ => True := by
  cases c with
  | reading =>
      have hfetched : ∀ cursor, Talks (Holds sql cursor) .plain
          (do
            let rows ← Engine.fetch cursor
            return (cursor.columns.getD [], rows))
          fun e _ => e.Holds sql cursor :=
        fun cursor => fetched sql cursor fun _ => trivial
      have hrows := sent (P := P) s sql values (cursor sql values hfetched) fun _ _ he => he
      refine hrows.bind (fun _ => ?_) fun _ _ _ => trivial
      exact ofExcept (Table.ofRows_failsInternally ..) fun _ _ => trivial
  | changing =>
      have hcount : ∀ cursor, Talks (Holds sql cursor) .plain
          (Routine.ofExcept (Session.changedRows cursor.rowCount))
          fun e _ => e.Holds sql cursor :=
        fun cursor => ofExcept (Session.changedRows_failsInternally _) fun _ he => he
      refine sent s sql values (cursor sql values fun cursor => ?_) fun _ _ he => he
      exact (hcount cursor).bind (fun _ => pure fun _ he => he) fun _ _ he => he
  | script =>
      exact sent s sql [] (script sql) fun _ _ he => he

theorem attach
    (name : Value) :
    Talks P s.wrapped (s.attach name) fun _ _ => True := by
  refine guarded s ?_
  have hlist := wrapping (P := P) s
    (cursor Session.listStatement [] fun cursor =>
      fetched Session.listStatement cursor Session.secondColumn_failsInternally)
    fun _ _ he => he
  refine hlist.bind (fun attached => ?_) fun _ _ _ => trivial
  have hknown : Talks (fun _ => True) s.wrapped (Routine.ofExcept (name.isIn attached))
      fun _ _ => True :=
    ofExcept (name.isIn_failsInternally attached) fun _ _ => trivial
  refine hknown.bind (fun known => ?_) fun _ _ _ => trivial
  have hexecute : ∀ sql values, Talks (fun _ => True) s.wrapped
      (s.wrapping sql (Engine.execute sql values)) fun _ _ => True := by
    intro sql values
    refine wrapping s (execute sql values) fun e r he => ?_
    cases r with
    | ok cursor =>
        exact he.1
    | error f =>
        exact he
  have hkeys : Talks (fun _ => True) s.wrapped (do
      let _ ← s.wrapping (Session.foreignKeyStatement true)
        (Engine.execute (Session.foreignKeyStatement true) [])
      return ()) fun _ _ => True :=
    (hexecute _ _).bind (fun _ => pure fun _ _ => trivial) fun _ _ _ => trivial
  cases known with
  | true =>
      exact hkeys
  | false =>
      refine (noteStatement s _ _).bind (fun _ => ?_) fun _ _ _ => trivial
      exact (hexecute _ _).bind (fun _ => hkeys) fun _ _ _ => trivial

end Talks

namespace Session

variable (s : Session) (sql : Value) {x : Fault}

theorem wrapped_of_worded
    (h : x.Worded) :
    s.wrapped x sql = s.passedOn x sql := by
  have hwords : x.words = .ok x.message := h
  simp [wrapped, passedOn, hwords]

variable {w : World}

/-- A session connected to an engine that gives an answer. -/
def answering (a : Answer) : World :=
  { (default : World) with connected := true, answers := [a] }

/-- A failure to read from the file. -/
def readFailure : Incident := ⟨"OperationalError", .text "disk I/O error"⟩

/-- A session whose cursor cannot be read from. -/
def unreadable : World :=
  answering { Answer.silent with cursorFailures := ⟨some readFailure, none⟩ }

/-- Rows looked for. -/
def lookup : Operation := .queryRaw (.text "SELECT 1") .null

end Session

end Datalink
