import Datalink.Transaction.Basic

/-!
# Operations on sessions and transactions

What callers ask of a session, or of a transaction over it, is an inductive type, so that
something can be said about all of it at once.

An operation has a statement with parameters: those that it was given, or those that its
query is put into.  When the parameters are bound, the statement is sent over one of three
channels, and what comes back is turned into the operation's result.

Results: an operation on a transaction is the operation on the session, called through
every transaction on the way.  On the session every operation is the same four steps: its
statement, its parameters bound, the statement sent and measured, and the result.
-/

namespace Datalink

/-- How a statement is sent: to read rows, to change rows, or as a script. -/
inductive Channel where
  | reading
  | changing
  | script
deriving DecidableEq, Inhabited

namespace Channel

/-- The type of what comes back over a channel. -/
abbrev Result : Channel → Type
  | reading => Table
  | changing => Value × Value
  | script => Unit

/-- The name under which a channel is measured. -/
def name : Channel → Text
  | reading => "sqlite.query_raw"
  | changing => "sqlite.execute_raw"
  | script => "sqlite.raw_cmd"

/-- The calls to the engine that a statement takes if nothing fails. -/
def calls (sql : Value) (values : List Value) : Channel → List EngineCall
  | reading => [.execute sql values, .fetch, .closeCursor]
  | changing => [.execute sql values, .closeCursor]
  | script => [.script sql]

/-- A statement sent with its parameters.  A script has none. -/
def send (s : Session) (sql : Value) (values : List Value) : (c : Channel) → Routine c.Result
  | reading => s.fetchTable sql values
  | changing => s.changeRows sql values
  | script => s.runScript sql

end Channel

/-- What callers ask of a session, or of a transaction. -/
inductive Operation where
  | queryRaw (sql params : Value)
  | raw (sql params : Value)
  | executeRaw (sql params : Value)
  | script (sql : Value)
  | query (q : Subject)
  | select (q : Subject)
  | execute (q : Subject)
  | insert (q : Subject)
  | update (q : Subject)
  | delete (q : Subject)
  | foreignKeys (on : Bool)
deriving Inhabited

namespace Operation

/-- The type of an operation's results. -/
abbrev Result : Operation → Type
  | queryRaw .. => Table
  | raw .. => Table
  | executeRaw .. => Value
  | script _ => Unit
  | query _ => Table
  | select _ => Table
  | execute _ => Option RowId
  | insert _ => Option RowId
  | update _ => Unit
  | delete _ => Unit
  | foreignKeys _ => Unit

/-- An operation called on what a handle stands for. -/
def perform (s : Session) (handle : Handle) : (o : Operation) → Routine o.Result
  | queryRaw sql params => handle.queryRaw s sql params
  | raw sql params => handle.raw s sql params
  | executeRaw sql params => handle.executeRaw s sql params
  | script sql => handle.script s sql
  | query q => handle.query s q
  | select q => handle.select s q
  | execute q => handle.execute s q
  | insert q => handle.insert s q
  | update q => handle.update s q
  | delete q => handle.delete s q
  | foreignKeys on => handle.foreignKeys s on

/-- The statement that a query is put into, with its parameters. -/
def lowered (q : Subject) : Except Fault (Value × Value) := do
  let statement ← q.render
  return (.text statement.sql, .list statement.params)

/-- The statement of an operation, with its parameters. -/
def statement : Operation → Except Fault (Value × Value)
  | queryRaw sql params => .ok (sql, params)
  | raw sql params => .ok (sql, params)
  | executeRaw sql params => .ok (sql, params)
  | script sql => .ok (sql, .null)
  | query q => lowered q
  | select q => lowered q
  | execute q => lowered q
  | insert q => lowered q
  | update q => lowered q
  | delete q => lowered q
  | foreignKeys on => .ok (Session.foreignKeyStatement on, .null)

/-- A statement with its parameters bound. -/
def bound (st : Value × Value) : Except Fault (Value × List Value) := do
  let values ← Parameter.bindAll st.2
  return (st.1, values)

/-- The statement of an operation, with its parameters bound. -/
def prepare (o : Operation) : Except Fault (Value × List Value) := o.statement >>= bound

/-- The channel over which the statement of an operation is sent. -/
def channel : Operation → Channel
  | queryRaw .. => .reading
  | raw .. => .reading
  | executeRaw .. => .changing
  | script _ => .script
  | query _ => .reading
  | select _ => .reading
  | execute _ => .changing
  | insert _ => .changing
  | update _ => .changing
  | delete _ => .changing
  | foreignKeys _ => .reading

/-- The number of the row that a query added, if it did. -/
def added (q : Subject) (changed : Value × Value) : Option RowId :=
  if q.isInsert then RowId.ofLast? changed.2 else none

/-- The result of an operation, from what came back over its channel. -/
def finish : (o : Operation) → o.channel.Result → o.Result
  | queryRaw .., table => table
  | raw .., table => table
  | executeRaw .., changed => changed.1
  | script _, _ => ()
  | query _, table => table
  | select _, table => table
  | execute q, changed => added q changed
  | insert q, changed => added q changed
  | update _, _ => ()
  | delete _, _ => ()
  | foreignKeys _, _ => ()

/-- A prepared statement of an operation, sent and measured. -/
def sendMeasured (s : Session) (o : Operation) (sql : Value) (values : List Value) :
    Routine o.channel.Result :=
  Measure.run .measure (.text o.channel.name) sql (.tuple values)
    (o.channel.send s sql values)

end Operation

namespace Handle

variable {α β : Type}

/-- Whether every transaction of a handle is open in a world. -/
def IsOpen (w : World) : Handle → Prop
  | session => True
  | within id base => w.phase id = .started ∧ base.IsOpen w

/-- What is done with the result of an operation is done behind all transactions. -/
theorem forward_bind
    (h : Handle) (m : Routine α) (next : α → Routine β) :
    h.forward (m >>= next) = h.forward m >>= next := by
  induction h with
  | session =>
      rfl
  | within id base ih =>
      simp only [forward, ih, bind_assoc]

/-- An operation called through an open transaction is handed on. -/
theorem forward_of_started
    {id : Nat} {w : World} (hphase : w.phase id = .started) (base : Handle) (m : Routine α) :
    (within id base).forward m w = base.forward m w := by
  change (ensureStarted id w).bind (fun _ => base.forward m) = _
  have hstarted : ensureStarted id w = .finished (.ok ()) w := by
    change (if w.phase id = .started then _ else _ : Routine Unit) w = _
    rw [if_pos hphase]
    rfl
  rw [hstarted]
  rfl

/-- An operation called through any other transaction is refused. -/
theorem forward_of_not_started
    {id : Nat} {w : World} (hphase : w.phase id ≠ .started) (base : Handle) (m : Routine α) :
    (within id base).forward m w = .finished (.error (.notStarted (w.phase id))) w := by
  change (ensureStarted id w).bind (fun _ => base.forward m) = _
  have hrefused : ensureStarted id w = .finished (.error (.notStarted (w.phase id))) w := by
    change (if w.phase id = .started then _ else _ : Routine Unit) w = _
    rw [if_neg hphase]
    rfl
  rw [hrefused]
  rfl

end Handle

namespace Operation

variable (s : Session)

/-- An operation is called through every transaction on the way to the session. -/
theorem perform_eq_forward
    (handle : Handle) (o : Operation) :
    o.perform s handle = handle.forward (o.perform s .session) := by
  cases o with
  | update q =>
      exact (handle.forward_bind (s.execute q) fun _ => pure ()).symm
  | delete q =>
      exact (handle.forward_bind (s.execute q) fun _ => pure ()).symm
  | _ =>
      rfl

/-- What is done with the words of a query is done with the statement that they make. -/
theorem ofExcept_render_bind
    {β : Type} (q : Subject) (next : Value → Value → Routine β) :
    (Routine.ofExcept q.render >>= fun st => next (.text st.sql) (.list st.params)) =
      Routine.ofExcept (lowered q) >>= fun st => next st.1 st.2 := by
  unfold lowered
  cases q.render <;> rfl

theorem ofExcept_bound_bind
    {β : Type} (st : Value × Value) (next : Value × List Value → Routine β) :
    Routine.ofExcept (bound st) >>= next =
      Routine.ofExcept (Parameter.bindAll st.2) >>= fun values => next (st.1, values) := by
  unfold bound
  cases Parameter.bindAll st.2 <;> rfl

/-- An operation on the session prepares its statement, sends it measured, and turns what
comes back into its result. -/
theorem perform_session
    (o : Operation) :
    o.perform s .session = do
      let st ← Routine.ofExcept o.prepare
      let back ← o.sendMeasured s st.1 st.2
      return o.finish back := by
  have hquery : ∀ q : Subject, s.query q =
      Routine.ofExcept (lowered q) >>= fun st => s.queryRaw st.1 st.2 :=
    fun q => ofExcept_render_bind q s.queryRaw
  have hexecute : ∀ q : Subject, s.execute q =
      Routine.ofExcept (lowered q) >>= fun st =>
        s.executeStatement st.1 st.2 >>= fun changed => pure (added q changed) :=
    fun q => ofExcept_render_bind q fun sql params =>
      s.executeStatement sql params >>= fun changed => pure (added q changed)
  have hquietly : ∀ q : Subject, Handle.executeQuietly s .session q =
      Routine.ofExcept (lowered q) >>= fun st =>
        s.executeStatement st.1 st.2 >>= fun _ => pure () := by
    intro q
    change s.execute q >>= (fun _ => pure ()) = _
    simp only [hexecute, bind_assoc, pure_bind]
  rw [prepare, Routine.ofExcept_bind, bind_assoc]
  simp only [ofExcept_bound_bind]
  cases o with
  | queryRaw sql params =>
      exact bind_congr fun values => (bind_pure _).symm
  | raw sql params =>
      exact bind_congr fun values => (bind_pure _).symm
  | executeRaw sql params =>
      exact bind_assoc _ _ _
  | script sql =>
      exact (bind_pure _).symm
  | query q =>
      exact (hquery q).trans (bind_congr fun st => bind_congr fun _ => (bind_pure _).symm)
  | select q =>
      exact (hquery q).trans (bind_congr fun st => bind_congr fun _ => (bind_pure _).symm)
  | execute q =>
      exact (hexecute q).trans (bind_congr fun st => bind_assoc (Routine.ofExcept _) _ _)
  | insert q =>
      exact (hexecute q).trans (bind_congr fun st => bind_assoc (Routine.ofExcept _) _ _)
  | update q =>
      exact (hquietly q).trans (bind_congr fun st => bind_assoc (Routine.ofExcept _) _ _)
  | delete q =>
      exact (hquietly q).trans (bind_congr fun st => bind_assoc (Routine.ofExcept _) _ _)
  | foreignKeys on =>
      exact bind_assoc (Routine.ofExcept (Parameter.bindAll .null)) _ _

end Operation

end Datalink
