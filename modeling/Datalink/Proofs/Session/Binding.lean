import Datalink.Proofs.Parameter.Binding
import Datalink.Proofs.Session.Sending
import Datalink.Proofs.Transaction.Forwarding

/-!
# Operations and their parameters

Input: an operation on a session or through open transactions, with any arguments, in any
world.

Results: an operation whose query cannot be put into words, or whose parameters cannot be
bound, ends at once with the fault of that, and nothing has changed.  Any other makes calls
of its channel alone, so that whatever it executes is its statement with its parameters as
they were bound.  On a connection it makes all these calls unless the engine refuses the
statement.
-/

namespace Datalink

open Routine (run)

/-- Whether a world comes of another one by calls that are among some. -/
def World.CalledOnly (A : EngineCall → Prop) (before after : World) : Prop :=
  ∃ calls, after.calls = before.calls ++ calls ∧ ∀ c ∈ calls, A c

theorem steady_calledOnly
    (A : EngineCall → Prop) (before : World) :
    Steady A (World.CalledOnly A before) := by
  refine .of_core (fun w w' _ hcalls _ h => ?_) fun w c hc h => ?_
  · rw [World.CalledOnly, hcalls]
    exact h
  · obtain ⟨calls, hcalls, hall⟩ := h
    refine ⟨calls ++ [c], by simp [World.addCall, hcalls], fun d hd => ?_⟩
    rcases List.mem_append.mp hd with hd | hd
    · exact hall d hd
    · rw [List.mem_singleton.mp hd]
      exact hc

namespace Channel

/-- What is executed over a channel is the statement with its values. -/
theorem eq_of_execute_mem_calls
    {c : Channel} {sql st : Value} {values ps : List Value}
    (h : .execute st ps ∈ c.calls sql values) :
    st = sql ∧ ps = values := by
  cases c <;> simp_all [calls]

end Channel

namespace Operation

variable (s : Session) {w : World}

theorem prepare_of_statement
    {o : Operation} {sql params : Value} (h : o.statement = .ok (sql, params)) :
    o.prepare = (Parameter.bindAll params).map fun values => (sql, values) := by
  unfold prepare
  rw [h]
  change bound (sql, params) = _
  unfold bound
  cases Parameter.bindAll params <;> rfl

/-- An operation is prepared from its statement, the parameters of which were bound. -/
theorem exists_of_prepare
    {o : Operation} {sql : Value} {values : List Value} (h : o.prepare = .ok (sql, values)) :
    ∃ params, o.statement = .ok (sql, params) ∧ Parameter.bindAll params = .ok values := by
  cases hstatement : o.statement with
  | error f =>
      rw [prepare, hstatement] at h
      cases h
  | ok st =>
      rw [prepare_of_statement hstatement] at h
      cases hvalues : Parameter.bindAll st.2 with
      | error f =>
          rw [hvalues] at h
          cases h
      | ok bound =>
          rw [hvalues] at h
          cases h
          exact ⟨st.2, rfl, hvalues⟩

/-- The parameters of a prepared statement were bound, so they are bound to themselves. -/
theorem bind_of_mem_prepare
    {o : Operation} {sql v : Value} {values : List Value} (h : o.prepare = .ok (sql, values))
    (hv : v ∈ values) :
    Parameter.bind v = .ok v := by
  obtain ⟨params, -, hvalues⟩ := exists_of_prepare h
  obtain ⟨u, -, hbind⟩ := Parameter.exists_of_mem_bindAll hvalues hv
  exact Parameter.bind_bind hbind

/-- They can be written, therefore. -/
theorem allPrintable_of_prepare
    {o : Operation} {sql : Value} {values : List Value} (h : o.prepare = .ok (sql, values)) :
    Value.allPrintable values = true := by
  refine Parameter.allPrintable_of_bind fun v hv => ?_
  rw [bind_of_mem_prepare h hv]
  rfl

/-- An operation that cannot be prepared ends before anything is done. -/
theorem perform_of_unprepared
    {o : Operation} {h : Handle} (hopen : h.IsOpen w) {f : Fault}
    (hprepare : o.prepare = .error f) :
    o.perform s h w = .finished (.error f) w := by
  rw [o.perform_of_isOpen s hopen, perform_session, hprepare]
  rfl

/-- An operation that is prepared comes to what its statement comes to. -/
theorem run_perform_of_prepared
    {o : Operation} {h : Handle} (hopen : h.IsOpen w) {sql : Value} {values : List Value}
    (hprepare : o.prepare = .ok (sql, values)) {r : Except Fault o.channel.Result} {w' : World}
    (hrun : run (o.sendMeasured s sql values) w = (r, w')) :
    run (o.perform s h) w = (r.map o.finish, w') := by
  rw [run, o.perform_of_isOpen s hopen, perform_session, hprepare]
  change run (o.sendMeasured s sql values >>= fun back => pure (o.finish back)) w = _
  rw [Routine.run_bind, hrun]
  cases r <;> rfl

/-- An operation makes calls of its channel alone. -/
theorem calledOnly_perform
    {o : Operation} {sql : Value} {values : List Value} (hprepare : o.prepare = .ok (sql, values))
    (h : Handle) (w : World) :
    w.CalledOnly (· ∈ o.channel.calls sql values) (run (o.perform s h) w).2 := by
  have hsteady := steady_calledOnly (· ∈ o.channel.calls sql values) w
  refine (hsteady.perform s h o ?_).world w ⟨[], by simp, by simp⟩
  intro sql' values' hprepare' call hcall
  rw [hprepare] at hprepare'
  cases hprepare'
  exact hcall

/-- On a connection it makes them all, or the first alone if that is refused, provided that
the statement can be written if statements are logged. -/
theorem calls_perform
    {o : Operation} {h : Handle} (hopen : h.IsOpen w) {sql : Value} {values : List Value}
    (hprepare : o.prepare = .ok (sql, values)) (hconnected : w.connected = true)
    (hsql : s.logQueries = true → sql.displayable = true) :
    (run (o.perform s h) w).2.calls =
      w.calls ++ (Exchange.start w).reached sql (o.channel.calls sql values) := by
  obtain ⟨c, hc⟩ := w.nextReading_eq
  rcases hrun : run (o.sendMeasured s sql values) w with ⟨r, w'⟩
  have hcalls := Measure.calls_run .measure (.text o.channel.name) sql (.tuple values)
    (o.channel.send s sql values) w
  have hsend := Channel.calls_send s o.channel (w := w.nextReading.2) (by rw [hc]; exact hconnected)
    hsql (allPrintable_of_prepare hprepare)
  change (run (o.sendMeasured s sql values) w).2.calls = _ at hcalls
  rw [hrun, hsend, hc] at hcalls
  rw [run_perform_of_prepared s hopen hprepare hrun]
  exact hcalls

/-- Whatever is wrong with the arguments of an operation is its fault, and nothing has been
done.  Otherwise its statement is all that it executes, with its parameters as they were
bound, on a connection it does execute it, and the parameters are values that the engine
stores. -/
theorem bound_or_untouched
    (o : Operation) {h : Handle} (hopen : h.IsOpen w) :
    match o.statement with
    | .error f => o.perform s h w = .finished (.error f) w
    | .ok (sql, params) =>
        match Parameter.bindAll params with
        | .error f => o.perform s h w = .finished (.error f) w
        | .ok values =>
            (∃ calls, (run (o.perform s h) w).2.calls = w.calls ++ calls ∧
              ∀ st ps, .execute st ps ∈ calls → st = sql ∧ ps = values) ∧
            (w.connected = true → (s.logQueries = true → sql.displayable = true) →
              (run (o.perform s h) w).2.calls =
                w.calls ++ (Exchange.start w).reached sql (o.channel.calls sql values)) ∧
            ((∀ v ∈ params.items?.getD [], v.isRegular = true) →
              ∀ v ∈ values, v.isStorable = true) := by
  cases hstatement : o.statement with
  | error f =>
      refine perform_of_unprepared s hopen ?_
      rw [prepare, hstatement]
      rfl
  | ok st =>
      obtain ⟨sql, params⟩ := st
      have hprepare := prepare_of_statement hstatement
      dsimp only
      cases hvalues : Parameter.bindAll params with
      | error f =>
          rw [hvalues] at hprepare
          exact perform_of_unprepared s hopen hprepare
      | ok values =>
          rw [hvalues] at hprepare
          obtain ⟨calls, hcalls, hall⟩ := calledOnly_perform s hprepare h w
          refine ⟨⟨calls, hcalls, fun st ps hst => ?_⟩, calls_perform s hopen hprepare,
            fun hregular v hv => ?_⟩
          · exact Channel.eq_of_execute_mem_calls (hall _ hst)
          · obtain ⟨u, hu, hbind⟩ := Parameter.exists_of_mem_bindAll hvalues hv
            exact Parameter.isStorable_of_bind hbind (hregular u hu)

/-- A row added with a truth value and a member of an enumeration of texts. -/
def addMember : Operation :=
  .executeRaw (.text "INSERT INTO t (a, b) VALUES (?, ?)")
    (.tuple [.bool true, .member .textual "Kind" "FIRST" (.text "first")])

/-- A session that is connected, with an open transaction. -/
def begunWorld : World := { (default : World) with connected := true, phases := [.started] }

/-- The truth value is bound to an integer, and the member is bound as it is. -/
theorem bound_through_transaction :
    let h := Handle.within 0 .session
    let values : List Value := [.int 1, .member .textual "Kind" "FIRST" (.text "first")]
    let calls := (run (addMember.perform default h) begunWorld).2.calls
    h.IsOpen begunWorld ∧ calls.length = 2 ∧
      (∀ st ps, .execute st ps ∈ calls → ps = values) ∧ ∀ v ∈ values, v.isStorable = true := by
  intro h values calls
  have hopen : h.IsOpen begunWorld := ⟨rfl, trivial⟩
  obtain ⟨⟨made, hmade, hall⟩, -, hstored⟩ := bound_or_untouched default addMember hopen
  have hcalls : calls = made := hmade
  refine ⟨hopen, by decide +kernel, fun st ps hst => ?_, hstored (by decide +kernel)⟩
  exact (hall st ps (hcalls ▸ hst)).2

end Operation

end Datalink
