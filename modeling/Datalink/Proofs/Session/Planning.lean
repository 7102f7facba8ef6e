import Datalink.Proofs.Session.Breakdown

/-!
# Statements sent by a plan

Input: a routine on a session that is connected, and the statements that it has to send, in
their order.  The engine answers as it likes, and fails as it likes, with failures that have
words.

Results: a triple for routines that follow such a plan.  They send all of it if no call fails,
and otherwise a part of it up to the first failure, which is passed on with its statement.
Reading rows may fail twice, since the cursor is closed even if it cannot be read from.
-/

namespace Datalink

open Routine (run)

namespace Exchange

/-- A statement that is refused breaks off by itself. -/
theorem breaksOff_of_refused
    {e : Exchange} {sql : Value} (values : List Value) {f : Fault}
    (hrefused : e.refusal? sql = some f) :
    e.BreaksOff [.execute sql values] f sql := by
  have hoff : e.BreaksOff ([] ++ [.execute sql values]) f sql :=
    .last rfl hrefused (e.statement_send sql)
  exact hoff

section Reading

variable {e : Exchange} {sql : Value} (hsent : e.refusal? sql = none) (values : List Value)
include hsent

/-- Where rows are read with a statement that is not refused, it is the cursor that fails. -/
theorem failures_reading :
    e.failures (Channel.reading.calls sql values) =
      (e.next.cursorFailures.onFetch.map Fault.ofIncident).toList ++
        (e.next.cursorFailures.onClose.map Fault.ofIncident).toList := by
  simp [Channel.calls, failures, failure?, hsent, after, send_of_answered hsent]

theorem breaksOff_of_onFetch
    {i : Incident} (hfetch : e.next.cursorFailures.onFetch = some i) :
    e.BreaksOff (Channel.reading.calls sql values) (.ofIncident i) sql := by
  have hclean : e.failures [.execute sql values] = [] := by
    simp [failure?, hsent]
  have hcall : (e.afterAll [.execute sql values]).failure? .fetch = some (.ofIncident i) := by
    simp [afterAll, after, send_of_answered hsent, failure?, hfetch]
  exact (BreaksOff.last hclean hcall (e.statement_send sql)).close

theorem breaksOff_of_onClose
    {i : Incident} (hfetch : e.next.cursorFailures.onFetch = none)
    (hclose : e.next.cursorFailures.onClose = some i) :
    e.BreaksOff (Channel.reading.calls sql values) (.ofIncident i) sql := by
  have hclean : e.failures [.execute sql values, .fetch] = [] := by
    simp [failures, failure?, hsent, after, send_of_answered hsent, hfetch]
  have hcall : (e.afterAll [.execute sql values, .fetch]).failure? .closeCursor =
      some (.ofIncident i) := by
    simp [afterAll, after, send_of_answered hsent, failure?, hclose]
  exact .last hclean hcall (e.statement_send sql)

end Reading

end Exchange

/-- Whether some calls lead from a world to another one, beginning at a point of the
exchange. -/
structure Leads (e : Exchange) (w : World) (cs : List EngineCall) (w' : World) : Prop where
  calls : w'.calls = w.calls ++ cs
  answers : (e.afterAll cs).answers = w'.answers
  connected : w'.connected = true

theorem Leads.trans
    {e : Exchange} {w w' w'' : World} {cs ds : List EngineCall} (h : Leads e w cs w')
    (h' : Leads (e.afterAll cs) w' ds w'') :
    Leads e w (cs ++ ds) w'' where
  calls := by rw [h'.calls, h.calls, List.append_assoc]
  answers := by rw [Exchange.afterAll_append, h'.answers]
  connected := h'.connected

namespace Session

/-- How calls follow a plan of statements.  All of them are sent if no call fails.  If one
does, its statement is the last one sent, and the last failure there is, which may be that of
closing a cursor, is passed on with that statement. -/
inductive Follows {α : Type} (s : Session) (e : Exchange) (plan : List (Value × List Value))
    (cs : List EngineCall) : Except Fault α → Prop
  | through {a : α} (hclean : e.failures cs = []) (hall : executed cs = plan) :
      Follows s e plan cs (.ok a)
  | broken {x y : Fault} {sql : Value} {values : List Value} (hoff : e.BreaksOff cs x sql)
      (hpart : executed cs <+: plan) (hsent : (executed cs).getLast? = some (sql, values))
      (hlast : (e.failures cs).getLast? = some y) :
      Follows s e plan cs (.error (s.passedOn y sql).1)

namespace Follows

variable {α : Type} {s : Session} {e : Exchange} {p q : List (Value × List Value)}
variable {cs ds : List EngineCall} {r : Except Fault α}

theorem prepend
    (hclean : e.failures ds = []) (hall : executed ds = q)
    (h : Follows s (e.afterAll ds) p cs r) :
    Follows s e (q ++ p) (ds ++ cs) r := by
  cases h with
  | through hrest hsent =>
      refine .through ?_ ?_
      · rw [Exchange.failures_append, hclean, hrest, List.append_nil]
      · rw [executed_append, hall, hsent]
  | broken hoff hpart hsent hlast =>
      have hstill : (executed (ds ++ cs)).getLast? = (executed cs).getLast? := by
        rw [executed_append, List.getLast?_append, hsent]
        rfl
      refine .broken (hoff.prepend hclean) ?_ (hstill.trans hsent) ?_
      · rw [executed_append, hall]
        exact (List.prefix_append_right_inj q).mpr hpart
      · rw [Exchange.failures_append, hclean, List.nil_append, hlast]

theorem stop
    {β : Type} {f : Fault} (h : Follows (α := α) s e p cs (.error f)) :
    Follows (α := β) s e (p ++ q) cs (.error f) := by
  cases h with
  | broken hoff hpart hsent hlast =>
      exact .broken hoff (hpart.trans (List.prefix_append p q)) hsent hlast

end Follows

/-- Whether every run of a routine on a connection follows a plan, if failures have words. -/
def Planned {α : Type} (s : Session) (plan : List (Value × List Value)) (m : Routine α) : Prop :=
  ∀ e w, e.Worded → e.answers = w.answers → w.connected = true →
    ∃ cs, Leads e w cs (run m w).2 ∧ s.Follows e plan cs (run m w).1

namespace Planned

variable {α β : Type} {s : Session} {p q : List (Value × List Value)} {m : Routine α}

theorem pure
    (a : α) :
    s.Planned [] (Pure.pure a : Routine α) := by
  intro e w _ hanswers hconnected
  exact ⟨[], ⟨(List.append_nil _).symm, hanswers, hconnected⟩, .through rfl rfl⟩

theorem bind
    {next : α → Routine β} (hm : s.Planned p m) (hnext : ∀ a, s.Planned q (next a)) :
    s.Planned (p ++ q) (m >>= next) := by
  intro e w hworded hanswers hconnected
  obtain ⟨cs, hleads, hfollows⟩ := hm e w hworded hanswers hconnected
  rw [Routine.run_bind]
  rcases hrun : run m w with ⟨r, w'⟩
  rw [hrun] at hleads hfollows
  cases r with
  | error f =>
      exact ⟨cs, hleads, hfollows.stop⟩
  | ok a =>
      obtain ⟨hclean, hall⟩ : e.failures cs = [] ∧ executed cs = p := by
        cases hfollows with
        | through hclean hall => exact ⟨hclean, hall⟩
      obtain ⟨ds, hrest, hfollows'⟩ :=
        hnext a _ w' (hworded.afterAll cs) hleads.answers hleads.connected
      exact ⟨cs ++ ds, hleads.trans hrest, hfollows'.prepend hclean hall⟩

theorem note
    {sql : Value} {values : List Value} (hsql : s.logQueries = true → sql.displayable = true)
    (hvalues : s.logQueries = true → Value.allPrintable values = true) :
    s.Planned [] (s.noteStatement sql values) := by
  intro e w _ hanswers hconnected
  obtain ⟨ls, hnote⟩ := s.run_noteStatement hsql hvalues w
  rw [hnote]
  exact ⟨[], ⟨(List.append_nil _).symm, hanswers, hconnected⟩, .through rfl rfl⟩

/-- A statement that is executed and wrapped with its text. -/
theorem executed
    (sql : Value) (values : List Value) :
    s.Planned [(sql, values)] (s.wrapping sql (Engine.execute sql values)) := by
  intro e w hworded hanswers hconnected
  refine ⟨[.execute sql values], ?_⟩
  cases hrefusal : e.refusal? sql with
  | none =>
      have hafter : e.after (.execute sql values) = ⟨sql, e.next, e.answers.tail⟩ :=
        Exchange.send_of_answered hrefusal
      rw [s.run_wrapping_ok (Engine.run_execute_of_answered hanswers values hrefusal)]
      refine ⟨⟨rfl, ?_, hconnected⟩, .through ?_ rfl⟩
      · rw [Exchange.afterAll, hafter]
        exact congrArg List.tail hanswers
      · rw [Exchange.failures_singleton]
        exact congrArg Option.toList hrefusal
  | some f =>
      have hrefused : e.failure? (.execute sql values) = some f := hrefusal
      rw [s.run_wrapping_error (Engine.run_execute_of_refused hanswers values hrefusal)]
      rw [s.wrapped_of_worded sql (hworded.failure hrefused)]
      refine ⟨⟨rfl, rfl, hconnected⟩, ?_⟩
      refine .broken (Exchange.breaksOff_of_refused values hrefusal) List.prefix_rfl rfl ?_
      simp [hrefused]

end Planned

end Session

/-- Rows that are read with a statement and looked at.  If no call fails, the result is what
is seen in them; if one does, it is the last failure. -/
theorem Engine.run_looked
    {α : Type} {e : Exchange} {w w' : World} (h : e.answers = w.answers)
    (hconnected : w.connected = true) {sql : Value} {values : List Value}
    {look : List (List Value) → Except Fault α} {r : Except Fault α}
    (hrun : run (do
      let cursor ← execute sql values
      closingCursor cursor do
        let rows ← fetch cursor
        Routine.ofExcept (look rows)) w = (r, w')) :
    ∃ cs, Leads e w cs w' ∧ cs.head? = some (.execute sql values) ∧
      executed cs = [(sql, values)] ∧
      (e.failures cs = [] ∧ r = look e.next.rows ∨
        ∃ x y, e.BreaksOff cs x sql ∧ (e.failures cs).getLast? = some y ∧ r = .error y) := by
  cases hrefusal : e.refusal? sql with
  | some f =>
      have hrefused : e.failure? (.execute sql values) = some f := hrefusal
      rw [Routine.run_bind, run_execute_of_refused h values hrefusal] at hrun
      obtain ⟨rfl, rfl⟩ := Prod.mk.inj hrun
      have hoff := Exchange.breaksOff_of_refused values hrefusal
      refine ⟨[.execute sql values], ⟨rfl, rfl, hconnected⟩, rfl, rfl, .inr ⟨f, f, hoff, ?_, rfl⟩⟩
      simp [hrefused]
  | none =>
      let cursor := e.next.cursorFailures
      let sent : World := { w.addCall (.execute sql values) with answers := w.answers.tail }
      have hlook : run (do
          let rows ← fetch e.next
          Routine.ofExcept (look rows)) sent =
            (cursor.onFetch.elim (look e.next.rows) fun i => .error (.ofIncident i),
              sent.addCall .fetch) := by
        cases hfetch : cursor.onFetch <;> simp [fetch, report, raise?, cursor, hfetch]
      rw [Routine.run_bind, run_execute_of_answered h values hrefusal] at hrun
      obtain ⟨rfl, rfl⟩ := Prod.mk.inj (hrun.symm.trans (run_closingCursor hlook))
      refine ⟨Channel.reading.calls sql values, ⟨?_, ?_, hconnected⟩, rfl, rfl, ?_⟩
      · simp [Channel.calls, sent, World.addCall]
      · have hsend := Exchange.send_of_answered hrefusal
        simp [Channel.calls, sent, Exchange.afterAll, Exchange.after, hsend, h, World.addCall]
      · rw [Exchange.failures_reading hrefusal]
        cases hfetch : cursor.onFetch with
        | some i =>
            have hoff := Exchange.breaksOff_of_onFetch hrefusal values hfetch
            cases cursor.onClose with
            | none =>
                exact .inr ⟨_, _, hoff, rfl, rfl⟩
            | some j =>
                exact .inr ⟨_, _, hoff, rfl, rfl⟩
        | none =>
            cases hclose : cursor.onClose with
            | none =>
                exact .inl ⟨rfl, rfl⟩
            | some j =>
                have hoff := Exchange.breaksOff_of_onClose hrefusal values hfetch hclose
                exact .inr ⟨_, _, hoff, rfl, rfl⟩

end Datalink
