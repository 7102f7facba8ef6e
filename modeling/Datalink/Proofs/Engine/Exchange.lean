import Datalink.Proofs.Engine.Keeping

/-!
# Which call failed

The engine says what it has to say in answers, one for each statement or script that it
takes.  A cursor may fail later, when its rows are fetched or when it is closed.  So the
calls that were made and the answers that were there tell which of the calls failed, and
with what, whatever an operation made of it.

Results: a triple for routines that are run on a connection.  Behind a run in which exactly
one call failed it says how the run broke off, and which lines of error it wrote.  There is
one rule for each call to the engine and each way of building routines.
-/

namespace Datalink

open Routine (run)

/-- The statement that a call hands to the engine, with its parameters.  A script has
none. -/
def EngineCall.statement? : EngineCall → Option (Value × List Value)
  | execute sql values => some (sql, values)
  | script sql => some (sql, [])
  | _ => none

/-- The statements that some calls hand to the engine, with their parameters. -/
def executed (calls : List EngineCall) : List (Value × List Value) :=
  calls.filterMap EngineCall.statement?

@[simp] theorem executed_append
    (cs ds : List EngineCall) :
    executed (cs ++ ds) = executed cs ++ executed ds :=
  List.filterMap_append

/-- Where the engine and its callers stand: the statement that is being run, the cursor
there is, and the answers that are left. -/
structure Exchange where
  statement : Value
  cursor : Answer
  answers : List Answer

namespace Exchange

/-- Where a world stands in which no statement has been run. -/
def start (w : World) : Exchange := ⟨.null, .silent, w.answers⟩

/-- The next answer. -/
def next (e : Exchange) : Answer := e.answers.headD .silent

/-- How a statement fails that is sent: it has no encoding, or the engine refuses it. -/
def refusal? (e : Exchange) (sql : Value) : Option Fault :=
  match Engine.encodingFault? sql with
  | some f => some f
  | none => e.next.failure.map .ofIncident

/-- How a call fails. -/
def failure? (e : Exchange) : EngineCall → Option Fault
  | .execute sql _ => e.refusal? sql
  | .script sql => e.refusal? sql
  | .fetch => e.cursor.cursorFailures.onFetch.map .ofIncident
  | .closeCursor => e.cursor.cursorFailures.onClose.map .ofIncident
  | .connect _ => e.next.failure.map .ofIncident
  | .disconnect => e.next.failure.map .ofIncident

/-- Behind a statement.  One without encoding takes no answer. -/
def send (e : Exchange) (sql : Value) : Exchange :=
  match Engine.encodingFault? sql with
  | some _ => ⟨sql, e.cursor, e.answers⟩
  | none => ⟨sql, e.next, e.answers.tail⟩

theorem statement_send
    (e : Exchange) (sql : Value) :
    (e.send sql).statement = sql := by
  unfold send
  cases Engine.encodingFault? sql <;> rfl

/-- Behind a statement that is not refused the next answer is its cursor. -/
theorem send_of_answered
    {e : Exchange} {sql : Value} (h : e.refusal? sql = none) :
    e.send sql = ⟨sql, e.next, e.answers.tail⟩ := by
  unfold refusal? at h
  unfold send
  cases hfault : Engine.encodingFault? sql with
  | none =>
      rfl
  | some f =>
      rw [hfault] at h
      cases h

/-- Behind a call. -/
def after (e : Exchange) : EngineCall → Exchange
  | .execute sql _ => e.send sql
  | .script sql => e.send sql
  | .fetch => e
  | .closeCursor => e
  | .connect _ => ⟨e.statement, e.cursor, e.answers.tail⟩
  | .disconnect => ⟨e.statement, e.cursor, e.answers.tail⟩

/-- Behind some calls. -/
def afterAll (e : Exchange) : List EngineCall → Exchange
  | [] => e
  | c :: cs => (e.after c).afterAll cs

/-- The failures of some calls. -/
def failures (e : Exchange) : List EngineCall → List Fault
  | [] => []
  | c :: cs => (e.failure? c).toList ++ (e.after c).failures cs

@[simp] theorem afterAll_append
    (e : Exchange) (cs ds : List EngineCall) :
    e.afterAll (cs ++ ds) = (e.afterAll cs).afterAll ds := by
  induction cs generalizing e with
  | nil =>
      rfl
  | cons c cs ih =>
      exact ih (e.after c)

@[simp] theorem failures_append
    (e : Exchange) (cs ds : List EngineCall) :
    e.failures (cs ++ ds) = e.failures cs ++ (e.afterAll cs).failures ds := by
  induction cs generalizing e with
  | nil =>
      rfl
  | cons c cs ih =>
      simp only [List.cons_append, failures, afterAll, ih, List.append_assoc]

@[simp] theorem failures_singleton
    (e : Exchange) (c : EngineCall) :
    e.failures [c] = (e.failure? c).toList :=
  List.append_nil _

/-- Whether every failure that may still come has words: those of the cursor that there is, and
those of the answers that are left. -/
structure Worded (e : Exchange) : Prop where
  cursor : e.cursor.Worded
  answers : ∀ a ∈ e.answers, a.Worded

theorem worded_silent :
    Answer.silent.Worded := by
  rintro i (hi | hi | hi) <;> cases hi

theorem worded_start
    {w : World} (h : w.Worded) :
    (start w).Worded :=
  ⟨worded_silent, h⟩

namespace Worded

variable {e : Exchange} (h : e.Worded)
include h

theorem next :
    e.next.Worded := by
  unfold Exchange.next
  cases hanswers : e.answers with
  | nil =>
      exact worded_silent
  | cons a rest =>
      exact h.answers a (by rw [hanswers]; exact List.mem_cons_self)

theorem answers_tail :
    ∀ a ∈ e.answers.tail, a.Worded :=
  fun a ha => h.answers a (List.mem_of_mem_tail ha)

theorem after
    (c : EngineCall) :
    (e.after c).Worded := by
  have hsend : ∀ sql, (e.send sql).Worded := by
    intro sql
    unfold Exchange.send
    cases Engine.encodingFault? sql with
    | some f => exact ⟨h.cursor, h.answers⟩
    | none => exact ⟨h.next, h.answers_tail⟩
  cases c with
  | execute sql values => exact hsend sql
  | script sql => exact hsend sql
  | fetch => exact h
  | closeCursor => exact h
  | connect cacheSize => exact ⟨h.cursor, h.answers_tail⟩
  | disconnect => exact ⟨h.cursor, h.answers_tail⟩

theorem afterAll
    (cs : List EngineCall) :
    (e.afterAll cs).Worded := by
  induction cs generalizing e with
  | nil =>
      exact h
  | cons c cs ih =>
      exact ih (h.after c)

theorem refusal
    {sql : Value} {x : Fault} (hx : e.refusal? sql = some x) :
    x.Worded := by
  unfold Exchange.refusal? at hx
  cases hfault : Engine.encodingFault? sql with
  | some f =>
      rw [hfault] at hx
      cases hx
      obtain ⟨run, rfl⟩ | hinternal := Engine.unencodable_or_internal hfault
      · rfl
      · exact hinternal.worded
  | none =>
      rw [hfault] at hx
      obtain ⟨i, hi, rfl⟩ := Option.map_eq_some_iff.mp hx
      exact h.next i (.inl hi)

theorem failure
    {c : EngineCall} {x : Fault} (hx : e.failure? c = some x) :
    x.Worded := by
  cases c with
  | execute sql values =>
      exact h.refusal hx
  | script sql =>
      exact h.refusal hx
  | fetch =>
      obtain ⟨i, hi, rfl⟩ := Option.map_eq_some_iff.mp hx
      exact h.cursor i (.inr (.inl hi))
  | closeCursor =>
      obtain ⟨i, hi, rfl⟩ := Option.map_eq_some_iff.mp hx
      exact h.cursor i (.inr (.inr hi))
  | connect cacheSize =>
      obtain ⟨i, hi, rfl⟩ := Option.map_eq_some_iff.mp hx
      exact h.next i (.inl hi)
  | disconnect =>
      obtain ⟨i, hi, rfl⟩ := Option.map_eq_some_iff.mp hx
      exact h.next i (.inl hi)

/-- Whatever calls are made, their failures have words. -/
theorem failures
    {cs : List EngineCall} {x : Fault} (hx : x ∈ e.failures cs) :
    x.Worded := by
  induction cs generalizing e with
  | nil =>
      cases hx
  | cons c cs ih =>
      rcases List.mem_append.mp hx with hcall | hrest
      · exact h.failure (Option.mem_toList.mp hcall)
      · exact ih (h.after c) hrest

end Worded

/-- Whether calls break off with a fault, at a statement: one of them fails with it when
that statement is being run, none before it fails, and behind it cursors are closed and no
more is sent to the engine. -/
def BreaksOff (e : Exchange) (calls : List EngineCall) (x : Fault) (sql : Value) : Prop :=
  ∃ before call behind, calls = before ++ call :: behind ∧
    e.failures before = [] ∧
    (e.afterAll before).failure? call = some x ∧
    ((e.afterAll before).after call).statement = sql ∧
    ∀ c ∈ behind, c = .closeCursor

namespace BreaksOff

variable {e : Exchange} {calls : List EngineCall} {x : Fault} {sql : Value}

theorem last
    {call : EngineCall} (hcalls : e.failures calls = [])
    (hcall : (e.afterAll calls).failure? call = some x)
    (hsql : ((e.afterAll calls).after call).statement = sql) :
    e.BreaksOff (calls ++ [call]) x sql :=
  ⟨calls, call, [], rfl, hcalls, hcall, hsql, by simp⟩

theorem prepend
    {before : List EngineCall} (hbefore : e.failures before = [])
    (h : (e.afterAll before).BreaksOff calls x sql) :
    e.BreaksOff (before ++ calls) x sql := by
  obtain ⟨first, call, behind, rfl, hfirst, hcall, hsql, hbehind⟩ := h
  refine ⟨before ++ first, call, behind, ?_, ?_, ?_, ?_, hbehind⟩
  · simp
  · rw [failures_append, hbefore, hfirst]
    rfl
  · rw [afterAll_append]
    exact hcall
  · rw [afterAll_append]
    exact hsql

/-- Closing cursors leads nowhere. -/
theorem statement_eq
    (h : e.BreaksOff calls x sql) :
    (e.afterAll calls).statement = sql := by
  obtain ⟨before, call, behind, rfl, -, -, hsql, hbehind⟩ := h
  have hstill : ∀ e' : Exchange, e'.afterAll behind = e' := by
    intro e'
    induction behind with
    | nil =>
        rfl
    | cons c cs ih =>
        rw [hbehind c List.mem_cons_self]
        exact ih fun d hd => hbehind d (List.mem_cons_of_mem c hd)
  rw [afterAll_append, afterAll, hstill]
  exact hsql

theorem close
    (h : e.BreaksOff calls x sql) :
    e.BreaksOff (calls ++ [.closeCursor]) x sql := by
  obtain ⟨before, call, behind, rfl, hbefore, hcall, hsql, hbehind⟩ := h
  refine ⟨before, call, behind ++ [.closeCursor], ?_, hbefore, hcall, hsql, ?_⟩
  · simp
  · intro c hc
    rcases List.mem_append.mp hc with hc | hc
    · exact hbehind c hc
    · exact List.mem_singleton.mp hc

end BreaksOff

end Exchange

/-- The lines of error among some lines. -/
def complaints (lines : List LogLine) : List LogLine := lines.filter (·.level = .error)

@[simp] theorem complaints_append
    (ls ms : List LogLine) :
    complaints (ls ++ ms) = complaints ls ++ complaints ms :=
  List.filter_append ls ms

/-- How a run ends in which one call failed with a fault, when a statement was being run:
what it fails with, and its lines of error. -/
abbrev Ending := Fault → Value → Fault × List LogLine

/-- The fault of the call itself, without a line. -/
def Ending.plain : Ending := fun x _ => (x, [])

/-- What a run came to that began at a point of the exchange, in a world: the calls that it
made, the lines that it wrote, its result, and the world behind it. -/
structure Told {α : Type} (e : Exchange) (w : World) (E : Ending)
    (Q : Exchange → Except Fault α → Prop) (cs : List EngineCall) (ls : List LogLine)
    (r : Except Fault α) (w' : World) : Prop where
  calls : w'.calls = w.calls ++ cs
  lines : w'.lines = w.lines ++ ls
  answers : (e.afterAll cs).answers = w'.answers
  connected : w'.connected = true
  post : Q (e.afterAll cs) r
  /-- If no call failed there is nothing to complain about. -/
  clean : e.failures cs = [] →
    complaints ls = [] ∧ ∀ f, r = .error f → f.isEngineFailure = false
  broken : ∀ x, e.failures cs = [x] →
    ∃ sql, e.BreaksOff cs x sql ∧ r = .error (E x sql).1 ∧ complaints ls = (E x sql).2

/-- Whether every run of a routine on a connection that begins at a point of the exchange
with some property comes to a point and a result with some property, and ends in some way if
one call fails. -/
def Talks {α : Type} (P : Exchange → Prop) (E : Ending) (m : Routine α)
    (Q : Exchange → Except Fault α → Prop) : Prop :=
  ∀ e w, P e → e.answers = w.answers → w.connected = true →
    ∃ cs ls, Told e w E Q cs ls (run m w).1 (run m w).2

namespace Talks

variable {α β : Type} {P : Exchange → Prop} {E : Ending} {m : Routine α}
variable {Q : Exchange → Except Fault α → Prop} {R : Exchange → Except Fault β → Prop}

/-- A stronger condition in front of a routine, and a weaker one behind it. -/
theorem mono
    {P' : Exchange → Prop} {Q' : Exchange → Except Fault α → Prop} (hm : Talks P E m Q)
    (hP : ∀ e, P' e → P e) (hQ : ∀ e r, Q e r → Q' e r) :
    Talks P' E m Q' := by
  intro e w he hanswers hconnected
  obtain ⟨cs, ls, h⟩ := hm e w (hP e he) hanswers hconnected
  exact ⟨cs, ls, { h with post := hQ _ _ h.post }⟩

theorem ofExcept
    {r : Except Fault α} (hr : FailsInternally r) (hQ : ∀ e, P e → Q e r) :
    Talks P E (.ofExcept r) Q := by
  intro e w he hanswers hconnected
  refine ⟨[], [], ?_⟩
  exact
    { calls := (List.append_nil _).symm
      lines := (List.append_nil _).symm
      answers := hanswers
      connected := hconnected
      post := hQ e he
      clean := fun _ => ⟨rfl, fun f hf => (hr.error hf).not_engineFailure⟩
      broken := by rintro x ⟨⟩ }

theorem pure
    {a : α} (hQ : ∀ e, P e → Q e (.ok a)) :
    Talks P E (Pure.pure a) Q :=
  ofExcept (r := .ok a) trivial hQ

/-- A line that is none of error. -/
theorem note
    (logger : Logger) {level : Level} (hlevel : level ≠ .error) (text : Text) :
    Talks P E (Measure.note logger level text) fun e _ => P e := by
  intro e w he hanswers hconnected
  have hquiet : complaints [⟨logger, level, text⟩] = [] := by
    simp [complaints, hlevel]
  refine ⟨[], [⟨logger, level, text⟩], ?_⟩
  exact
    { calls := (List.append_nil _).symm
      lines := rfl
      answers := hanswers
      connected := hconnected
      post := he
      clean := fun _ => ⟨hquiet, by rintro f ⟨⟩⟩
      broken := by rintro x ⟨⟩ }

/-- One routine after the other.  If one call fails in all, it is a call of the second
routine, or the first one failed. -/
theorem bind
    {next : α → Routine β} (hm : Talks P E m Q)
    (hnext : ∀ a, Talks (fun e => Q e (.ok a)) E (next a) R)
    (herror : ∀ e f, Q e (.error f) → R e (.error f)) :
    Talks P E (m >>= next) R := by
  intro e w he hanswers hconnected
  obtain ⟨cs, ls, hfirst⟩ := hm e w he hanswers hconnected
  rw [Routine.run_bind]
  rcases hrun : run m w with ⟨r, w'⟩
  rw [hrun] at hfirst
  cases r with
  | error f =>
      refine ⟨cs, ls, ?_⟩
      exact
        { calls := hfirst.calls
          lines := hfirst.lines
          answers := hfirst.answers
          connected := hfirst.connected
          post := herror _ _ hfirst.post
          clean := fun hclean =>
            ⟨(hfirst.clean hclean).1, fun g hg => (hfirst.clean hclean).2 g (by cases hg; rfl)⟩
          broken := by
            intro x hx
            obtain ⟨sql, hoff, hfault, hlines⟩ := hfirst.broken x hx
            cases hfault
            exact ⟨sql, hoff, rfl, hlines⟩ }
  | ok a =>
      obtain ⟨cs', ls', hrest⟩ :=
        hnext a _ w' hfirst.post hfirst.answers hfirst.connected
      have hquiet : e.failures cs = [] → complaints (ls ++ ls') = complaints ls' := by
        intro hnone
        rw [complaints_append, (hfirst.clean hnone).1, List.nil_append]
      refine ⟨cs ++ cs', ls ++ ls', ?_⟩
      exact
        { calls := by rw [hrest.calls, hfirst.calls, List.append_assoc]
          lines := by rw [hrest.lines, hfirst.lines, List.append_assoc]
          answers := by
            rw [Exchange.afterAll_append]
            exact hrest.answers
          connected := hrest.connected
          post := by
            rw [Exchange.afterAll_append]
            exact hrest.post
          clean := by
            intro hclean
            rw [Exchange.failures_append, List.append_eq_nil_iff] at hclean
            rw [hquiet hclean.1]
            exact hrest.clean hclean.2
          broken := by
            intro x hx
            rw [Exchange.failures_append, List.append_eq_singleton_iff] at hx
            rcases hx with ⟨hnone, hone⟩ | ⟨hone, -⟩
            · obtain ⟨sql, hoff, hfault, hlines⟩ := hrest.broken x hone
              exact ⟨sql, hoff.prepend hnone, hfault, (hquiet hnone).trans hlines⟩
            · obtain ⟨sql, -, hfault, -⟩ := hfirst.broken x hone
              cases hfault }

/-- A routine that makes one call fails with what that fails with. -/
theorem call
    {c : EngineCall}
    (hrun : ∀ e w, P e → e.answers = w.answers →
      ∃ r, run m w = (r, { w.addCall c with answers := (e.after c).answers }) ∧
        Q (e.after c) r ∧ ∀ f, r = .error f ↔ e.failure? c = some f) :
    Talks P .plain m Q := by
  intro e w he hanswers hconnected
  obtain ⟨r, hrun, hpost, hfails⟩ := hrun e w he hanswers
  rw [hrun]
  refine ⟨[c], [], ?_⟩
  exact
    { calls := rfl
      lines := (List.append_nil _).symm
      answers := rfl
      connected := hconnected
      post := hpost
      clean := by
        intro hclean
        refine ⟨rfl, fun f hf => ?_⟩
        simp [(hfails f).mp hf] at hclean
      broken := by
        intro x hx
        have hcall : e.failure? c = some x := by
          rw [Exchange.failures_singleton] at hx
          exact Option.toList_eq_singleton_iff.mp hx
        have hoff : e.BreaksOff ([] ++ [c]) x (e.after c).statement := .last rfl hcall rfl
        exact ⟨_, hoff, (hfails x).mpr hcall, rfl⟩ }

end Talks

namespace Exchange

/-- Whether a statement is being run, and a cursor is its cursor. -/
def Holds (sql : Value) (cursor : Answer) (e : Exchange) : Prop :=
  e.statement = sql ∧ e.cursor = cursor

/-- Whether a statement is being run, and the cursor is the result, if there is one. -/
def Ran (sql : Value) (e : Exchange) (r : Except Fault Answer) : Prop :=
  Outcome (fun cursor => e.Holds sql cursor) (fun _ => e.statement = sql) r

theorem nextAnswer_eq
    {e : Exchange} {w : World} (h : e.answers = w.answers) :
    w.nextAnswer = (e.next, { w with answers := e.answers.tail }) := by
  unfold World.nextAnswer next
  rw [h]
  rcases w with ⟨connected, answers, calls, lines, clock, ledger, files, phases⟩
  cases answers <;> rfl

/-- What comes of a statement that was reported. -/
theorem run_answer
    {e : Exchange} {w : World} (h : e.answers = w.answers) (sql : Value) :
    ∃ r, run (Engine.checkEncodable sql >>= fun _ => Engine.answer) w =
        (r, { w with answers := (e.send sql).answers }) ∧
      Ran sql (e.send sql) r ∧ ∀ f, r = .error f ↔ e.refusal? sql = some f := by
  unfold refusal? send Engine.checkEncodable
  cases Engine.encodingFault? sql with
  | some f =>
      refine ⟨.error f, ?_, rfl, fun g => ?_⟩
      · simp [h]
      · simp
  | none =>
      have hnext := nextAnswer_eq h
      cases hfailure : e.next.failure with
      | some i =>
          refine ⟨.error (.ofIncident i), ?_, rfl, fun g => ?_⟩
          · simp [Engine.answer, Engine.raise?, hnext, hfailure]
          · simp
      | none =>
          refine ⟨.ok e.next, ?_, ⟨rfl, rfl⟩, fun g => ?_⟩
          · simp [Engine.answer, Engine.raise?, hnext, hfailure]
          · simp

end Exchange

namespace Engine

variable {e : Exchange} {w : World} (h : e.answers = w.answers) {sql : Value}
variable (values : List Value)
include h

/-- A statement that the engine does not refuse has its next answer for a cursor. -/
theorem run_execute_of_answered
    (hsent : e.refusal? sql = none) :
    run (execute sql values) w =
      (.ok e.next, { w.addCall (.execute sql values) with answers := w.answers.tail }) := by
  obtain ⟨r, hrun, hran, hfails⟩ :=
    Exchange.run_answer (w := w.addCall (.execute sql values)) h sql
  cases r with
  | error f =>
      rw [(hfails f).mp rfl] at hsent
      cases hsent
  | ok cursor =>
      rw [Exchange.send_of_answered hsent] at hrun hran
      obtain ⟨-, rfl⟩ := hran
      rw [← h]
      exact hrun

/-- One that it refuses takes the answers that sending it takes. -/
theorem run_execute_of_refused
    {f : Fault} (hrefused : e.refusal? sql = some f) :
    run (execute sql values) w =
      (.error f, { w.addCall (.execute sql values) with answers := (e.send sql).answers }) := by
  obtain ⟨r, hrun, -, hfails⟩ :=
    Exchange.run_answer (w := w.addCall (.execute sql values)) h sql
  obtain rfl : r = .error f := (hfails f).mpr hrefused
  exact hrun

end Engine

/-- What comes of closing a cursor behind something that came to a result. -/
theorem Engine.run_closingCursor
    {α : Type} {cursor : Answer} {m : Routine α} {w w' : World} {r : Except Fault α}
    (hrun : run m w = (r, w')) :
    run (closingCursor cursor m) w =
      (match cursor.cursorFailures.onClose with
        | none => r
        | some i => .error (.ofIncident i), w'.addCall .closeCursor) := by
  cases hclose : cursor.cursorFailures.onClose with
  | none =>
      simp [closingCursor, Routine.followedBy, closeCursor, report, raise?, hrun, hclose]
  | some i =>
      simp [closingCursor, Routine.followedBy, closeCursor, report, raise?, hrun, hclose]

namespace Talks

open Exchange (Holds Ran)

variable {P : Exchange → Prop}

/-- A statement reported by a call, which the engine answers. -/
theorem answered
    {c : EngineCall} {sql : Value} (hfailure : ∀ e : Exchange, e.failure? c = e.refusal? sql)
    (hafter : ∀ e : Exchange, e.after c = e.send sql) :
    Talks P .plain (do
      Engine.report c
      Routine.wait .engine
      Engine.checkEncodable sql
      Engine.answer) (Ran sql) := by
  refine call (c := c) fun e w _ hanswers => ?_
  rw [hfailure, hafter]
  exact Exchange.run_answer (w := w.addCall c) hanswers sql

theorem execute
    (sql : Value) (values : List Value) :
    Talks P .plain (Engine.execute sql values) (Ran sql) :=
  answered (c := .execute sql values) (fun _ => rfl) fun _ => rfl

theorem script
    (sql : Value) :
    Talks P .plain (Engine.script sql) fun e _ => e.statement = sql := by
  have hscript : Engine.script sql = (do
      Engine.report (.script sql)
      Routine.wait .engine
      Engine.checkEncodable sql
      Engine.answer) >>= fun _ => Routine.ofExcept (.ok ()) := by
    simp only [Engine.script, bind_assoc]
    rfl
  rw [hscript]
  have hanswered := answered (P := P) (c := .script sql) (fun _ => rfl) fun _ => rfl
  exact hanswered.bind (fun _ => .ofExcept trivial fun _ he => he.1) fun _ _ he => he

/-- How a cursor fails that is held depends on nothing else. -/
theorem fetch
    (sql : Value) (cursor : Answer) :
    Talks (Holds sql cursor) .plain (Engine.fetch cursor) fun e _ => e.Holds sql cursor := by
  refine call (c := .fetch) fun e w he hanswers => ?_
  have hfailure : e.failure? .fetch = cursor.cursorFailures.onFetch.map .ofIncident := by
    rw [← he.2]
    rfl
  have hworld : { w.addCall .fetch with answers := (e.after .fetch).answers } =
      w.addCall .fetch := by
    change { w.addCall .fetch with answers := e.answers } = _
    rw [hanswers]
    rfl
  rw [hfailure, hworld]
  cases hfetch : cursor.cursorFailures.onFetch with
  | none =>
      refine ⟨.ok cursor.rows, ?_, he, by simp⟩
      simp [Engine.fetch, Engine.report, Engine.raise?, hfetch]
  | some i =>
      refine ⟨.error (.ofIncident i), ?_, he, by simp⟩
      simp [Engine.fetch, Engine.report, Engine.raise?, hfetch]

/-- A cursor is closed behind whatever was done with it.  If that broke off, closing it is
the last call; if not, closing it may fail itself. -/
theorem closingCursor
    {α : Type} {sql : Value} {cursor : Answer} {m : Routine α}
    (hm : Talks (Holds sql cursor) .plain m fun e _ => e.Holds sql cursor) :
    Talks (Holds sql cursor) .plain (Engine.closingCursor cursor m)
      fun e _ => e.Holds sql cursor := by
  intro e w he hanswers hconnected
  obtain ⟨cs, ls, h⟩ := hm e w he hanswers hconnected
  have hfailure : (e.afterAll cs).failure? .closeCursor =
      cursor.cursorFailures.onClose.map .ofIncident := by
    rw [← h.post.2]
    rfl
  have hfailures : e.failures (cs ++ [.closeCursor]) =
      e.failures cs ++ (cursor.cursorFailures.onClose.map .ofIncident).toList := by
    rw [Exchange.failures_append, Exchange.failures_singleton, hfailure]
  rcases hrun : run m w with ⟨r, w'⟩
  rw [hrun] at h
  refine ⟨cs ++ [.closeCursor], ls, ?_⟩
  rw [Engine.run_closingCursor hrun]
  exact
    { calls := by
        rw [← List.append_assoc, ← h.calls]
        rfl
      lines := h.lines
      answers := by
        rw [Exchange.afterAll_append]
        exact h.answers
      connected := h.connected
      post := by
        rw [Exchange.afterAll_append]
        exact h.post
      clean := by
        intro hclean
        rw [hfailures] at hclean
        cases hclose : cursor.cursorFailures.onClose with
        | none =>
            rw [hclose] at hclean
            exact h.clean (List.append_eq_nil_iff.mp hclean).1
        | some i =>
            simp [hclose] at hclean
      broken := by
        intro x hx
        rw [hfailures] at hx
        cases hclose : cursor.cursorFailures.onClose with
        | none =>
            rw [hclose] at hx
            obtain ⟨sql', hoff, hfault, hlines⟩ := h.broken x (by simpa using hx)
            exact ⟨sql', hoff.close, hfault, hlines⟩
        | some i =>
            rw [hclose] at hx hfailure
            rcases List.append_eq_singleton_iff.mp hx with ⟨hnone, hone⟩ | ⟨-, hno⟩
            · cases hone
              exact ⟨_, .last hnone hfailure rfl, rfl, (h.clean hnone).1⟩
            · cases hno }

end Talks

end Datalink
