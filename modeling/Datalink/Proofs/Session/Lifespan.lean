import Datalink.Proofs.Session.Binding
import Datalink.Proofs.Transaction.Account

/-!
# The lifespan of a session

A run is a list of steps: operations on the session, requests to attach a database, new
transactions, what is done with transactions over the session, and requests to close it.
The engine answers as it likes, and fails as it likes.

Results: a step other than closing keeps the connection, and one that finds the session
closed makes no calls.  So a session is closed from the first request to close it on, the
engine is disconnected once at most, even if it refuses to be, and every later operation is
refused.
-/

namespace Datalink

open Routine (run Keeps)

/-- Whether a call ends the connection. -/
def EngineCall.isDisconnect : EngineCall → Bool
  | disconnect => true
  | _ => false

/-- How often the engine was disconnected. -/
def World.disconnects (w : World) : Nat := w.calls.countP EngineCall.isDisconnect

namespace Session

/-- What callers do with a session. -/
inductive Step where
  | operation (o : Operation)
  | attach (name : Value)
  /-- A new transaction, over the session or over another one. -/
  | transaction (outer : Option Transaction)
  /-- Something done with a transaction, among it operations that are handed on. -/
  | move (t : Transaction) (m : Move)
  /-- The session closed, or left as a block. -/
  | close

namespace Step

/-- A step itself. -/
def perform (s : Session) : Step → Routine Unit
  | operation o => do
      let _ ← o.perform s .session
      return ()
  | attach name => s.attach name
  | transaction none => do
      let _ ← Transaction.overSession s
      return ()
  | transaction (some t) => do
      let _ ← Transaction.overTransaction (some t) none
      return ()
  | move t m => m.perform s t
  | close => s.close

def isClose : Step → Bool
  | close => true
  | _ => false

def isAttach : Step → Bool
  | attach _ => true
  | _ => false

end Step

/-- A run of steps, each in the world that the one before it left. -/
def play (s : Session) (w : World) (steps : List Step) : World :=
  steps.foldl (fun w step => (run (step.perform s) w).2) w

/-- A property of worlds that no step breaks but closing the session and attaching a database,
if lines of information have texts of some kind. -/
structure Enduring (I : Text → Prop) (s : Session) (P : World → Prop) : Prop
    extends UndisturbedBy I P where
  phases : ∀ w phases, P w → P { w with phases := phases }
  operations : ∀ handle o,
    Keeps P (fun _ => True) (fun _ => True) (Operation.perform s handle o)
  controls : ∀ c, I (Transaction.successNote c)

namespace Enduring

variable {I : Text → Prop} {s : Session} {P : World → Prop} (h : Enduring I s P)
include h

theorem control
    (t : Transaction) (c : Control) :
    Keeps P (fun _ => True) (fun _ => True) (t.control s c) := by
  have hsent : Keeps P (fun _ => True) (fun _ => True)
      (t.base.executeRaw s (.text c.keyword) .null) :=
    h.operations t.base (.executeRaw (.text c.keyword) .null)
  unfold Transaction.control
  refine (Keeps.phase t.id).bind fun phase _ => ?_
  split
  · refine hsent.attempt.bind fun r _ => ?_
    cases r with
    | ok v =>
        exact (Keeps.change fun w hw => h.phases w _ hw).bind fun _ _ =>
          h.note _ _ _ fun _ => h.controls c
    | error f =>
        dsimp only
        split
        · exact .fail trivial
        · have hwords : Outcome (fun _ => True) (fun _ => True) f.words :=
            f.words_failsInternally.outcome fun _ _ => trivial
          exact (Keeps.ofExcept hwords).bind fun _ _ => (h.note _ .error _ nofun).bind fun _ _ => .fail trivial
  · exact .fail trivial

theorem move
    (t : Transaction) (m : Move) :
    Keeps P (fun _ => True) (fun _ => True) (m.perform s t) := by
  cases m with
  | control c =>
      exact h.control t c
  | enter =>
      refine (Keeps.phase t.id).bind fun phase _ => ?_
      split
      · exact h.control t .start
      · exact .pure trivial
  | leave failure =>
      refine (Keeps.phase t.id).bind fun phase _ => ?_
      split
      · cases failure with
        | none =>
            exact h.control t .commit
        | some f =>
            have hdescribed : Outcome (fun _ => True) (fun _ => True) f.described := by
              cases f.described <;> trivial
            refine (Keeps.ofExcept hdescribed).bind fun _ _ => (h.note _ .error _ nofun).bind fun _ _ => ?_
            refine (h.control t .rollback).attempt.bind fun r _ => ?_
            cases r with
            | ok _ =>
                exact .pure trivial
            | error g =>
                dsimp only
                split
                · exact h.note _ .error _ nofun
                · exact .fail trivial
      · exact .pure trivial
  | forwarded o =>
      exact (h.operations t.handle o).bind fun _ _ => .pure trivial

theorem step
    {st : Step} (hclose : st.isClose = false) (hattach : st.isAttach = false) :
    Keeps P (fun _ => True) (fun _ => True) (st.perform s) := by
  have hadded : Keeps P (fun _ => True) (fun _ => True) (Routine.step World.addTransaction) :=
    .step (fun w hw => h.phases w _ hw) fun _ _ => trivial
  cases st with
  | operation o =>
      exact (h.operations .session o).bind fun _ _ => .pure trivial
  | attach name =>
      cases hattach
  | transaction outer =>
      cases outer with
      | none => exact hadded.bind fun _ _ => .pure trivial
      | some t =>
          have hnew : Keeps P (fun _ => True) (fun _ => True)
              (Transaction.overTransaction (some t) none) :=
            hadded.bind fun _ _ => .pure trivial
          exact hnew.bind fun _ _ => .pure trivial
  | move t m =>
      exact h.move t m
  | close =>
      cases hclose

end Enduring

/-- A property of worlds that no step breaks but closing the session. -/
structure Lasting (s : Session) (P : World → Prop) : Prop extends Undisturbed P where
  phases : ∀ w phases, P w → P { w with phases := phases }
  operations : ∀ handle o,
    Keeps P (fun _ => True) (fun _ => True) (Operation.perform s handle o)
  attach : ∀ name, Keeps P (fun _ => True) (fun _ => True) (s.attach name)

namespace Lasting

variable {s : Session} {P : World → Prop} (h : Lasting s P)
include h

theorem enduring :
    Enduring (fun _ => True) s P :=
  { h.undisturbedBy with
    phases := h.phases
    operations := h.operations
    controls := fun _ => trivial }

theorem step
    {st : Step} (hst : st.isClose = false) {w : World} (hw : P w) :
    P (run (st.perform s) w).2 := by
  cases hattach : st.isAttach with
  | false =>
      exact (h.enduring.step hst hattach).world w hw
  | true =>
      cases st with
      | attach name => exact (h.attach name).world w hw
      | _ => cases hattach

end Lasting

/-- Whether a world is connected, with its engine disconnected a number of times so far. -/
def Connected (n : Nat) (w : World) : Prop := w.connected = true ∧ w.disconnects = n

/-- Whether a world is closed, with certain calls made so far. -/
def Closed (calls : List EngineCall) (w : World) : Prop :=
  w.connected = false ∧ w.calls = calls

theorem steady_connected
    (n : Nat) :
    Steady (fun c => c.isDisconnect = false) (Connected n) := by
  refine .of_core (fun w w' hconnected hcalls _ h => ?_) fun w c hc h => ⟨h.1, ?_⟩
  · rw [Connected, World.disconnects, hconnected, hcalls]
    exact h
  · rw [← h.2]
    simp [World.disconnects, World.addCall, List.countP_append, hc]

/-- Neither a statement nor a request to attach a database ends the connection. -/
theorem isDisconnect_of_mem_calls
    {c : Channel} {sql : Value} {values : List Value} {call : EngineCall}
    (h : call ∈ c.calls sql values) :
    call.isDisconnect = false := by
  cases c <;> simp only [Channel.calls, List.mem_cons, List.not_mem_nil, or_false] at h
  · rcases h with rfl | rfl | rfl <;> rfl
  · rcases h with rfl | rfl <;> rfl
  · rw [h]
    rfl

theorem isDisconnect_of_mem_attachCalls
    {s : Session} {name : Value} {call : EngineCall} (h : call ∈ s.attachCalls name) :
    call.isDisconnect = false := by
  simp only [attachCalls, List.mem_cons, List.not_mem_nil, or_false] at h
  rcases h with rfl | rfl | rfl | rfl | rfl <;> rfl

theorem lasting_connected
    (s : Session) (n : Nat) :
    Lasting s (Connected n) :=
  have hsteady := steady_connected n
  { hsteady with
    phases := fun _ _ h => h
    operations := fun handle o =>
      hsteady.perform s handle o fun _ _ _ _ => isDisconnect_of_mem_calls
    attach := fun _ => hsteady.setting.dealing.attach s fun _ => isDisconnect_of_mem_attachCalls }

/-- In a closed session no call may be made. -/
theorem steady_closed
    (calls : List EngineCall) :
    Steady (fun _ => False) (Closed calls) := by
  refine .of_core (fun w w' hconnected hcalls _ h => ?_) fun _ _ hc => hc.elim
  rw [Closed, hconnected, hcalls]
  exact h

section Refusals

variable (s : Session) {w : World}

/-- What wants the connection for itself is refused when that is closed. -/
theorem run_send_of_closed
    (hclosed : w.connected = false) (c : Channel) (sql : Value) (values : List Value) :
    run (c.send s sql values) w = (.error (.closed s.settings.path), w) := by
  cases c with
  | reading =>
      change run (s.guarded _ >>= _) w = _
      rw [Routine.run_bind, s.run_guarded_of_closed hclosed]
  | changing =>
      exact s.run_guarded_of_closed hclosed
  | script =>
      exact s.run_guarded_of_closed hclosed

theorem run_attach_of_closed
    (hclosed : w.connected = false) (name : Value) :
    run (s.attach name) w = (.error (.closed s.settings.path), w) :=
  s.run_guarded_of_closed hclosed

/-- A closed session is found closed by an operation that is prepared, through whatever
transactions that are open. -/
theorem result_perform_of_closed
    (hclosed : w.connected = false) {h : Handle} (hopen : h.IsOpen w) {o : Operation}
    {text : Text} {values : List Value} (hprepare : o.prepare = .ok (.text text, values)) :
    (run (o.perform s h) w).1 = .error (.closed s.settings.path) := by
  obtain ⟨c, hc⟩ := w.nextReading_eq
  have hstill : w.nextReading.2.connected = false := by
    rw [hc]
    exact hclosed
  have hitems : (Value.tuple values).asItems = .ok values := rfl
  obtain ⟨w', ls, hmeasured, -⟩ :=
    Measure.run_measured .measure o.channel.name text hitems
      (Operation.allPrintable_of_prepare hprepare)
      (s.run_send_of_closed hstill o.channel (.text text) values)
  rw [Operation.run_perform_of_prepared s hopen hprepare hmeasured]
  rfl

/-- So is it by a control statement in its phase, which has that for its cause. -/
theorem result_control_of_closed
    (hclosed : w.connected = false) {t : Transaction} {c : Control} (hopen : t.base.IsOpen w)
    (hphase : w.phase t.id = c.before) :
    (run (t.control s c) w).1 = .error (.control c (.closed s.settings.path)) := by
  let sent := run (t.base.executeRaw s (.text c.keyword) .null) w
  have hsent : sent.1 = .error (.closed s.settings.path) :=
    s.result_perform_of_closed (o := .executeRaw (.text c.keyword) .null) hclosed hopen rfl
  rw [t.tellControl_of s c w, Transaction.tellControl_sent s hphase]
  change (run (t.hear c sent.1) sent.2).1 = _
  rw [hsent]
  rfl

theorem keeps_send_of_closed
    (calls : List EngineCall) (c : Channel) (sql : Value) (values : List Value) :
    Keeps (Closed calls) (fun _ => True) (fun _ => True) (c.send s sql values) := by
  refine .of_run fun w hw => ?_
  rw [s.run_send_of_closed hw.1]
  exact ⟨hw, trivial⟩

end Refusals

theorem lasting_closed
    (s : Session) (calls : List EngineCall) :
    Lasting s (Closed calls) :=
  have hundisturbed := (steady_closed calls).toUndisturbed
  { hundisturbed with
    phases := fun _ _ h => h
    operations := fun handle o => by
      refine o.keeps_perform s handle (fun _ _ => trivial) (fun _ _ => trivial)
        fun sql values _ => ?_
      have hsend := s.keeps_send_of_closed calls o.channel sql values
      exact (hundisturbed.measured hsend (fun _ _ => trivial) ..).mono (fun _ _ => trivial)
        fun _ _ => trivial
    attach := fun name => .of_run fun w hw => by
      rw [s.run_attach_of_closed hw.1]
      exact ⟨hw, trivial⟩ }

/-- Closing a connected session disconnects the engine, and what follows depends on its
answer. -/
theorem run_close_of_connected
    (s : Session) {w : World} (h : w.connected = true) :
    run s.close w =
      run (Engine.answer >>= fun _ => Measure.note s.logger .info s.closedNote)
        ({ w with connected := false }.addCall .disconnect) := by
  simp only [close, connected, Engine.disconnect, Engine.report, Routine.run_bind,
    Routine.run_wait, Routine.run_step, Routine.run_change, h, if_true, bind_assoc, pure_bind]

/-- Closing a connected session disconnects the engine once, and the session is closed
behind it even if the engine refuses. -/
theorem close_of_connected
    (s : Session) {w : World} (h : w.connected = true) :
    Closed (w.calls ++ [.disconnect]) (run s.close w).2 := by
  have hsteady := steady_closed (w.calls ++ [.disconnect])
  have hanswer : Keeps _ (fun _ => True) (fun _ => True) Engine.answer :=
    hsteady.setting.dealing.answer.mono (fun _ _ => trivial) fun _ _ => trivial
  have hrest := hanswer.bind fun _ _ =>
    hsteady.note (Q := fun _ => True) s.logger .info s.closedNote
  rw [s.run_close_of_connected h]
  exact hrest.world _ ⟨rfl, rfl⟩

theorem close_of_closed
    (s : Session) {w : World} (h : w.connected = false) :
    run s.close w = (.ok (), w) := by
  simp [close, connected, h]

theorem Step.eq_close
    {st : Step} (h : st.isClose = true) :
    st = .close := by
  cases st with
  | close =>
      rfl
  | _ =>
      cases h

/-- A step keeps the connection, and does not disconnect the engine, unless it is the one
that closes the session. -/
theorem step_of_connected
    (s : Session) (st : Step) {w : World} (h : w.connected = true) :
    let w' := (run (st.perform s) w).2
    w'.connected = !st.isClose ∧
      w'.disconnects = w.disconnects + if st.isClose then 1 else 0 := by
  intro w'
  cases hst : st.isClose with
  | true =>
      obtain rfl := Step.eq_close hst
      obtain ⟨hclosed, hcalls⟩ := s.close_of_connected h
      refine ⟨hclosed, ?_⟩
      change w'.calls = _ at hcalls
      simp [World.disconnects, hcalls, EngineCall.isDisconnect]
  | false =>
      exact (lasting_connected s w.disconnects).step hst ⟨h, rfl⟩

/-- No step opens a closed session again, and none makes a call. -/
theorem step_of_closed
    (s : Session) (st : Step) {w : World} (h : w.connected = false) :
    Closed w.calls (run (st.perform s) w).2 := by
  cases hst : st.isClose with
  | true =>
      obtain rfl := Step.eq_close hst
      change Closed w.calls (run s.close w).2
      rw [s.close_of_closed h]
      exact ⟨h, rfl⟩
  | false =>
      exact (lasting_closed s w.calls).step hst ⟨h, rfl⟩

theorem play_of_closed
    (s : Session) (steps : List Step) {w : World} (h : w.connected = false) :
    Closed w.calls (s.play w steps) := by
  induction steps generalizing w with
  | nil =>
      exact ⟨h, rfl⟩
  | cons st steps ih =>
      obtain ⟨hstill, hcalls⟩ := s.step_of_closed st h
      have hrest := ih hstill
      rw [hcalls] at hrest
      exact hrest

theorem play_of_connected
    (s : Session) (steps : List Step) {w : World} (h : w.connected = true) :
    (s.play w steps).connected = !steps.any Step.isClose ∧
      (s.play w steps).disconnects =
        w.disconnects + if steps.any Step.isClose then 1 else 0 := by
  induction steps generalizing w with
  | nil =>
      exact ⟨h, rfl⟩
  | cons st steps ih =>
      obtain ⟨hconnected, hcount⟩ := s.step_of_connected st h
      cases hst : st.isClose with
      | true =>
          -- Nothing that comes behind counts.
          rw [hst] at hconnected hcount
          obtain ⟨hclosed, hcalls⟩ := s.play_of_closed steps hconnected
          have hrest : (s.play w (st :: steps)).disconnects =
              (run (st.perform s) w).2.disconnects :=
            congrArg (List.countP EngineCall.isDisconnect) hcalls
          simp only [List.any_cons, hst, Bool.true_or]
          exact ⟨hclosed, hrest.trans hcount⟩
      | false =>
          rw [hst] at hconnected hcount
          obtain ⟨hstill, hrest⟩ := ih hconnected
          simp only [List.any_cons, hst, Bool.false_or]
          rw [hcount] at hrest
          exact ⟨hstill, hrest⟩

/-- Whether everything that wants the connection is refused: attaching a database, an
operation that is prepared, on the session or through open transactions, and a control
statement in its phase, which has the refusal for its cause. -/
structure Refuses (s : Session) (w : World) : Prop where
  attach : ∀ name, (run (s.attach name) w).1 = .error (.closed s.settings.path)
  operations : ∀ (h : Handle) (o : Operation) (text : Text) (values : List Value),
    h.IsOpen w → o.prepare = .ok (.text text, values) →
      (run (o.perform s h) w).1 = .error (.closed s.settings.path)
  controls : ∀ (t : Transaction) (c : Control),
    t.base.IsOpen w → w.phase t.id = c.before →
      (run (t.control s c) w).1 = .error (.control c (.closed s.settings.path))

/-- A session that was connected is closed behind a run if and only if it was asked to
close; then the engine was disconnected once, and otherwise never.  Once it is closed, it
stays closed, no call is made, and what wants the connection is refused. -/
theorem closed_for_good
    (s : Session) (w : World) (steps : List Step) :
    let w' := s.play w steps
    w'.connected = (w.connected && !steps.any Step.isClose) ∧
      w'.disconnects =
        w.disconnects + (if w.connected && steps.any Step.isClose then 1 else 0) ∧
      (w'.connected = false →
        s.Refuses w' ∧
          ∀ later, (s.play w' later).connected = false ∧ (s.play w' later).calls = w'.calls) := by
  intro w'
  have hafter : w'.connected = false →
      s.Refuses w' ∧
        ∀ later, (s.play w' later).connected = false ∧ (s.play w' later).calls = w'.calls := by
    intro hclosed
    refine ⟨?_, fun later => s.play_of_closed later hclosed⟩
    exact
      { attach := fun name => by rw [s.run_attach_of_closed hclosed]
        operations := fun _ _ _ _ hopen => s.result_perform_of_closed hclosed hopen
        controls := fun _ _ hopen => s.result_control_of_closed hclosed hopen }
  cases h : w.connected with
  | true =>
      obtain ⟨hconnected, hcount⟩ := s.play_of_connected steps h
      exact ⟨hconnected, hcount, hafter⟩
  | false =>
      obtain ⟨hclosed, hcalls⟩ := s.play_of_closed steps h
      exact ⟨hclosed, congrArg (List.countP EngineCall.isDisconnect) hcalls, hafter⟩

end Session

end Datalink
