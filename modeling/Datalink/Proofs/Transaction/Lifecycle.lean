import Datalink.Proofs.Transaction.Account
import Datalink.Proofs.Transaction.Forwarding

/-!
# The life of a transaction

A run is a list of events.  Each is a move, made in a scene: the world with whatever other
callers, the engine and its answers have made of it since, but for the phase of the
transaction itself.  The engine may fail as it likes, but it does not ask the program to
stop.

Results: the control statements that a transaction sent with success are a start, and
behind it a commit or a rollback.  They tell its phase.  A control statement that fails
leaves the phase, and nothing at all happens in the last two phases.
-/

namespace Datalink

open Routine (Keeps)

/-- Whether no failure in an answer asks the program to stop. -/
def Answer.Calm : Answer → Prop := Answered fun f => f.isInterrupt = false

/-- Whether no answer that the engine has still to give asks the program to stop. -/
def World.Calm (w : World) : Prop := ∀ a ∈ w.answers, a.Calm

instance (a : Answer) : Decidable a.Calm :=
  inferInstanceAs (Decidable (Answered (fun f => f.isInterrupt = false) a))

instance (w : World) : Decidable w.Calm := inferInstanceAs (Decidable (∀ a ∈ w.answers, a.Calm))

/-- In a calm world the phases of all transactions are kept, and no fault asks the program
to stop. -/
theorem setting_phases
    (phases : List Phase) :
    Setting (fun _ => True) (fun w => w.phases = phases ∧ w.Calm) fun f =>
      f.isInterrupt = false :=
  setting_answered phases (fun _ => rfl) fun _ hf => hf.not_interrupt

/-- The control statements that lead to a phase: a start, then a commit or a rollback. -/
def Phase.past : Phase → List Control
  | new => []
  | started => [.start]
  | committed => [.start, .commit]
  | rolledBack => [.start, .rollback]

theorem Control.past_after
    (c : Control) :
    c.before.past ++ [c] = c.after.past := by
  cases c <;> rfl

namespace Transaction

variable {s : Session} {t : Transaction} {w : World}

/-- How a control statement may go: it is refused in the wrong phase, or it is sent and
succeeds or fails. -/
inductive ControlCourse (t : Transaction) (c : Control) (w : World) : Account Unit → Prop where
  | refused (hphase : w.phase t.id ≠ c.before) :
      ControlCourse t c w ⟨[], .error (refusal c (w.phase t.id)), w⟩
  | succeeded (hphase : w.phase t.id = c.before) (v : Value) (w' : World)
      (hphases : w'.phases = w.phases.set t.id c.after) :
      ControlCourse t c w ⟨[⟨c, .ok v⟩], .ok (), w'⟩
  | failed (hphase : w.phase t.id = c.before) (f : Fault) (w' : World)
      (hphases : w'.phases = w.phases) :
      ControlCourse t c w ⟨[⟨c, .error f⟩], .error (.control c f), w'⟩

theorem tellControl_course
    (s : Session) (t : Transaction) (c : Control) (hcalm : w.Calm) :
    ControlCourse t c w (t.tellControl s c w) := by
  by_cases hphase : w.phase t.id = c.before
  · have hkeeps := (setting_phases w.phases).executeRawWithin s (.text c.keyword) t.base
      fun _ _ => trivial
    have hworld := hkeeps.world w ⟨rfl, hcalm⟩
    have houtcome := hkeeps.outcome w ⟨rfl, hcalm⟩
    rw [tellControl_sent s hphase]
    rcases hrun : Routine.run (t.base.executeRaw s (.text c.keyword) .null) w with ⟨r, w'⟩
    rw [hrun] at hworld houtcome
    obtain ⟨hphases, -⟩ := hworld
    cases r with
    | ok v =>
        have hset : (w'.setPhase t.id c.after).phases = w.phases.set t.id c.after := by
          rw [← hphases]
          rfl
        exact .succeeded hphase v _ hset
    | error f =>
        obtain ⟨hgo, hwords⟩ := houtcome
        have hhear :
            Routine.run (t.hear c (.error f)) w' =
              (.error (.control c f),
                w'.addLine ⟨t.logger, .error, failureNote c f.message⟩) := by
          have hworded : f.words = .ok f.message := hwords hgo
          simp [hear, hgo, hworded, Measure.note]
        simp only [hhear]
        exact .failed hphase f _ hphases
  · rw [tellControl_refused s hphase]
    exact .refused hphase

/-- How a move may go as far as its transaction is concerned: it sends nothing, or one
control statement that succeeds or fails. -/
inductive Course (t : Transaction) (m : Move) (w : World) (a : Account Unit) : Prop where
  | quiet (hsent : a.sent = []) (hphases : a.world.phases = w.phases)
      (hover : w.phase t.id ≠ .new → w.phase t.id ≠ .started → a.world = w)
  | succeeded (c : Control) (v : Value) (hphase : w.phase t.id = c.before)
      (hsent : a.sent = [⟨c, .ok v⟩]) (hphases : a.world.phases = w.phases.set t.id c.after)
  | failed (c : Control) (f : Fault) (hphase : w.phase t.id = c.before)
      (hsent : a.sent = [⟨c, .error f⟩]) (hphases : a.world.phases = w.phases)
      (hresult : a.result = .error (.control c f) ∨
        (∃ g, m = .leave (some g)) ∧ c = .rollback ∧ a.result = .ok ())

theorem ControlCourse.course
    {c : Control} {a : Account Unit} (h : ControlCourse t c w a) (m : Move) :
    Course t m w a := by
  cases h with
  | refused hphase =>
      exact .quiet rfl rfl fun _ _ => rfl
  | succeeded hphase v w' hphases =>
      exact .succeeded c v hphase rfl hphases
  | failed hphase f w' hphases =>
      exact .failed c f hphase rfl hphases (.inl rfl)

theorem tellLeave_course
    (s : Session) (t : Transaction) (failure : Option Fault) (hcalm : w.Calm) :
    Course t (.leave failure) w (t.tellLeave s failure w) := by
  by_cases hphase : w.phase t.id = .started
  · cases failure with
    | none =>
        rw [tellLeave_ended s hphase]
        exact (t.tellControl_course s .commit hcalm).course _
    | some f =>
        rw [tellLeave_failed s hphase]
        cases f.described with
        | error g =>
            exact .quiet rfl rfl fun _ h => absurd hphase h
        | ok text =>
            -- The line changes neither the phases nor the answers to come.
            have hcourse := t.tellControl_course s .rollback
              (w := w.addLine ⟨t.logger, .error, blockFailure text⟩) hcalm
            dsimp only
            revert hcourse
            generalize t.tellControl s .rollback _ = a
            intro hcourse
            cases hcourse with
            | refused h =>
                exact absurd hphase h
            | succeeded _ v w' hphases =>
                exact .succeeded .rollback v hphase rfl hphases
            | failed _ g w' hphases =>
                exact .failed .rollback g hphase rfl hphases (.inr ⟨⟨f, rfl⟩, rfl, rfl⟩)
  · rw [tellLeave_idle s failure hphase]
    exact .quiet rfl rfl fun _ _ => rfl

theorem tellEnter_course
    (s : Session) (t : Transaction) (hcalm : w.Calm) :
    Course t .enter w (t.tellEnter s w) := by
  by_cases hphase : w.phase t.id = .new
  · rw [tellEnter_new s hphase]
    exact (t.tellControl_course s .start hcalm).course _
  · rw [tellEnter_idle s hphase]
    exact .quiet rfl rfl fun _ _ => rfl

theorem forwarded_course
    (s : Session) (t : Transaction) (o : Operation) (w : World) :
    Course t (.forwarded o) w ((Move.forwarded o).tell s t w) := by
  have hphases := o.phases_perform s t.handle w
  rcases hrun : Routine.run (o.perform s t.handle) w with ⟨r, w'⟩
  have hworld : (Routine.run ((Move.forwarded o).perform s t) w).2 = w' := by
    cases r <;> simp [Move.perform, hrun]
  rw [hrun] at hphases
  refine .quiet rfl ((congrArg World.phases hworld).trans hphases) fun _ hphase => ?_
  refine hworld.trans ?_
  rw [Routine.run, o.perform_of_not_started s hphase] at hrun
  exact (congrArg Prod.snd hrun).symm

/-- Every move takes one of its courses. -/
theorem tell_course
    (s : Session) (t : Transaction) (m : Move) (hcalm : w.Calm) :
    Course t m w (m.tell s t w) := by
  cases m with
  | control c =>
      exact (t.tellControl_course s c hcalm).course _
  | enter =>
      exact t.tellEnter_course s hcalm
  | leave failure =>
      exact t.tellLeave_course s failure hcalm
  | forwarded o =>
      exact t.forwarded_course s o w

/-- A move, and the scene in which it is made: a calm world in which the transaction is
there. -/
structure Event (t : Transaction) where
  move : Move
  scene : World
  present : t.id < scene.phases.length
  calm : scene.Calm

instance : Inhabited (Event t) :=
  ⟨{ move := .enter
     scene := { (default : World) with phases := List.replicate (t.id + 1) .new }
     present := by simp
     calm := by rintro a ⟨⟩ }⟩

namespace Event

/-- The scene of an event, with the transaction in its phase. -/
def begin (e : Event t) (phase : Phase) : World := e.scene.setPhase t.id phase

/-- What comes of an event. -/
def account (s : Session) (e : Event t) (phase : Phase) : Account Unit :=
  e.move.tell s t (e.begin phase)

theorem phase_begin
    (e : Event t) (phase : Phase) :
    (e.begin phase).phase t.id = phase := by
  have hpresent := e.present
  simp [begin, World.phase, World.setPhase, hpresent]

theorem course
    (s : Session) (e : Event t) (phase : Phase) :
    Course t e.move (e.begin phase) (e.account s phase) :=
  tell_course s t e.move (w := e.begin phase) e.calm

end Event

/-- The control statements that succeeded. -/
def succeeded (sent : List Attempt) : List Control :=
  sent.filterMap fun a =>
    match a.outcome with
    | .ok _ => some a.control
    | .error _ => none

/-- A run of events from a phase on: the control statements that succeeded, and the phase
in the end. -/
def play (s : Session) (t : Transaction) : Phase → List (Event t) → List Control × Phase
  | phase, [] => ([], phase)
  | phase, e :: es =>
      let a := e.account s phase
      let rest := play s t (a.world.phase t.id) es
      (succeeded a.sent ++ rest.1, rest.2)

theorem phase_of_phases_eq
    {w' : World} (h : w'.phases = w.phases) (id : Nat) :
    w'.phase id = w.phase id := by
  unfold World.phase
  rw [h]

/-- A control statement that fails leaves the phase.  Unless it is the rollback behind a
block that failed, it is the cause of the fault that the move ends with. -/
theorem failed_account
    (s : Session) (e : Event t) (phase : Phase) {c : Control} {f : Fault}
    (hfailed : ⟨c, .error f⟩ ∈ (e.account s phase).sent) :
    (e.account s phase).world.phase t.id = phase ∧
      ((e.account s phase).result = .error (.control c f) ∨
        (∃ g, e.move = .leave (some g)) ∧ c = .rollback ∧
          (e.account s phase).result = .ok ()) := by
  cases e.course s phase with
  | quiet hsent _ _ =>
      rw [hsent] at hfailed
      cases hfailed
  | succeeded c' v _ hsent _ =>
      rw [hsent, List.mem_singleton] at hfailed
      cases hfailed
  | failed c' g _ hsent hphases hresult =>
      rw [hsent, List.mem_singleton] at hfailed
      obtain ⟨rfl, rfl⟩ : c = c' ∧ f = g := by
        cases hfailed
        exact ⟨rfl, rfl⟩
      refine ⟨?_, hresult⟩
      rw [phase_of_phases_eq hphases]
      exact e.phase_begin phase

/-- Nothing happens in the last two phases. -/
theorem account_world_of_over
    (s : Session) (e : Event t) {phase : Phase}
    (hover : phase = .committed ∨ phase = .rolledBack) :
    (e.account s phase).world = e.begin phase := by
  have hbegin := e.phase_begin phase
  have hbefore : ∀ c : Control, (e.begin phase).phase t.id ≠ c.before := by
    intro c h
    rw [hbegin] at h
    rcases hover with rfl | rfl <;> cases c <;> cases h
  cases e.course s phase with
  | quiet _ _ hworld =>
      exact hworld (hbefore .start) (hbefore .commit)
  | succeeded c _ hphase _ _ =>
      exact absurd hphase (hbefore c)
  | failed c _ hphase _ _ _ =>
      exact absurd hphase (hbefore c)

/-- An event adds what succeeded to the past of the phase. -/
theorem past_account
    (s : Session) (e : Event t) (phase : Phase) :
    phase.past ++ succeeded (e.account s phase).sent =
      ((e.account s phase).world.phase t.id).past := by
  have hbegin := e.phase_begin phase
  cases e.course s phase with
  | quiet hsent hphases _ =>
      rw [hsent, phase_of_phases_eq hphases, hbegin]
      exact List.append_nil _
  | succeeded c v hphase hsent hphases =>
      have hafter : (e.account s phase).world.phase t.id = c.after := by
        have hpresent := e.present
        simp [World.phase, hphases, Event.begin, World.setPhase, hpresent]
      rw [hsent, hafter, ← c.past_after, ← hphase, hbegin]
      rfl
  | failed c f _ hsent hphases _ =>
      rw [hsent, phase_of_phases_eq hphases, hbegin]
      exact List.append_nil _

/-- A run adds what succeeded to the past of the phase that it began in. -/
theorem past_play
    (s : Session) (phase : Phase) (es : List (Event t)) :
    phase.past ++ (play s t phase es).1 = (play s t phase es).2.past := by
  induction es generalizing phase with
  | nil =>
      exact List.append_nil _
  | cons e es ih =>
      have hrest := ih ((e.account s phase).world.phase t.id)
      rw [← past_account, List.append_assoc] at hrest
      exact hrest

/-- The control statements that a transaction sent with success lead to its phase.  Of
every event that may come next it holds that what is told of it is true, that a control
statement that fails leaves the phase and leads to a fault with the failure as its cause,
apart from the rollback behind a block that failed, and that nothing happens to the
transaction or to the engine once it is committed or rolled back. -/
theorem lifecycle
    (s : Session) (t : Transaction) (es : List (Event t)) :
    let (controls, phase) := play s t .new es
    controls = phase.past ∧
      ∀ e : Event t,
        let a := e.account s phase
        Routine.run (e.move.perform s t) (e.begin phase) = (a.result, a.world) ∧
        (∀ c f, ⟨c, .error f⟩ ∈ a.sent →
          a.world.phase t.id = phase ∧
            (a.result = .error (.control c f) ∨
              (∃ g, e.move = .leave (some g)) ∧ c = .rollback ∧ a.result = .ok ())) ∧
        (phase = .committed ∨ phase = .rolledBack →
          a.world.phase t.id = phase ∧ a.world.calls = e.scene.calls) := by
  refine ⟨past_play s .new es, fun e => ⟨?_, ?_, ?_⟩⟩
  · exact e.move.tell_of s t _
  · intro c f hfailed
    exact failed_account s e _ hfailed
  · intro hover
    rw [account_world_of_over s e hover]
    exact ⟨e.phase_begin _, rfl⟩

end Transaction

end Datalink
