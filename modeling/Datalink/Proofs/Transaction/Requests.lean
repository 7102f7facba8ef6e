import Datalink.Proofs.Session.Lifespan

/-!
# Statements that steps ask for

A step asks for one statement operation at most: an operation asks for itself, and a move
of a transaction for a control statement, if it sends one, or for the operation that is
handed on.

Results: a move asks in the world as it is but for lines, and behind it only phases and
lines are other than behind the operation that it asks for.  Behind any step the ledger and
its files are as that operation leaves them, and as they were if there is none.
-/

namespace Datalink

open Routine (run Keeps)

/-- A statement operation that is asked for, of what a handle stands for, in a world. -/
structure Request where
  handle : Handle
  operation : Operation
  world : World

/-- The world behind a request. -/
def Request.behind (s : Session) (r : Request) : World :=
  (run (r.operation.perform s r.handle) r.world).2

/-- The world behind a request, if there is one, and otherwise a world as it was. -/
def World.behind (s : Session) (w : World) (r? : Option Request) : World :=
  r?.elim w (Request.behind s)

/-- A control statement asked for. -/
def Transaction.request (t : Transaction) (c : Control) (w : World) : Request :=
  ⟨t.base, .executeRaw (.text c.keyword) .null, w⟩

/-- What the way out of a block asks for.  A rollback comes behind a line about the
failure. -/
def Transaction.exitRequest? (t : Transaction) (w : World) : Option Fault → Option Request
  | none => some (t.request .commit w)
  | some f =>
      match f.described with
      | .error _ => none
      | .ok text =>
          some (t.request .rollback (w.addLine ⟨t.logger, .error, blockFailure text⟩))

/-- What a move asks for. -/
def Move.request? (t : Transaction) (w : World) : Move → Option Request
  | control c => if w.phase t.id = c.before then some (t.request c w) else none
  | enter => if w.phase t.id = .new then some (t.request .start w) else none
  | leave failure => if w.phase t.id = .started then t.exitRequest? w failure else none
  | forwarded o => some ⟨t.handle, o, w⟩

/-- What a step asks for. -/
def Session.Step.request? (w : World) : Session.Step → Option Request
  | operation o => some ⟨.session, o, w⟩
  | attach _ => none
  | transaction _ => none
  | move t m => m.request? t w
  | close => none

/-- Whether the statement of an operation can be written, as every text can. -/
def Operation.written (o : Operation) : Bool :=
  match o.statement with
  | .error _ => true
  | .ok (sql, _) => sql.displayable

/-- Whether the statement that a move hands on can be written. -/
def Move.written : Move → Bool
  | forwarded o => o.written
  | _ => true

/-- Whether the statement that a step hands over can be written. -/
def Session.Step.written : Session.Step → Bool
  | operation o => o.written
  | move _ m => m.written
  | _ => true

/-- Whether a world is another one but for phases and lines. -/
def World.AlmostAs (w w' : World) : Prop :=
  ∃ phases ls, w' = { w with phases := phases, lines := w.lines ++ ls }

theorem World.AlmostAs.refl
    (w : World) :
    w.AlmostAs w :=
  ⟨w.phases, [], by simp⟩

theorem World.AlmostAs.trans
    {w w' w'' : World} (h : w.AlmostAs w') (h' : w'.AlmostAs w'') :
    w.AlmostAs w'' := by
  obtain ⟨phases, ls, rfl⟩ := h
  obtain ⟨phases', ls', rfl⟩ := h'
  exact ⟨phases', ls ++ ls', by simp⟩

namespace Transaction

variable {t : Transaction} {w : World} (s : Session)

theorem almostAs_tellControl
    {c : Control} (hphase : w.phase t.id = c.before) :
    ((t.request c w).behind s).AlmostAs (t.tellControl s c w).world := by
  rw [tellControl_sent s hphase]
  exact t.world_hear c _ _

theorem almostAs_tellLeave
    (failure : Option Fault) (hphase : w.phase t.id = .started) :
    (w.behind s (t.exitRequest? w failure)).AlmostAs (t.tellLeave s failure w).world := by
  cases failure with
  | none =>
      rw [tellLeave_ended s hphase]
      exact almostAs_tellControl s (c := .commit) hphase
  | some f =>
      rw [tellLeave_failed s hphase, exitRequest?]
      cases f.described with
      | error g =>
          exact .refl w
      | ok text =>
          let noted := w.addLine ⟨t.logger, .error, blockFailure text⟩
          have hnoted : noted.phase t.id = .started := hphase
          have hrolled := almostAs_tellControl s (c := .rollback) hnoted
          obtain ⟨ls, hheard⟩ := t.world_hearBehind (t.tellControl s .rollback noted).result
            (t.tellControl s .rollback noted).world
          exact hrolled.trans ⟨_, ls, hheard⟩

end Transaction

/-- Behind a move only phases and lines are other than behind what it asks for. -/
theorem Move.almostAs
    (s : Session) (t : Transaction) (m : Move) (w : World) :
    (w.behind s (m.request? t w)).AlmostAs (run (m.perform s t) w).2 := by
  rw [m.tell_of s t w]
  cases m with
  | control c =>
      by_cases hphase : w.phase t.id = c.before
      · simp only [request?, if_pos hphase]
        exact t.almostAs_tellControl s hphase
      · simp only [request?, if_neg hphase, tell, Transaction.tellControl_refused s hphase]
        exact .refl w
  | enter =>
      by_cases hphase : w.phase t.id = .new
      · simp only [request?, if_pos hphase, tell, Transaction.tellEnter_new s hphase]
        exact t.almostAs_tellControl s (c := .start) hphase
      · simp only [request?, if_neg hphase, tell, Transaction.tellEnter_idle s hphase]
        exact .refl w
  | leave failure =>
      by_cases hphase : w.phase t.id = .started
      · simp only [request?, if_pos hphase]
        exact t.almostAs_tellLeave s failure hphase
      · simp only [request?, if_neg hphase, tell, Transaction.tellLeave_idle s failure hphase]
        exact .refl w
  | forwarded o =>
      have hworld : (run ((Move.forwarded o).perform s t) w).2 =
          (run (o.perform s t.handle) w).2 :=
        Routine.world_bind_ofExcept _ (fun _ => .ok ()) w
      exact hworld ▸ .refl _

/-- A move asks in the world as it is but for lines, for something that can be written if what
it hands on can be. -/
theorem Move.request_told
    {t : Transaction} {m : Move} {w : World} {r : Request} (h : m.request? t w = some r) :
    w.AlmostAs r.world ∧ (m.written = true → r.operation.written = true) := by
  cases m with
  | control c =>
      obtain ⟨-, hr⟩ := Option.ite_none_right_eq_some.mp h
      cases hr
      exact ⟨.refl w, fun _ => rfl⟩
  | enter =>
      obtain ⟨-, hr⟩ := Option.ite_none_right_eq_some.mp h
      cases hr
      exact ⟨.refl w, fun _ => rfl⟩
  | leave failure =>
      obtain ⟨-, hexit⟩ := Option.ite_none_right_eq_some.mp h
      cases failure with
      | none =>
          cases hexit
          exact ⟨.refl w, fun _ => rfl⟩
      | some f =>
          rw [Transaction.exitRequest?] at hexit
          cases hdescribed : f.described with
          | error g =>
              rw [hdescribed] at hexit
              cases hexit
          | ok text =>
              rw [hdescribed] at hexit
              cases hexit
              exact ⟨⟨w.phases, _, rfl⟩, fun _ => rfl⟩
  | forwarded o =>
      cases h
      exact ⟨.refl w, id⟩

namespace Session

theorem holding_close
    (s : Session) (w : World) :
    (run s.close w).2.Holding w.ledger w.files := by
  have hdealing := dealing_holding w.ledger w.files
  have hanswer : Keeps _ (fun _ => True) (fun _ => True) Engine.answer :=
    hdealing.answer.mono (fun _ _ => trivial) fun _ _ => trivial
  have hdisconnect : Keeps _ (fun _ => True) (fun _ => True) Engine.disconnect :=
    (hdealing.report trivial).bind fun _ _ => hanswer.bind fun _ _ => .pure trivial
  have hconnected : Keeps (World.Holding w.ledger w.files) (fun _ => True) (fun _ => True)
      Session.connected :=
    .step (fun _ hw => hw) fun _ _ => trivial
  have hclose : Keeps (World.Holding w.ledger w.files) (fun _ => True) (fun _ => True) s.close := by
    refine (Keeps.wait _).bind fun _ _ => hconnected.bind fun connected _ => ?_
    cases connected with
    | true =>
        have hclosed : Keeps (World.Holding w.ledger w.files) (fun _ => True) (fun _ => True)
            (Routine.change fun w => { w with connected := false }) :=
          .change fun _ hw => hw
        exact hclosed.bind fun _ _ => hdisconnect.bind fun _ _ => .note hdealing.addLine ..
    | false =>
        exact .pure trivial
  exact hclose.world w ⟨rfl, rfl⟩

/-- Behind a step the ledger and its files are as what it asks for leaves them. -/
theorem Step.holding
    (s : Session) (st : Step) (w : World) :
    (run (st.perform s) w).2.Holding (w.behind s (st.request? w)).ledger
      (w.behind s (st.request? w)).files := by
  cases st with
  | operation o =>
      have hworld : (run ((Step.operation o).perform s) w).2 = (run (o.perform s .session) w).2 :=
        Routine.world_bind_ofExcept _ (fun _ => .ok ()) w
      rw [hworld]
      exact ⟨rfl, rfl⟩
  | attach name =>
      exact s.holding_attach name w
  | transaction outer =>
      cases outer with
      | none => exact ⟨rfl, rfl⟩
      | some t => exact ⟨rfl, rfl⟩
  | move t m =>
      obtain ⟨phases, ls, hworld⟩ := m.almostAs s t w
      change (run (m.perform s t) w).2.Holding _ _
      rw [hworld]
      exact ⟨rfl, rfl⟩
  | close =>
      exact s.holding_close w

/-- So does a step. -/
theorem Step.request_told
    {st : Step} {w : World} {r : Request} (h : st.request? w = some r) :
    w.AlmostAs r.world ∧ (st.written = true → r.operation.written = true) := by
  cases st with
  | operation o =>
      cases h
      exact ⟨.refl w, id⟩
  | move t m =>
      exact m.request_told h
  | _ =>
      cases h

end Session

end Datalink
