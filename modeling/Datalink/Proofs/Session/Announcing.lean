import Datalink.Proofs.Session.Tallying

/-!
# Statements that are announced

Input: runs of occasions, on which the engine and the ledger fail as they like.

If a session logs its statements it writes one line of information about each before it hands
it to the engine: the statement, a bar, and the list of its parameters.  A line counts as one
about a statement if it has this form, whoever wrote it.

Results: a run makes calls and never takes one back, and the lines of this form are, in order,
one for each statement that was handed to the engine, and none for any other.  There are two
exceptions.  A request to attach a database announces the statement that attaches and neither
of the others that it makes.  And the line about a closed connection has the form if its
database has a name of the form.
-/

namespace Datalink

open Routine (run Keeps)

/-- Whether a text has the form of a statement, a bar and a list. -/
def Text.ReadsAsStatement (t : Text) : Prop := (" | [" : Text) <:+: t ∧ ("]" : Text) <:+ t

instance (t : Text) : Decidable t.ReadsAsStatement :=
  inferInstanceAs (Decidable ((" | [" : Text) <:+: t ∧ ("]" : Text) <:+ t))

/-- Whether a line of a log is one of information about a statement. -/
def LogLine.Announces (logger : Logger) (l : LogLine) : Prop :=
  l.logger = logger ∧ l.level = .info ∧ l.text.ReadsAsStatement

instance (logger : Logger) (l : LogLine) : Decidable (l.Announces logger) :=
  inferInstanceAs (Decidable (l.logger = logger ∧ l.level = .info ∧ l.text.ReadsAsStatement))

/-- The lines of a log about statements. -/
def World.announcements (logger : Logger) (w : World) : List Text :=
  (w.lines.filter fun l => l.Announces logger).map LogLine.text

theorem World.announcements_addLine
    (logger : Logger) (w : World) (l : LogLine) :
    (w.addLine l).announcements logger =
      w.announcements logger ++ if l.Announces logger then [l.text] else [] := by
  by_cases h : l.Announces logger
  · simp [announcements, addLine, List.filter_append, h]
  · simp [announcements, addLine, List.filter_append, h]

/-- The text of a line about a statement with its parameters. -/
def announcement (st : Value × List Value) : Text :=
  st.1.display ++ " | " ++ (Value.list st.2).print

theorem readsAsStatement_announcement
    (st : Value × List Value) :
    (announcement st).ReadsAsStatement := by
  obtain ⟨sql, values⟩ := st
  have hprint : (Value.list values).print =
      "[" ++ (Value.commaSeparated (Value.printItems values) ++ "]") := by
    rw [Value.print, List.append_assoc]
  have hbar : (" | " : Text) ++ "[" = " | [" := rfl
  refine ⟨⟨sql.display, Value.commaSeparated (Value.printItems values) ++ "]", ?_⟩, ?_⟩
  · rw [announcement, hprint, ← hbar]
    simp only [List.append_assoc]
  · rw [announcement, hprint]
    simp only [← List.append_assoc]
    exact List.suffix_append _ _

theorem eq_announcement
    {sql : Value} {values : List Value} {t : Text}
    (h : Session.statementText sql values = .ok t) :
    t = announcement (sql, values) := by
  unfold Session.statementText Value.words Value.printed at h
  split at h
  · split at h
    · exact (Except.ok.inj h).symm
    · cases h
  · cases h

namespace Session

/-- The announcements of the statements of some calls, of which some are announced if the
session logs its statements. -/
def announced (s : Session) (A : EngineCall → Bool) (calls : List EngineCall) : List Text :=
  if s.logQueries then (executed (calls.filter A)).map announcement else []

@[simp] theorem announced_append
    (s : Session) (A : EngineCall → Bool) (cs ds : List EngineCall) :
    s.announced A (cs ++ ds) = s.announced A cs ++ s.announced A ds := by
  unfold announced
  split
  · simp
  · rfl

/-- A call is passed over if it is not announced, or has no statement. -/
def PassedOver (A : EngineCall → Bool) (c : EngineCall) : Prop :=
  A c = false ∨ c.statement? = none

theorem announced_of_passedOver
    (s : Session) {A : EngineCall → Bool} {c : EngineCall} (h : PassedOver A c) :
    s.announced A [c] = [] := by
  unfold announced
  split
  · rcases h with h | h
    · simp [executed, h]
    · cases hc : A c <;> simp [executed, hc, h]
  · rfl

/-- Whether a world is another one with calls more, and with the announcements of these and no
others. -/
def Announces (s : Session) (A : EngineCall → Bool) (w w' : World) : Prop :=
  ∃ calls, w'.calls = w.calls ++ calls ∧
    w'.announcements s.logger = w.announcements s.logger ++ s.announced A calls

theorem Announces.refl
    (s : Session) (A : EngineCall → Bool) (w : World) :
    s.Announces A w w :=
  ⟨[], by simp, by simp [announced, executed]⟩

section Rules

variable {s : Session} {A : EngineCall → Bool} {w : World}

theorem Announces.addCall
    {w' : World} (h : s.Announces A w w') {c : EngineCall} (hc : PassedOver A c) :
    s.Announces A w (w'.addCall c) := by
  obtain ⟨calls, hcalls, hlines⟩ := h
  refine ⟨calls ++ [c], ?_, ?_⟩
  · rw [World.addCall, hcalls, List.append_assoc]
  · rw [announced_append, s.announced_of_passedOver hc, List.append_nil]
    exact hlines

theorem Announces.addLine
    {w' : World} (h : s.Announces A w w') {l : LogLine} (hl : ¬ l.Announces s.logger) :
    s.Announces A w (w'.addLine l) := by
  obtain ⟨calls, hcalls, hlines⟩ := h
  refine ⟨calls, hcalls, ?_⟩
  rw [World.announcements_addLine, if_neg hl, List.append_nil]
  exact hlines

theorem calling_announces :
    Calling (PassedOver A) (s.Announces A w) fun _ => True where
  addCall _ _ hc h := h.addCall hc
  nextAnswer w' h := by
    obtain ⟨answers, hanswers⟩ := w'.nextAnswer_eq
    rw [hanswers]
    exact h
  answered _ _ _ _ := trivial
  unencodable _ := trivial
  internal _ _ := trivial

theorem undisturbedBy_announces :
    UndisturbedBy (fun t => ¬ t.ReadsAsStatement) (s.Announces A w) where
  addLine _ _ htext h := h.addLine fun hl => htext hl.2.1 hl.2.2
  nextReading w' h := by
    obtain ⟨c, hc⟩ := w'.nextReading_eq
    rw [hc]
    exact h
  onLedger w' f h := by
    obtain ⟨ledger, files, hledger⟩ := w'.onLedger_eq f
    rw [hledger]
    exact h

theorem addLine_complaint
    (w' : World) (text : Text) (h : s.Announces A w w') :
    s.Announces A w (w'.addLine ⟨s.logger, .error, text⟩) :=
  undisturbedBy_announces.addLine w' _ nofun h

/-- A world with a statement announced, if the session logs its statements. -/
def noted (s : Session) (st : Value × List Value) (w : World) : World :=
  if s.logQueries then w.addLine ⟨s.logger, .info, announcement st⟩ else w

/-- A statement is announced, or it cannot be written and nothing comes of it. -/
theorem run_noteStatement_cases
    (s : Session) (sql : Value) (values : List Value) (w : World) :
    run (s.noteStatement sql values) w = (.ok (), s.noted (sql, values) w) ∨
      ∃ f, run (s.noteStatement sql values) w = (.error f, w) := by
  unfold noteStatement noted
  by_cases hlog : s.logQueries = true
  · rw [if_pos hlog, if_pos hlog]
    cases htext : statementText sql values with
    | error f =>
        exact .inr ⟨f, rfl⟩
    | ok t =>
        rw [← eq_announcement htext]
        exact .inl rfl
  · rw [if_neg hlog, if_neg hlog]
    exact .inl rfl

theorem Announces.noted
    {w' : World} (h : s.Announces A w w') {call : EngineCall} {st : Value × List Value}
    (hst : call.statement? = some st) (hA : A call = true) :
    s.Announces A w ((s.noted st w').addCall call) := by
  obtain ⟨calls, hcalls, hlines⟩ := h
  have hline : LogLine.Announces s.logger ⟨s.logger, .info, announcement st⟩ :=
    ⟨rfl, rfl, readsAsStatement_announcement st⟩
  refine ⟨calls ++ [call], ?_, ?_⟩
  · have hstill : (s.noted st w').calls = w'.calls := by
      unfold Session.noted
      split <;> rfl
    rw [World.addCall, hstill, hcalls, List.append_assoc]
  · rw [announced_append, ← List.append_assoc, ← hlines]
    change World.announcements s.logger (s.noted st w') = _
    unfold Session.noted announced
    by_cases hlog : s.logQueries = true
    · rw [if_pos hlog, if_pos hlog, World.announcements_addLine, if_pos hline]
      simp [executed, hA, hst]
    · rw [if_neg hlog, if_neg hlog, List.append_nil]

/-- A statement that is noted and handed to the engine has its announcement. -/
theorem announces_sent
    {α : Type} {R : α → Prop} {call : EngineCall} {sql : Value} {values : List Value}
    {rest : Routine α} (hst : call.statement? = some (sql, values)) (hA : A call = true)
    (hrest : Keeps (s.Announces A w) R (fun _ => True) rest) :
    Keeps (s.Announces A w) R (fun _ => True) (do
      s.noteStatement sql values
      s.wrapping sql do
        Engine.report call
        rest) := by
  have hwrapped := calling_announces.wrapping s addLine_complaint sql hrest
  refine .of_run fun w' hw' => ?_
  rw [Routine.run_bind]
  rcases s.run_noteStatement_cases sql values w' with hrun | ⟨f, hrun⟩
  · -- What is wrapped behind the report begins in the world in which the call is made.
    have hbehind := hw'.noted hst hA
    rw [hrun]
    exact ⟨hwrapped.world _ hbehind, hwrapped.outcome _ hbehind⟩
  · rw [hrun]
    exact ⟨hw', trivial⟩

theorem announces_send
    {c : Channel} {sql : Value} {values : List Value}
    (hA : ∀ call ∈ c.calls sql values, A call = true) :
    Keeps (s.Announces A w) (fun _ => True) (fun _ => True) (c.send s sql values) :=
  calling_announces.send s
    (fun hcall hst hrest => announces_sent hst (hA _ hcall) hrest)
    fun _ _ hnone => .inr hnone

end Rules

/-- An operation has all its statements announced. -/
theorem announces_perform
    (s : Session) (h : Handle) (o : Operation) (w : World) :
    Keeps (s.Announces (fun _ => true) w) (fun _ => True) (fun _ => True) (o.perform s h) := by
  refine o.keeps_perform s h (fun _ _ => trivial) (fun _ _ => trivial) fun sql values _ => ?_
  have hsend : Keeps (s.Announces (fun _ => true) w) (fun _ => True) (fun _ => True)
      (o.channel.send s sql values) :=
    announces_send fun _ _ => rfl
  have hmeasured := undisturbedBy_announces.measured hsend (fun _ _ => trivial) .measure
    (.text o.channel.name) sql (.tuple values)
  exact hmeasured.mono (fun _ _ => trivial) fun _ _ => trivial

theorem enduring_announces
    (s : Session) (w : World) :
    Enduring (fun t => ¬ t.ReadsAsStatement) s (s.Announces (fun _ => true) w) :=
  have hundisturbed := undisturbedBy_announces (s := s) (A := fun _ => true) (w := w)
  { hundisturbed with
    phases := fun _ _ h => h
    operations := fun h o => s.announces_perform h o w
    controls := fun c => by cases c <;> decide +kernel }

end Session

/-- Whether a call hands over the statement that attaches a database. -/
def EngineCall.attaches : EngineCall → Bool
  | execute (.text t) _ => t = "ATTACH DATABASE ? AS ?"
  | _ => false

namespace Session

/-- Whether a step announces the statement of a call.  A request to attach a database announces
the one that attaches, and no other. -/
def Step.announces (st : Step) (c : EngineCall) : Bool := !st.isAttach || c.attaches

/-- The line about a closed connection, if a step closes it and the engine lets it, and if that
line has the form of one about a statement. -/
def Step.parting (s : Session) (w : World) (st : Step) : List Text :=
  if st.isClose ∧ w.connected ∧ w.nextAnswer.1.failure.isNone ∧ s.closedNote.ReadsAsStatement then
    [s.closedNote]
  else
    []

theorem attaches_attachStatement
    (values : List Value) :
    (EngineCall.execute attachStatement values).attaches = true := by
  simp [EngineCall.attaches, attachStatement]

theorem passedOver_of_unannounced
    {call : EngineCall} (h : call ∈ unannouncedCalls) :
    PassedOver EngineCall.attaches call := by
  have hlist : (EngineCall.execute listStatement []).attaches = false := by
    decide +kernel
  have hkeys : (EngineCall.execute (foreignKeyStatement true) []).attaches = false := by
    decide +kernel
  simp only [unannouncedCalls, List.mem_cons, List.not_mem_nil, or_false] at h
  rcases h with rfl | rfl | rfl | rfl
  · exact .inl hlist
  · exact .inr rfl
  · exact .inr rfl
  · exact .inl hkeys

theorem announces_attach
    (s : Session) (name : Value) (w : World) :
    s.Announces (Step.attach name).announces w (run (s.attach name) w).2 := by
  have hcalling := calling_announces (s := s) (A := EngineCall.attaches) (w := w)
  have hanswered : Keeps (s.Announces EngineCall.attaches w) (fun _ => True) (fun _ => True) (do
      Routine.wait .engine
      Engine.checkEncodable attachStatement
      Engine.answer) :=
    (Keeps.wait _).bind fun _ _ => (hcalling.checkEncodable _).bind fun _ _ =>
      hcalling.answer.mono (fun _ _ => trivial) fun _ h => h
  have hstatement : (EngineCall.execute attachStatement [s.settings.path, name]).statement? =
      some (attachStatement, [s.settings.path, name]) :=
    rfl
  have hsent := announces_sent hstatement (attaches_attachStatement _) hanswered
  have hattach := hcalling.attach s addLine_complaint hsent fun _ => passedOver_of_unannounced
  exact hattach.world w (.refl s _ w)

/-- Closing a connected session is written about if the engine lets it. -/
theorem world_close_of_connected
    (s : Session) {w : World} (h : w.connected = true) :
    let shut := { w with connected := false, answers := w.answers.tail }.addCall .disconnect
    (run s.close w).2 =
      if w.nextAnswer.1.failure.isNone then shut.addLine ⟨s.logger, .info, s.closedNote⟩
      else shut := by
  intro shut
  have hanswer : w.nextAnswer.1 = (Exchange.start w).next :=
    congrArg Prod.fst (Exchange.nextAnswer_eq (e := .start w) rfl)
  have hnext : ({ w with connected := false }.addCall .disconnect).nextAnswer =
      ((Exchange.start w).next, shut) :=
    Exchange.nextAnswer_eq (e := .start w) rfl
  rw [s.run_close_of_connected h, hanswer]
  simp only [Engine.answer, Routine.run_bind, Routine.run_step, hnext]
  cases (Exchange.start w).next.failure <;> rfl

theorem announces_close
    (s : Session) (w : World) :
    ∃ calls, (run s.close w).2.calls = w.calls ++ calls ∧
      (run s.close w).2.announcements s.logger =
        w.announcements s.logger ++ s.announced Step.close.announces calls ++
          Step.parting s w .close := by
  cases hconnected : w.connected with
  | false =>
      rw [s.close_of_closed hconnected]
      exact ⟨[], by simp, by simp [Step.parting, hconnected, announced, executed]⟩
  | true =>
      rw [s.world_close_of_connected hconnected]
      have hnone : s.announced Step.close.announces [.disconnect] = [] :=
        s.announced_of_passedOver (.inr rfl)
      have hline : LogLine.Announces s.logger ⟨s.logger, .info, s.closedNote⟩ ↔
          s.closedNote.ReadsAsStatement := by
        simp [LogLine.Announces]
      have hshut : World.announcements s.logger
          ({ w with connected := false, answers := w.answers.tail }.addCall .disconnect) =
            w.announcements s.logger :=
        rfl
      refine ⟨[.disconnect], by split <;> rfl, ?_⟩
      rw [hnone, List.append_nil]
      by_cases hlet : w.nextAnswer.1.failure.isNone = true
      · rw [if_pos hlet, World.announcements_addLine, hshut]
        simp only [Step.parting, Step.isClose, hconnected, hlet, hline, true_and]
      · rw [if_neg hlet, hshut]
        simp [Step.parting, hlet]

/-- The announcements of a step, and of the closing that it may be. -/
theorem Step.announces_perform
    (s : Session) (st : Step) (w : World) :
    ∃ calls, (run (st.perform s) w).2.calls = w.calls ++ calls ∧
      (run (st.perform s) w).2.announcements s.logger =
        w.announcements s.logger ++ s.announced st.announces calls ++ st.parting s w := by
  cases hclose : st.isClose with
  | true =>
      obtain rfl := Step.eq_close hclose
      exact s.announces_close w
  | false =>
      have hparting : st.parting s w = [] := by
        simp [parting, hclose]
      rw [hparting]
      simp only [List.append_nil]
      change s.Announces st.announces w _
      cases hattach : st.isAttach with
      | true =>
          cases st with
          | attach name => exact s.announces_attach name w
          | _ => cases hattach
      | false =>
          have hall : st.announces = fun _ => true := by
            funext c
            simp [announces, hattach]
          rw [hall]
          exact ((s.enduring_announces w).step hclose hattach).world w (.refl s _ w)

/-! ## Runs -/

/-- The calls of an occasion. -/
def Occasion.calls (s : Session) (o : Occasion) (w : World) : List EngineCall :=
  (o.behind s w).calls.drop w.calls.length

/-- The announcements of an occasion. -/
def Occasion.announcements (s : Session) (o : Occasion) (w : World) : List Text :=
  s.announced o.step.announces (o.calls s w) ++ o.step.parting s (o.scene w)

/-- The calls of a run of occasions. -/
def callsOf (s : Session) : World → List Occasion → List EngineCall
  | _, [] => []
  | w, o :: os => o.calls s w ++ s.callsOf (o.behind s w) os

/-- The announcements of a run of occasions. -/
def announcementsOf (s : Session) : World → List Occasion → List Text
  | _, [] => []
  | w, o :: os => o.announcements s w ++ s.announcementsOf (o.behind s w) os

theorem Occasion.announced
    (s : Session) (o : Occasion) (w : World) :
    (o.behind s w).calls = w.calls ++ o.calls s w ∧
      (o.behind s w).announcements s.logger =
        w.announcements s.logger ++ o.announcements s w := by
  obtain ⟨calls, hcalls, hlines⟩ := o.step.announces_perform s (o.scene w)
  change (o.behind s w).calls = w.calls ++ calls at hcalls
  have hdrop : o.calls s w = calls := by
    rw [Occasion.calls, hcalls, List.drop_left]
  rw [Occasion.announcements, hdrop, ← List.append_assoc]
  exact ⟨hcalls, hlines⟩

theorem announced_live
    (s : Session) (os : List Occasion) (w : World) :
    (s.live w os).calls = w.calls ++ s.callsOf w os ∧
      (s.live w os).announcements s.logger =
        w.announcements s.logger ++ s.announcementsOf w os := by
  induction os generalizing w with
  | nil =>
      simp [live, callsOf, announcementsOf]
  | cons o os ih =>
      obtain ⟨hcalls, hlines⟩ := o.announced s w
      obtain ⟨hcalls', hlines'⟩ := ih (o.behind s w)
      rw [live, callsOf, announcementsOf, hcalls', hlines', hcalls, hlines]
      simp

/-- In a run without a request to attach a database, by a session that logs its statements,
every statement is announced that is handed to the engine. -/
theorem announcementsOf_eq
    (s : Session) (hlog : s.logQueries = true) (hnote : ¬ s.closedNote.ReadsAsStatement)
    (os : List Occasion) (hos : ∀ o ∈ os, o.step.isAttach = false) (w : World) :
    s.announcementsOf w os = (executed (s.callsOf w os)).map announcement := by
  induction os generalizing w with
  | nil =>
      rfl
  | cons o os ih =>
      have hrest := ih (fun p hp => hos p (List.mem_cons_of_mem o hp)) (o.behind s w)
      have hstep : o.announcements s w = (executed (o.calls s w)).map announcement := by
        have hall : o.step.announces = fun _ => true := by
          funext c
          simp [Step.announces, hos o List.mem_cons_self]
        simp [Occasion.announcements, announced, hlog, hall, Step.parting, hnote]
      rw [announcementsOf, callsOf, hstep, hrest, executed_append, List.map_append]

/-- A run takes no call back, and in a session that logs its statements its lines of the form
of one about a statement are, in order, those about the statements that it hands to the
engine, but for the two that are sent beside the one that attaches a database, and for the
line about a closed connection, if that has the form.  A session that does not log them has
none but that. -/
theorem announced_in_order
    (s : Session) (w : World) (os : List Occasion) :
    let w' := s.live w os
    w'.calls = w.calls ++ s.callsOf w os ∧
      w'.announcements s.logger = w.announcements s.logger ++ s.announcementsOf w os ∧
      (s.logQueries = true → ¬ s.closedNote.ReadsAsStatement →
        (∀ o ∈ os, o.step.isAttach = false) →
          w'.announcements s.logger =
            w.announcements s.logger ++ (executed (s.callsOf w os)).map announcement) := by
  intro w'
  obtain ⟨hcalls, hlines⟩ := s.announced_live os w
  refine ⟨hcalls, hlines, fun hlog hnote hos => ?_⟩
  rw [← s.announcementsOf_eq hlog hnote os hos]
  exact hlines

/-- A session that logs its statements. -/
def talkative : Session := { (default : Session) with logQueries := true, logger := .session }

/-- A step that the engine has no answers for. -/
def unanswered (st : Step) : Occasion := ⟨st, [], default⟩

/-- A row added, the connection closed, and a script that comes too late. -/
def lateScript : List Occasion :=
  [unanswered (.operation (.executeRaw (.text "INSERT INTO t VALUES (?)") (.list [.int 7]))),
    unanswered .close, unanswered (.operation (.script (.text "VACUUM")))]

/-- A script that does not reach the engine is not announced. -/
theorem late_script_not_announced :
    talkative.logQueries = true ∧ ¬ talkative.closedNote.ReadsAsStatement ∧
      (∀ o ∈ lateScript, o.step.isAttach = false) ∧
      (talkative.live (answering .silent) lateScript).announcements talkative.logger =
        ["INSERT INTO t VALUES (?) | [7]"] := by
  have hnote : ¬ talkative.closedNote.ReadsAsStatement := by
    decide +kernel
  have hos : ∀ o ∈ lateScript, o.step.isAttach = false := by
    simp [lateScript, unanswered, Step.isAttach]
  obtain ⟨-, -, hlines⟩ := talkative.announced_in_order (answering .silent) lateScript
  have hsent : (executed (talkative.callsOf (answering .silent) lateScript)).map announcement =
      ["INSERT INTO t VALUES (?) | [7]"] := by
    decide +kernel
  refine ⟨rfl, hnote, hos, ?_⟩
  rw [hlines rfl hnote hos, hsent]
  rfl

/-- A database attached. -/
def attachment : Occasion := unanswered (.attach (.text "a"))

/-- Of three statements that attaching a database takes only one is announced. -/
theorem two_not_announced_beside_attachment :
    ¬ ∀ (s : Session) (w : World) (os : List Occasion),
      s.logQueries = true → ¬ s.closedNote.ReadsAsStatement →
        (s.live w os).announcements s.logger =
          w.announcements s.logger ++ (executed (s.callsOf w os)).map announcement := by
  intro hclaim
  have hall := hclaim talkative (answering .silent) [attachment] rfl (by decide +kernel)
  have hone : ((talkative.live (answering .silent) [attachment]).announcements
      talkative.logger).length = 1 := by
    decide +kernel
  have hnone : (answering .silent).announcements talkative.logger = [] := rfl
  have hthree : (executed (talkative.callsOf (answering .silent) [attachment])).length = 3 := by
    decide +kernel
  have hlengths := congrArg List.length hall
  rw [hone, hnone, List.nil_append, List.length_map, hthree] at hlengths
  cases hlengths

end Session
end Datalink
