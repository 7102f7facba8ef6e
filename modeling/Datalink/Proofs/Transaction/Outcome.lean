import Datalink.Proofs.Session.Binding
import Datalink.Proofs.Transaction.Block

/-!
# What leaves a block

Input: a block within a new transaction, over a session or over other transactions, with
any body.  The engine fails as it likes, but it does not ask the program to stop.

Results: if the start fails, that is what leaves the block, and its body does not run.
Otherwise the way out sends one commit or one rollback if the transaction is open behind
the body, and no control statement if it is not.  What leaves the block is what came of
its body, unless the commit fails, or the body failed with the transaction open in a way
that cannot be described.  In that last case nothing is sent, and another fault leaves.
-/

namespace Datalink

open Routine (run)

/-- A world in which the transactions are in the same phases has the same handles open. -/
theorem Handle.isOpen_congr
    {w w' : World} (hphases : w'.phases = w.phases) (h : Handle) :
    h.IsOpen w' ↔ h.IsOpen w := by
  induction h with
  | session =>
      exact Iff.rfl
  | within id base ih =>
      simp only [IsOpen, World.phase, hphases, ih]

/-- A fault that cannot be described gives way to another one. -/
theorem Fault.ne_of_described_eq_error
    {f g : Fault} (h : f.described = .error g) :
    g ≠ f := by
  cases f with
  | incident i =>
      by_cases hi : i.argument.printable = true
      · have hok : (incident i).described = .ok i.description := if_pos hi
        rw [hok] at h
        cases h
      · have herror : (incident i).described = .error digitLimit := if_neg hi
        rw [herror] at h
        cases h
        rintro ⟨⟩
  | _ =>
      cases h

/-- The statement of an attempt, which has no parameters. -/
def Attempt.statement (a : Attempt) : Value × List Value := (.text a.control.keyword, [])

/-- Whether the statements that were executed behind a world are the control statements of
an account: no others are, and all of them are, in order, if the session is connected and
what the transaction runs over is open. -/
def Account.Sends {α : Type} (a : Account α) (base : Handle) (w : World) : Prop :=
  ∃ calls, a.world.calls = w.calls ++ calls ∧
    (∀ st ∈ executed calls, st ∈ a.sent.map Attempt.statement) ∧
    (w.connected = true → base.IsOpen w → executed calls = a.sent.map Attempt.statement)

namespace Transaction

section Sent

variable {t : Transaction} {w : World} (s : Session)

theorem sends_of_calls_eq
    {α : Type} {a : Account α} (base : Handle) (hcalls : a.world.calls = w.calls)
    (hsent : a.sent = []) :
    a.Sends base w :=
  ⟨[], by simp [hcalls], by simp [executed], by simp [executed, hsent]⟩

/-- A control statement is executed if it is sent, and nothing else is. -/
theorem sends_tellControl
    (t : Transaction) (c : Control) (w : World) :
    (t.tellControl s c w).Sends t.base w := by
  by_cases hphase : w.phase t.id = c.before
  · rw [tellControl_sent s hphase]
    let o := Operation.executeRaw (.text c.keyword) .null
    have hprepare : o.prepare = .ok (.text c.keyword, []) := rfl
    obtain ⟨calls, hcalls, hall⟩ := Operation.calledOnly_perform s hprepare t.base w
    obtain ⟨phases, ls, hheard⟩ := t.world_hear c (run (o.perform s t.base) w).1
      (run (o.perform s t.base) w).2
    refine ⟨calls, (congrArg World.calls hheard).trans hcalls, fun st hst => ?_,
      fun hconnected hopen => ?_⟩
    · obtain ⟨call, hcall, hstatement⟩ := List.mem_filterMap.mp hst
      rcases List.mem_cons.mp (hall call hcall) with rfl | hclose
      · cases hstatement
        exact List.mem_singleton_self _
      · cases List.mem_singleton.mp hclose
        cases hstatement
    · have hreached := Operation.calls_perform s hopen hprepare hconnected fun _ => rfl
      rw [hcalls] at hreached
      rw [List.append_cancel_left hreached]
      exact Exchange.executed_reached _ .changing _ _
  · rw [tellControl_refused s hphase]
    exact sends_of_calls_eq _ rfl rfl

theorem sends_tellLeave
    (t : Transaction) (failure : Option Fault) (w : World) :
    (t.tellLeave s failure w).Sends t.base w := by
  by_cases hphase : w.phase t.id = .started
  · cases failure with
    | none =>
        rw [tellLeave_ended s hphase]
        exact sends_tellControl s t .commit w
    | some f =>
        rw [tellLeave_failed s hphase]
        cases f.described with
        | error g =>
            exact sends_of_calls_eq _ rfl rfl
        | ok text =>
            obtain ⟨calls, hcalls, hnone, hall⟩ := sends_tellControl s t .rollback
              (w.addLine ⟨t.logger, .error, blockFailure text⟩)
            obtain ⟨ls, hheard⟩ := t.world_hearBehind _ _
            refine ⟨calls, (congrArg World.calls hheard).trans hcalls, hnone,
              fun hconnected hopen => ?_⟩
            have hstill : t.base.IsOpen (w.addLine ⟨t.logger, .error, blockFailure text⟩) :=
              (Handle.isOpen_congr (by rfl) t.base).mpr hopen
            exact hall hconnected hstill
  · rw [tellLeave_idle s failure hphase]
    exact sends_of_calls_eq _ rfl rfl

end Sent

variable {α : Type}

/-- How a block is left behind its body: what came of the body, in its world, and the account
of the way out. -/
structure LeftAs (t : Transaction) (b : Except Fault α × World) (a : Account α) : Prop where
  settled : b.2.phase t.id ≠ .started → a = ⟨[], b.1, b.2⟩
  ended : ∀ x, b.1 = .ok x → b.2.phase t.id = .started →
    ∃ r, a.sent = [⟨.commit, r⟩] ∧ (∀ v, r = .ok v → a.result = .ok x) ∧
      ∀ f, r = .error f → a.result = .error (.control .commit f)
  failed : ∀ f, b.1 = .error f → b.2.phase t.id = .started → f.described.isOk = true →
    ∃ r, a.sent = [⟨.rollback, r⟩] ∧ a.result = .error f
  /-- A failure that cannot be described is lost, and the transaction is left as it is. -/
  speechless : ∀ f, b.1 = .error f → b.2.phase t.id = .started → f.described.isOk = false →
    a.sent = [] ∧ a.result ≠ .error f ∧ a.world = b.2

section Exits

variable (s : Session) {t : Transaction} {w : World}

/-- Behind a body that ended the commit decides. -/
theorem exit_of_ended
    (hphase : w.phase t.id = .started) (hcalm : w.Calm) (x : α) :
    let a := tellExit s t (.ok x, w)
    ∃ r, a.sent = [⟨.commit, r⟩] ∧ (∀ v, r = .ok v → a.result = .ok x) ∧
      ∀ f, r = .error f → a.result = .error (.control .commit f) := by
  intro a
  have ha : a = (t.tellControl s .commit w).closing (.ok x) :=
    congrArg (Account.closing · (.ok x)) (tellLeave_ended s hphase)
  rw [ha]
  generalize t.tellControl s .commit w = l, t.tellControl_course s .commit hcalm = hcourse
  cases hcourse with
  | refused h =>
      exact absurd hphase h
  | succeeded _ v w' _ =>
      exact ⟨.ok v, rfl, fun _ _ => rfl, by rintro f ⟨⟩⟩
  | failed _ f w' _ =>
      refine ⟨.error f, rfl, by rintro v ⟨⟩, ?_⟩
      rintro g ⟨⟩
      rfl

/-- Behind a body that failed the rollback decides nothing. -/
theorem exit_of_failed
    (hphase : w.phase t.id = .started) (hcalm : w.Calm) {f : Fault} {text : Text}
    (htold : f.described = .ok text) :
    let a : Account α := tellExit s t (.error f, w)
    ∃ r, a.sent = [⟨.rollback, r⟩] ∧ a.result = .error f := by
  intro a
  let noted := w.addLine ⟨t.logger, .error, blockFailure text⟩
  have hleave := tellLeave_failed (f := f) s hphase
  rw [htold] at hleave
  have ha : a = Account.closing _ (.error f) := congrArg (Account.closing · (.error f)) hleave
  have hcourse := t.tellControl_course s .rollback (w := noted) hcalm
  rw [ha]
  dsimp only
  revert hcourse
  generalize t.tellControl s .rollback noted = l
  intro hcourse
  cases hcourse with
  | refused h =>
      exact absurd hphase h
  | succeeded _ v w' _ =>
      exact ⟨.ok v, rfl, rfl⟩
  | failed _ g w' _ =>
      exact ⟨.error g, rfl, rfl⟩

theorem leftAs_tellExit
    (s : Session) (t : Transaction) {b : Except Fault α × World} (hcalm : b.2.Calm) :
    LeftAs t b (tellExit s t b) where
  settled hphase := by
    rw [tellExit, tellLeave_idle s _ hphase]
    rfl
  ended x hx hphase := by
    obtain ⟨r, w⟩ := b
    obtain rfl : r = .ok x := hx
    exact exit_of_ended s hphase hcalm x
  failed f hf hphase hspeech := by
    obtain ⟨r, w⟩ := b
    obtain rfl : r = .error f := hf
    cases htold : f.described with
    | ok text =>
        exact exit_of_failed s hphase hcalm htold
    | error g =>
        rw [htold] at hspeech
        cases hspeech
  speechless f hf hphase hspeech := by
    obtain ⟨r, w⟩ := b
    obtain rfl : r = .error f := hf
    cases htold : f.described with
    | ok text =>
        rw [htold] at hspeech
        cases hspeech
    | error g =>
        have hleave := tellLeave_failed (f := f) s hphase
        rw [htold] at hleave
        have hexit : tellExit s t ((.error f : Except Fault α), w) = ⟨[], .error g, w⟩ :=
          congrArg (Account.closing · (.error f)) hleave
        rw [hexit]
        exact ⟨rfl, fun h => Fault.ne_of_described_eq_error htold (Except.error.inj h), rfl⟩

/-- The way into a block within a new transaction is a start, which succeeds or fails. -/
theorem tellEnter_of_new
    (hnew : w.phase t.id = .new) (hcalm : w.Calm) :
    let e := t.tellEnter s w
    (∃ v, e.sent = [⟨.start, .ok v⟩] ∧ e.result = .ok () ∧
        e.world.phases = w.phases.set t.id .started) ∨
      ∃ f, e.sent = [⟨.start, .error f⟩] ∧ e.result = .error (.control .start f) := by
  intro e
  have hstart : e = t.tellControl s .start w := tellEnter_new s hnew
  rw [hstart]
  generalize t.tellControl s .start w = l, t.tellControl_course s .start hcalm = hcourse
  cases hcourse with
  | refused h =>
      exact absurd hnew h
  | succeeded _ v w' hphases =>
      exact .inl ⟨v, rfl, rfl, hphases⟩
  | failed _ f w' _ =>
      exact .inr ⟨f, rfl, rfl⟩

/-- A block that is entered comes to what its way out comes to. -/
theorem run_block_of_entered
    (body : Routine α) (hentered : (t.tellEnter s w).result = .ok ()) :
    let a := tellExit s t (run body (t.tellEnter s w).world)
    run (t.block s body) w = (a.result, a.world) := by
  intro a
  rw [t.tellBlock_of s body w, tellBlock_of_entered s body hentered]

/-- A block within a new transaction starts it.  If that fails, the failure leaves the block
and the body does not run.  Otherwise the block is left behind its body as the phase of the
transaction and what came of the body say.  The control statements that are sent on the way
in and on the way out are what is executed there. -/
theorem block_left_as
    (body : Routine α) (hnew : w.phase t.id = .new) (hcalm : w.Calm)
    (hbody : (t.tellEnter s w).result = .ok () →
      (run body (t.tellEnter s w).world).2.Calm) :
    let e := t.tellEnter s w
    let b := run body e.world
    let a := tellExit s t b
    let after := run (t.block s body) w
    run (t.enter s) w = (e.result, e.world) ∧ e.Sends t.base w ∧
      ((∃ f, e.sent = [⟨.start, .error f⟩] ∧ after = (.error (.control .start f), e.world)) ∨
        (∃ v, e.sent = [⟨.start, .ok v⟩]) ∧ e.world.phases = w.phases.set t.id .started ∧
          after = (a.result, a.world) ∧ LeftAs t b a ∧ a.Sends t.base b.2) := by
  intro e b a after
  have hsends : e.Sends t.base w := by
    have hstart : e = t.tellControl s .start w := tellEnter_new s hnew
    rw [hstart]
    exact sends_tellControl s t .start w
  refine ⟨t.tellEnter_of s w, hsends, ?_⟩
  rcases tellEnter_of_new s hnew hcalm with ⟨v, hsent, hentered, hphases⟩ | ⟨f, hsent, hrefused⟩
  · exact .inr ⟨⟨v, hsent⟩, hphases, run_block_of_entered s body hentered,
      leftAs_tellExit s t (hbody hentered), sends_tellLeave s t _ b.2⟩
  · refine .inl ⟨f, hsent, ?_⟩
    have hblock : t.tellBlock s body w = ⟨e.sent, .error (.control .start f), e.world⟩ :=
      Telling.bind_of_error _ hrefused
    exact (t.tellBlock_of s body w).trans (by rw [hblock])

end Exits

/-- The failure of a row leaves its block, behind one rollback. -/
theorem left_as_refused_row :
    let t := next default refusedRow
    let w := refusedRow.addTransaction.2
    let b := run (addRow t) (t.tellEnter default w).world
    let a := tellExit default t b
    w.phase t.id = .new ∧ w.Calm ∧ b.2.Calm ∧ b.1.isOk = false ∧
      a.sent.map Attempt.control = [.rollback] ∧ (run (t.block default (addRow t)) w).1 = b.1 := by
  intro t w b a
  have hnew : w.phase t.id = .new := phase_next default refusedRow
  have hcalm : w.Calm := by
    decide +kernel
  have hbody : b.2.Calm := by
    decide +kernel
  have hopen : b.2.phase t.id = .started := by
    decide +kernel
  have htold : (failure? b.1).any (fun f => f.described.isOk) = true := by
    decide +kernel
  have hbegun : succeeded (t.tellEnter default w).sent = [.start] := by
    decide +kernel
  obtain ⟨-, -, ⟨f, hsent, -⟩ | ⟨-, -, hafter, hleft, -⟩⟩ :=
    block_left_as default (addRow t) hnew hcalm fun _ => hbody
  · rw [hsent] at hbegun
    cases hbegun
  · cases hb : b.1 with
    | ok x =>
        rw [hb] at htold
        cases htold
    | error f =>
        rw [hb] at htold
        obtain ⟨r, hrolled, hresult⟩ := hleft.failed f hb hopen (by simpa [failure?] using htold)
        refine ⟨hnew, hcalm, hbody, rfl, ?_, ?_⟩
        · exact congrArg (List.map Attempt.control) hrolled
        · exact (congrArg Prod.fst hafter).trans hresult

/-- A body that fails in a way that cannot be described, with its transaction open, does not
pass its failure on. -/
theorem lost_of_speechless
    {s : Session} {t : Transaction} {w : World} (hentered : (t.tellEnter s w).result = .ok ())
    (hcalm : (t.tellEnter s w).world.Calm)
    (hopen : (t.tellEnter s w).world.phase t.id = .started) {f : Fault}
    (hspeech : f.described.isOk = false) :
    (run (t.block s (Routine.fail f : Routine α)) w).1 ≠ .error f := by
  have hbody : run (Routine.fail f : Routine α) (t.tellEnter s w).world =
      (.error f, (t.tellEnter s w).world) :=
    Routine.run_fail f _
  rw [run_block_of_entered s _ hentered, hbody]
  exact ((leftAs_tellExit s t (b := (.error f, (t.tellEnter s w).world)) hcalm).speechless f rfl
    hopen hspeech).2.1

/-- A failure with a number that is too long to be written does not leave its block. -/
theorem wordless_not_left :
    ¬ ∀ (s : Session) (t : Transaction) (body : Routine Value) (w : World) (f : Fault),
      w.phase t.id = .new → w.Calm → (t.tellEnter s w).result = .ok () →
        (run body (t.tellEnter s w).world).1 = .error f →
          (run (t.block s body) w).1 = .error f := by
  intro hclaim
  let t := next default (connectedTo [])
  let w := (connectedTo []).addTransaction.2
  have hnew : w.phase t.id = .new := phase_next default (connectedTo [])
  have hcalm : w.Calm := by
    decide +kernel
  have hentered : (t.tellEnter default w).result = .ok () := by
    rcases tellEnter_of_new default hnew hcalm with ⟨v, -, hok, -⟩ | ⟨g, hsent, -⟩
    · exact hok
    · have hbegun : succeeded (t.tellEnter default w).sent = [.start] := by
        decide +kernel
      rw [hsent] at hbegun
      cases hbegun
  have hstill : (t.tellEnter default w).world.Calm := by
    decide +kernel
  have hopen : (t.tellEnter default w).world.phase t.id = .started := by
    decide +kernel
  have hspeech : Measure.wordlessFault.described.isOk = false := by
    decide +kernel
  have hlost : (run (t.block default (Routine.fail Measure.wordlessFault : Routine Value)) w).1 ≠
      .error Measure.wordlessFault :=
    lost_of_speechless hentered hstill hopen hspeech
  exact hlost (hclaim default t (Routine.fail Measure.wordlessFault) w Measure.wordlessFault
    hnew hcalm hentered (congrArg Prod.fst (Routine.run_fail Measure.wordlessFault _)))

end Transaction

end Datalink
