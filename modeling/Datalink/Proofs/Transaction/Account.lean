import Datalink.Proofs.Session.Keeping

/-!
# Accounts of what transactions send

A transaction sends its control statements through what it runs over.  What a move of a
transaction sends is not to be seen in the world afterwards, since callers may send the
same statements on their own.  So the moves are told again, as routines that keep an
account: the control statements sent so far with what came back of each.

Results: an account that is left out leaves the move as it is, so that what is told of a
move is true of it.
-/

namespace Datalink

open Routine (run)

/-- A control statement that was sent, and what came back. -/
structure Attempt where
  control : Control
  outcome : Except Fault Value

/-- What came of a routine: the control statements that it sent, its result, and the
world behind it. -/
structure Account (α : Type) where
  sent : List Attempt
  result : Except Fault α
  world : World

/-- A routine that keeps an account. -/
def Telling (α : Type) : Type := World → Account α

namespace Telling

variable {α β : Type}

/-- A routine that sends no control statement. -/
def silent (m : Routine α) : Telling α := fun w => ⟨[], (run m w).1, (run m w).2⟩

/-- A routine that sends a control statement. -/
def send (c : Control) (m : Routine Value) : Telling Value := fun w =>
  ⟨[⟨c, (run m w).1⟩], (run m w).1, (run m w).2⟩

/-- One routine after the other.  The account goes on where the first one left it. -/
def bind (m : Telling α) (next : α → Telling β) : Telling β := fun w =>
  let a := m w
  match a.result with
  | .ok x =>
      let b := next x a.world
      ⟨a.sent ++ b.sent, b.result, b.world⟩
  | .error f => ⟨a.sent, .error f, a.world⟩

instance : Monad Telling where
  pure a := silent (pure a)
  bind := bind

theorem bind_of_ok
    {m : Telling α} (next : α → Telling β) {w : World} {x : α} (h : (m w).result = .ok x) :
    (m >>= next) w =
      let b := next x (m w).world
      ⟨(m w).sent ++ b.sent, b.result, b.world⟩ := by
  change bind m next w = _
  simp only [bind, h]

theorem bind_of_error
    {m : Telling α} (next : α → Telling β) {w : World} {f : Fault}
    (h : (m w).result = .error f) :
    (m >>= next) w = ⟨(m w).sent, .error f, (m w).world⟩ := by
  change bind m next w = _
  simp only [bind, h]

/-- A routine whose failure is its result. -/
def attempt (m : Telling α) : Telling (Except Fault α) := fun w =>
  ⟨(m w).sent, .ok (m w).result, (m w).world⟩

/-- An account is of a routine if it has the same result and leads to the same world. -/
def Of (m : Routine α) (t : Telling α) : Prop := ∀ w, run m w = ((t w).result, (t w).world)

namespace Of

theorem silent
    (m : Routine α) :
    Of m (Telling.silent m) := by
  intro w
  rfl

theorem send
    (c : Control) (m : Routine Value) :
    Of m (Telling.send c m) := by
  intro w
  rfl

theorem bind
    {m : Routine α} {t : Telling α} {next : α → Routine β} {next' : α → Telling β}
    (hm : Of m t) (hnext : ∀ a, Of (next a) (next' a)) :
    Of (m >>= next) (t >>= next') := by
  intro w
  rw [Routine.run_bind, hm w]
  cases hresult : (t w).result with
  | ok a =>
      rw [bind_of_ok next' hresult]
      exact hnext a (t w).world
  | error f =>
      rw [bind_of_error next' hresult]

theorem attempt
    {m : Routine α} {t : Telling α} (hm : Of m t) :
    Of m.attempt t.attempt := by
  intro w
  rw [Routine.run_attempt, hm w]
  rfl

end Of

end Telling

/-- What callers do with a transaction: a control statement, the way into a block and out
of it, and operations that are handed on. -/
inductive Move where
  | control (c : Control)
  | enter
  | leave (failure : Option Fault)
  | forwarded (o : Operation)
deriving Inhabited

namespace Move

/-- A move itself. -/
def perform (s : Session) (t : Transaction) : Move → Routine Unit
  | control c => t.control s c
  | enter => t.enter s
  | leave failure => t.leave s failure
  | forwarded o => do
      let _ ← o.perform s t.handle
      return ()

end Move

namespace Transaction

open Datalink.Measure (note)
open Telling (silent send)

/-- What a transaction does when it hears back from a control statement. -/
def hear (t : Transaction) (c : Control) : Except Fault Value → Routine Unit
  | .ok _ => do
      Routine.change fun w => w.setPhase t.id c.after
      note t.logger .info (successNote c)
  | .error f =>
      if f.isInterrupt then
        Routine.fail f
      else do
        let failure ← Routine.ofExcept f.words
        note t.logger .error (failureNote c failure)
        Routine.fail (.control c f)

/-- A control statement, told. -/
def tellControl (s : Session) (t : Transaction) (c : Control) : Telling Unit := do
  let phase ← silent t.phase
  if phase = c.before then
    let r ← (send c (t.base.executeRaw s (.text c.keyword) .null)).attempt
    silent (t.hear c r)
  else
    silent (Routine.fail (refusal c phase))

/-- The way into a block, told. -/
def tellEnter (s : Session) (t : Transaction) : Telling Unit := do
  let phase ← silent t.phase
  if phase = .new then t.tellControl s .start else return ()

/-- What a transaction does when it hears back from the rollback behind a block that
failed. -/
def hearBehind (t : Transaction) : Except Fault Unit → Routine Unit
  | .ok () => return ()
  | .error g =>
      if g.isTransactionFault then
        note t.logger .error (rollbackFailure g)
      else
        Routine.fail g

/-- The way out of a block, told. -/
def tellLeave (s : Session) (t : Transaction) (failure : Option Fault) : Telling Unit := do
  let phase ← silent t.phase
  if phase = .started then
    match failure with
    | none => t.tellControl s .commit
    | some f =>
        let failure ← silent (Routine.ofExcept f.described)
        silent (note t.logger .error (blockFailure failure))
        let r ← (t.tellControl s .rollback).attempt
        silent (t.hearBehind r)
  else
    return ()

/-- Hearing back from a control statement changes phases and adds lines, and nothing else. -/
theorem world_hear
    (t : Transaction) (c : Control) (r : Except Fault Value) (w : World) :
    ∃ phases ls, (run (t.hear c r) w).2 = { w with phases := phases, lines := w.lines ++ ls } := by
  cases r with
  | ok v =>
      exact ⟨_, _, rfl⟩
  | error f =>
      by_cases hstop : f.isInterrupt = true
      · exact ⟨w.phases, [], by simp [hear, hstop]⟩
      · cases hwords : f.words with
        | error g =>
            exact ⟨w.phases, [], by simp [hear, hstop, hwords]⟩
        | ok failure =>
            refine ⟨w.phases, [⟨t.logger, .error, failureNote c failure⟩], ?_⟩
            simp [hear, hstop, hwords, note, World.addLine]

theorem world_hearBehind
    (t : Transaction) (r : Except Fault Unit) (w : World) :
    ∃ ls, (run (t.hearBehind r) w).2 = { w with lines := w.lines ++ ls } := by
  cases r with
  | ok _ =>
      exact ⟨[], by simp [hearBehind]⟩
  | error g =>
      by_cases hown : g.isTransactionFault = true
      · refine ⟨[⟨t.logger, .error, rollbackFailure g⟩], ?_⟩
        simp [hearBehind, hown, note, World.addLine]
      · exact ⟨[], by simp [hearBehind, hown]⟩

section Branches

variable {t : Transaction} {w : World} (s : Session)

theorem tellControl_sent
    {c : Control} (hphase : w.phase t.id = c.before) :
    t.tellControl s c w =
      let r := run (t.base.executeRaw s (.text c.keyword) .null) w
      let heard := run (t.hear c r.1) r.2
      ⟨[⟨c, r.1⟩], heard.1, heard.2⟩ := by
  change (if w.phase t.id = c.before then _ else _ : Telling Unit) w = _
  rw [if_pos hphase]
  rfl

theorem tellControl_refused
    {c : Control} (hphase : w.phase t.id ≠ c.before) :
    t.tellControl s c w = ⟨[], .error (refusal c (w.phase t.id)), w⟩ := by
  change (if w.phase t.id = c.before then _ else _ : Telling Unit) w = _
  rw [if_neg hphase]
  rfl

theorem tellEnter_new
    (hphase : w.phase t.id = .new) :
    t.tellEnter s w = t.tellControl s .start w := by
  change (if w.phase t.id = .new then _ else _ : Telling Unit) w = _
  rw [if_pos hphase]

theorem tellEnter_idle
    (hphase : w.phase t.id ≠ .new) :
    t.tellEnter s w = ⟨[], .ok (), w⟩ := by
  change (if w.phase t.id = .new then _ else _ : Telling Unit) w = _
  rw [if_neg hphase]
  rfl

theorem tellLeave_idle
    (failure : Option Fault) (hphase : w.phase t.id ≠ .started) :
    t.tellLeave s failure w = ⟨[], .ok (), w⟩ := by
  change (if w.phase t.id = .started then _ else _ : Telling Unit) w = _
  rw [if_neg hphase]
  rfl

theorem tellLeave_ended
    (hphase : w.phase t.id = .started) :
    t.tellLeave s none w = t.tellControl s .commit w := by
  change (if w.phase t.id = .started then _ else _ : Telling Unit) w = _
  rw [if_pos hphase]

/-- The rollback behind a block that failed is sent in a world with one line more. -/
theorem tellLeave_failed
    {f : Fault} (hphase : w.phase t.id = .started) :
    t.tellLeave s (some f) w =
      match f.described with
      | .error g => ⟨[], .error g, w⟩
      | .ok text =>
          let a := t.tellControl s .rollback (w.addLine ⟨t.logger, .error, blockFailure text⟩)
          let r := run (t.hearBehind a.result) a.world
          ⟨a.sent, r.1, r.2⟩ := by
  change (if w.phase t.id = .started then _ else _ : Telling Unit) w = _
  rw [if_pos hphase]
  cases f.described with
  | error g =>
      exact Telling.bind_of_error _ rfl
  | ok text =>
      refine (Telling.bind_of_ok _ rfl).trans ?_
      let a := t.tellControl s .rollback (w.addLine ⟨t.logger, .error, blockFailure text⟩)
      have hsent : a.sent ++ [] = a.sent := List.append_nil _
      change Account.mk (a.sent ++ []) _ _ = _
      rw [hsent]
      rfl

end Branches

theorem tellControl_of
    (s : Session) (t : Transaction) (c : Control) :
    Telling.Of (t.control s c) (t.tellControl s c) := by
  refine Telling.Of.bind (.silent _) fun phase => ?_
  split
  · refine Telling.Of.bind (Telling.Of.send c _).attempt fun r => ?_
    cases r with
    | ok v =>
        exact .silent _
    | error f =>
        exact .silent _
  · exact .silent _

theorem tellEnter_of
    (s : Session) (t : Transaction) :
    Telling.Of (t.enter s) (t.tellEnter s) := by
  refine Telling.Of.bind (.silent _) fun phase => ?_
  split
  · exact t.tellControl_of s .start
  · exact .silent _

theorem tellLeave_of
    (s : Session) (t : Transaction) (failure : Option Fault) :
    Telling.Of (t.leave s failure) (t.tellLeave s failure) := by
  refine Telling.Of.bind (.silent _) fun phase => ?_
  split
  · cases failure with
    | none =>
        exact t.tellControl_of s .commit
    | some f =>
        refine Telling.Of.bind (.silent _) fun failure => ?_
        refine Telling.Of.bind (.silent _) fun _ => ?_
        refine Telling.Of.bind (t.tellControl_of s .rollback).attempt fun r => ?_
        cases r with
        | ok _ =>
            exact .silent _
        | error g =>
            exact .silent _
  · exact .silent _

end Transaction

namespace Move

/-- A move, told. -/
def tell (s : Session) (t : Transaction) : Move → Telling Unit
  | control c => t.tellControl s c
  | enter => t.tellEnter s
  | leave failure => t.tellLeave s failure
  | forwarded o => Telling.silent (perform s t (.forwarded o))

/-- What is told of a move is true of it. -/
theorem tell_of
    (s : Session) (t : Transaction) (m : Move) :
    Telling.Of (m.perform s t) (m.tell s t) := by
  cases m with
  | control c =>
      exact t.tellControl_of s c
  | enter =>
      exact t.tellEnter_of s
  | leave failure =>
      exact t.tellLeave_of s failure
  | forwarded o =>
      exact .silent _

end Move

end Datalink
