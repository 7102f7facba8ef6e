import Datalink.Proofs.Transaction.Lifecycle

/-!
# Blocks within a transaction

A block makes a transaction over a session and begins it.  Then its body runs, whatever
it does to the transaction or to the session, and the way out commits the transaction if
the body ended and rolls it back if the body failed, provided that it is still open.

Results: the transaction of a block that was begun is open behind the block exactly when
the way out closed it neither way: the commit failed, the rollback failed, or the failure
of the body cannot be described, in which case nothing is sent at all.
-/

namespace Datalink

open Routine (run)

/-- An account with a result that was there before, unless it ends in a failure. -/
def Account.closing {α β : Type} (a : Account α) (r : Except Fault β) : Account β :=
  ⟨a.sent, a.result >>= fun _ => r, a.world⟩

/-- A routine that changes nothing adds nothing to an account but its result. -/
theorem Telling.bind_still
    {α β : Type} (m : Telling α) (last : Routine β) {r : Except Fault β}
    (hlast : ∀ w, run last w = (r, w)) (w : World) :
    (m >>= fun _ => silent last) w = (m w).closing r := by
  unfold Account.closing
  cases hresult : (m w).result with
  | ok a =>
      rw [bind_of_ok _ hresult]
      simp only [silent, hlast, List.append_nil]
      rfl
  | error f =>
      rw [bind_of_error _ hresult]
      rfl

/-- What comes behind a routine that is not told goes on with whatever came of it. -/
theorem Telling.bind_silent_attempt
    {α β : Type} (m : Routine α) (next : Except Fault α → Telling β) (w : World) :
    ((silent m).attempt >>= next) w = next (run m w).1 (run m w).2 := by
  have hresult : ((silent m).attempt w).result = .ok (run m w).1 := rfl
  rw [bind_of_ok next hresult]
  rfl

namespace Transaction

open Telling (silent)

variable {α : Type}

/-- The transaction that is made next over a session. -/
def next (s : Session) (w : World) : Transaction := ⟨w.phases.length, s.logger, .session⟩

/-- A block in a transaction of its own. -/
def inBlock (s : Session) (body : Transaction → Routine α) : Routine α := do
  let t ← overSession s
  t.block s (body t)

/-- A block within a transaction, told.  What the body sends is not told. -/
def tellBlock (s : Session) (t : Transaction) (body : Routine α) : Telling α := do
  t.tellEnter s
  match ← (silent body).attempt with
  | .ok a =>
      t.tellLeave s none
      return a
  | .error f =>
      t.tellLeave s (some f)
      silent (Routine.fail f)

/-- A block in a transaction of its own, told. -/
def tellInBlock (s : Session) (body : Transaction → Routine α) : Telling α := do
  let t ← silent (overSession s)
  t.tellBlock s (body t)

theorem tellBlock_of
    (s : Session) (t : Transaction) (body : Routine α) :
    Telling.Of (t.block s body) (t.tellBlock s body) := by
  refine Telling.Of.bind (t.tellEnter_of s) fun _ => ?_
  refine Telling.Of.bind (Telling.Of.silent body).attempt fun r => ?_
  cases r with
  | ok a =>
      exact Telling.Of.bind (t.tellLeave_of s none) fun _ => .silent _
  | error f =>
      exact Telling.Of.bind (t.tellLeave_of s (some f)) fun _ => .silent _

theorem tellInBlock_of
    (s : Session) (body : Transaction → Routine α) :
    Telling.Of (inBlock s body) (tellInBlock s body) :=
  Telling.Of.bind (.silent _) fun t => t.tellBlock_of s (body t)

section Control

variable {t : Transaction} {w : World} (s : Session)

/-- The phases of all transactions are kept by a statement that is sent through what a
transaction runs over. -/
theorem phases_executeRaw
    (t : Transaction) (sql : Value) (w : World) :
    (run (t.base.executeRaw s sql .null) w).2.phases = w.phases :=
  (Operation.executeRaw sql .null).phases_perform s t.base w

/-- A control statement that failed ends in a failure and leaves all phases. -/
theorem hear_error
    (t : Transaction) (c : Control) (f : Fault) (w : World) :
    ∃ g w', run (t.hear c (.error f)) w = (.error g, w') ∧ w'.phases = w.phases := by
  by_cases hstop : f.isInterrupt = true
  · exact ⟨f, w, by simp [hear, hstop], rfl⟩
  · cases hwords : f.words with
    | error g =>
        exact ⟨g, w, by simp [hear, hstop, hwords], rfl⟩
    | ok failure =>
        refine ⟨.control c f, w.addLine ⟨t.logger, .error, failureNote c failure⟩, ?_, rfl⟩
        simp [hear, hstop, hwords, Measure.note]

/-- A control statement in its phase is sent, and leads to the next phase if and only if
it succeeds. -/
theorem tellControl_of_phase
    {c : Control} (hphase : w.phase t.id = c.before) :
    (∃ v w', t.tellControl s c w = ⟨[⟨c, .ok v⟩], .ok (), w'⟩ ∧
        w'.phases = w.phases.set t.id c.after) ∨
      ∃ f g w', t.tellControl s c w = ⟨[⟨c, .error f⟩], .error g, w'⟩ ∧
        w'.phases = w.phases := by
  have hphases := phases_executeRaw s t (.text c.keyword) w
  rw [tellControl_sent s hphase]
  rcases hrun : run (t.base.executeRaw s (.text c.keyword) .null) w with ⟨r, w'⟩
  rw [hrun] at hphases
  cases r with
  | ok v =>
      refine .inl ⟨v, _, rfl, ?_⟩
      change w'.phases.set t.id c.after = _
      rw [hphases]
  | error f =>
      obtain ⟨g, w'', hrun, hkept⟩ := t.hear_error c f w'
      refine .inr ⟨f, g, w'', ?_, hkept.trans hphases⟩
      simp only [hrun]

/-- A transaction that is open is there. -/
theorem present_of_started
    (hphase : w.phase t.id = .started) :
    t.id < w.phases.length := by
  refine Nat.lt_of_not_le fun habsent => ?_
  have hnew : w.phase t.id = .new := by
    simp [World.phase, habsent]
  rw [hnew] at hphase
  cases hphase

theorem phase_eq_of_set
    {w' : World} {phase : Phase} (hpresent : t.id < w.phases.length)
    (hphases : w'.phases = w.phases.set t.id phase) :
    w'.phase t.id = phase := by
  simp [World.phase, hphases, hpresent]

/-- What is heard behind a block that failed changes no phase. -/
@[simp] theorem phase_hearBehind
    (t : Transaction) (r : Except Fault Unit) (w : World) (id : Nat) :
    (run (t.hearBehind r) w).2.phase id = w.phase id := by
  obtain ⟨ls, hworld⟩ := t.world_hearBehind r w
  rw [hworld]
  rfl

/-- A commit or a rollback of an open transaction is sent, and leaves it open if and only
if it fails. -/
theorem tellControl_of_started
    {c : Control} (hbefore : c.before = .started) (hphase : w.phase t.id = .started) :
    let a := t.tellControl s c w
    (∃ v, a.sent = [⟨c, .ok v⟩] ∧ a.world.phase t.id ≠ .started) ∨
      ∃ f, a.sent = [⟨c, .error f⟩] ∧ a.world.phase t.id = .started := by
  rcases tellControl_of_phase s (hphase.trans hbefore.symm) with
    ⟨v, w', htold, hphases⟩ | ⟨f, g, w', htold, hphases⟩
  · rw [htold]
    have hafter : w'.phase t.id = c.after :=
      phase_eq_of_set (present_of_started hphase) hphases
    refine .inl ⟨v, rfl, ?_⟩
    rw [hafter]
    cases c with
    | start =>
        cases hbefore
    | commit =>
        rintro ⟨⟩
    | rollback =>
        rintro ⟨⟩
  · rw [htold]
    exact .inr ⟨f, rfl, (phase_of_phases_eq hphases t.id).trans hphase⟩

end Control

/-- The control statements that failed. -/
def failed (sent : List Attempt) : List Control :=
  sent.filterMap fun a =>
    match a.outcome with
    | .ok _ => none
    | .error _ => some a.control

/-- How the way out of a block may go as far as its transaction is concerned. -/
inductive WayOut (t : Transaction) (failure : Option Fault) (w : World) (a : Account Unit) :
    Prop where
  /-- The transaction is not open. -/
  | idle (hphase : w.phase t.id ≠ .started) (hsent : a.sent = [])
      (hclosed : a.world.phase t.id ≠ .started)
  /-- The block failed, and its failure cannot be told. -/
  | speechless (f : Fault) (hphase : w.phase t.id = .started) (hfailure : failure = some f)
      (hspeech : f.described.isOk = false) (hsent : a.sent = [])
      (hopen : a.world.phase t.id = .started)
  | closed (c : Control) (v : Value) (hend : c ≠ .start)
      (hspeech : ∀ f, failure = some f → f.described.isOk = true) (hsent : a.sent = [⟨c, .ok v⟩])
      (hclosed : a.world.phase t.id ≠ .started)
  | failed (c : Control) (f : Fault) (hend : c ≠ .start) (hsent : a.sent = [⟨c, .error f⟩])
      (hopen : a.world.phase t.id = .started)

theorem tellLeave_wayOut
    (s : Session) (t : Transaction) (failure : Option Fault) (w : World) :
    WayOut t failure w (t.tellLeave s failure w) := by
  by_cases hphase : w.phase t.id = .started
  · cases failure with
    | none =>
        rw [tellLeave_ended s hphase]
        rcases tellControl_of_started s (c := .commit) rfl hphase with
          ⟨v, hsent, hclosed⟩ | ⟨f, hsent, hopen⟩
        · exact .closed .commit v (by rintro ⟨⟩) (by rintro f ⟨⟩) hsent hclosed
        · exact .failed .commit f (by rintro ⟨⟩) hsent hopen
    | some f =>
        rw [tellLeave_failed s hphase]
        cases hwords : f.described with
        | error g =>
            have hspeech : f.described.isOk = false := by
              rw [hwords]
              rfl
            exact .speechless f hphase rfl hspeech rfl hphase
        | ok text =>
            -- The line about the failure changes no phase.
            rcases tellControl_of_started s (c := .rollback) rfl
                (w := w.addLine ⟨t.logger, .error, blockFailure text⟩) hphase with
              ⟨v, hsent, hclosed⟩ | ⟨g, hsent, hopen⟩
            · refine .closed .rollback v (by rintro ⟨⟩) ?_ hsent (by simpa using hclosed)
              rintro f' ⟨⟩
              rw [hwords]
              rfl
            · exact .failed .rollback g (by rintro ⟨⟩) hsent (by simpa using hopen)
  · rw [tellLeave_idle s failure hphase]
    exact .idle hphase rfl hphase

/-- The way out leaves the transaction open if and only if what it sends fails, or if it
sends nothing because the failure of the block cannot be told. -/
theorem WayOut.open_iff
    {t : Transaction} {failure : Option Fault} {w : World} {a : Account Unit}
    (h : WayOut t failure w a) :
    a.world.phase t.id = .started ↔
      .commit ∈ Transaction.failed a.sent ∨ .rollback ∈ Transaction.failed a.sent ∨
        (w.phase t.id = .started ∧ failure.any (fun f => !f.described.isOk) = true) := by
  cases h with
  | idle hphase hsent hclosed =>
      simp [Transaction.failed, hphase, hsent, hclosed]
  | speechless f hphase hfailure hspeech hsent hopen =>
      simp [hphase, hfailure, hspeech, hopen]
  | closed c v hend hspeech hsent hclosed =>
      have htold : failure.any (fun f => !f.described.isOk) = false := by
        cases failure with
        | none =>
            rfl
        | some f =>
            simp [hspeech f rfl]
      simp [Transaction.failed, hsent, hclosed, htold]
  | failed c f hend hsent hopen =>
      cases c with
      | start =>
          exact absurd rfl hend
      | commit =>
          simp [Transaction.failed, hsent, hopen]
      | rollback =>
          simp [Transaction.failed, hsent, hopen]

/-- The failure that a result is, if it is one. -/
def failure? : Except Fault α → Option Fault
  | .ok _ => none
  | .error f => some f

section Blocks

variable (s : Session)

/-- The way out of a block behind its body, told, with the result that the block comes to. -/
def tellExit (t : Transaction) (b : Except Fault α × World) : Account α :=
  (t.tellLeave s (failure? b.1) b.2).closing b.1

/-- A block that is entered goes on with its body, and then with its way out. -/
theorem tellBlock_of_entered
    {t : Transaction} {w : World} (body : Routine α)
    (hentered : (t.tellEnter s w).result = .ok ()) :
    let e := t.tellEnter s w
    let x := tellExit s t (run body e.world)
    t.tellBlock s body w = ⟨e.sent ++ x.sent, x.result, x.world⟩ := by
  intro e x
  unfold tellBlock
  rw [Telling.bind_of_ok _ hentered]
  simp only [Telling.bind_silent_attempt]
  refine congrArg (fun l : Account α => Account.mk (e.sent ++ l.sent) l.result l.world) ?_
  change _ = tellExit s t (run body e.world)
  rcases run body e.world with ⟨r, w'⟩
  cases r with
  | ok a =>
      exact Telling.bind_still (t.tellLeave s none) (pure a) (fun _ => rfl) w'
  | error f =>
      exact Telling.bind_still (t.tellLeave s (some f)) (Routine.fail f) (fun _ => rfl) w'

/-- The world in which the body of a block runs that is made in another world. -/
def inside (w : World) : World :=
  (run ((next s w).enter s) w.addTransaction.2).2

/-- Whether the body of a block fails, with its transaction open, in a way that cannot be
told. -/
def Speechless (body : Transaction → Routine α) (w : World) : Prop :=
  let b := run (body (next s w)) (inside s w)
  b.2.phase (next s w).id = .started ∧ (failure? b.1).any (fun f => !f.described.isOk) = true

instance (body : Transaction → Routine α) (w : World) : Decidable (Speechless s body w) :=
  inferInstanceAs (Decidable (_ ∧ _))

/-- The transaction that is made next is new. -/
theorem phase_next
    (w : World) :
    w.addTransaction.2.phase (next s w).id = .new := by
  simp [World.phase, World.addTransaction, next]

/-- The account of a block in a transaction of its own is that of the block. -/
theorem tellInBlock_eq
    (body : Transaction → Routine α) (w : World) :
    tellInBlock s body w = (next s w).tellBlock s (body (next s w)) w.addTransaction.2 := by
  rfl

/-- A block that was begun sends a start, and behind it what its way out sends. -/
theorem tellInBlock_of_begun
    {body : Transaction → Routine α} {w : World}
    (hbegun : .start ∈ succeeded (tellInBlock s body w).sent) :
    let b := run (body (next s w)) (inside s w)
    let l := (next s w).tellLeave s (failure? b.1) b.2
    (∃ v, (tellInBlock s body w).sent = ⟨.start, .ok v⟩ :: l.sent) ∧
      (tellInBlock s body w).world = l.world := by
  intro b l
  have henter := tellEnter_new s (phase_next s w)
  have hinside : inside s w = ((next s w).tellEnter s w.addTransaction.2).world :=
    congrArg Prod.snd ((next s w).tellEnter_of s w.addTransaction.2)
  rw [tellInBlock_eq] at hbegun ⊢
  rcases tellControl_of_phase s (c := .start) (phase_next s w) with
    ⟨v, w', htold, -⟩ | ⟨f, g, w', htold, -⟩
  · rw [htold] at henter
    have hentered : ((next s w).tellEnter s w.addTransaction.2).result = .ok () := by
      rw [henter]
    rw [tellBlock_of_entered s (body (next s w)) hentered, ← hinside, henter]
    exact ⟨⟨v, rfl⟩, rfl⟩
  · rw [htold] at henter
    have hfailed : ((next s w).tellEnter s w.addTransaction.2).result = .error g := by
      rw [henter]
    unfold tellBlock at hbegun
    rw [Telling.bind_of_error _ hfailed, henter] at hbegun
    simp [succeeded] at hbegun

/-- A block that was begun leaves its transaction open if and only if the commit or the
rollback on the way out fails, or nothing is sent because the failure of the body cannot be
told. -/
theorem open_behind_block_iff
    (body : Transaction → Routine α) (w : World)
    (hbegun : .start ∈ succeeded (tellInBlock s body w).sent) :
    let a := tellInBlock s body w
    run (inBlock s body) w = (a.result, a.world) ∧
      ((a.world.phase (next s w).id).isOpen = true ↔
        .commit ∈ failed a.sent ∨ .rollback ∈ failed a.sent ∨ Speechless s body w) := by
  intro a
  obtain ⟨⟨v, hsent⟩, hworld⟩ := tellInBlock_of_begun s hbegun
  refine ⟨tellInBlock_of s body w, ?_⟩
  have hopen : (a.world.phase (next s w).id).isOpen = true ↔
      a.world.phase (next s w).id = .started :=
    decide_eq_true_iff
  rw [hopen, hworld, (tellLeave_wayOut s (next s w) _ _).open_iff, hsent]
  rfl

end Blocks

/-- A world in which a session is connected to an engine that has answers to give. -/
def connectedTo (answers : List Answer) : World :=
  { (default : World) with connected := true, answers := answers }

/-- The answer of an engine that refuses a statement. -/
def refusing (kind message : Text) : Answer :=
  { Answer.silent with failure := some ⟨kind, .text message⟩ }

/-- A body that adds a row. -/
def addRow (t : Transaction) : Routine Value :=
  t.handle.executeRaw default (.text "INSERT INTO t (v) VALUES (?)") (.list [.int 1])

/-- A world whose engine begins, refuses the row, and rolls back. -/
def refusedRow : World := connectedTo [.silent, refusing "IntegrityError" "NOT NULL", .silent]

/-- A block whose statement is refused is rolled back. -/
theorem closed_behind_refused_row :
    .start ∈ succeeded (tellInBlock default addRow refusedRow).sent ∧
      ((run (inBlock default addRow) refusedRow).2.phase (next default refusedRow).id).isOpen =
        false := by
  have hbegun : .start ∈ succeeded (tellInBlock default addRow refusedRow).sent := by
    decide +kernel
  have hcommit : .commit ∉ failed (tellInBlock default addRow refusedRow).sent := by
    decide +kernel
  have hrollback : .rollback ∉ failed (tellInBlock default addRow refusedRow).sent := by
    decide +kernel
  have htold : ¬ Speechless default addRow refusedRow := by
    decide +kernel
  obtain ⟨hrun, hiff⟩ := open_behind_block_iff default addRow refusedRow hbegun
  refine ⟨hbegun, Bool.eq_false_iff.mpr fun hopen => ?_⟩
  rw [hrun] at hopen
  rcases hiff.mp hopen with hfailed | hfailed | hspeech
  · exact hcommit hfailed
  · exact hrollback hfailed
  · exact htold hspeech

/-- A block is left with its transaction open when the engine refuses the commit, although no
rollback fails. -/
theorem open_behind_refused_commit :
    ¬ ∀ (s : Session) (body : Transaction → Routine Value) (w : World),
      w.connected = true →
        .start ∈ succeeded (tellInBlock s body w).sent →
          .rollback ∉ failed (tellInBlock s body w).sent →
            ((run (inBlock s body) w).2.phase (next s w).id).isOpen = false := by
  intro hclaim
  have hclosed := hclaim default addRow
    (connectedTo [.silent, .silent, refusing "OperationalError" "database is locked"])
    rfl (by decide +kernel) (by decide +kernel)
  revert hclosed
  decide +kernel

end Transaction

end Datalink
