import Datalink.Engine.World

/-!
# Routines that wait

An operation runs until it has to wait: for its turn on the connection, or for the
engine to answer.  What is left of it then is a function of the world it will find.

Results: run on its own a routine never waits for anyone, so `run` goes through the
waits, and every way of building routines is described by what `run` does with it.
Routines are the same if they wait for the same and end the same, and they obey the laws
of sequences.
-/

namespace Datalink

/-- What a routine waits for. -/
inductive Wait where
  | turn
  | engine
deriving DecidableEq, Inhabited

/-- How far a routine has come in a world: to its end, or to a wait. -/
inductive Progress (α : Type) where
  | finished (result : Except Fault α) (world : World)
  | waiting (on : Wait) (world : World) (resume : World → Progress α)

namespace Progress

/-- Another routine after this one, unless this one fails. -/
def bind {α β : Type} (p : Progress α) (next : α → World → Progress β) : Progress β :=
  match p with
  | finished (.ok a) w => next a w
  | finished (.error f) w => finished (.error f) w
  | waiting on w resume => waiting on w fun w => (resume w).bind next

/-- The result itself as the result, be it a failure. -/
def attempt {α : Type} (p : Progress α) : Progress (Except Fault α) :=
  match p with
  | finished r w => finished (.ok r) w
  | waiting on w resume => waiting on w fun w => (resume w).attempt

/-- The end of a routine that nobody keeps waiting. -/
def settle {α : Type} (p : Progress α) : Except Fault α × World :=
  match p with
  | finished r w => (r, w)
  | waiting _ w resume => (resume w).settle

/-- The end of a routine that is taken up again in another world. -/
def settleIn {α : Type} (p : Progress α) (w : World) : Except Fault α × World :=
  match p with
  | finished r _ => (r, w)
  | waiting _ _ resume => (resume w).settle

/-- The world in which a routine stands. -/
def world {α : Type} (p : Progress α) : World :=
  match p with
  | finished _ w => w
  | waiting _ w _ => w

/-- Whether a routine is at its end. -/
def isFinished {α : Type} (p : Progress α) : Bool :=
  match p with
  | finished .. => true
  | waiting .. => false

/-- A routine that finds the connection free takes its turn at once. -/
def takeTurn {α : Type} (p : Progress α) : Progress α :=
  match p with
  | waiting .turn w resume => (resume w).takeTurn
  | p => p

@[simp] theorem settle_bind
    {α β : Type} (p : Progress α) (next : α → World → Progress β) :
    (p.bind next).settle =
      match p.settle with
      | (.ok a, w) => (next a w).settle
      | (.error f, w) => (.error f, w) := by
  induction p with
  | finished r w =>
      cases r <;> rfl
  | waiting on w resume ih =>
      simpa [bind, settle] using ih w

@[simp] theorem settle_attempt
    {α : Type} (p : Progress α) :
    p.attempt.settle = (.ok p.settle.1, p.settle.2) := by
  induction p with
  | finished r w =>
      rfl
  | waiting on w resume ih =>
      simpa [attempt, settle] using ih w

theorem bind_finished
    {α : Type} (p : Progress α) :
    p.bind (fun a w => finished (.ok a) w) = p := by
  induction p with
  | finished r w =>
      cases r <;> rfl
  | waiting on w resume ih =>
      simp only [bind, ih]

theorem bind_assoc
    {α β γ : Type} (p : Progress α) (f : α → World → Progress β) (g : β → World → Progress γ) :
    (p.bind f).bind g = p.bind fun a w => (f a w).bind g := by
  induction p with
  | finished r w =>
      cases r <;> rfl
  | waiting on w resume ih =>
      simp only [bind, ih]

end Progress

/-- An operation with a result. -/
def Routine (α : Type) : Type := World → Progress α

namespace Routine

/-- A routine with a result and without effect. -/
def result {α : Type} (a : α) : Routine α := fun w => .finished (.ok a) w

/-- A routine that fails. -/
def fail {α : Type} (f : Fault) : Routine α := fun w => .finished (.error f) w

/-- One routine after the other. -/
def bind {α β : Type} (m : Routine α) (next : α → Routine β) : Routine β :=
  fun w => (m w).bind next

instance : Monad Routine where
  pure := result
  bind := bind

instance : LawfulMonad Routine :=
  .mk' Routine
    (fun m => funext fun w => (m w).bind_finished)
    (fun _ _ => rfl)
    (fun m f g => funext fun w => (m w).bind_assoc f g)

/-- A routine whose failure is its result. -/
def attempt {α : Type} (m : Routine α) : Routine (Except Fault α) :=
  fun w => (m w).attempt

/-- A step that does not wait. -/
def step {α : Type} (f : World → α × World) : Routine α :=
  fun w => .finished (.ok (f w).1) (f w).2

/-- A change of the world. -/
def change (f : World → World) : Routine Unit := step fun w => ((), f w)

/-- A wait. -/
def wait (on : Wait) : Routine Unit := fun w => .waiting on w fun w => .finished (.ok ()) w

/-- A result that is known already. -/
def ofExcept {α : Type} (r : Except Fault α) : Routine α := fun w => .finished r w

/-- What a routine does when nobody else runs. -/
def run {α : Type} (m : Routine α) (w : World) : Except Fault α × World := (m w).settle

/-- A routine with another after it, whether it fails or not. -/
def followedBy {α : Type} (m : Routine α) (last : Routine Unit) : Routine α := do
  let r ← m.attempt
  last
  ofExcept r

/-- A result that comes of two, the first of which is known already. -/
theorem ofExcept_bind
    {α β : Type} (r : Except Fault α) (f : α → Except Fault β) :
    ofExcept (r >>= f) = ofExcept r >>= fun a => ofExcept (f a) := by
  cases r <;> rfl

@[simp] theorem run_result
    {α : Type} (a : α) (w : World) :
    run (result a) w = (.ok a, w) := by
  rfl

@[simp] theorem run_pure
    {α : Type} (a : α) (w : World) :
    run (pure a) w = (.ok a, w) := by
  rfl

@[simp] theorem run_fail
    {α : Type} (f : Fault) (w : World) :
    run (fail f : Routine α) w = (.error f, w) := by
  rfl

@[simp] theorem run_bind
    {α β : Type} (m : Routine α) (next : α → Routine β) (w : World) :
    run (m >>= next) w =
      match run m w with
      | (.ok a, w) => run (next a) w
      | (.error f, w) => (.error f, w) :=
  Progress.settle_bind (m w) next

@[simp] theorem run_map
    {α β : Type} (f : α → β) (m : Routine α) (w : World) :
    run (f <$> m) w =
      match run m w with
      | (.ok a, w) => (.ok (f a), w)
      | (.error f, w) => (.error f, w) :=
  run_bind m (fun a => pure (f a)) w

@[simp] theorem run_attempt
    {α : Type} (m : Routine α) (w : World) :
    run m.attempt w = (.ok (run m w).1, (run m w).2) :=
  Progress.settle_attempt (m w)

@[simp] theorem run_step
    {α : Type} (f : World → α × World) (w : World) :
    run (step f) w = (.ok (f w).1, (f w).2) := by
  rfl

@[simp] theorem run_change
    (f : World → World) (w : World) :
    run (change f) w = (.ok (), f w) := by
  rfl

@[simp] theorem run_wait
    (on : Wait) (w : World) :
    run (wait on) w = (.ok (), w) := by
  rfl

@[simp] theorem run_ofExcept
    {α : Type} (r : Except Fault α) (w : World) :
    run (ofExcept r) w = (r, w) := by
  rfl

end Routine
end Datalink
