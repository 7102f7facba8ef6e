import Datalink.Engine.Routine

/-!
# Routines that run together

The routines of a batch are started one after the other.  The connection belongs to
one of them at a time, and those that wait for it get it in the order in which they
came.  The clock stands while the batch runs, so that no time passes for any of them.

A routine asks for the connection once at most.  So the one that has it runs to its
end when the others cannot go on, and then the next in line does.

What a routine does may depend on what is known when it starts.  Every result is
learned as soon as its routine is at its end.
-/

namespace Datalink
namespace Batch

variable {κ α : Type}

/-- The routines started in order, each going on until it has to wait.  While nobody
has the connection a routine takes it at once. -/
def launch (learn : κ → Except Fault α → κ) :
    Bool → κ → List (κ → Routine α) → World → List (Progress α) × κ × World
  | _, known, [], w => ([], known, w)
  | taken, known, m :: ms, w =>
      let p := if taken then m known w else (m known w).takeTurn
      let known :=
        match p with
        | .finished r _ => learn known r
        | .waiting .. => known
      let (ps, known, w) := launch learn (taken || !p.isFinished) known ms p.world
      (p :: ps, known, w)

/-- The routines run to their ends in order. -/
def settle (learn : κ → Except Fault α → κ) :
    κ → List (Progress α) → World → List (Except Fault α) × κ × World
  | known, [], w => ([], known, w)
  | known, p :: ps, w =>
      let (r, w) := p.settleIn w
      let known := if p.isFinished then known else learn known r
      let (rs, known, w) := settle learn known ps w
      (r :: rs, known, w)

/-- The clock stopped or going again. -/
def setStanding (standing : Bool) (w : World) : World :=
  { w with clock := { w.clock with standing := standing } }

/-- The results of routines that run together, and what is known after them. -/
def run (learn : κ → Except Fault α → κ) (known : κ) (ms : List (κ → Routine α))
    (w : World) : List (Except Fault α) × κ × World :=
  let (ps, known, w) := launch learn false known ms (setStanding true w)
  let (rs, known, w) := settle learn known ps w
  (rs, known, setStanding false w)

end Batch
end Datalink
