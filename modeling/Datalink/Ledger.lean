import Datalink.Journal
import Datalink.Tally

/-!
# Ledgers

A ledger takes observations.  It keeps a tally for every name, and it holds the
observations themselves back.  With a journal they are written out as soon as there
are as many as the ledger's capacity, or when it is flushed; without a journal only
the latest are kept.

An observation is counted before it is held back, and one that cannot be counted is
not held back: its name cannot be a key, or its time cannot be added.  A batch leaves
the ledger before it is written, whatever becomes of the writing.

Results: counting touches nothing but the tallies, and holding back and draining touch
nothing but what is held back.
-/

namespace Datalink

/-- Tallies, and observations held back. -/
structure Ledger where
  capacity : Nat
  journal : Option Journal
  held : List Observation
  tallies : Keyed Tally
deriving Inhabited

namespace Ledger

/-- The capacity when none is given. -/
def defaultCapacity : Value := .int 10

/-- The capacity that a value gives: a positive whole number that is no truth
value. -/
def capacityOf (v : Value) : Except Fault Nat :=
  match v.face with
  | .int n => if 1 ≤ n then .ok n.toNat else .error .bufferLength
  | _ => .error .bufferLength

/-- A ledger that has taken nothing. -/
def empty (capacity : Nat) (journal : Option Journal) : Ledger :=
  ⟨capacity, journal, [], []⟩

/-- The observation counted under its name. -/
def count (l : Ledger) (o : Observation) : Ledger × Except Fault Unit :=
  match o.name.checkKey with
  | .error f => (l, .error f)
  | .ok () =>
      let (tally, result) := ((Keyed.get? o.name l.tallies).getD Tally.zero).add o
      ({ l with tallies := Keyed.put o.name tally l.tallies }, result)

/-- The latest observations, as many as the capacity. -/
def latest (capacity : Nat) (held : List Observation) : List Observation :=
  held.drop (held.length - capacity)

/-- An observation held back, and the batch that is to be written now, if there is
one. -/
def hold (l : Ledger) (o : Observation) : Ledger × List Observation :=
  if l.held.length + 1 < l.capacity then
    ({ l with held := l.held ++ [o] }, [])
  else
    match l.journal with
    | none => ({ l with held := latest l.capacity (l.held ++ [o]) }, [])
    | some _ => ({ l with held := [] }, l.held ++ [o])

/-- The batch that a flush writes: all that is held back, if there is a journal. -/
def drain (l : Ledger) : Ledger × List Observation :=
  match l.journal with
  | none => (l, [])
  | some _ => ({ l with held := [] }, l.held)

@[simp] theorem held_count
    (l : Ledger) (o : Observation) :
    (l.count o).1.held = l.held := by
  unfold count
  split <;> rfl

@[simp] theorem journal_count
    (l : Ledger) (o : Observation) :
    (l.count o).1.journal = l.journal := by
  unfold count
  split <;> rfl

@[simp] theorem capacity_count
    (l : Ledger) (o : Observation) :
    (l.count o).1.capacity = l.capacity := by
  unfold count
  split <;> rfl

@[simp] theorem journal_hold
    (l : Ledger) (o : Observation) :
    (l.hold o).1.journal = l.journal := by
  unfold hold
  split
  · rfl
  · split <;> rfl

@[simp] theorem capacity_hold
    (l : Ledger) (o : Observation) :
    (l.hold o).1.capacity = l.capacity := by
  unfold hold
  split
  · rfl
  · split <;> rfl

@[simp] theorem tallies_hold
    (l : Ledger) (o : Observation) :
    (l.hold o).1.tallies = l.tallies := by
  unfold hold
  split
  · rfl
  · split <;> rfl

@[simp] theorem journal_drain
    (l : Ledger) :
    l.drain.1.journal = l.journal := by
  unfold drain
  split <;> rfl

@[simp] theorem capacity_drain
    (l : Ledger) :
    l.drain.1.capacity = l.capacity := by
  unfold drain
  split <;> rfl

@[simp] theorem tallies_drain
    (l : Ledger) :
    l.drain.1.tallies = l.tallies := by
  unfold drain
  split <;> rfl

/-- The journal entries of a batch. -/
def entriesOf : List Observation → Except Fault (List Entry)
  | [] => .ok []
  | o :: os =>
      match o.entry with
      | .error f => .error f
      | .ok e =>
          match entriesOf os with
          | .error f => .error f
          | .ok es => .ok (e :: es)

/-- A batch written to the journal.  Nothing is written of an empty batch. -/
def writeOut (journal : Option Journal) (batch : List Observation)
    (files : FileTree) : FileTree × Except Fault Unit :=
  match journal, batch with
  | none, _ => (files, .ok ())
  | some _, [] => (files, .ok ())
  | some j, batch =>
      match entriesOf batch with
      | .error f => (files, .error f)
      | .ok entries => j.write files entries

/-- An observation taken: counted, held back, and the batch written that it makes
full. -/
def record (l : Ledger) (o : Observation) (files : FileTree) :
    Ledger × FileTree × Except Fault Unit :=
  match l.count o with
  | (l, .error f) => (l, files, .error f)
  | (l, .ok ()) =>
      let (l, batch) := l.hold o
      (l, writeOut l.journal batch files)

/-- All that is held back written out. -/
def flush (l : Ledger) (files : FileTree) : Ledger × FileTree × Except Fault Unit :=
  let (l, batch) := l.drain
  (l, writeOut l.journal batch files)

/-- The tally of a name, if there is one. -/
def tally? (l : Ledger) (name : Value) : Except Fault (Option Tally) :=
  match name.checkKey with
  | .error f => .error f
  | .ok () => .ok (Keyed.get? name l.tallies)

/-- The counters of every name, in the order of their first observation. -/
def summary (l : Ledger) : Entry :=
  l.tallies.map fun t => (t.1, .mapping t.2.fields)

end Ledger
end Datalink
