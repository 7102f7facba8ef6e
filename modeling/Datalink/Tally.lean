import Datalink.Observation

/-!
# Tallies

A tally counts the operations of one name: how many there were, how many failed,
and how long they took together and at most.

An operation is counted before its time is added, so that one whose time is no number
leaves the total and the longest time alone.
-/

namespace Datalink

/-- Running counters for one name.  The longest time is kept as it was handed over. -/
structure Tally where
  calls : Nat
  failures : Nat
  total : Float
  longest : Value
deriving Inhabited

namespace Tally

/-- A tally of nothing. -/
def zero : Tally := ⟨0, 0, 0.0, .real 0.0⟩

/-- One more operation, without its time. -/
def count (t : Tally) (o : Observation) : Tally :=
  { t with
    calls := t.calls + 1
    failures := if o.success.truthy then t.failures else t.failures + 1 }

/-- A total with a time added to it. -/
def sum (total : Float) (elapsed : Value) : Except Fault Float :=
  match elapsed.face with
  | .bool b => .ok (total + if b then 1.0 else 0.0)
  | .int n =>
      match Numeral.nearestToInt? n with
      | some x => .ok (total + x)
      | none => .error .numberTooLarge
  | .real x => .ok (total + x)
  | _ => .error (.misfit (.sum elapsed))

/-- The longer of two times; the first unless the second is greater. -/
def longer (x y : Value) : Except Fault Value :=
  match y.compare .greater x with
  | .error f => .error f
  | .ok greater => .ok (if greater then y else x)

/-- A time added to the total, and held against the longest time. -/
def addTime (t : Tally) (elapsed : Value) : Tally × Except Fault Unit :=
  match sum t.total elapsed with
  | .error f => (t, .error f)
  | .ok total =>
      match longer t.longest elapsed with
      | .error f => ({ t with total := total }, .error f)
      | .ok longest => ({ t with total := total, longest := longest }, .ok ())

/-- One more operation.  If its time cannot be added the operation is counted all the
same. -/
def add (t : Tally) (o : Observation) : Tally × Except Fault Unit :=
  (t.count o).addTime o.elapsed

/-- The mean time of an operation. -/
def mean (t : Tally) : Float :=
  if t.calls = 0 then 0.0 else t.total / t.calls.toFloat

/-- The counters by name. -/
def fields (t : Tally) : Entry :=
  [(.text "calls", .int t.calls), (.text "failures", .int t.failures),
    (.text "total_ms", .real t.total), (.text "mean_ms", .real t.mean),
    (.text "max_ms", t.longest)]

@[simp] theorem calls_addTime
    (t : Tally) (elapsed : Value) :
    (t.addTime elapsed).1.calls = t.calls := by
  unfold addTime
  split
  · rfl
  · split <;> rfl

@[simp] theorem failures_addTime
    (t : Tally) (elapsed : Value) :
    (t.addTime elapsed).1.failures = t.failures := by
  unfold addTime
  split
  · rfl
  · split <;> rfl

@[simp] theorem calls_add
    (t : Tally) (o : Observation) :
    (t.add o).1.calls = t.calls + 1 := by
  simp [add, count]

@[simp] theorem failures_add
    (t : Tally) (o : Observation) :
    (t.add o).1.failures =
      if o.success.truthy then t.failures else t.failures + 1 := by
  simp [add, count]

end Tally
end Datalink
