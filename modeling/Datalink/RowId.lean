import Datalink.Value.Comparison

/-!
# Row numbers

The number that the engine gave to the row a statement added, kept as it was handed
over.  Two row numbers are the same when they are the same number.
-/

namespace Datalink

/-- The number of a row. -/
structure RowId where
  number : Value
deriving Inhabited

namespace RowId

/-- The row number of what the engine says about the row added last, which may be
nothing. -/
def ofLast? (last : Value) : Option RowId :=
  match last with
  | .null => none
  | number => some ⟨number⟩

/-- A row number in text, if it has one. -/
def print (id : RowId) : Except Fault Text :=
  match id.number.words with
  | .error f => .error f
  | .ok t => .ok ("IntId(" ++ t ++ ")")

/-- A row number as an integer. -/
def toInt (id : RowId) : Except Fault Int :=
  match id.number.integer? with
  | some n => .ok n
  | none => .error (.misfit (.integer id.number))

/-- Whether two row numbers are the same. -/
def equals (one two : RowId) : Except Fault Bool := one.number.equals two.number

end RowId
end Datalink
