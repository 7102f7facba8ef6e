import Datalink.Numeral.Fixed
import Datalink.Numeral.Reader
import Datalink.Value.Comparison

/-!
# Observations

An observation says of one measured operation what ran, how long it took, and how
it ended.  It is shown as a line of a log, and taken apart into the fields of a
journal entry.

The fields are kept as they were handed over; only the parameters are made a tuple.
An operation that was measured here has texts for its name and its error, a truth
value for its success and a floating-point number for its time.
-/

namespace Datalink

/-- The fields of a journal entry, by name. -/
abbrev Entry := Keyed Value

/-- One measured operation.  The time is in milliseconds. -/
structure Observation where
  name : Value
  sql : Value
  params : List Value
  elapsed : Value
  success : Value
  error : Value
deriving Inhabited

/-- The pattern of a number with three decimal places. -/
def millisecondsPattern : Text := ".3f"

/-- The most digits that a decimal is written with. -/
def digitsLimit : Nat := Nat.pow 10 18

/-- The most digits that are held at once. -/
def heldDigitsLimit : Nat := Nat.pow 10 10

/-- A decimal with three places, unless it has too many digits. -/
def decimalMilliseconds (d : Scaled) : Except Fault Text :=
  if digitsLimit < Value.scaledWidth 3 d then .error .tooManyPlaces
  else if heldDigitsLimit < Value.scaledWidth 3 d then .error .outOfMemory
  else .ok (Value.scaledFixed 3 d)

/-- The number of milliseconds that a value stands for, with three decimal places.  A
date or a time fills in a pattern by itself and finds nothing to fill in here. -/
def millisecondsText (v : Value) : Except Fault Text :=
  match v.face with
  | .bool b => .ok (Numeral.fixed 3 (if b then 1.0 else 0.0))
  | .int n =>
      match Numeral.nearestToInt? n with
      | some x => .ok (Numeral.fixed 3 x)
      | none => .error .numberTooLarge
  | .real x => .ok (Numeral.fixed 3 x)
  | .decimal d => decimalMilliseconds d
  | .date _ => .ok millisecondsPattern
  | .time .. => .ok millisecondsPattern
  | .moment .. => .ok millisecondsPattern
  | .text _ => .error .placesOfText
  | .member .. => .error .placesOfText
  | v => .error (.misfit (.decimalPlaces v))

/-- How an operation ended, in words. -/
def outcomeText (success error : Value) : Except Fault Text :=
  if success.truthy then
    .ok "ok"
  else
    match error.words with
    | .error f => .error f
    | .ok t => .ok ("failed: " ++ t)

/-- A measured operation in one line. -/
def operationLine (name sql params elapsed success error : Value) :
    Except Fault Text := do
  let ended ← outcomeText success error
  let name ← name.words
  let elapsed ← millisecondsText elapsed
  let sql ← sql.words
  let params ← params.words
  return name ++ " [" ++ elapsed ++ " ms] " ++ sql ++ " | " ++ params ++ " -> " ++ ended

namespace Observation

/-- An observation from what was handed over. -/
def make (name sql params elapsed success error : Value) : Except Fault Observation :=
  match params.asItems with
  | .error f => .error f
  | .ok items => .ok ⟨name, sql, items, elapsed, success, error⟩

/-- Whether a parameter stands in a journal as it is. -/
def isPlain (v : Value) : Bool :=
  match v.face with
  | .null => true
  | .bool _ => true
  | .int _ => true
  | .real _ => true
  | .text _ => true
  | _ => false

/-- A parameter as a journal holds it: a plain one as it is, and any other in its
printed form. -/
def journalParam (v : Value) : Value := if isPlain v then v else .text v.print

/-- The observation in one line. -/
def line (o : Observation) : Except Fault Text :=
  operationLine o.name o.sql (.list o.params) o.elapsed o.success o.error

/-- The fields of an observation in order, as one value. -/
def toValue (o : Observation) : Value :=
  .tuple [o.name, o.sql, .tuple o.params, o.elapsed, o.success, o.error]

/-- The printed form of an observation, if its fields have one. -/
def print (o : Observation) : Except Fault Text :=
  match o.toValue.printed with
  | .error f => .error f
  | .ok t => .ok ("QueryLog" ++ t)

/-- The fields of an observation. -/
def fields (o : Observation) : Entry :=
  [(.text "name", o.name), (.text "sql", o.sql),
    (.text "params", .list (o.params.map journalParam)),
    (.text "elapsed_ms", o.elapsed), (.text "success", o.success),
    (.text "error", o.error)]

/-- The journal entry of an observation, if its parameters can be written. -/
def entry (o : Observation) : Except Fault Entry :=
  if o.params.all fun v => isPlain v || v.printable then
    .ok o.fields
  else
    .error .digitLimit

/-- Whether two observations are the same. -/
def equals (o p : Observation) : Except Fault Bool := o.toValue.equals p.toValue

end Observation
end Datalink
