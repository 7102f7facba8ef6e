import Datalink.Calendar

/-!
# Values

The values that callers bind to statements, that the engine hands back, and that
journals hold.  Lists, mappings and members of enumerations nest.
-/

namespace Datalink

/-- How a run of bytes is held: fixed, changeable, or as a view of foreign
memory. -/
inductive BytesForm where
  | fixed
  | changeable
  | view
deriving DecidableEq, Inhabited

/-- A decimal number kept as written: the digits of the coefficient and the
power of ten, or a value that is no number.  Such a value has a sign and a number
that tells it from others, zero standing for none, and a signaling one must not be
compared. -/
inductive Scaled where
  | finite (negative : Bool) (coefficient : Nat) (exponent : Int)
  | infinite (negative : Bool)
  | notANumber (negative signaling : Bool) (payload : Nat)
deriving DecidableEq, Inhabited

/-- What a member of an enumeration is besides a member: nothing, an integer, or
a text. -/
inductive MemberForm where
  | plain
  | integer
  | textual
deriving DecidableEq, Inhabited

/-- A value. -/
inductive Value where
  | null
  | bool (b : Bool)
  | int (n : Int)
  | real (x : Float)
  | text (t : Text)
  | bytes (form : BytesForm) (data : List UInt8)
  | list (items : List Value)
  | tuple (items : List Value)
  | set (items : List Value)
  | fixedSet (items : List Value)
  | mapping (entries : List (Value × Value))
  /-- Items that can be read once. -/
  | stream (items : List Value)
  | range (start stop step : Int)
  | decimal (d : Scaled)
  | uuid (number : Nat)
  | date (d : Calendar.Date)
  | time (t : Calendar.Clock) (off : Calendar.Offset)
  | moment (d : Calendar.Date) (t : Calendar.Clock) (off : Calendar.Offset)
  | member (form : MemberForm) (enumeration name : Text) (value : Value)
deriving Inhabited

namespace Value

/-- What a value is apart from being a member of an enumeration.  A plain member
is nothing else. -/
def face : Value → Value
  | member .integer _ _ v => v.face
  | member .textual _ _ v => v.face
  | v => v

/-- The name of a value's type, as messages show it. -/
def typeName : Value → Text
  | null => "NoneType"
  | bool _ => "bool"
  | int _ => "int"
  | real _ => "float"
  | text _ => "str"
  | bytes .fixed _ => "bytes"
  | bytes .changeable _ => "bytearray"
  | bytes .view _ => "memoryview"
  | list _ => "list"
  | tuple _ => "tuple"
  | set _ => "set"
  | fixedSet _ => "frozenset"
  | mapping _ => "dict"
  | stream _ => "generator"
  | range .. => "range"
  | decimal _ => "Decimal"
  | uuid _ => "UUID"
  | date _ => "date"
  | time .. => "time"
  | moment .. => "datetime"
  | member _ enumeration _ _ => enumeration

/-- The name of a value's type with the family it comes from, as the complaints of
an operation show it. -/
def fullTypeName : Value → Text
  | decimal _ => "decimal.Decimal"
  | date _ => "datetime.date"
  | time .. => "datetime.time"
  | moment .. => "datetime.datetime"
  | v => v.typeName

/-- The number of items in a range. -/
def rangeLength (start stop step : Int) : Nat :=
  if 0 < step then
    ((stop - start + step - 1) / step).toNat
  else if step < 0 then
    ((start - stop - step - 1) / (-step)).toNat
  else
    0

/-- The items of a range. -/
def rangeItems (start stop step : Int) : List Int :=
  (List.range (rangeLength start stop step)).map fun i : Nat => start + step * i

/-- Whether a value counts as true where a condition is asked for. -/
def truthy (v : Value) : Bool :=
  match v.face with
  | null => false
  | bool b => b
  | int n => n != 0
  | real x => x != 0.0
  | text t => !t.isEmpty
  | bytes _ data => !data.isEmpty
  | list items => !items.isEmpty
  | tuple items => !items.isEmpty
  | set items => !items.isEmpty
  | fixedSet items => !items.isEmpty
  | mapping entries => !entries.isEmpty
  | range start stop step => rangeLength start stop step != 0
  | decimal (.finite _ coefficient _) => coefficient != 0
  | _ => true

/-- The items that a value yields one after the other, if it yields any. -/
def items? (v : Value) : Option (List Value) :=
  match v.face with
  | text t => some (t.map fun c => text [c])
  | bytes _ data => some (data.map fun b => int b.toNat)
  | list items => some items
  | tuple items => some items
  | set items => some items
  | fixedSet items => some items
  | mapping entries => some (entries.map Prod.fst)
  | stream items => some items
  | range start stop step => some ((rangeItems start stop step).map int)
  | _ => none

/-- Whether a value is a text or a run of bytes. -/
def isTextual (v : Value) : Bool :=
  match v.face with
  | text _ => true
  | bytes .. => true
  | _ => false

/-- Whether a value yields items and is neither a text nor a run of bytes. -/
def isIterable (v : Value) : Bool :=
  match v.face with
  | list _ => true
  | tuple _ => true
  | set _ => true
  | fixedSet _ => true
  | mapping _ => true
  | stream _ => true
  | range .. => true
  | _ => false

/-- Whether a value yields items and is neither a text nor a run of bytes, by its
items. -/
theorem isIterable_eq
    (v : Value) :
    v.isIterable = (v.items?.isSome && !v.isTextual) := by
  unfold isIterable items? isTextual
  cases v.face <;> rfl

/-- The number of items that a value tells before it yields them. -/
def announcedLength (v : Value) : Nat :=
  match v.face with
  | range start stop step => rangeLength start stop step
  | _ => 0

/-- Whether a value is a non-empty run of ASCII digits.  Values that count as true and
are not made of characters have no answer. -/
def isDigits? (v : Value) : Option Bool :=
  match v.face with
  | text t => some (Numeral.isDigits t)
  | bytes .view data => if data.isEmpty then some false else none
  | bytes _ data => some (!data.isEmpty && data.all fun b => 0x30 ≤ b && b ≤ 0x39)
  | _ => if v.truthy then none else some false

end Value
end Datalink
