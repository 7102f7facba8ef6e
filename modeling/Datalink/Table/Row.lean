import Datalink.Value.Comparison

/-!
# Rows by column name

A row has the column names of its table and its own values.  A name stands for the
value at the first column that is the same as it; reading a row as a mapping puts the
columns one after the other, so that there the last column of a name wins.

Column names are kept as they were handed over.  Only a name that can be a key has a
place in a mapping.
-/

namespace Datalink
namespace Table

/-- The item of a list at an integer index; a negative index counts from the
end. -/
def pick? {α : Type} (items : List α) (i : Int) : Option α :=
  if 0 ≤ i then
    items[i.toNat]?
  else if -(items.length : Int) ≤ i then
    items[(items.length + i).toNat]?
  else
    none

/-- A row of a table. -/
structure Row where
  columns : List Value
  values : List Value
deriving Inhabited

namespace Row

/-- The value at a place among the columns. -/
def valueAt (r : Row) (place : Nat) : Except Fault Value :=
  match r.values[place]? with
  | none => .error .indexOutOfRange
  | some v => .ok v

/-- The value under a column name. -/
def item (r : Row) (name : Value) : Except Fault Value :=
  match name.position? r.columns with
  | .error f => .error f
  | .ok none => .error (.keyMissing name)
  | .ok (some place) => r.valueAt place

/-- The value under a column name, or another value if there is no such column. -/
def get (r : Row) (name default : Value) : Except Fault Value :=
  match r.item name with
  | .error (.keyMissing _) => .ok default
  | result => result

/-- Whether there is a value under a column name. -/
def contains (r : Row) (name : Value) : Except Fault Bool :=
  match r.item name with
  | .ok _ => .ok true
  | .error (.keyMissing _) => .ok false
  | .error f => .error f

/-- The value that a column of the row itself stands for, given the columns before it:
a column is found at its own place at the latest. -/
def valueUnder (r : Row) (before : List Value) (name : Value) : Except Fault Value :=
  match name.position? before with
  | .error f => .error f
  | .ok place => r.valueAt (place.getD before.length)

/-- The entries of the columns behind others, each with its value. -/
def entriesFrom (r : Row) (before : List Value) :
    List Value → Except Fault (List (Value × Value))
  | [] => .ok []
  | name :: names =>
      match r.valueUnder before name with
      | .error f => .error f
      | .ok v =>
          match entriesFrom r (before ++ [name]) names with
          | .error f => .error f
          | .ok es => .ok ((name, v) :: es)

/-- The column names, each with the value it stands for. -/
def entries (r : Row) : Except Fault (List (Value × Value)) := r.entriesFrom [] r.columns

/-- The entries of the columns behind others put into a mapping.  The value of a column
is looked up before the column is made a key. -/
def mappingFrom (r : Row) (before : List Value) (m : Keyed Value) :
    List Value → Except Fault (Keyed Value)
  | [] => .ok m
  | name :: names =>
      match r.valueUnder before name with
      | .error f => .error f
      | .ok v =>
          match name.checkKey with
          | .error f => .error f
          | .ok () => mappingFrom r (before ++ [name]) (Keyed.put name v m) names

/-- The mapping from the column names to the values they stand for. -/
def mapping (r : Row) : Except Fault (Keyed Value) := r.mappingFrom [] [] r.columns

/-- The row as a mapping, the columns that have values put one after the other. -/
def toColumns (r : Row) : Except Fault (Keyed Value) :=
  Keyed.collect (r.columns.zip r.values)

/-- The value at a position; a negative position counts from the end. -/
def position (r : Row) (i : Int) : Except Fault Value :=
  match pick? r.values i with
  | none => .error .indexOutOfRange
  | some v => .ok v

/-- The value at the position that a value stands for. -/
def positionAt (r : Row) (index : Value) : Except Fault Value :=
  match index.asIndex with
  | .error f => .error f
  | .ok i => r.position i

/-- The printed form of a row, if its values have one. -/
def print (r : Row) : Except Fault Text :=
  match r.toColumns with
  | .error f => .error f
  | .ok m =>
      match (Value.mapping m).printed with
      | .error f => .error f
      | .ok t => .ok ("ResultRow(" ++ t ++ ")")

/-- Whether two rows have the same columns and the same values. -/
def equals (r s : Row) : Except Fault Bool :=
  match (Value.tuple r.columns).equals (.tuple s.columns) with
  | .ok true => (Value.tuple r.values).equals (.tuple s.values)
  | result => result

/-- Whether a row describes the same mapping as a value does. -/
def sameMapping (r : Row) (v : Value) : Except Fault Bool :=
  match v with
  | .mapping _ =>
      match r.mapping with
      | .error f => .error f
      | .ok m => (Value.mapping m).equals v
  | _ => .ok false

end Row
end Table
end Datalink
