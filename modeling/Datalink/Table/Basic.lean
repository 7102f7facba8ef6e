import Datalink.Table.Row

/-!
# Tables of results

A table has column names and rows of values, all in the order in which the engine
reported them.  `ofRows` builds a table whose rows are as wide as its columns; a
table may also be built and extended by hand, and then its rows are taken as they
are.

Results: `rowAt` at an integer is `row`, and `find` at an integer is `get?`.
-/

namespace Datalink

/-- The result of a query. -/
structure Table where
  columns : List Value
  rows : List (List Value)
deriving Inhabited

namespace Table

/-- A row of values, which must be as many as there are columns. -/
def admitRow {κ : Type} (columns : List κ) (values : List Value) :
    Except Fault (List Value) :=
  if values.length = columns.length then
    .ok values
  else
    .error (.rowWidth values.length columns.length)

/-- Rows of values, each as wide as the columns.  The first row of another width is
refused. -/
def admitRows {κ : Type} (columns : List κ) :
    List (List Value) → Except Fault (List (List Value))
  | [] => .ok []
  | row :: rows =>
      match admitRow columns row with
      | .error f => .error f
      | .ok row =>
          match admitRows columns rows with
          | .error f => .error f
          | .ok rows => .ok (row :: rows)

/-- The table of columns and rows that fit them. -/
def ofRows (columns : List Value) (rows : List (List Value)) : Except Fault Table :=
  match admitRows columns rows with
  | .error f => .error f
  | .ok rows => .ok ⟨columns, rows⟩

/-- The table of columns that a value yields, with rows taken as they are. -/
def make (columns : Value) (rows : List (List Value)) : Except Fault Table :=
  match columns.asItems with
  | .error f => .error f
  | .ok columns => .ok ⟨columns, rows⟩

/-- The row that a value yields, which must be as wide as the columns. -/
def admitValue {κ : Type} (columns : List κ) (values : Value) :
    Except Fault (List Value) :=
  match values.asItems with
  | .error f => .error f
  | .ok values => admitRow columns values

/-- The names in a description of columns, which has the attributes of each column,
its name first.  Without a description there are no names. -/
def headings {α : Type} : Option (List (List α)) → Except Fault (List α)
  | none => .ok []
  | some [] => .ok []
  | some ([] :: _) => .error .indexOutOfRange
  | some ((name :: _) :: rest) =>
      match headings (some rest) with
      | .error f => .error f
      | .ok names => .ok (name :: names)

/-- A row put behind the others. -/
def append (t : Table) (values : List Value) : Table :=
  { t with rows := t.rows ++ [values] }

/-- The number of rows. -/
def size (t : Table) : Nat := t.rows.length

/-- Whether there are no rows. -/
def isEmpty (t : Table) : Bool := t.rows.isEmpty

/-- The rows in order. -/
def toList (t : Table) : List Row := t.rows.map (Row.mk t.columns)

@[simp] theorem length_toList
    (t : Table) :
    t.toList.length = t.size := by
  simp [toList, size]

@[simp] theorem isEmpty_eq_true_iff
    (t : Table) :
    t.isEmpty = true ↔ t.size = 0 := by
  simp [isEmpty, size]

/-- The row at an index; a negative index counts from the end. -/
def row (t : Table) (i : Int) : Except Fault Row :=
  match pick? t.rows i with
  | none => .error .indexOutOfRange
  | some values => .ok ⟨t.columns, values⟩

/-- The row at an index, if there is one. -/
def get? (t : Table) (i : Int) : Option Row :=
  if -(t.rows.length : Int) ≤ i ∧ i < t.rows.length then
    (pick? t.rows i).map (Row.mk t.columns)
  else
    none

/-- The first row, if there is one. -/
def first? (t : Table) : Option Row := t.get? 0

/-- The row at the index that a value stands for. -/
def rowAt (t : Table) (index : Value) : Except Fault Row :=
  match index.asIndex with
  | .error f => .error f
  | .ok i => t.row i

/-- The row at the index that a value stands for, if that number lies within the table.
Numbers of all kinds are held against the size of the table. -/
def find (t : Table) (index : Value) : Except Fault (Option Row) :=
  match (Value.int (-(t.rows.length : Int))).compare .atMost index with
  | .error f => .error f
  | .ok false => .ok none
  | .ok true =>
      match index.compare .less (.int t.rows.length) with
      | .error f => .error f
      | .ok false => .ok none
      | .ok true => (t.rowAt index).map some

@[simp] theorem rowAt_int
    (t : Table) (i : Int) :
    t.rowAt (.int i) = t.row i := by
  rfl

theorem pick?_ne_none
    {α : Type} (items : List α) (i : Int)
    (hlow : -(items.length : Int) ≤ i) (hhigh : i < items.length) :
    pick? items i ≠ none := by
  unfold pick?
  split
  · simp
    omega
  · simp
    omega

/-- At an integer the two ways to ask for a row that may be missing agree. -/
@[simp] theorem find_int
    (t : Table) (i : Int) :
    t.find (.int i) = .ok (t.get? i) := by
  by_cases hlow : -(t.rows.length : Int) ≤ i
  · by_cases hhigh : i < t.rows.length
    · cases hpick : pick? t.rows i with
      | none =>
          exact absurd hpick (pick?_ne_none t.rows i hlow hhigh)
      | some values =>
          simp [find, get?, hlow, hhigh, row, hpick, Except.map]
    · simp [find, get?, hlow, hhigh]
  · simp [find, get?, hlow]

/-- The mappings of rows, one after the other. -/
def mappings : List Row → Except Fault (List (Keyed Value))
  | [] => .ok []
  | r :: rs =>
      match r.toColumns with
      | .error f => .error f
      | .ok m =>
          match mappings rs with
          | .error f => .error f
          | .ok ms => .ok (m :: ms)

/-- Every row as a mapping. -/
def toColumns (t : Table) : Except Fault (List (Keyed Value)) := mappings t.toList

/-- A table in text. -/
def print (t : Table) : Except Fault Text :=
  match (Value.list t.columns).printed with
  | .error f => .error f
  | .ok columns =>
      .ok ("ResultSet(columns=" ++ columns ++ ", rows=" ++ Numeral.natural t.size ++ ")")

/-- Whether two tables have the same columns and the same rows. -/
def equals (t u : Table) : Except Fault Bool :=
  match (Value.tuple t.columns).equals (.tuple u.columns) with
  | .ok true => (Value.list (t.rows.map .tuple)).equals (.list (u.rows.map .tuple))
  | result => result

end Table
end Datalink
