import Datalink.Identifier
import Datalink.Query.Basic

/-!
# Statements

A statement is what a query asks of the engine: its form, with texts for all names.
The name of the query's kind, in lower case, decides the form, and the form says
which clauses of the query are needed.

Names are looked at in the order in which the statement is put into words, so that of
two names that are no texts the one that would be written first is refused.

Results: the names of a query that are texts are the names of its statement.
-/

namespace Datalink

/-- A condition on a column. -/
inductive Condition where
  /-- There is nothing in the column. -/
  | absent (column : Text)
  /-- One of some values is in the column. -/
  | among (column : Text) (values : List Value)
  /-- A value is in the column. -/
  | equal (column : Text) (value : Value)
  /-- No row will do. -/
  | never
deriving Inhabited

/-- An assignment of a value to a column. -/
structure Assignment where
  column : Text
  value : Value
deriving Inhabited

/-- A column to sort by. -/
structure SortKey where
  column : Text
  descending : Bool
deriving DecidableEq, Inhabited

/-- What a query asks of the engine. -/
inductive Statement where
  | select (columns : List Text) (table : Text) (conditions : List Condition)
      (order : List SortKey) (limit offset : Option Value)
  | insert (table : Text) (assignments : List Assignment)
  | update (table : Text) (assignments : List Assignment) (conditions : List Condition)
  | delete (table : Text) (conditions : List Condition)
deriving Inhabited

namespace Condition

/-- The condition that a column, not looked at yet, has one of some values; no row will
do if there are none. -/
def ofValues (column : Value) (values : List Value) : Except Fault Condition :=
  match values with
  | [] => .ok never
  | values =>
      match Identifier.ofValue column with
      | .error f => .error f
      | .ok column => .ok (among column values)

/-- The condition of an entry: nothing asks for nothing, a list or a tuple asks for
one of its values, and any other value asks for itself. -/
def ofEntry (column value : Value) : Except Fault Condition :=
  match value with
  | .list values => ofValues column values
  | .tuple values => ofValues column values
  | value =>
      match Identifier.ofValue column with
      | .error f => .error f
      | .ok column =>
          match value with
          | .null => .ok (absent column)
          | value => .ok (equal column value)

/-- The conditions of a mapping. -/
def ofKeyed : Keyed Value → Except Fault (List Condition)
  | [] => .ok []
  | (column, value) :: rest =>
      match ofEntry column value with
      | .error f => .error f
      | .ok condition =>
          match ofKeyed rest with
          | .error f => .error f
          | .ok conditions => .ok (condition :: conditions)

end Condition

namespace Assignment

/-- The assignments of a mapping. -/
def ofKeyed : Keyed Value → Except Fault (List Assignment)
  | [] => .ok []
  | (column, value) :: rest =>
      match Identifier.ofValue column with
      | .error f => .error f
      | .ok column =>
          match ofKeyed rest with
          | .error f => .error f
          | .ok assignments => .ok (⟨column, value⟩ :: assignments)

@[simp] theorem ofKeyed_text
    (entries : List (Text × Value)) :
    ofKeyed (entries.map fun e => (.text e.1, e.2)) =
      .ok (entries.map fun e => ⟨e.1, e.2⟩) := by
  induction entries with
  | nil =>
      rfl
  | cons e rest ih =>
      simp [ofKeyed, ih]

end Assignment

/-- The column to sort by that a name asks for; a minus sign in front of the name means
descending. -/
def SortKey.ofName (name : Text) : SortKey :=
  match name with
  | .scalar '-' :: rest => ⟨rest, true⟩
  | _ => ⟨name, false⟩

namespace Statement

/-- The forms that the name of a kind can ask for.  Conditions alone are a form that no
query has. -/
inductive Form where
  | select
  | insert
  | update
  | delete
  | conditions
deriving DecidableEq, Inhabited

/-- The form that a name asks for. -/
def Form.ofName? (name : Text) : Option Form :=
  let lower := name.toLower
  if lower = ("select" : Text) then some .select
  else if lower = ("insert" : Text) then some .insert
  else if lower = ("update" : Text) then some .update
  else if lower = ("delete" : Text) then some .delete
  else if lower = ("conditions" : Text) then some .conditions
  else none

/-- The statement that reads rows. -/
def ofSelect (columns : List Value) (table : Value) (conditions : Keyed Value)
    (order : List Value) (limit offset : Option Value) : Except Fault Statement := do
  let columns ← Identifier.ofValues columns
  let table ← Identifier.ofValue table
  let conditions ← Condition.ofKeyed conditions
  let order ← Identifier.ofValues order
  return select columns table conditions (order.map SortKey.ofName) limit offset

/-- The statement that adds a row. -/
def ofInsert (table : Value) (assignments : Keyed Value) : Except Fault Statement := do
  let assignments ← Assignment.ofKeyed assignments
  let table ← Identifier.ofValue table
  return insert table assignments

/-- The conditions of a query, which may lack them. -/
def conditionsOf (q : Query) : Except Fault (List Condition) :=
  match q.clauses.conditions? with
  | none => .error (.memberMissing q.name "where")
  | some conditions => Condition.ofKeyed conditions

/-- The statement that changes rows. -/
def ofUpdate (q : Query) (assignments : Keyed Value) : Except Fault Statement := do
  let assignments ← Assignment.ofKeyed assignments
  let table ← Identifier.ofValue q.table
  let conditions ← conditionsOf q
  return update table assignments conditions

/-- The statement that removes rows. -/
def ofDelete (q : Query) : Except Fault Statement := do
  let table ← Identifier.ofValue q.table
  let conditions ← conditionsOf q
  return delete table conditions

/-- The statement of a form, from the clauses that the form needs. -/
def ofForm (form : Form) (q : Query) : Except Fault Statement :=
  match form with
  | .select =>
      match q.clauses with
      | .select columns conditions order limit offset =>
          ofSelect columns q.table conditions order limit offset
      | _ => .error (.memberMissing q.name "columns")
  | .insert =>
      match q.clauses.assignments? with
      | some assignments => ofInsert q.table assignments
      | none => .error (.memberMissing q.name "values")
  | .update =>
      match q.clauses.assignments? with
      | some assignments => ofUpdate q assignments
      | none => .error (.memberMissing q.name "values")
  | .delete => ofDelete q
  | .conditions => .error (.memberMissing q.name "items")

/-- The statement of a query. -/
def ofQuery (q : Query) : Except Fault Statement :=
  match Form.ofName? q.name with
  | none => .error (.unrenderable q.name)
  | some form => ofForm form q

/-- The statement of whatever was handed over as a query. -/
def ofSubject : Subject → Except Fault Statement
  | .query q => ofQuery q
  | .value v => .error (.unrenderable v.typeName)

end Statement
end Datalink
