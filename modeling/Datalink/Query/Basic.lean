import Datalink.Value.Access

/-!
# Structured queries

A query names a table and says what to do with it: read rows, add one, change rows
or remove rows.  Conditions and assignments are mappings from columns to values;
conditions are joined by "and".

Names are kept as callers hand them over.  A query needs a table that counts as true
and, if it assigns values, one value at least; whether a name is a text shows only
when the query is put into words.

A query also has a name of its own kind.  It is the name of its clauses unless the
caller derived a kind of queries from them.
-/

namespace Datalink

/-- What a query does with its table. -/
inductive Clauses where
  | select (columns : List Value) (conditions : Keyed Value) (order : List Value)
      (limit offset : Option Value)
  | insert (assignments : Keyed Value)
  | update (assignments conditions : Keyed Value)
  | delete (conditions : Keyed Value)
  /-- No clauses at all. -/
  | bare
deriving Inhabited

namespace Clauses

/-- The name of the clauses. -/
def name : Clauses → Text
  | select .. => "Select"
  | insert _ => "Insert"
  | update .. => "Update"
  | delete _ => "Delete"
  | bare => "Query"

/-- The assignments, of clauses that have them. -/
def assignments? : Clauses → Option (Keyed Value)
  | insert assignments => some assignments
  | update assignments _ => some assignments
  | _ => none

/-- The conditions, of clauses that have them. -/
def conditions? : Clauses → Option (Keyed Value)
  | select _ conditions .. => some conditions
  | update _ conditions => some conditions
  | delete conditions => some conditions
  | _ => none

/-- A list of names; what does not count as true names nothing. -/
def names (v : Value) : Except Fault (List Value) :=
  if v.truthy then v.asItems else .ok []

/-- The clauses of a query that reads rows. -/
def reading (columns : Value) (conditions : Keyed Value) (order : Value)
    (limit offset : Option Value) : Except Fault Clauses :=
  match names columns with
  | .error f => .error f
  | .ok columns =>
      match names order with
      | .error f => .error f
      | .ok order => .ok (select columns conditions order limit offset)

/-- Clauses of a kind, which must not assign nothing. -/
def assigning (clauses : Clauses) : Except Fault Clauses :=
  match clauses.assignments? with
  | some [] => .error (.assignmentsMissing clauses.name)
  | _ => .ok clauses

end Clauses

/-- A structured query.  It is derived if its kind is the caller's own. -/
structure Query where
  name : Text
  derived : Bool
  table : Value
  clauses : Clauses
deriving Inhabited

namespace Query

/-- Whether a derived kind can have a name. -/
def checkName (name : Text) : Except Fault Unit :=
  match name.firstRun? with
  | some run => .error (.unencodable run)
  | none => if name.contains (.scalar '\x00') then .error .nullInName else .ok ()

/-- A query on a table.  The table is looked at first. -/
def onTable (rename : Option Text) (table : Value) (clauses : Except Fault Clauses) :
    Except Fault Query :=
  if table.truthy then
    match clauses with
    | .error f => .error f
    | .ok clauses =>
        .ok ⟨rename.getD clauses.name, rename.isSome, table, clauses⟩
  else
    .error .tableMissing

/-- A query on a table, of its clauses' own kind or of a kind derived under another
name. -/
def make (rename : Option Text) (table : Value) (clauses : Except Fault Clauses) :
    Except Fault Query :=
  match rename.elim (.ok ()) checkName with
  | .error f => .error f
  | .ok () => onTable rename table clauses

/-- Whether a query adds a row. -/
def isInsert (q : Query) : Bool :=
  match q.clauses with
  | .insert _ => true
  | _ => false

end Query

/-- What a caller hands over as a query: a query, or some other value. -/
inductive Subject where
  | query (q : Query)
  | value (v : Value)
deriving Inhabited

/-- Whether what was handed over is a query that adds a row. -/
def Subject.isInsert : Subject → Bool
  | query q => q.isInsert
  | value _ => false

end Datalink
