import Datalink.Statement.Render

/-!
# Queries whose names are texts

A query that a caller writes down in good order is of one of four kinds, not of a kind
that was derived from them, and all its names are texts.  The values in it are
arbitrary.

Results: such a query always has a statement, and this statement is described clause by
clause.
-/

namespace Datalink

/-- A query of one of the four kinds, with texts for all names. -/
inductive NamedQuery where
  | select (columns : List Text) (table : Text) (conditions : List (Text × Value))
      (order : List Text) (limit offset : Option Value)
  | insert (table : Text) (assignments : List (Text × Value))
  | update (table : Text) (assignments conditions : List (Text × Value))
  | delete (table : Text) (conditions : List (Text × Value))
deriving Inhabited

/-- The condition that a value under a column stands for. -/
def Condition.ofNamed (column : Text) : Value → Condition
  | .null => absent column
  | .list [] => never
  | .list (v :: vs) => among column (v :: vs)
  | .tuple [] => never
  | .tuple (v :: vs) => among column (v :: vs)
  | value => equal column value

namespace NamedQuery

/-- The table of a query. -/
def table : NamedQuery → Text
  | select _ table .. => table
  | insert table _ => table
  | update table .. => table
  | delete table _ => table

/-- Entries under texts as a mapping. -/
def keyed (entries : List (Text × Value)) : Keyed Value :=
  entries.map fun e => (.text e.1, e.2)

/-- The clauses of a query. -/
def clauses : NamedQuery → Clauses
  | select columns _ conditions order limit offset =>
      .select (columns.map .text) (keyed conditions) (order.map .text) limit offset
  | insert _ assignments => .insert (keyed assignments)
  | update _ assignments conditions => .update (keyed assignments) (keyed conditions)
  | delete _ conditions => .delete (keyed conditions)

/-- The query itself, of its clauses' own kind. -/
def toQuery (n : NamedQuery) : Query := ⟨n.clauses.name, false, .text n.table, n.clauses⟩

/-- The query as callers hand it over. -/
def subject (n : NamedQuery) : Subject := .query n.toQuery

/-- The conditions that entries stand for. -/
def conditionsOf (entries : List (Text × Value)) : List Condition :=
  entries.map fun e => Condition.ofNamed e.1 e.2

/-- The assignments that entries stand for. -/
def assignmentsOf (entries : List (Text × Value)) : List Assignment :=
  entries.map fun e => ⟨e.1, e.2⟩

/-- The statement of a query. -/
def statement : NamedQuery → Statement
  | select columns table conditions order limit offset =>
      .select columns table (conditionsOf conditions) (order.map SortKey.ofName) limit
        offset
  | insert table assignments => .insert table (assignmentsOf assignments)
  | update table assignments conditions =>
      .update table (assignmentsOf assignments) (conditionsOf conditions)
  | delete table conditions => .delete table (conditionsOf conditions)

theorem ofEntry_text
    (column : Text) (value : Value) :
    Condition.ofEntry (.text column) value = .ok (Condition.ofNamed column value) := by
  cases value with
  | list values =>
      cases values <;> rfl
  | tuple values =>
      cases values <;> rfl
  | _ =>
      rfl

theorem ofKeyed_keyed
    (entries : List (Text × Value)) :
    Condition.ofKeyed (keyed entries) = .ok (conditionsOf entries) := by
  induction entries with
  | nil =>
      rfl
  | cons e rest ih =>
      unfold keyed at ih
      simp [keyed, conditionsOf, Condition.ofKeyed, ofEntry_text, ih]

theorem assignments_keyed
    (entries : List (Text × Value)) :
    Assignment.ofKeyed (keyed entries) = .ok (assignmentsOf entries) :=
  Assignment.ofKeyed_text entries

/-- A query whose names are texts has a statement. -/
theorem ofQuery_toQuery
    (n : NamedQuery) :
    Statement.ofQuery n.toQuery = .ok n.statement := by
  cases n with
  | select columns table conditions order limit offset =>
      change Statement.ofSelect (columns.map .text) (.text table) (keyed conditions)
        (order.map .text) limit offset = _
      simp [Statement.ofSelect, bind, Except.bind, pure, Except.pure, ofKeyed_keyed,
        statement]
  | insert table assignments =>
      change Statement.ofInsert (.text table) (keyed assignments) = _
      simp [Statement.ofInsert, bind, Except.bind, pure, Except.pure, assignments_keyed,
        statement]
  | update table assignments conditions =>
      change Statement.ofUpdate (update table assignments conditions).toQuery
        (keyed assignments) = _
      simp [Statement.ofUpdate, Statement.conditionsOf, Clauses.conditions?, toQuery,
        clauses, NamedQuery.table, bind, Except.bind, pure, Except.pure, assignments_keyed,
        ofKeyed_keyed, statement]
  | delete table conditions =>
      change Statement.ofDelete (delete table conditions).toQuery = _
      simp [Statement.ofDelete, Statement.conditionsOf, Clauses.conditions?, toQuery,
        clauses, NamedQuery.table, bind, Except.bind, pure, Except.pure, ofKeyed_keyed,
        statement]

/-- A query whose names are texts can be put into words. -/
theorem render_subject
    (n : NamedQuery) :
    n.subject.render = .ok n.statement.render := by
  simp [subject, Subject.render, Statement.ofSubject, ofQuery_toQuery]

theorem whereClause_cons
    (e : Text × Value) (entries : List (Text × Value)) :
    Statement.whereClause (conditionsOf (e :: entries)) =
      .plain " WHERE " ++ .join " AND "
        ((e :: entries).map fun e => (Condition.ofNamed e.1 e.2).render) := by
  simp [Statement.whereClause, conditionsOf, Function.comp_def]

theorem render_insert
    (table : Text) (assignments : List (Text × Value)) :
    (insert table assignments).statement.render =
      .plain "INSERT INTO " ++ .name table ++ .plain " (" ++
        .join ", " ((assignments.map Prod.fst).map .name) ++ .plain ") VALUES (" ++
        .join ", " ((assignments.map Prod.snd).map .parameter) ++ .plain ")" := by
  simp only [statement, Statement.render, assignmentsOf, List.map_map]
  rfl

theorem render_update
    (table : Text) (assignments conditions : List (Text × Value)) :
    (update table assignments conditions).statement.render =
      .plain "UPDATE " ++ .name table ++ .plain " SET " ++
        .join ", " (assignments.map fun e => (⟨e.1, e.2⟩ : Assignment).render) ++
        Statement.whereClause (conditionsOf conditions) := by
  simp only [statement, Statement.render, assignmentsOf, List.map_map]
  rfl

end NamedQuery
end Datalink
