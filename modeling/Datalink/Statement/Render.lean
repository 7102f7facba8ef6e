import Datalink.Statement.Basic

/-!
# Statements in words

In words a statement is text with question marks, and one parameter for every
question mark.  Names go into the text as quoted identifiers; values never do.
-/

namespace Datalink

/-- A piece of a statement with the parameters of its question marks. -/
structure Fragment where
  sql : Text
  params : List Value
deriving Inhabited

namespace Fragment

/-- Text without parameters. -/
def plain (sql : Text) : Fragment := ⟨sql, []⟩

/-- A question mark for a value. -/
def parameter (v : Value) : Fragment := ⟨"?", [v]⟩

/-- A quoted name. -/
def name (t : Text) : Fragment := plain (Identifier.quote t)

/-- One piece after the other. -/
def append (a b : Fragment) : Fragment := ⟨a.sql ++ b.sql, a.params ++ b.params⟩

instance : Append Fragment := ⟨append⟩

instance : Coe String Fragment := ⟨fun s => plain s⟩

/-- Pieces with a separator between neighbours. -/
def join (sep : Text) (pieces : List Fragment) : Fragment :=
  ⟨Text.join sep (pieces.map sql), pieces.flatMap params⟩

@[simp] theorem sql_append
    (a b : Fragment) :
    (a ++ b).sql = a.sql ++ b.sql := by
  rfl

@[simp] theorem params_append
    (a b : Fragment) :
    (a ++ b).params = a.params ++ b.params := by
  rfl

@[simp] theorem sql_plain
    (t : Text) :
    (plain t).sql = t := by
  rfl

@[simp] theorem params_plain
    (t : Text) :
    (plain t).params = [] := by
  rfl

theorem append_assoc
    (a b c : Fragment) :
    a ++ b ++ c = a ++ (b ++ c) := by
  change (⟨_, _⟩ : Fragment) = ⟨_, _⟩
  simp

theorem nothing_append
    (a : Fragment) :
    plain [] ++ a = a := by
  rfl

theorem join_nil
    (sep : Text) :
    join sep [] = plain [] := by
  rfl

theorem join_singleton
    (sep : Text) (a : Fragment) :
    join sep [a] = a := by
  change (⟨_, _⟩ : Fragment) = _
  simp [Text.join]

/-- Joined pieces are the first piece, and behind a separator the others. -/
theorem join_cons_cons
    (sep : Text) (a b : Fragment) (pieces : List Fragment) :
    join sep (a :: b :: pieces) = a ++ (plain sep ++ join sep (b :: pieces)) := by
  change (⟨_, _⟩ : Fragment) = ⟨_, _⟩
  simp [Text.join, join]

/-- Whether a piece holds no words at all or opens with a space. -/
def Spaced (f : Fragment) : Prop := f.sql = [] ∨ ∃ rest, f.sql = .scalar ' ' :: rest

end Fragment

open Fragment (plain parameter)

/-- A condition in words.  Nothing is compared by `IS NULL`, and a choice of values by
`IN`. -/
def Condition.render : Condition → Fragment
  | absent column => .name column ++ " IS NULL"
  | among column values =>
      .name column ++ " IN (" ++ .join ", " (values.map parameter) ++ ")"
  | equal column value => .name column ++ " = " ++ parameter value
  | never => plain "1 = 0"

/-- An assignment in words. -/
def Assignment.render (a : Assignment) : Fragment :=
  .name a.column ++ " = " ++ parameter a.value

/-- A column to sort by in words. -/
def SortKey.render (k : SortKey) : Fragment :=
  .name k.column ++ if k.descending then " DESC" else " ASC"

namespace Statement

/-- The conditions of a statement. -/
def whereClause (conditions : List Condition) : Fragment :=
  if conditions.isEmpty then
    plain []
  else
    " WHERE " ++ Fragment.join " AND " (conditions.map Condition.render)

/-- The order of a statement. -/
def orderClause (order : List SortKey) : Fragment :=
  if order.isEmpty then
    plain []
  else
    " ORDER BY " ++ Fragment.join ", " (order.map SortKey.render)

/-- The limits of a statement.  An offset needs a limit, and minus one means that
there is none. -/
def limitClause (limit offset : Option Value) : Fragment :=
  match limit, offset with
  | none, none => plain []
  | some l, none => " LIMIT " ++ parameter l
  | none, some o => " LIMIT " ++ parameter (.int (-1)) ++ " OFFSET " ++ parameter o
  | some l, some o => " LIMIT " ++ parameter l ++ " OFFSET " ++ parameter o

/-- The columns to read; all columns if none is named. -/
def columnList (columns : List Text) : Fragment :=
  if columns.isEmpty then plain "*" else .join ", " (columns.map .name)

/-- A statement in words. -/
def render : Statement → Fragment
  | select columns table conditions order limit offset =>
      "SELECT " ++ columnList columns ++ " FROM " ++ .name table ++
        whereClause conditions ++ orderClause order ++ limitClause limit offset
  | insert table assignments =>
      "INSERT INTO " ++ .name table ++ " (" ++
        .join ", " (assignments.map fun a => .name a.column) ++ ") VALUES (" ++
        .join ", " (assignments.map fun a => parameter a.value) ++ ")"
  | update table assignments conditions =>
      "UPDATE " ++ .name table ++ " SET " ++
        .join ", " (assignments.map Assignment.render) ++ whereClause conditions
  | delete table conditions =>
      "DELETE FROM " ++ .name table ++ whereClause conditions

theorem spaced_whereClause
    (conditions : List Condition) :
    (whereClause conditions).Spaced := by
  cases conditions with
  | nil =>
      exact .inl rfl
  | cons c conditions =>
      exact .inr ⟨_, rfl⟩

theorem spaced_orderClause
    (order : List SortKey) :
    (orderClause order).Spaced := by
  cases order with
  | nil =>
      exact .inl rfl
  | cons k order =>
      exact .inr ⟨_, rfl⟩

theorem spaced_limitClause
    (limit offset : Option Value) :
    (limitClause limit offset).Spaced := by
  cases limit <;> cases offset <;>
    first
    | exact .inl rfl
    | exact .inr ⟨_, rfl⟩

end Statement

/-- The statement in words of whatever was handed over as a query. -/
def Subject.render (s : Subject) : Except Fault Fragment :=
  match Statement.ofSubject s with
  | .error f => .error f
  | .ok statement => .ok statement.render

end Datalink
