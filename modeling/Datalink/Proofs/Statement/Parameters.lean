import Mathlib.Data.List.Forall2
import Datalink.Proofs.Statement.NamedQuery

/-!
# The parameters of a query's words

Two queries agree if they differ in nothing but their values, and if the values of their
conditions still have the same forms.

Results: the words of queries that agree are the same.  The parameters are the values of
the assignments, then those of the conditions, then the limit and the offset, each in the
order in which the query holds them.
-/

namespace Datalink

/-- What a condition makes of a value: it compares with nothing, it chooses from so many
values, or it compares with a single value. -/
inductive ValueForm where
  | nothing
  | choice (values : Nat)
  | single
deriving DecidableEq, Inhabited

/-- The form of a value in a condition. -/
def Value.form : Value → ValueForm
  | null => .nothing
  | list values => .choice values.length
  | tuple values => .choice values.length
  | _ => .single

namespace NamedQuery

/-- Entries of one column, with values of one form. -/
def EntriesAgree (a b : Text × Value) : Prop := a.1 = b.1 ∧ a.2.form = b.2.form

/-- Queries of one kind that differ in values only.  The values of conditions have the
same forms.  Both or neither of the queries have an offset, and both or neither have a
limit, for which an offset counts as well. -/
inductive Agree : NamedQuery → NamedQuery → Prop where
  | select {columns order : List Text} {table : Text}
      {conditions conditions' : List (Text × Value)} {limit limit' offset offset' : Option Value}
      (hconditions : List.Forall₂ EntriesAgree conditions conditions')
      (hlimit : (limit.isSome || offset.isSome) = (limit'.isSome || offset'.isSome))
      (hoffset : offset.isSome = offset'.isSome) :
      Agree (.select columns table conditions order limit offset)
        (.select columns table conditions' order limit' offset')
  | insert {table : Text} {assignments assignments' : List (Text × Value)}
      (hcolumns : assignments.map Prod.fst = assignments'.map Prod.fst) :
      Agree (.insert table assignments) (.insert table assignments')
  | update {table : Text}
      {assignments assignments' conditions conditions' : List (Text × Value)}
      (hcolumns : assignments.map Prod.fst = assignments'.map Prod.fst)
      (hconditions : List.Forall₂ EntriesAgree conditions conditions') :
      Agree (.update table assignments conditions) (.update table assignments' conditions')
  | delete {table : Text} {conditions conditions' : List (Text × Value)}
      (hconditions : List.Forall₂ EntriesAgree conditions conditions') :
      Agree (.delete table conditions) (.delete table conditions')

/-- The values that a condition compares with. -/
def operands : Value → List Value
  | .null => []
  | .list values => values
  | .tuple values => values
  | value => [value]

/-- The values of limits.  An offset alone gets a limit of minus one. -/
def limitValues (limit offset : Option Value) : List Value :=
  match limit, offset with
  | none, none => []
  | some l, none => [l]
  | none, some o => [.int (-1), o]
  | some l, some o => [l, o]

/-- The values of a query in the order of its clauses. -/
def values : NamedQuery → List Value
  | select _ _ conditions _ limit offset =>
      conditions.flatMap (fun e => operands e.2) ++ limitValues limit offset
  | insert _ assignments => assignments.map Prod.snd
  | update _ assignments conditions =>
      assignments.map Prod.snd ++ conditions.flatMap fun e => operands e.2
  | delete _ conditions => conditions.flatMap fun e => operands e.2

/-- Pieces that are joined keep their parameters in order. -/
theorem params_join
    {ι : Type} (sep : Text) (render : ι → Fragment) (items : List ι) :
    (Fragment.join sep (items.map render)).params =
      items.flatMap fun i => (render i).params := by
  simp [Fragment.join, List.flatMap_map]

theorem params_names
    (names : List Text) :
    (Fragment.join ", " (names.map .name)).params = [] := by
  rw [params_join]
  exact List.flatMap_eq_nil_iff.mpr fun _ _ => rfl

theorem params_values
    (values : List Value) :
    (Fragment.join ", " (values.map .parameter)).params = values := by
  rw [params_join]
  exact List.flatMap_singleton' values

theorem params_condition
    (column : Text) (value : Value) :
    (Condition.ofNamed column value).render.params = operands value := by
  have hamong : ∀ values : List Value,
      (Condition.among column values).render.params = values := by
    intro values
    simp only [Condition.render, Fragment.params_append, params_values]
    simp [Fragment.name]
  cases value with
  | list values =>
      cases values with
      | nil =>
          rfl
      | cons v values =>
          exact hamong (v :: values)
  | tuple values =>
      cases values with
      | nil =>
          rfl
      | cons v values =>
          exact hamong (v :: values)
  | _ =>
      rfl

theorem params_whereClause
    (entries : List (Text × Value)) :
    (Statement.whereClause (conditionsOf entries)).params =
      entries.flatMap fun e => operands e.2 := by
  cases entries with
  | nil =>
      rfl
  | cons e entries =>
      have hjoin := params_join " AND "
        (fun e : Text × Value => (Condition.ofNamed e.1 e.2).render) (e :: entries)
      simp only [params_condition] at hjoin
      rw [whereClause_cons, Fragment.params_append, hjoin, Fragment.params_plain,
        List.nil_append]

theorem params_assignments
    (assignments : List (Text × Value)) :
    (Fragment.join ", "
      (assignments.map fun e => (⟨e.1, e.2⟩ : Assignment).render)).params =
        assignments.map Prod.snd := by
  rw [params_join]
  exact List.map_eq_flatMap.symm

theorem params_orderClause
    (order : List SortKey) :
    (Statement.orderClause order).params = [] := by
  have hkey : ∀ k : SortKey, k.render.params = [] := by
    intro k
    cases h : k.descending <;> simp [SortKey.render, Fragment.name, h]
  cases order with
  | nil =>
      rfl
  | cons k order =>
      have hjoin := params_join ", " SortKey.render (k :: order)
      simp only [hkey, List.flatMap_eq_nil_iff.mpr fun _ _ => rfl] at hjoin
      exact hjoin

theorem params_columnList
    (columns : List Text) :
    (Statement.columnList columns).params = [] := by
  cases columns with
  | nil =>
      rfl
  | cons column columns =>
      exact params_names (column :: columns)

theorem params_limitClause
    (limit offset : Option Value) :
    (Statement.limitClause limit offset).params = limitValues limit offset := by
  cases limit <;> cases offset <;> rfl

/-- The parameters of a query's words are its values. -/
theorem params_statement
    (n : NamedQuery) :
    n.statement.render.params = n.values := by
  cases n with
  | select columns table conditions order limit offset =>
      simp only [statement, Statement.render, Fragment.params_append, params_columnList,
        params_whereClause, params_orderClause, params_limitClause]
      simp [Fragment.name, values]
  | insert table assignments =>
      simp only [render_insert, Fragment.params_append, params_names, params_values]
      simp [Fragment.name, values]
  | update table assignments conditions =>
      simp only [render_update, Fragment.params_append, params_whereClause,
        params_assignments]
      simp [Fragment.name, values]
  | delete table conditions =>
      simp only [statement, Statement.render, Fragment.params_append, params_whereClause]
      simp [Fragment.name, values]

/-- The words of a condition, which its column and the form of its value make. -/
def conditionWords (column : Text) : ValueForm → Text
  | .nothing => Identifier.quote column ++ " IS NULL"
  | .choice 0 => "1 = 0"
  | .choice (values + 1) =>
      Identifier.quote column ++ " IN (" ++
        Text.join ", " (List.replicate (values + 1) "?") ++ ")"
  | .single => Identifier.quote column ++ " = ?"

theorem sql_condition
    (column : Text) (value : Value) :
    (Condition.ofNamed column value).render.sql = conditionWords column value.form := by
  have hamong : ∀ v values,
      (Condition.among column (v :: values)).render.sql =
        conditionWords column (.choice (v :: values).length) := by
    intro v values
    simp [Condition.render, Fragment.name, Fragment.join, Fragment.parameter,
      conditionWords, Function.comp_def, List.map_const', List.replicate_succ]
  have hequal : (Condition.equal column value).render.sql = conditionWords column .single := by
    simp [Condition.render, Fragment.name, Fragment.parameter, conditionWords,
      Text.ofString]
  cases value with
  | null =>
      rfl
  | list values =>
      cases values with
      | nil =>
          rfl
      | cons v values =>
          exact hamong v values
  | tuple values =>
      cases values with
      | nil =>
          rfl
      | cons v values =>
          exact hamong v values
  | _ =>
      exact hequal

theorem sql_conditions_of_agree
    {entries entries' : List (Text × Value)} (h : List.Forall₂ EntriesAgree entries entries') :
    entries.map (fun e => (Condition.ofNamed e.1 e.2).render.sql) =
      entries'.map fun e => (Condition.ofNamed e.1 e.2).render.sql := by
  induction h with
  | nil =>
      rfl
  | cons hentry _ ih =>
      obtain ⟨hcolumn, hform⟩ := hentry
      rw [List.map_cons, List.map_cons, ih, sql_condition, sql_condition, hcolumn, hform]

theorem sql_whereClause_of_agree
    {entries entries' : List (Text × Value)} (h : List.Forall₂ EntriesAgree entries entries') :
    (Statement.whereClause (conditionsOf entries)).sql =
      (Statement.whereClause (conditionsOf entries')).sql := by
  have hwords := sql_conditions_of_agree h
  cases h with
  | nil =>
      rfl
  | cons hentry hentries =>
      rw [whereClause_cons, whereClause_cons]
      simp only [Fragment.sql_append, Fragment.join, List.map_map, Function.comp_def, hwords]

/-- The words of assignments are made of their columns. -/
theorem sql_assignments
    (assignments : List (Text × Value)) :
    (Fragment.join ", "
      (assignments.map fun e => (⟨e.1, e.2⟩ : Assignment).render)).sql =
        Text.join ", "
          ((assignments.map Prod.fst).map fun column => Identifier.quote column ++ " = ?") := by
  simp [Fragment.join, Function.comp_def, Assignment.render, Fragment.name,
    Fragment.parameter, Text.ofString]

theorem sql_values
    (values : List Value) :
    (Fragment.join ", " (values.map .parameter)).sql =
      Text.join ", " (List.replicate values.length "?") := by
  simp [Fragment.join, Fragment.parameter, Function.comp_def, List.map_const']

/-- The words of limits, which the presence of the limits makes. -/
def limitWords (limit offset : Bool) : Text :=
  if offset then " LIMIT ? OFFSET ?" else if limit then " LIMIT ?" else []

theorem sql_limitClause
    (limit offset : Option Value) :
    (Statement.limitClause limit offset).sql =
      limitWords (limit.isSome || offset.isSome) offset.isSome := by
  cases limit <;> cases offset <;> rfl

/-- Queries that agree have one text. -/
theorem sql_of_agree
    {m n : NamedQuery} (h : Agree m n) :
    m.statement.render.sql = n.statement.render.sql := by
  cases h with
  | select hconditions hlimit hoffset =>
      have hwhere := sql_whereClause_of_agree hconditions
      simp only [statement, Statement.render, Fragment.sql_append, hwhere, sql_limitClause]
      rw [hlimit, hoffset]
  | @insert table assignments assignments' hcolumns =>
      have hlength : (assignments.map Prod.snd).length = (assignments'.map Prod.snd).length := by
        have h := congrArg List.length hcolumns
        rw [List.length_map, List.length_map] at h ⊢
        exact h
      simp only [render_insert, Fragment.sql_append, sql_values, hcolumns, hlength]
  | update hcolumns hconditions =>
      have hwhere := sql_whereClause_of_agree hconditions
      simp only [render_update, Fragment.sql_append, sql_assignments, hcolumns, hwhere]
  | delete hconditions =>
      have hwhere := sql_whereClause_of_agree hconditions
      simp only [statement, Statement.render, Fragment.sql_append, hwhere]

/-- Values never make words: the words of queries that agree are the same.  The
parameters of each query are its values in the order of its clauses. -/
theorem render_of_agree
    {m n : NamedQuery} (h : Agree m n) :
    ∃ f g, m.subject.render = .ok f ∧ n.subject.render = .ok g ∧
      f.sql = g.sql ∧ f.params = m.values ∧ g.params = n.values :=
  ⟨_, _, render_subject m, render_subject n, sql_of_agree h, params_statement m,
    params_statement n⟩

/-- A choice of two values and a value of its own, sorted and behind an offset. -/
theorem render_choice_and_limit :
    ∃ f g,
      (select ["id"] "main.t" [("a", .list [.int 1, .null]), ("b", .null)] ["-c"] none
        (some (.int 3))).subject.render = .ok f ∧
      (select ["id"] "main.t" [("a", .tuple [.text "x", .int 2]), ("b", .null)] ["-c"]
        (some (.int 7)) (some (.int 0))).subject.render = .ok g ∧
      f.sql = g.sql ∧
      f.params = [.int 1, .null, .int (-1), .int 3] ∧
      g.params = [.text "x", .int 2, .int 7, .int 0] :=
  render_of_agree (.select (.cons ⟨rfl, rfl⟩ (.cons ⟨rfl, rfl⟩ .nil)) rfl rfl)

end NamedQuery

end Datalink
