import Datalink.Proofs.Identifier.Reading
import Datalink.Proofs.Statement.NamedQuery

/-!
# Reading statements back from their words

Input: words with question marks and a list of parameters.  A reader takes a piece off
the front of both, so that every question mark gets the parameter that belongs to it.
Of two readers the second one is tried when the first one finds nothing.

Results: every statement is read back from its words, apart from the limit that an
offset needs.  So words and parameters determine a query up to what words never tell:
the column of a condition without values, whether a choice of values was a list or a
tuple, and whether a limit of minus one was left out beside an offset.
-/

namespace Datalink

/-- No words and no parameters. -/
def Fragment.nothing : Fragment := .plain []

theorem Fragment.append_nothing
    (a : Fragment) :
    a ++ nothing = a := by
  change (⟨_, _⟩ : Fragment) = _
  simp [nothing, plain]

/-- What takes a piece off the front of words and parameters, if it finds one. -/
abbrev Reader := StateT Fragment Option

namespace Reader

variable {α β : Type}

/-- Words as given. -/
def word (w : Text) : Reader Unit := fun f =>
  (Text.dropOpening? w f.sql).map fun rest => ((), ⟨rest, f.params⟩)

/-- A quoted name. -/
def name : Reader Text := fun f =>
  (Identifier.read? f.sql).map fun r => (r.1, ⟨r.2, f.params⟩)

/-- A question mark with its parameter. -/
def value : Reader Value := fun f =>
  match Text.dropOpening? "?" f.sql, f.params with
  | some rest, v :: params => some (v, ⟨rest, params⟩)
  | _, _ => none

/-- Pieces with separators between neighbours, as many as there are. -/
def many (item : Reader α) (sep : Text) (f : Fragment) : Option (List α × Fragment) :=
  match item f with
  | none => some ([], f)
  | some (a, rest) =>
      match word sep rest with
      | none => some ([a], rest)
      | some (_, next) =>
          if next.sql.length < f.sql.length then
            (many item sep next).map fun r => (a :: r.1, r.2)
          else
            none
termination_by f.sql.length

/-- The pieces of a list. -/
def list (item : Reader α) (sep : Text) : Reader (List α) := many item sep

/-- One reader after another that finds something. -/
theorem bind_eq
    {r : Reader α} {k : α → Reader β} {f g : Fragment} {a : α} (h : r f = some (a, g)) :
    (r >>= k) f = k a g := by
  change StateT.bind r k f = _
  simp [StateT.bind, h]

theorem bind_eq_none
    {r : Reader α} (k : α → Reader β) {f : Fragment} (h : r f = none) :
    (r >>= k) f = none := by
  change StateT.bind r k f = _
  simp [StateT.bind, h]

theorem orElse_eq_left
    {r s : Reader α} {f : Fragment} {x : α × Fragment} (h : r f = some x) :
    (r <|> s) f = some x := by
  change (r f <|> s f) = some x
  rw [h]
  rfl

theorem orElse_eq_right
    {r s : Reader α} {f : Fragment} (h : r f = none) :
    (r <|> s) f = s f := by
  change (r f <|> s f) = s f
  rw [h]
  rfl

theorem word_append
    (w : Text) (rest : Fragment) :
    word w (.plain w ++ rest) = some ((), rest) := by
  simp [word, Fragment.plain]

theorem name_append
    (t : Text) {rest : Fragment} (h : Identifier.Ends rest.sql) :
    name (.name t ++ rest) = some (t, rest) := by
  simp [name, Fragment.name, Fragment.plain, Identifier.read?_quote_append t h]

theorem value_append
    (v : Value) (rest : Fragment) :
    value (.parameter v ++ rest) = some (v, rest) := by
  simp [value, Fragment.parameter]

theorem list_nil
    {item : Reader α} (sep : Text) {rest : Fragment} (h : item rest = none) :
    list item sep rest = some ([], rest) := by
  unfold list
  rw [many, h]

section Lists

variable {item : Reader α} {sep : Text} {render : α → Fragment}
variable (hitem : ∀ a rest, Identifier.Ends rest.sql → item (render a ++ rest) = some (a, rest))
variable (hlength : ∀ a, 0 < (render a).sql.length)
variable (hsep : ∀ t, Identifier.Ends (sep ++ t))
include hitem hlength hsep

/-- Joined pieces are read back one by one, provided that every piece is read back from
in front of text that cannot belong to a name, that separators are such text and that no
separator follows the last piece. -/
theorem list_join
    (a : α) (as : List α) {rest : Fragment}
    (hrest : Identifier.Ends rest.sql) (hlast : word sep rest = none) :
    list item sep (.join sep ((a :: as).map render) ++ rest) = some (a :: as, rest) := by
  unfold list
  induction as generalizing a with
  | nil =>
      rw [List.map_singleton, Fragment.join_singleton, many, hitem a rest hrest]
      simp [hlast]
  | cons b as ih =>
      have hread :
          item (render a ++ (.plain sep ++ (.join sep ((b :: as).map render) ++ rest))) =
            some (a, .plain sep ++ (.join sep ((b :: as).map render) ++ rest)) :=
        hitem a _ (hsep _)
      have hshorter :
          (Fragment.join sep ((b :: as).map render) ++ rest).sql.length <
            (render a ++
              (.plain sep ++ (.join sep ((b :: as).map render) ++ rest))).sql.length := by
        have := hlength a
        simp only [Fragment.sql_append, List.length_append]
        omega
      rw [List.map_cons, List.map_cons, Fragment.join_cons_cons, ← List.map_cons,
        Fragment.append_assoc, Fragment.append_assoc, many, hread]
      simp only [word_append]
      rw [if_pos hshorter, ih b]
      rfl

/-- Joined pieces are read back, even if there is none, provided that what follows is no
piece either. -/
theorem list_append
    (as : List α) {rest : Fragment}
    (hrest : Identifier.Ends rest.sql) (hlast : word sep rest = none)
    (hnone : item rest = none) :
    list item sep (.join sep (as.map render) ++ rest) = some (as, rest) := by
  cases as with
  | nil =>
      rw [List.map_nil, Fragment.join_nil, Fragment.nothing_append]
      exact list_nil sep hnone
  | cons a as =>
      exact list_join hitem hlength hsep a as hrest hlast

end Lists

/-- Words are not found where a name stands. -/
theorem word_name
    {w : Text} (h : ∀ t, Text.dropOpening? w (Identifier.tick :: t) = none)
    (column : Text) (rest : Fragment) :
    word w (.name column ++ rest) = none := by
  obtain ⟨part, parts, _, hquote⟩ := Identifier.quote_append column rest.sql
  simp [word, Fragment.name, hquote, h]

/-- A condition. -/
def condition : Reader Condition :=
  (do
    word "1 = 0"
    return .never) <|> (do
    let column ← name
    (do
      word " IS NULL"
      return .absent column) <|> (do
      word " IN ("
      let values ← list value ", "
      word ")"
      return .among column values) <|> (do
      word " = "
      let v ← value
      return .equal column v))

/-- An assignment. -/
def assignment : Reader Assignment := do
  let column ← name
  word " = "
  let v ← value
  return ⟨column, v⟩

/-- A column to sort by. -/
def sortKey : Reader SortKey := do
  let column ← name
  (do
    word " DESC"
    return ⟨column, true⟩) <|> (do
    word " ASC"
    return ⟨column, false⟩)

/-- The columns to read. -/
def columnList : Reader (List Text) :=
  (do
    word "*"
    return []) <|> list name ", "

/-- The conditions of a statement, if it has any. -/
def whereClause : Reader (List Condition) :=
  (do
    word " WHERE "
    list condition " AND ") <|> return []

/-- The order of a statement, if it has one. -/
def orderClause : Reader (List SortKey) :=
  (do
    word " ORDER BY "
    list sortKey ", ") <|> return []

/-- The limits of a statement, if it has any. -/
def limitClause : Reader (Option Value × Option Value) :=
  (do
    word " LIMIT "
    let limit ← value
    (do
      word " OFFSET "
      let offset ← value
      return (some limit, some offset)) <|> return (some limit, none)) <|> return (none, none)

/-- A statement. -/
def statement : Reader Statement :=
  (do
    word "SELECT "
    let columns ← columnList
    word " FROM "
    let table ← name
    let conditions ← whereClause
    let order ← orderClause
    let (limit, offset) ← limitClause
    return .select columns table conditions order limit offset) <|> (do
    word "INSERT INTO "
    let table ← name
    word " ("
    let columns ← list name ", "
    word ") VALUES ("
    let values ← list value ", "
    word ")"
    return .insert table (List.zipWith Assignment.mk columns values)) <|> (do
    word "UPDATE "
    let table ← name
    word " SET "
    let assignments ← list assignment ", "
    let conditions ← whereClause
    return .update table assignments conditions) <|> (do
    word "DELETE FROM "
    let table ← name
    let conditions ← whereClause
    return .delete table conditions)

theorem ends_space
    (t : Text) :
    Identifier.Ends (.scalar ' ' :: t) :=
  Identifier.ends_cons (by decide) (by decide) t

theorem ends_separator
    (t : Text) :
    Identifier.Ends ((", " : Text) ++ t) :=
  Identifier.ends_cons (by decide) (by decide) _

theorem length_name_pos
    (t : Text) :
    0 < (Fragment.name t).sql.length := by
  obtain ⟨part, parts, _, hquote⟩ := Identifier.quote_append t []
  rw [List.append_nil] at hquote
  simp [Fragment.name, hquote]

theorem list_value_append
    (values : List Value) (rest : Fragment) :
    list value ", " (.join ", " (values.map .parameter) ++ (.plain ")" ++ rest)) =
      some (values, .plain ")" ++ rest) := by
  apply list_append
  · intro v rest _
    exact value_append v rest
  · intro v
    exact Nat.zero_lt_one
  · exact ends_separator
  · exact Identifier.ends_cons (by decide) (by decide) _
  · rfl
  · rfl

/-- Names are read back from in front of what is no name and no separator. -/
theorem list_name_append
    (names : List Text) {rest : Fragment} (hrest : Identifier.Ends rest.sql)
    (hlast : word ", " rest = none) (hnone : name rest = none) :
    list name ", " (.join ", " (names.map .name) ++ rest) = some (names, rest) := by
  apply list_append
  · intro t rest h
    exact name_append t h
  · exact length_name_pos
  · exact ends_separator
  · exact hrest
  · exact hlast
  · exact hnone

theorem condition_append
    (c : Condition) {rest : Fragment} (_ : Identifier.Ends rest.sql) :
    condition (c.render ++ rest) = some (c, rest) := by
  have hnever : ∀ column f, word "1 = 0" (.name column ++ f) = none :=
    fun column f => word_name (fun _ => rfl) column f
  cases c with
  | absent column =>
      rw [Condition.render, Fragment.append_assoc, condition,
        orElse_eq_right (bind_eq_none _ (hnever column _)),
        bind_eq (name_append column (ends_space _)),
        orElse_eq_left (bind_eq (word_append _ _))]
  | among column values =>
      rw [Condition.render]
      simp only [Fragment.append_assoc]
      rw [condition, orElse_eq_right (bind_eq_none _ (hnever column _)),
        bind_eq (name_append column (ends_space _)),
        orElse_eq_right (bind_eq_none _ rfl), orElse_eq_left]
      rw [bind_eq (word_append _ _), bind_eq (list_value_append values rest),
        bind_eq (word_append _ _)]
      rfl
  | equal column v =>
      rw [Condition.render]
      simp only [Fragment.append_assoc]
      rw [condition, orElse_eq_right (bind_eq_none _ (hnever column _)),
        bind_eq (name_append column (ends_space _)),
        orElse_eq_right (bind_eq_none _ rfl), orElse_eq_right (bind_eq_none _ rfl),
        bind_eq (word_append _ _), bind_eq (value_append v rest)]
      rfl
  | never =>
      rw [Condition.render, condition, orElse_eq_left (bind_eq (word_append _ _))]

theorem assignment_append
    (a : Assignment) (rest : Fragment) :
    assignment (a.render ++ rest) = some (a, rest) := by
  rw [Assignment.render]
  simp only [Fragment.append_assoc]
  rw [assignment,
    bind_eq (name_append a.column (ends_space _)),
    bind_eq (word_append _ _), bind_eq (value_append a.value rest)]
  rfl

theorem sortKey_append
    (k : SortKey) (rest : Fragment) :
    sortKey (k.render ++ rest) = some (k, rest) := by
  obtain ⟨column, descending⟩ := k
  cases descending with
  | true =>
      change sortKey (.name column ++ .plain " DESC" ++ rest) = _
      rw [Fragment.append_assoc, sortKey,
        bind_eq (name_append column (ends_space _)),
        orElse_eq_left (bind_eq (word_append _ _))]
  | false =>
      change sortKey (.name column ++ .plain " ASC" ++ rest) = _
      rw [Fragment.append_assoc, sortKey,
        bind_eq (name_append column (ends_space _)),
        orElse_eq_right (bind_eq_none _ rfl), bind_eq (word_append _ _)]
      rfl

theorem length_condition_pos
    (c : Condition) :
    0 < c.render.sql.length := by
  cases c with
  | never =>
      exact Nat.succ_pos _
  | absent column =>
      have := length_name_pos column
      simp only [Condition.render, Fragment.sql_append, List.length_append]
      omega
  | among column values =>
      have := length_name_pos column
      simp only [Condition.render, Fragment.sql_append, List.length_append]
      omega
  | equal column v =>
      have := length_name_pos column
      simp only [Condition.render, Fragment.sql_append, List.length_append]
      omega

theorem columnList_append
    (columns : List Text) (rest : Fragment) :
    columnList (Statement.columnList columns ++ (.plain " FROM " ++ rest)) =
      some (columns, .plain " FROM " ++ rest) := by
  cases columns with
  | nil =>
      exact orElse_eq_left (bind_eq (word_append "*" _))
  | cons column columns =>
      have hstar :
          word "*" (.join ", " ((column :: columns).map .name) ++ (.plain " FROM " ++ rest)) =
            none := by
        cases columns with
        | nil =>
            rw [List.map_singleton, Fragment.join_singleton]
            exact word_name (fun _ => rfl) column _
        | cons next columns =>
            rw [List.map_cons, List.map_cons, Fragment.join_cons_cons, Fragment.append_assoc]
            exact word_name (fun _ => rfl) column _
      change columnList
        (.join ", " ((column :: columns).map .name) ++ (.plain " FROM " ++ rest)) = _
      rw [columnList, orElse_eq_right (bind_eq_none _ hstar)]
      exact list_name_append _ (ends_space _) rfl rfl

/-- The conditions of a statement are read back from in front of what cannot be taken
for a further one. -/
theorem whereClause_append
    (conditions : List Condition) {rest : Fragment} (hrest : Identifier.Ends rest.sql)
    (hand : word " AND " rest = none) (hwhere : word " WHERE " rest = none) :
    whereClause (Statement.whereClause conditions ++ rest) = some (conditions, rest) := by
  cases conditions with
  | nil =>
      exact orElse_eq_right (bind_eq_none _ hwhere)
  | cons c cs =>
      change whereClause
        (.plain " WHERE " ++ .join " AND " ((c :: cs).map Condition.render) ++ rest) = _
      rw [Fragment.append_assoc, whereClause, orElse_eq_left]
      rw [bind_eq (word_append _ _)]
      apply list_join
      · exact fun a rest h => condition_append a h
      · exact length_condition_pos
      · exact fun t => ends_space _
      · exact hrest
      · exact hand

theorem orderClause_append
    (order : List SortKey) {rest : Fragment} (hrest : Identifier.Ends rest.sql)
    (hcomma : word ", " rest = none) (horder : word " ORDER BY " rest = none) :
    orderClause (Statement.orderClause order ++ rest) = some (order, rest) := by
  cases order with
  | nil =>
      exact orElse_eq_right (bind_eq_none _ horder)
  | cons k ks =>
      change orderClause
        (.plain " ORDER BY " ++ .join ", " ((k :: ks).map SortKey.render) ++ rest) = _
      rw [Fragment.append_assoc, orderClause, orElse_eq_left]
      rw [bind_eq (word_append _ _)]
      apply list_join
      · exact fun a rest _ => sortKey_append a rest
      · intro k
        have := length_name_pos k.column
        simp only [SortKey.render, Fragment.sql_append, List.length_append]
        omega
      · exact ends_separator
      · exact hrest
      · exact hcomma

end Reader

/-- The limit that words tell: there is one beside every offset. -/
def Statement.limitBeside (limit offset : Option Value) : Option Value :=
  match limit, offset with
  | none, some _ => some (.int (-1))
  | limit, _ => limit

namespace Reader

/-- The limits of a statement are read back, with a limit beside the offset. -/
theorem limitClause_append
    (limit offset : Option Value) :
    limitClause (Statement.limitClause limit offset ++ .nothing) =
      some ((Statement.limitBeside limit offset, offset), .nothing) := by
  cases limit with
  | none =>
      cases offset with
      | none =>
          exact orElse_eq_right (bind_eq_none _ rfl)
      | some o =>
          rw [Statement.limitClause]
          simp only [Fragment.append_assoc]
          rw [limitClause, orElse_eq_left]
          rw [bind_eq (word_append _ _), bind_eq (value_append _ _), orElse_eq_left]
          rw [bind_eq (word_append _ _), bind_eq (value_append _ _)]
          rfl
  | some l =>
      cases offset with
      | none =>
          rw [Statement.limitClause]
          simp only [Fragment.append_assoc]
          rw [limitClause, orElse_eq_left]
          rw [bind_eq (word_append _ _), bind_eq (value_append _ _)]
          exact orElse_eq_right (bind_eq_none _ rfl)
      | some o =>
          rw [Statement.limitClause]
          simp only [Fragment.append_assoc]
          rw [limitClause, orElse_eq_left]
          rw [bind_eq (word_append _ _), bind_eq (value_append _ _), orElse_eq_left]
          rw [bind_eq (word_append _ _), bind_eq (value_append _ _)]
          rfl

/-- A name ends in front of a piece that opens with a space, or else in front of what
follows it. -/
theorem ends_of_spaced
    {f rest : Fragment} (hf : f.Spaced) (hrest : Identifier.Ends rest.sql) :
    Identifier.Ends (f ++ rest).sql := by
  rw [Fragment.sql_append]
  rcases hf with hf | ⟨t, hf⟩
  · rw [hf]
    exact hrest
  · rw [hf]
    exact ends_space _

end Reader

namespace Statement

/-- A statement as far as its words tell it. -/
def withLimit : Statement → Statement
  | select columns table conditions order limit offset =>
      select columns table conditions order (limitBeside limit offset) offset
  | s => s

/-- The statement whose words these are, all of them. -/
def read? (f : Fragment) : Option Statement :=
  match Reader.statement f with
  | some (s, ⟨[], []⟩) => some s
  | _ => none

end Statement

namespace Reader

/-- A statement is read back from its words. -/
theorem statement_append
    (s : Statement) :
    statement (s.render ++ .nothing) = some (s.withLimit, .nothing) := by
  cases s with
  | select columns table conditions order limit offset =>
      have hand :
          word " AND " (Statement.orderClause order ++
            (Statement.limitClause limit offset ++ .nothing)) = none := by
        cases order <;> cases limit <;> cases offset <;> rfl
      have hwhere :
          word " WHERE " (Statement.orderClause order ++
            (Statement.limitClause limit offset ++ .nothing)) = none := by
        cases order <;> cases limit <;> cases offset <;> rfl
      have hcomma : word ", " (Statement.limitClause limit offset ++ .nothing) = none := by
        cases limit <;> cases offset <;> rfl
      have horder :
          word " ORDER BY " (Statement.limitClause limit offset ++ .nothing) = none := by
        cases limit <;> cases offset <;> rfl
      have hlimits : Identifier.Ends (Statement.limitClause limit offset ++ .nothing).sql :=
        ends_of_spaced (Statement.spaced_limitClause limit offset) Identifier.ends_nil
      have horders := ends_of_spaced (Statement.spaced_orderClause order) hlimits
      have hclauses := ends_of_spaced (Statement.spaced_whereClause conditions) horders
      rw [Statement.render]
      simp only [Fragment.append_assoc]
      rw [statement, orElse_eq_left]
      rw [bind_eq (word_append _ _), bind_eq (columnList_append columns _),
        bind_eq (word_append _ _), bind_eq (name_append table hclauses),
        bind_eq (whereClause_append conditions horders hand hwhere),
        bind_eq (orderClause_append order hlimits hcomma horder),
        bind_eq (limitClause_append limit offset)]
      rfl
  | insert table assignments =>
      have hcolumns :
          (assignments.map fun a => Fragment.name a.column) =
            (assignments.map Assignment.column).map .name := by
        simp
      have hvalues :
          (assignments.map fun a => Fragment.parameter a.value) =
            (assignments.map Assignment.value).map .parameter := by
        simp
      have hzip :
          List.zipWith Assignment.mk (assignments.map Assignment.column)
            (assignments.map Assignment.value) = assignments := by
        simp [List.zipWith_map]
      rw [Statement.render, hcolumns, hvalues]
      simp only [Fragment.append_assoc]
      rw [statement, orElse_eq_right (bind_eq_none _ rfl), orElse_eq_left]
      rw [bind_eq (word_append _ _), bind_eq (name_append table (ends_space _)),
        bind_eq (word_append _ _),
        bind_eq (list_name_append _ (Identifier.ends_cons (by decide) (by decide) _) rfl rfl),
        bind_eq (word_append _ _), bind_eq (list_value_append _ _),
        bind_eq (word_append _ _), hzip]
      rfl
  | update table assignments conditions =>
      have hwhere : Identifier.Ends (Statement.whereClause conditions ++ .nothing).sql :=
        ends_of_spaced (Statement.spaced_whereClause conditions) Identifier.ends_nil
      have hassignments :
          list assignment ", " (.join ", " (assignments.map Assignment.render) ++
            (Statement.whereClause conditions ++ .nothing)) =
              some (assignments, Statement.whereClause conditions ++ .nothing) := by
        apply list_append
        · exact fun a rest _ => assignment_append a rest
        · intro a
          have := length_name_pos a.column
          simp only [Assignment.render, Fragment.sql_append, List.length_append]
          omega
        · exact ends_separator
        · exact hwhere
        · cases conditions <;> rfl
        · cases conditions <;> rfl
      rw [Statement.render]
      simp only [Fragment.append_assoc]
      rw [statement, orElse_eq_right (bind_eq_none _ rfl),
        orElse_eq_right (bind_eq_none _ rfl), orElse_eq_left]
      rw [bind_eq (word_append _ _), bind_eq (name_append table (ends_space _)),
        bind_eq (word_append _ _), bind_eq hassignments,
        bind_eq (whereClause_append conditions Identifier.ends_nil rfl rfl)]
      rfl
  | delete table conditions =>
      have hwhere : Identifier.Ends (Statement.whereClause conditions ++ .nothing).sql :=
        ends_of_spaced (Statement.spaced_whereClause conditions) Identifier.ends_nil
      rw [Statement.render]
      simp only [Fragment.append_assoc]
      rw [statement, orElse_eq_right (bind_eq_none _ rfl),
        orElse_eq_right (bind_eq_none _ rfl), orElse_eq_right (bind_eq_none _ rfl),
        bind_eq (word_append _ _), bind_eq (name_append table hwhere),
        bind_eq (whereClause_append conditions Identifier.ends_nil rfl rfl)]
      rfl

end Reader

namespace Statement

/-- Every statement is read back from its words, with a limit beside an offset. -/
theorem read?_render
    (s : Statement) :
    read? s.render = some s.withLimit := by
  have h := Reader.statement_append s
  rw [Fragment.append_nothing] at h
  rw [read?, h]
  rfl

/-- A limit beside an offset is not told from one that is left out. -/
theorem render_withLimit
    (s : Statement) :
    s.withLimit.render = s.render := by
  cases s with
  | select columns table conditions order limit offset =>
      cases limit <;> cases offset <;> rfl
  | _ =>
      rfl

/-- Words and parameters determine a statement. -/
theorem render_eq_iff
    (s t : Statement) :
    s.render = t.render ↔ s.withLimit = t.withLimit := by
  constructor
  · intro h
    have hs := read?_render s
    rw [h, read?_render t] at hs
    exact (Option.some.inj hs).symm
  · intro h
    rw [← render_withLimit s, h, render_withLimit t]

end Statement

namespace NamedQuery

/-- An entry as far as words tell it.  The column of a condition without values is not
written down, and a choice of values is written down in one way. -/
def erasedEntry : Text × Value → Text × Value
  | (_, .list []) => ([], .list [])
  | (_, .tuple []) => ([], .list [])
  | (column, .tuple (v :: vs)) => (column, .list (v :: vs))
  | entry => entry

/-- A query as far as words tell it. -/
def erased : NamedQuery → NamedQuery
  | select columns table conditions order limit offset =>
      select columns table (conditions.map erasedEntry) order
        (Statement.limitBeside limit offset) offset
  | insert table assignments => insert table assignments
  | update table assignments conditions =>
      update table assignments (conditions.map erasedEntry)
  | delete table conditions => delete table (conditions.map erasedEntry)

/-- The entry that a condition came from. -/
def entryOf : Condition → Text × Value
  | .absent column => (column, .null)
  | .among column values => (column, .list values)
  | .equal column v => (column, v)
  | .never => ([], .list [])

/-- The name that a column to sort by came from. -/
def nameOf (k : SortKey) : Text := if k.descending then .scalar '-' :: k.column else k.column

/-- The query that a statement came from. -/
def ofStatement : Statement → NamedQuery
  | .select columns table conditions order limit offset =>
      select columns table (conditions.map entryOf) (order.map nameOf) limit offset
  | .insert table assignments => insert table (assignments.map fun a => (a.column, a.value))
  | .update table assignments conditions =>
      update table (assignments.map fun a => (a.column, a.value)) (conditions.map entryOf)
  | .delete table conditions => delete table (conditions.map entryOf)

/-- The query whose words and parameters these are. -/
def decode (f : Fragment) : Option NamedQuery := (Statement.read? f).map ofStatement

theorem entryOf_ofNamed
    (e : Text × Value) :
    entryOf (Condition.ofNamed e.1 e.2) = erasedEntry e := by
  obtain ⟨column, value⟩ := e
  cases value with
  | list values =>
      cases values <;> rfl
  | tuple values =>
      cases values <;> rfl
  | _ =>
      rfl

theorem ofNamed_erasedEntry
    (e : Text × Value) :
    Condition.ofNamed (erasedEntry e).1 (erasedEntry e).2 = Condition.ofNamed e.1 e.2 := by
  obtain ⟨column, value⟩ := e
  cases value with
  | list values =>
      cases values <;> rfl
  | tuple values =>
      cases values <;> rfl
  | _ =>
      rfl

theorem nameOf_ofName
    (name : Text) :
    nameOf (SortKey.ofName name) = name := by
  unfold SortKey.ofName
  split <;> rfl

/-- The statement of a query leads back to the query as far as words tell it. -/
theorem ofStatement_statement
    (n : NamedQuery) :
    ofStatement n.statement.withLimit = n.erased := by
  cases n <;>
    simp [statement, Statement.withLimit, ofStatement, erased, conditionsOf, assignmentsOf,
      Function.comp_def, entryOf_ofNamed, nameOf_ofName]

/-- What words do not tell makes no difference to the statement. -/
theorem statement_erased
    (n : NamedQuery) :
    n.erased.statement = n.statement.withLimit := by
  cases n <;>
    simp [statement, Statement.withLimit, erased, conditionsOf, Function.comp_def,
      ofNamed_erasedEntry]

/-- Two queries have the same words and parameters exactly if they are the same as far
as words tell them, and words and parameters lead back to the query. -/
theorem render_eq_iff_erased_eq
    (m n : NamedQuery) :
    ∃ a b : Fragment,
      m.subject.render = .ok a ∧
      n.subject.render = .ok b ∧
      (a.sql = b.sql ∧ a.params = b.params ↔ m.erased = n.erased) ∧
      decode a = some m.erased := by
  refine ⟨m.statement.render, n.statement.render, render_subject m, render_subject n, ?_, ?_⟩
  · have hfragment :
        m.statement.render.sql = n.statement.render.sql ∧
          m.statement.render.params = n.statement.render.params ↔
        m.statement.render = n.statement.render := by
      rw [← Fragment.mk.injEq]
    rw [hfragment, Statement.render_eq_iff]
    constructor
    · intro h
      rw [← ofStatement_statement m, h, ofStatement_statement n]
    · intro h
      rw [← statement_erased m, h, statement_erased n]
  · rw [decode, Statement.read?_render, Option.map_some, ofStatement_statement]

end NamedQuery
end Datalink
