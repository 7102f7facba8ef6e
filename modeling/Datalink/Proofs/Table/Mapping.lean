import Datalink.Proofs.Value.Naming
import Datalink.Table.Basic
import Mathlib.Data.List.Forall2
import Mathlib.Data.List.Nodup

/-!
# Rows as mappings

Input: rows that are as wide as their columns, whose columns are names.  Several columns may
have one name, as they have where tables are joined.

Asked for a name, a row searches its columns from the left.  Turned into a mapping, it puts
one column after the other.

Results: asked for a name, a row has the first of the values under it, and the mapping has
the last one.  So both have the same names, and under a name they have the same value if and
only if the first and the last value under it are the same, as they are where no name comes
twice.  The rows of a table are turned into mappings one by one.
-/

namespace Datalink

namespace Table
namespace Row

/-- A row that is as wide as its columns, and whose columns are names. -/
structure Regular (r : Row) : Prop where
  names : ∀ c ∈ r.columns, c.text?.isSome = true
  width : r.values.length = r.columns.length

/-- The values of the columns that have the text of a name, in the order of the columns. -/
def valuesUnder (r : Row) (name : Value) : List Value :=
  ((r.columns.zip r.values).filter fun e => e.1.text? == name.text?).map Prod.snd

theorem valuesUnder_eq
    (r : Row) {name : Value} (hname : name.text?.isSome = true) :
    r.valuesUnder name = ((r.columns.zip r.values).filter fun e => name.same e.1).map Prod.snd := by
  obtain ⟨t, ht⟩ := Option.isSome_iff_exists.mp hname
  rw [valuesUnder]
  congr 1
  refine List.filter_congr fun e _ => ?_
  rw [Bool.eq_iff_iff, Value.same_iff_of_text? ht, ht, beq_iff_eq]

/-- What a mapping that a row was turned into has to do with the row.  They have the same
names, and under each name the row has the first value and the mapping the last. -/
structure Describes (r : Row) (m : Keyed Value) : Prop where
  contains : ∀ name : Value, name.text?.isSome = true →
    r.contains name = .ok (Keyed.get? name m).isSome
  item : ∀ name : Value, name.text?.isSome = true →
    (r.item name).toOption = (r.valuesUnder name).head?
  value : ∀ name : Value, name.text?.isSome = true →
    Keyed.get? name m = (r.valuesUnder name).getLast?
  /-- The columns with their values are those that the row has under their names. -/
  entries : ∃ es, r.entries = .ok es ∧ es.map Prod.fst = r.columns ∧
    ∀ e ∈ es, r.item e.1 = .ok e.2

/-- Where the columns are names, a name stands for the value at its first place. -/
theorem item_eq_valueAt
    {r : Row} (h : ∀ c ∈ r.columns, c.text?.isSome = true) {name : Value}
    (hname : name.text?.isSome = true) :
    r.item name =
      match r.columns.findIdx? name.same with
      | none => .error (.keyMissing name)
      | some place => r.valueAt place := by
  obtain ⟨t, ht⟩ := Option.isSome_iff_exists.mp hname
  rw [item, Value.position?_of_text? ht h]
  cases r.columns.findIdx? name.same <;> rfl

/-- The name of a column has a first place. -/
theorem exists_place
    {columns : List Value} {name : Value} (hname : name.text?.isSome = true)
    (hmem : name ∈ columns) :
    ∃ place, columns.findIdx? name.same = some place ∧ place < columns.length := by
  obtain ⟨t, ht⟩ := Option.isSome_iff_exists.mp hname
  have hself : name.same name = true := by
    rw [Value.same_iff_of_text? ht, ht]
  cases hplace : columns.findIdx? name.same with
  | none =>
      rw [List.findIdx?_eq_none_iff.mp hplace name hmem] at hself
      cases hself
  | some place =>
      obtain ⟨hlt, -⟩ := List.findIdx?_eq_some_iff_getElem.mp hplace
      exact ⟨place, rfl, hlt⟩

section Lookups

variable {r : Row} (h : r.Regular)
include h

/-- A row has the first value under a name. -/
theorem item_eq
    {name : Value} (hname : name.text?.isSome = true) :
    r.item name =
      match (r.valuesUnder name).head? with
      | some v => .ok v
      | none => .error (.keyMissing name) := by
  rw [item_eq_valueAt h.names hname, valuesUnder_eq r hname]
  obtain ⟨columns, values⟩ := r
  induction columns generalizing values with
  | nil =>
      rfl
  | cons c columns ih =>
      cases values with
      | nil =>
          cases h.width
      | cons v values =>
          have hrest : Regular ⟨columns, values⟩ :=
            ⟨(List.forall_mem_cons.mp h.names).2, Nat.succ.inj h.width⟩
          have hstep := ih values hrest
          simp only [List.findIdx?_cons, List.zip_cons_cons, List.filter_cons]
          by_cases hc : name.same c = true
          · simp [hc, valueAt]
          · simp only [hc, Bool.false_eq_true, if_false]
            rw [← hstep]
            cases columns.findIdx? name.same <;> rfl

theorem toOption_item
    {name : Value} (hname : name.text?.isSome = true) :
    (r.item name).toOption = (r.valuesUnder name).head? := by
  rw [item_eq h hname]
  cases (r.valuesUnder name).head? <;> rfl

theorem contains_eq
    {name : Value} (hname : name.text?.isSome = true) :
    r.contains name = .ok (r.valuesUnder name).head?.isSome := by
  rw [contains, item_eq h hname]
  cases (r.valuesUnder name).head? <;> rfl

/-- A name that stands behind some columns has the value that it has in the row, since it is
searched for in those columns and then where it stands. -/
theorem valueUnder_eq_item
    {before after : List Value} {name : Value} (hcolumns : r.columns = before ++ name :: after) :
    r.valueUnder before name = r.item name := by
  have hmem : name ∈ r.columns := by
    simp [hcolumns]
  obtain ⟨t, ht⟩ := Option.isSome_iff_exists.mp (h.names name hmem)
  have hbefore : ∀ c ∈ before, c.text?.isSome = true := fun c hc =>
    h.names c (by simp [hcolumns, hc])
  have hself : name.same name = true := by
    rw [Value.same_iff_of_text? ht, ht]
  rw [item_eq_valueAt h.names (h.names name hmem), valueUnder, Value.position?_of_text? ht hbefore,
    hcolumns, List.findIdx?_append, List.findIdx?_cons, if_pos hself]
  cases before.findIdx? name.same <;> simp

theorem exists_item
    {name : Value} (hmem : name ∈ r.columns) :
    ∃ v, r.item name = .ok v := by
  have hname := h.names name hmem
  obtain ⟨place, hplace, hlt⟩ := exists_place hname hmem
  rw [← h.width] at hlt
  refine ⟨r.values[place], ?_⟩
  rw [item_eq_valueAt h.names hname, hplace]
  simp [valueAt, hlt]

theorem exists_entriesFrom
    {before names : List Value} (hcolumns : r.columns = before ++ names) :
    ∃ es, r.entriesFrom before names = .ok es ∧ es.map Prod.fst = names ∧
      ∀ e ∈ es, r.item e.1 = .ok e.2 := by
  induction names generalizing before with
  | nil =>
      exact ⟨[], rfl, rfl, by simp⟩
  | cons name names ih =>
      have hmem : name ∈ r.columns := by
        simp [hcolumns]
      have hrest : r.columns = (before ++ [name]) ++ names := by
        simp [hcolumns]
      obtain ⟨v, hv⟩ := exists_item h hmem
      obtain ⟨es, hes, hnames, hitems⟩ := ih hrest
      refine ⟨(name, v) :: es, ?_, by simp [hnames], List.forall_mem_cons.mpr ⟨hv, hitems⟩⟩
      rw [entriesFrom, valueUnder_eq_item h hcolumns, hv]
      simp only [hes]

theorem names_zip :
    ∀ e ∈ r.columns.zip r.values, e.1.text?.isSome = true :=
  fun _ he => h.names _ (List.of_mem_zip he).1

/-- A row can be turned into a mapping, which has the last value under each name. -/
theorem describes_toColumns :
    ∃ m, r.toColumns = .ok m ∧ r.Describes m := by
  have hlast : ∀ name : Value, name.text?.isSome = true →
      Keyed.get? name (Keyed.ofList (r.columns.zip r.values)) = (r.valuesUnder name).getLast? := by
    intro name hname
    obtain ⟨t, ht⟩ := Option.isSome_iff_exists.mp hname
    rw [valuesUnder_eq r hname]
    exact Keyed.get?_ofList_of_names ht (names_zip h)
  refine ⟨_, Keyed.collect_of_names (names_zip h), ?_⟩
  exact
    { contains := by
        intro name hname
        rw [contains_eq h hname, hlast name hname]
        cases r.valuesUnder name <;> simp
      item := fun name hname => toOption_item h hname
      value := hlast
      entries := exists_entriesFrom h rfl }

end Lookups

/-- Whether a row and a mapping have the same under a name: the same value, or none. -/
def Alike (r : Row) (m : Keyed Value) (name : Value) : Prop :=
  (r.item name).toOption = Keyed.get? name m

/-- Where no name comes twice, there is at most one value under a name. -/
theorem length_valuesUnder_le
    {r : Row} (h : r.Regular) (hnodup : (r.columns.map Value.text?).Nodup) (name : Value) :
    (r.valuesUnder name).length ≤ 1 := by
  have hcolumns : (r.columns.zip r.values).map Prod.fst = r.columns :=
    List.map_fst_zip (Nat.le_of_eq h.width.symm)
  have hone := List.nodup_iff_count_le_one.mp hnodup name.text?
  rw [← hcolumns, List.map_map, List.count, List.countP_map] at hone
  rw [valuesUnder, List.length_map, ← List.countP_eq_length_filter]
  exact hone

theorem head?_eq_getLast?_of_length_le
    {α : Type} {items : List α} (h : items.length ≤ 1) :
    items.head? = items.getLast? := by
  match items with
  | [] =>
      rfl
  | [a] =>
      rfl
  | a :: b :: rest =>
      simp at h

end Row

theorem exists_mappings
    {rows : List Row} (h : ∀ r ∈ rows, r.Regular) :
    ∃ ms, mappings rows = .ok ms ∧
      List.Forall₂ (fun r m => r.toColumns = .ok m ∧ r.Describes m) rows ms := by
  induction rows with
  | nil =>
      exact ⟨[], rfl, .nil⟩
  | cons r rows ih =>
      obtain ⟨hr, hrows⟩ := List.forall_mem_cons.mp h
      obtain ⟨m, hm, hdescribes⟩ := Row.describes_toColumns hr
      obtain ⟨ms, hms, hall⟩ := ih hrows
      exact ⟨m :: ms, by simp only [mappings, hm, hms], .cons ⟨hm, hdescribes⟩ hall⟩

/-- A row can be turned into a mapping.  Under a name the row has the first value and the
mapping the last, so that they are alike if and only if these are the same, as they are where
no name comes twice.  A table is turned into the mappings of its rows. -/
theorem rows_have_first_mappings_last
    (r : Row) (t : Table) :
    (r.Regular → ∃ m, r.toColumns = .ok m ∧ r.Describes m ∧
      (∀ name : Value, name.text?.isSome = true →
        (r.Alike m name ↔ (r.valuesUnder name).head? = (r.valuesUnder name).getLast?)) ∧
      ((r.columns.map Value.text?).Nodup →
        ∀ name : Value, name.text?.isSome = true → r.Alike m name)) ∧
    ((∀ r ∈ t.toList, r.Regular) → ∃ ms, t.toColumns = .ok ms ∧
      List.Forall₂ (fun r m => r.toColumns = .ok m ∧ r.Describes m) t.toList ms) := by
  constructor
  · intro h
    obtain ⟨m, hm, hdescribes⟩ := Row.describes_toColumns h
    have halike : ∀ name : Value, name.text?.isSome = true →
        (r.Alike m name ↔ (r.valuesUnder name).head? = (r.valuesUnder name).getLast?) := by
      intro name hname
      rw [Row.Alike, hdescribes.item name hname, hdescribes.value name hname]
    refine ⟨m, hm, hdescribes, halike, fun hnodup name hname => (halike name hname).mpr ?_⟩
    exact Row.head?_eq_getLast?_of_length_le (Row.length_valuesUnder_le h hnodup name)
  · exact exists_mappings

/-- A row of two tables that were joined, each of which has numbered rows. -/
def joinedRow : Row :=
  ⟨[.text "id", .text "name", .text "id"], [.int 1, .text "Ann", .int 2]⟩

theorem regular_joinedRow :
    joinedRow.Regular :=
  ⟨by decide, rfl⟩

/-- The table of this row. -/
def joinedTable : Table := ⟨joinedRow.columns, [joinedRow.values]⟩

/-- The row has the one number and its mapping has the other. -/
theorem joined_row_has_both :
    joinedRow.Regular ∧ (∀ r ∈ joinedTable.toList, r.Regular) ∧
      ∃ m, joinedTable.toColumns = .ok [m] ∧
        (joinedRow.item (.text "id")).toOption = some (.int 1) ∧
        Keyed.get? (.text "id") m = some (.int 2) ∧ joinedRow.Alike m (.text "name") := by
  have hrows : ∀ r ∈ joinedTable.toList, r.Regular :=
    List.forall_mem_singleton.mpr regular_joinedRow
  obtain ⟨hrow, htable⟩ := rows_have_first_mappings_last joinedRow joinedTable
  obtain ⟨m, hm, hdescribes, halike, -⟩ := hrow regular_joinedRow
  obtain ⟨ms, hms, hall⟩ := htable hrows
  cases hall with
  | cons hfirst hnone =>
      cases hnone
      obtain rfl := Except.ok.inj (hfirst.1.symm.trans hm)
      exact ⟨regular_joinedRow, hrows, _, hms, hdescribes.item (.text "id") rfl,
        hdescribes.value (.text "id") rfl, (halike (.text "name") rfl).mpr rfl⟩

/-- A row and its mapping do not always have the same value under a name. -/
theorem not_alike_where_joined :
    ¬ ∀ (r : Row) (m : Keyed Value) (name : Value), r.Regular → r.toColumns = .ok m →
      name.text?.isSome = true → r.Alike m name := by
  intro hclaim
  obtain ⟨m, hm, hdescribes⟩ := Row.describes_toColumns regular_joinedRow
  have halike := hclaim joinedRow m (.text "id") regular_joinedRow hm rfl
  rw [Row.Alike, hdescribes.item _ rfl, hdescribes.value _ rfl] at halike
  have hnumbers : some (Value.int 1) = some (.int 2) := halike
  cases hnumbers

end Table
end Datalink
