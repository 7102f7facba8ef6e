import Datalink.Proofs.Table.Mapping

/-!
# The widths of rows

Input: a table whose columns are names and whose rows are as wide as its columns, and what
callers ask of it, one thing after the other.  They may add rows by hand.

Results: a row that is added is taken as it is, whatever its width, and nothing else changes
a table.  So its rows stay as wide as its columns if and only if the rows that are added are,
and then every row has a value under the name of every column.  A row of another width has a
value under a name if and only if it reaches as far as the first column of that name.
-/

namespace Datalink
namespace Table

/-- Whether every row is as wide as the columns. -/
def Rectangular (t : Table) : Prop := ∀ row ∈ t.rows, row.length = t.columns.length

instance (t : Table) : Decidable t.Rectangular :=
  inferInstanceAs (Decidable (∀ row ∈ t.rows, row.length = t.columns.length))

/-- What is asked of a table. -/
inductive Call where
  | columns
  | size
  | isEmpty
  | first
  | rows
  | mappings
  | print
  | find (index : Value)
  | rowAt (index : Value)
  | equals (other : Table)
  | append (values : List Value)
deriving Inhabited

namespace Call

/-- The type of what a call gives back. -/
abbrev Result : Call → Type
  | columns => List Value
  | size => Nat
  | isEmpty => Bool
  | first => Option Row
  | rows => List Row
  | mappings => List (Keyed Value)
  | print => Text
  | find _ => Option Row
  | rowAt _ => Row
  | equals _ => Bool
  | append _ => Unit

/-- A call: what it gives back, and the table behind it. -/
def perform (t : Table) : (c : Call) → Except Fault c.Result × Table
  | columns => (.ok t.columns, t)
  | size => (.ok t.size, t)
  | isEmpty => (.ok t.isEmpty, t)
  | first => (.ok t.first?, t)
  | rows => (.ok t.toList, t)
  | mappings => (t.toColumns, t)
  | print => (t.print, t)
  | find index => (t.find index, t)
  | rowAt index => (t.rowAt index, t)
  | equals other => (t.equals other, t)
  | append values => (.ok (), t.append values)

/-- The rows that a call adds. -/
def added : Call → List (List Value)
  | append values => [values]
  | _ => []

/-- A call leaves the columns as they are, and the rows behind which it may add one. -/
theorem perform_eq
    (t : Table) (c : Call) :
    (c.perform t).2 = { t with rows := t.rows ++ c.added } := by
  cases c with
  | append values =>
      rfl
  | _ =>
      simp [perform, added]

end Call

/-- The table behind a run of calls. -/
def after (t : Table) (calls : List Call) : Table :=
  calls.foldl (fun t c => (c.perform t).2) t

theorem after_eq
    (t : Table) (calls : List Call) :
    t.after calls = { t with rows := t.rows ++ calls.flatMap Call.added } := by
  induction calls generalizing t with
  | nil =>
      simp [after]
  | cons c calls ih =>
      have hrest : t.after (c :: calls) = (c.perform t).2.after calls := rfl
      rw [hrest, ih, c.perform_eq, List.flatMap_cons, List.append_assoc]

/-- The rows stay as wide as the columns if and only if those are that are added. -/
theorem rectangular_after_iff
    {t : Table} (h : t.Rectangular) (calls : List Call) :
    (t.after calls).Rectangular ↔
      ∀ values ∈ calls.flatMap Call.added, values.length = t.columns.length := by
  rw [after_eq]
  unfold Rectangular
  rw [List.forall_mem_append]
  exact ⟨fun hall => hall.2, fun hadded => ⟨h, hadded⟩⟩

theorem mem_toList_iff
    {t : Table} {r : Row} :
    r ∈ t.toList ↔ r.columns = t.columns ∧ r.values ∈ t.rows := by
  obtain ⟨columns, values⟩ := r
  simp [toList, and_comm, eq_comm]

/-- Under the name of a column a row has the value at its first place, if it reaches so
far. -/
structure Row.Reaches (r : Row) (name : Value) (place : Nat) : Prop where
  first : r.columns.findIdx? name.same = some place
  listed : place < r.columns.length
  found_iff : (∃ v, r.item name = .ok v) ↔ place < r.values.length
  missing : r.values.length ≤ place → r.item name = .error .indexOutOfRange

theorem Row.exists_reaches
    {r : Row} (hnames : ∀ c ∈ r.columns, c.text?.isSome = true) {name : Value}
    (hmem : name ∈ r.columns) :
    ∃ place, r.Reaches name place := by
  have hname := hnames name hmem
  obtain ⟨place, hplace, hlisted⟩ := exists_place hname hmem
  have hitem : r.item name = r.valueAt place := by
    rw [item_eq_valueAt hnames hname, hplace]
  refine ⟨place, hplace, hlisted, ?_, fun hshort => ?_⟩
  · rw [hitem, valueAt]
    by_cases hlt : place < r.values.length
    · simp [hlt]
    · simp [hlt]
  · rw [hitem, valueAt, List.getElem?_eq_none hshort]

/-- A table takes whatever rows are added, and keeps those that it had.  Behind any run of
calls its rows are as wide as its columns if and only if the added ones are, and then each
has a value under the name of every column.  In any case a row has a value under a name if
and only if it reaches as far as the first column of that name. -/
theorem rectangular_iff_added
    (t : Table) (hnames : ∀ c ∈ t.columns, c.text?.isSome = true) (h : t.Rectangular)
    (calls : List Call) :
    let u := t.after calls
    u.columns = t.columns ∧ u.rows = t.rows ++ calls.flatMap Call.added ∧
      (u.Rectangular ↔
        ∀ values ∈ calls.flatMap Call.added, values.length = t.columns.length) ∧
      (u.Rectangular → ∀ r ∈ u.toList, ∀ name ∈ u.columns, ∃ v, r.item name = .ok v) ∧
      ∀ r ∈ u.toList, ∀ name ∈ u.columns, ∃ place, r.Reaches name place := by
  intro u
  have hu : u = _ := t.after_eq calls
  have hcolumns : u.columns = t.columns := by
    rw [hu]
  have hreaches : ∀ r ∈ u.toList, ∀ name ∈ u.columns, ∃ place, r.Reaches name place := by
    intro r hr name hname
    obtain ⟨hsame, -⟩ := mem_toList_iff.mp hr
    rw [← hsame] at hname
    exact Row.exists_reaches (by rw [hsame, hcolumns]; exact hnames) hname
  refine ⟨hcolumns, by rw [hu], rectangular_after_iff h calls, fun hwide r hr name hname => ?_,
    hreaches⟩
  obtain ⟨place, hplace⟩ := hreaches r hr name hname
  obtain ⟨hsame, hvalues⟩ := mem_toList_iff.mp hr
  refine hplace.found_iff.mpr ?_
  rw [hwide _ hvalues, ← hsame]
  exact hplace.listed

/-- A table of two columns with a row. -/
def pairTable : Table := ⟨[.text "a", .text "b"], [[.int 1, .int 2]]⟩

/-- A row as wide as its columns is added, and then a shorter one. -/
def pairCalls : List Call :=
  [.append [.int 3, .int 4], .print, .append [.int 5], .find (.int (-1))]

/-- The shorter row has a value under the name that it reaches, and none under the other. -/
theorem rectangular_iff_added_pairTable :
    (∀ c ∈ pairTable.columns, c.text?.isSome = true) ∧ pairTable.Rectangular ∧
      (pairTable.after pairCalls).rows.length = 3 ∧
      ¬ (pairTable.after pairCalls).Rectangular ∧
      (pairTable.after (pairCalls.take 2)).Rectangular ∧
      ∃ r ∈ (pairTable.after pairCalls).toList, (∃ v, r.item (.text "a") = .ok v) ∧
        r.item (.text "b") = .error .indexOutOfRange := by
  have hnames : ∀ c ∈ pairTable.columns, c.text?.isSome = true := by
    decide
  have hwide : pairTable.Rectangular := by
    decide
  obtain ⟨-, hrows, hiff, -, hreaches⟩ := rectangular_iff_added pairTable hnames hwide pairCalls
  obtain ⟨-, -, hfront, -⟩ := rectangular_iff_added pairTable hnames hwide (pairCalls.take 2)
  have hmem : ⟨pairTable.columns, [.int 5]⟩ ∈ (pairTable.after pairCalls).toList := by
    rw [mem_toList_iff, hrows]
    exact ⟨rfl, by simp [pairCalls, Call.added]⟩
  obtain ⟨place, ha⟩ := hreaches _ hmem (.text "a") (by simp [pairTable, after_eq])
  obtain ⟨place', hb⟩ := hreaches _ hmem (.text "b") (by simp [pairTable, after_eq])
  refine ⟨hnames, hwide, by rw [hrows]; rfl, mt hiff.mp (by decide), hfront.mpr (by decide),
    _, hmem, ha.found_iff.mpr ?_, hb.missing ?_⟩
  · have hfirst : pairTable.columns.findIdx? (Value.text "a").same = some 0 := by
      decide +kernel
    obtain rfl := Option.some.inj (ha.first.symm.trans hfirst)
    decide
  · have hfirst : pairTable.columns.findIdx? (Value.text "b").same = some 1 := by
      decide +kernel
    obtain rfl := Option.some.inj (hb.first.symm.trans hfirst)
    decide

/-- A row of another width is taken, and it has no value under the name of a column. -/
theorem not_rectangular_behind_short_row :
    ¬ ∀ (t : Table) (calls : List Call), (∀ c ∈ t.columns, c.text?.isSome = true) →
      t.Rectangular → (t.after calls).Rectangular := by
  intro hclaim
  have hwide := hclaim pairTable [.append [.int 5]] (by decide) (by decide)
  have hnot : ¬ (pairTable.after [.append [.int 5]]).Rectangular := by
    decide
  exact hnot hwide

end Table
end Datalink
