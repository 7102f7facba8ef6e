import Datalink.Proofs.Table.Widths

/-!
# Tables as lists of rows

Input: a table of any columns and rows, and what callers ask of it, one thing after the
other.  They may add rows by hand.  A place in the table is asked for by an integer, and a
negative one counts from the end.

Results: all answers of a table are those of one list of rows: the rows that it was made
with, and behind them the rows that were added.  Both ways to ask for a row at an integer
bound the integer on their own, and they find the same row at the same integers.
-/

namespace Datalink

namespace Value

/-- A value that is an integer counts as this number. -/
theorem quantity?_of_integer?
    {v : Value} {n : Int} (h : v.integer? = some n) :
    v.face.quantity? = some (.exact n 0) := by
  unfold integer? at h
  split at h
  · rename_i b hface
    cases h
    cases b <;> simp [hface, quantity?]
  · rename_i m hface
    cases h
    rw [hface, quantity?]
  · cases h

theorem isDecimal_of_integer?
    {v : Value} {n : Int} (h : v.integer? = some n) :
    v.isDecimal = false := by
  unfold isDecimal
  split
  · cases h
  · rfl

/-- Values that are integers stand in the order of the integers. -/
theorem compare_of_integer?
    (o : Order) {v w : Value} {m n : Int} (hv : v.integer? = some m) (hw : w.integer? = some n) :
    v.compare o w = (int m).compare o (int n) := by
  have hint : ∀ k : Int, (int k).integer? = some k := fun _ => rfl
  unfold compare
  rw [quantity?_of_integer? hv, quantity?_of_integer? hw, quantity?_of_integer? (hint m),
    quantity?_of_integer? (hint n), isDecimal_of_integer? hv, isDecimal_of_integer? hw]
  rfl

end Value

namespace Table

/-- What a table answers at an index, given its rows and the integer that the index is. -/
structure AnswersAt (t : Table) (items : List Row) (index : Value) (i : Int) : Prop where
  found_iff :
    (∃ r, t.find index = .ok (some r)) ↔ -(items.length : Int) ≤ i ∧ i < items.length
  found_iff_rowAt :
    (∃ r, t.find index = .ok (some r)) ↔ t.rowAt index ≠ .error .indexOutOfRange
  /-- The row is the one at the integer, counted from the end if it is negative. -/
  found : ∀ r, t.find index = .ok (some r) →
    t.rowAt index = .ok r ∧
      ∃ place : Nat, (place : Int) = (if i < 0 then items.length + i else i) ∧
        items[place]? = some r
  /-- What is not found is missing, and that is no failure. -/
  missing : (¬ ∃ r, t.find index = .ok (some r)) → t.find index = .ok none

namespace AnswersAt

variable {t : Table} {items : List Row} {index : Value} {i : Int}
  (h : t.AnswersAt items index i)
include h

/-- A row at the place of the integer is found in both ways. -/
theorem of_getElem?
    (place : Nat) {r : Row} (hplace : (place : Int) = if i < 0 then items.length + i else i)
    (hr : items[place]? = some r) :
    t.find index = .ok (some r) ∧ t.rowAt index = .ok r := by
  obtain ⟨hlt, -⟩ := List.getElem?_eq_some_iff.mp hr
  obtain ⟨r', hfound⟩ := h.found_iff.mpr (by split at hplace <;> omega)
  obtain ⟨hrow, place', hplace', hr'⟩ := h.found r' hfound
  obtain rfl : place' = place := Int.ofNat_inj.mp (hplace'.trans hplace.symm)
  rw [hr] at hr'
  cases hr'
  exact ⟨hfound, hrow⟩

/-- Beyond the bounds there is none, and only one way says so by a failure. -/
theorem of_not_bounds
    (hbounds : ¬ (-(items.length : Int) ≤ i ∧ i < items.length)) :
    t.find index = .ok none ∧ t.rowAt index = .error .indexOutOfRange := by
  have hnone : ¬ ∃ r, t.find index = .ok (some r) := mt h.found_iff.mp hbounds
  exact ⟨h.missing hnone, Classical.not_not.mp (mt h.found_iff_rowAt.mpr hnone)⟩

end AnswersAt

/-- Whether all answers of a table are those of a list of rows. -/
structure Lists (t : Table) (items : List Row) : Prop where
  rows : t.toList = items
  size : t.size = items.length
  first : t.first? = items.head?
  first_eq_none_iff : t.first? = none ↔ t.isEmpty = true
  at_index : ∀ (index : Value) (i : Int), index.integer? = some i → t.AnswersAt items index i
  /-- The mappings of the rows in order, if all rows have one. -/
  mappings : t.toColumns = items.mapM Row.toColumns

/-- Within the bounds an integer stands for a place. -/
theorem exists_place_of_bounds
    {α : Type} {items : List α} {i : Int} (hlow : -(items.length : Int) ≤ i)
    (hhigh : i < items.length) :
    ∃ place : Nat, (place : Int) = (if i < 0 then items.length + i else i) ∧
      place < items.length ∧ pick? items i = items[place]? := by
  by_cases hneg : i < 0
  · refine ⟨(items.length + i).toNat, ?_, by omega, ?_⟩
    · rw [if_pos hneg]
      omega
    · rw [pick?, if_neg (by omega), if_pos hlow]
  · refine ⟨i.toNat, ?_, by omega, ?_⟩
    · rw [if_neg hneg]
      omega
    · rw [pick?, if_pos (by omega)]

/-- Beyond the bounds there is nothing. -/
theorem pick?_eq_none
    {α : Type} {items : List α} {i : Int}
    (h : ¬ (-(items.length : Int) ≤ i ∧ i < items.length)) :
    pick? items i = none := by
  unfold pick?
  split
  · exact List.getElem?_eq_none (by omega)
  · split
    · omega
    · rfl

/-- An index is asked for as the integer that it is. -/
theorem find_of_integer?
    (t : Table) {index : Value} {i : Int} (h : index.integer? = some i) :
    t.find index = .ok (t.get? i) := by
  have hindex : index.asIndex = .ok i := by
    rw [Value.asIndex, h]
  have hint : ∀ n : Int, (Value.int n).integer? = some n := fun _ => rfl
  rw [← find_int, find, find, Value.compare_of_integer? _ (hint _) h,
    Value.compare_of_integer? _ h (hint _), rowAt, hindex, rowAt_int]

theorem rowAt_of_integer?
    (t : Table) {index : Value} {i : Int} (h : index.integer? = some i) :
    t.rowAt index = t.row i := by
  rw [rowAt, Value.asIndex, h]

/-- At an integer within the bounds both ways find the row at its place. -/
theorem exists_row
    (t : Table) {i : Int} (hlow : -(t.toList.length : Int) ≤ i) (hhigh : i < t.toList.length) :
    ∃ r, t.get? i = some r ∧ t.row i = .ok r ∧
      ∃ place : Nat, (place : Int) = (if i < 0 then t.toList.length + i else i) ∧
        t.toList[place]? = some r := by
  rw [length_toList, size] at hlow hhigh ⊢
  obtain ⟨place, hplace, hlt, hpick⟩ := exists_place_of_bounds hlow hhigh
  rw [List.getElem?_eq_getElem hlt] at hpick
  refine ⟨⟨t.columns, t.rows[place]⟩, ?_, ?_, place, hplace, ?_⟩
  · rw [get?, if_pos ⟨hlow, hhigh⟩, hpick]
    rfl
  · rw [row, hpick]
  · simp [toList, hlt]

/-- At any other integer the one way finds none, and the other refuses the integer. -/
theorem row_of_not_bounds
    (t : Table) {i : Int} (h : ¬ (-(t.toList.length : Int) ≤ i ∧ i < t.toList.length)) :
    t.get? i = none ∧ t.row i = .error .indexOutOfRange := by
  rw [length_toList, size] at h
  exact ⟨if_neg h, by rw [row, pick?_eq_none h]⟩

theorem answersAt
    (t : Table) {index : Value} {i : Int} (h : index.integer? = some i) :
    t.AnswersAt t.toList index i := by
  by_cases hbounds : -(t.toList.length : Int) ≤ i ∧ i < t.toList.length
  · obtain ⟨r, hget, hrow, hplace⟩ := t.exists_row hbounds.1 hbounds.2
    have hfind : ∃ r, t.find index = .ok (some r) := ⟨r, by rw [t.find_of_integer? h, hget]⟩
    refine ⟨iff_of_true hfind hbounds, iff_of_true hfind ?_, ?_, fun hnot => absurd hfind hnot⟩
    · rw [t.rowAt_of_integer? h, hrow]
      intro hrefused
      cases hrefused
    · intro r' hr'
      rw [t.find_of_integer? h, hget] at hr'
      cases hr'
      exact ⟨by rw [t.rowAt_of_integer? h, hrow], hplace⟩
  · obtain ⟨hget, hrow⟩ := t.row_of_not_bounds hbounds
    have hnone : t.find index = .ok none := by
      rw [t.find_of_integer? h, hget]
    have hfind : ¬ ∃ r, t.find index = .ok (some r) := by
      rintro ⟨r, hr⟩
      rw [hnone] at hr
      cases hr
    refine ⟨iff_of_false hfind hbounds, iff_of_false hfind ?_, ?_, fun _ => hnone⟩
    · rw [t.rowAt_of_integer? h, hrow]
      exact fun hne => hne rfl
    · exact fun r hr => absurd ⟨r, hr⟩ hfind

theorem first?_eq
    (t : Table) :
    t.first? = t.toList.head? := by
  obtain ⟨columns, rows⟩ := t
  cases rows with
  | nil =>
      rfl
  | cons values rows =>
      have hlength : 0 < ((values :: rows).length : Int) := by
        simp only [List.length_cons]
        omega
      rw [first?, get?, if_pos ⟨by omega, hlength⟩]
      rfl

theorem mappings_eq
    (rows : List Row) :
    mappings rows = rows.mapM Row.toColumns := by
  induction rows with
  | nil =>
      rfl
  | cons r rows ih =>
      rw [mappings, ih, List.mapM_cons]
      cases r.toColumns with
      | error f =>
          rfl
      | ok m =>
          cases rows.mapM Row.toColumns <;> rfl

/-- The answers of a table are those of its rows. -/
theorem lists_toList
    (t : Table) :
    t.Lists t.toList where
  rows := rfl
  size := t.length_toList.symm
  first := t.first?_eq
  first_eq_none_iff := by
    rw [first?_eq, List.head?_eq_none_iff, ← List.length_eq_zero_iff, length_toList,
      isEmpty_eq_true_iff]
  at_index _ _ h := t.answersAt h
  mappings := mappings_eq t.toList

/-- Where the columns are names, every row can be turned into a mapping. -/
theorem Row.exists_toColumns
    {r : Row} (h : ∀ c ∈ r.columns, c.text?.isSome = true) :
    ∃ m, r.toColumns = .ok m :=
  ⟨_, Keyed.collect_of_names fun _ he => h _ (List.of_mem_zip he).1⟩

theorem exists_mapM_toColumns
    {rows : List Row} (h : ∀ r ∈ rows, ∀ c ∈ r.columns, c.text?.isSome = true) :
    ∃ ms, rows.mapM Row.toColumns = .ok ms := by
  induction rows with
  | nil =>
      exact ⟨[], rfl⟩
  | cons r rows ih =>
      obtain ⟨hr, hrows⟩ := List.forall_mem_cons.mp h
      obtain ⟨m, hm⟩ := Row.exists_toColumns hr
      obtain ⟨ms, hms⟩ := ih hrows
      exact ⟨m :: ms, by rw [List.mapM_cons, hm, hms]; rfl⟩

/-- A table that was made of columns and rows answers, behind any run of calls, as the list
of these rows with those behind them that the calls added.  Where the columns are names it
can be turned into mappings. -/
theorem lists_behind_calls
    {columns : Value} {rows : List (List Value)} {t : Table} (h : make columns rows = .ok t)
    (calls : List Call) :
    let items := (rows ++ calls.flatMap Call.added).map (Row.mk t.columns)
    (t.after calls).Lists items ∧
      ((∀ c ∈ t.columns, c.text?.isSome = true) → ∃ ms, (t.after calls).toColumns = .ok ms) := by
  intro items
  have hrows : t.rows = rows := by
    unfold make at h
    split at h
    · cases h
    · cases h
      rfl
  have hitems : (t.after calls).toList = items := by
    rw [after_eq, toList, hrows]
  have hlists : (t.after calls).Lists items := hitems ▸ (t.after calls).lists_toList
  refine ⟨hlists, fun hnames => ?_⟩
  rw [hlists.mappings]
  refine exists_mapM_toColumns fun r hr c hc => hnames c ?_
  obtain ⟨values, -, rfl⟩ := List.mem_map.mp hr
  exact hc

/-- Calls that add two rows, of which the second is shorter. -/
def scoreCalls : List Call :=
  [.append [.text "Ann", .int 7], .first, .append [.text "Bob"], .find (.int (-4))]

/-- The last row is found from the end, and the truth value stands for the second place. -/
theorem lists_behind_scoreCalls :
    ∃ t, make (.tuple [.text "name", .text "score"]) [[.text "Zoe", .int 9]] = .ok t ∧
      (t.after scoreCalls).size = 3 ∧
      (t.after scoreCalls).rowAt (.int (-1)) = .ok ⟨t.columns, [.text "Bob"]⟩ ∧
      (t.after scoreCalls).find (.bool true) = .ok (some ⟨t.columns, [.text "Ann", .int 7]⟩) ∧
      (t.after scoreCalls).find (.int (-4)) = .ok none ∧
      (t.after scoreCalls).rowAt (.int 3) = .error .indexOutOfRange ∧
      ∃ ms, (t.after scoreCalls).toColumns = .ok ms := by
  refine ⟨_, rfl, ?_⟩
  obtain ⟨hlists, hmappings⟩ :=
    @lists_behind_calls (.tuple [.text "name", .text "score"]) [[.text "Zoe", .int 9]] _ rfl
      scoreCalls
  have hlast := (hlists.at_index (.int (-1)) (-1) rfl).of_getElem? 2 rfl rfl
  have hsecond := (hlists.at_index (.bool true) 1 rfl).of_getElem? 1 rfl rfl
  have hbefore := (hlists.at_index (.int (-4)) (-4) rfl).of_not_bounds (by decide)
  have hbehind := (hlists.at_index (.int 3) 3 rfl).of_not_bounds (by decide)
  exact ⟨hlists.size, hlast.2, hsecond.1, hbefore.1, hbehind.2, hmappings (by decide)⟩

end Table
end Datalink
