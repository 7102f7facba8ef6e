import Datalink.Csv.Reader
import Datalink.Csv.Writer

/-!
# Reading tables back

Input: records one after the other, each with its line end.  The reader goes through a
field from the state at its start to a state in which a comma or a line end finishes it.
A line feed inside quotes ends a line as well, which changes nothing there.

Results: `run_field` and `run_record` say what the reader has read behind a field and
behind a record, whatever was read before, and `records_flatMap_record` that the records
of a table are read back, if no field is too long.  A record of one empty field is written
like a record without fields, and is not among them.
-/

namespace Datalink
namespace Csv
namespace Reading

variable {r r' : Reading} {c : CodePoint} {rest : Text}

/-- A code point that does not end a line is one step. -/
theorem run_cons
    (h : r.step c = .ok r') (hc : c ≠ .scalar '\n') (hrest : rest ≠ []) :
    r.run (c :: rest) = r'.run rest := by
  rw [run, h]
  simp [hc, hrest]

/-- Inside quotes every code point is one step, also one that ends a line. -/
theorem run_cons_quoted
    (h : r.step c = .ok r') (hplace : r'.place = .quoted) (hrest : rest ≠ []) :
    r.run (c :: rest) = r'.run rest := by
  have hended : r'.endLine = r' := by
    simp [endLine, hplace]
  rw [run, h]
  simp [hrest, hended, hplace]

theorem isSpecial_iff
    (c : CodePoint) :
    isSpecial c = false ↔ isLineEnd c = false ∧ c ≠ .scalar ',' ∧ c ≠ .scalar '"' := by
  simp only [isSpecial, isLineEnd, Bool.or_eq_false_iff, beq_eq_false_iff_ne]
  grind

theorem ne_feed_of_isSpecial
    (h : isSpecial c = false) :
    c ≠ .scalar '\n' := by
  rintro rfl
  cases h

/-- Code points that are not special are put into a field without quotes. -/
theorem run_unquoted
    {t : Text} (ht : ∀ c ∈ t, isSpecial c = false) (hrest : rest ≠ []) (field : Text)
    (room : Nat) (fields : List Text) :
    run ⟨.unquoted, field, room + t.length, fields⟩ (t ++ rest) =
      run ⟨.unquoted, t.reverse ++ field, room, fields⟩ rest := by
  induction t generalizing field with
  | nil =>
      rfl
  | cons c t ih =>
      have hc := ht c List.mem_cons_self
      obtain ⟨hend, hcomma, -⟩ := (isSpecial_iff c).mp hc
      have hstep : step ⟨.unquoted, field, room + (c :: t).length, fields⟩ c =
          .ok ⟨.unquoted, c :: field, room + t.length, fields⟩ := by
        simp [step, add, hend, hcomma, ← Nat.add_assoc]
      rw [List.cons_append, run_cons hstep (ne_feed_of_isSpecial hc) (by simp [hrest]),
        ih (fun d hd => ht d (List.mem_cons_of_mem c hd))]
      simp

/-- Code points in quotes are put into a field, a quote that is written twice once. -/
theorem run_quoted
    (t : Text) (hrest : rest ≠ []) (field : Text) (room : Nat) (fields : List Text) :
    run ⟨.quoted, field, room + t.length, fields⟩
        (Text.replace t (.scalar '"') "\"\"" ++ rest) =
      run ⟨.quoted, t.reverse ++ field, room, fields⟩ rest := by
  induction t generalizing field with
  | nil =>
      rfl
  | cons c t ih =>
      have hbehind : Text.replace t (.scalar '"') "\"\"" ++ rest ≠ [] := by
        simp [hrest]
      have hadd : ∀ place, add ⟨place, field, room + (c :: t).length, fields⟩ c .quoted =
          .ok ⟨.quoted, c :: field, room + t.length, fields⟩ := by
        intro place
        simp [add, ← Nat.add_assoc]
      by_cases hc : c = .scalar '"'
      · have hopen : step ⟨.quoted, field, room + (c :: t).length, fields⟩ c =
            .ok ⟨.quoteSeen, field, room + (c :: t).length, fields⟩ := by
          simp [step, hc]
        have hagain : step ⟨.quoteSeen, field, room + (c :: t).length, fields⟩ c =
            .ok ⟨.quoted, c :: field, room + t.length, fields⟩ := by
          rw [← hadd .quoteSeen]
          simp [step, hc]
        have htwice : Text.replace (c :: t) (.scalar '"') "\"\"" ++ rest =
            c :: c :: (Text.replace t (.scalar '"') "\"\"" ++ rest) := by
          rw [hc, Text.replace_cons_self]
          rfl
        rw [htwice, run_cons hopen (by rw [hc]; decide) (by simp),
          run_cons_quoted hagain rfl hbehind, ih]
        simp
      · have hstep : step ⟨.quoted, field, room + (c :: t).length, fields⟩ c =
            .ok ⟨.quoted, c :: field, room + t.length, fields⟩ := by
          rw [← hadd .quoted]
          simp [step, hc]
        rw [Text.replace_cons_of_ne hc, List.cons_append,
          run_cons_quoted hstep rfl hbehind, ih]
        simp

/-- The state behind a field that was finished. -/
def finished (place : Place) (t : Text) (fields : List Text) : Reading :=
  ⟨place, [], fieldLimit, t :: fields⟩

/-- A field is read up to a state in which a comma finishes it.  A line end finishes it as
well, unless it is an empty field at the start of a record. -/
theorem run_field
    {start : Place} (hstart : start = .recordStart ∨ start = .fieldStart) {t : Text}
    (ht : t.length ≤ fieldLimit) (fields : List Text) (hrest : rest ≠ []) :
    ∃ r : Reading, run ⟨start, [], fieldLimit, fields⟩ (Csv.field t ++ rest) = r.run rest ∧
      r.step (.scalar ',') = .ok (finished .fieldStart t fields) ∧
        (start = .fieldStart ∨ t ≠ [] →
          r.step (.scalar '\r') = .ok (finished .lineEnd t fields)) := by
  obtain ⟨room, hroom⟩ := Nat.exists_eq_add_of_le' ht
  by_cases hspecial : t.any isSpecial = true
  · -- The field is in quotes: the state behind it has seen the closing one.
    refine ⟨⟨.quoteSeen, t.reverse, room, fields⟩, ?_, ?_, fun _ => ?_⟩
    · have hquoted : Csv.field t ++ rest =
          .scalar '"' :: (Text.replace t (.scalar '"') "\"\"" ++ .scalar '"' :: rest) := by
        simp [Csv.field, hspecial, quotedField]
      have hopen : step ⟨start, [], fieldLimit, fields⟩ (.scalar '"') =
          .ok ⟨.quoted, [], fieldLimit, fields⟩ := by
        rcases hstart with rfl | rfl <;> rfl
      have hclose : step ⟨.quoted, t.reverse, room, fields⟩ (.scalar '"') =
          .ok ⟨.quoteSeen, t.reverse, room, fields⟩ := by
        rfl
      have hbehind : (.scalar '"' :: rest : Text) ≠ [] := by
        simp
      have hinside := run_quoted t hbehind [] room fields
      rw [hquoted, run_cons_quoted hopen rfl (by simp), hroom, hinside, List.append_nil,
        run_cons hclose (by decide) hrest]
    · simp [step, save, finished]
    · simp [step, isLineEnd, save, finished]
  · have hplain : ∀ c ∈ t, isSpecial c = false := by
      simpa using hspecial
    have hfield : Csv.field t = t := by
      simp [Csv.field, hspecial]
    cases t with
    | nil =>
        -- The field is empty: the state is the one at its start.
        refine ⟨⟨start, [], fieldLimit, fields⟩, rfl, ?_, ?_⟩
        · rcases hstart with rfl | rfl <;> rfl
        · rintro (rfl | hne)
          · rfl
          · exact absurd rfl hne
    | cons c t =>
        refine ⟨⟨.unquoted, (c :: t).reverse, room, fields⟩, ?_, ?_, fun _ => ?_⟩
        · have hc := hplain c List.mem_cons_self
          obtain ⟨hend, hcomma, hquote⟩ := (isSpecial_iff c).mp hc
          have hlimit : fieldLimit = room + t.length + 1 := hroom
          have hstep : step ⟨start, [], fieldLimit, fields⟩ c =
              .ok ⟨.unquoted, [c], room + t.length, fields⟩ := by
            rw [hlimit]
            rcases hstart with rfl | rfl <;>
              simp [step, startField, add, hend, hcomma, hquote]
          rw [hfield, List.cons_append,
            run_cons hstep (ne_feed_of_isSpecial hc) (by simp [hrest]),
            run_unquoted (fun d hd => hplain d (List.mem_cons_of_mem c hd)) hrest]
          simp
        · simp [step, isLineEnd, save, finished]
        · simp [step, isLineEnd, save, finished]

/-- A carriage return and a line feed behind a field end its record. -/
theorem run_lineEnd
    {t : Text} {before : List Text}
    (h : r.step (.scalar '\r') = .ok (finished .lineEnd t before)) (rest : Text) :
    r.run (.scalar '\r' :: .scalar '\n' :: rest) =
      (run fresh rest).map ((before.reverse ++ [t]) :: ·) := by
  have hfeed : step (finished .lineEnd t before) (.scalar '\n') =
      .ok (finished .lineEnd t before) := by
    rfl
  rw [run_cons h (by decide) (by simp), run, hfeed]
  simp only [true_or, if_pos, endLine, finished, record, List.reverse_cons]
  cases run fresh rest <;> rfl

/-- A record is read up to its end, behind the fields that were read before. -/
theorem run_record
    {start : Place} (hstart : start = .recordStart ∨ start = .fieldStart)
    {fields : List Text} (hne : fields ≠ [])
    (hsingle : start = .fieldStart ∨ fields ≠ [[]])
    (hlimit : ∀ t ∈ fields, t.length ≤ fieldLimit) (before : List Text) (rest : Text) :
    run ⟨start, [], fieldLimit, before⟩ (Csv.record fields ++ rest) =
      (run fresh rest).map ((before.reverse ++ fields) :: ·) := by
  -- Only the first field can stand at the start of a record, so that the start varies.
  induction fields generalizing start before with
  | nil =>
      exact absurd rfl hne
  | cons t fields ih =>
      have ht := hlimit t List.mem_cons_self
      cases fields with
      | nil =>
          have hsplit : Csv.record [t] ++ rest =
              Csv.field t ++ .scalar '\r' :: .scalar '\n' :: rest := by
            simp [Csv.record, Text.join, Text.ofString]
          have hbehind : (.scalar '\r' :: .scalar '\n' :: rest : Text) ≠ [] := by
            simp
          obtain ⟨r, hfield, -, hend⟩ := run_field hstart ht before hbehind
          have hfilled : start = .fieldStart ∨ t ≠ [] := by
            rcases hsingle with h | h
            · exact .inl h
            · exact .inr fun hnil => h (by rw [hnil])
          rw [hsplit, hfield, run_lineEnd (hend hfilled)]
      | cons next fields =>
          have hsplit : Csv.record (t :: next :: fields) ++ rest =
              Csv.field t ++ .scalar ',' :: (Csv.record (next :: fields) ++ rest) := by
            simp [Csv.record, Text.join, Text.ofString]
          have hcommaed : .scalar ',' :: (Csv.record (next :: fields) ++ rest) ≠ [] := by
            simp
          have hbehind : Csv.record (next :: fields) ++ rest ≠ [] := by
            simp [Csv.record, Text.ofString]
          obtain ⟨r, hfield, hcomma, -⟩ := run_field hstart ht before hcommaed
          rw [hsplit, hfield, run_cons hcomma (by decide) hbehind, finished,
            ih (.inr rfl) (by simp) (.inl rfl)
              (fun u hu => hlimit u (List.mem_cons_of_mem t hu))]
          simp

end Reading

/-- A record that is read back: it has fields, not just an empty one, and none of them is
too long. -/
structure Readable (fields : List Text) : Prop where
  fields_ne : fields ≠ []
  single_ne : fields ≠ [[]]
  length_le : ∀ t ∈ fields, t.length ≤ fieldLimit

/-- The records of a table are read back. -/
theorem records_flatMap_record
    {rows : List (List Text)} (h : ∀ row ∈ rows, Readable row) :
    records (rows.flatMap record) = .ok rows := by
  unfold records
  induction rows with
  | nil =>
      rfl
  | cons row rows ih =>
      have hrow := h row List.mem_cons_self
      have hread : Reading.fresh.run (record row ++ rows.flatMap record) =
          (Reading.fresh.run (rows.flatMap record)).map (row :: ·) :=
        Reading.run_record (.inl rfl) hrow.fields_ne (.inr hrow.single_ne) hrow.length_le []
          (rows.flatMap record)
      rw [List.flatMap_cons, hread, ih fun r hr => h r (List.mem_cons_of_mem row hr)]
      rfl

/-- A record with as many fields as there are keys, no two of them the same, has every
field under its key. -/
theorem mapping_of_length_eq
    {keys fields : List Text} (hkeys : keys.Nodup) (hlength : fields.length = keys.length) :
    mapping keys fields =
      .mapping ((keys.zip fields).map fun e => (.text e.1, .text e.2)) := by
  have hnodup : ((keys.zip (fields.map Value.text)).map Prod.fst).Nodup := by
    rw [List.map_fst_zip (by simp [hlength])]
    exact hkeys
  have hmissing : keys.drop fields.length = [] := by
    rw [hlength, List.drop_length]
  have hsurplus : fields.drop keys.length = [] := by
    rw [← hlength, List.drop_length]
  simp only [mapping, hmissing, hsurplus, List.map_nil, List.append_nil,
    Assoc.ofList_of_nodup hnodup, if_pos]
  rw [List.zip_map_right, List.map_map]
  rfl

end Csv
end Datalink
