import Datalink.Proofs.Csv.Reading
import Datalink.Proofs.Journal.Writing

/-!
# Journals that are tables

Input: a journal of comma-separated values that every write appends to, on a file that is
not there or empty, and batches of any entries.  A batch with a field that has no text, or
whose text holds a surrogate, is not written; the second kind is found out about when the
file is open, and leaves an empty file behind if there was none.

Results: which batches are written, that the file has its header once and then one record
for each entry of these batches, and that it is read back as their fields.  The header is
written by the first batch that is written, since the file is empty before it.
-/

namespace Datalink

namespace Text

theorem encodable_flatMap
    {α : Type} (f : α → Text) (as : List α) :
    encodable (as.flatMap f) = as.all fun a => encodable (f a) := by
  induction as with
  | nil =>
      rfl
  | cons a as ih =>
      simp [ih]

/-- Replacing one code point that is no surrogate by others that are none makes no
difference. -/
theorem encodable_replace
    (t : Text) {target : CodePoint} (htarget : target.isSurrogate = false)
    {replacement : Text} (h : encodable replacement = true) :
    encodable (replace t target replacement) = encodable t := by
  induction t with
  | nil =>
      rfl
  | cons c t ih =>
      by_cases hc : c = target
      · rw [hc, replace_cons_self, encodable_append, encodable_cons, h, htarget, ih]
        rfl
      · rw [replace_cons_of_ne hc, encodable_cons, encodable_cons, ih]

end Text

namespace Csv

theorem encodable_field
    (t : Text) :
    Text.encodable (field t) = Text.encodable t := by
  have hquotes : Text.encodable "\"\"" = true := by
    decide
  have hquote : CodePoint.isSurrogate (.scalar '"') = false := by
    rfl
  unfold field
  split
  · rw [quotedField, Text.encodable_append, Text.encodable_append,
      Text.encodable_replace t hquote hquotes]
    simp [Text.encodable, CodePoint.isSurrogate]
  · rfl

/-- A record can be encoded if and only if its fields can. -/
theorem encodable_record
    (fields : List Text) :
    Text.encodable (record fields) = fields.all Text.encodable := by
  have hcomma : Text.encodable "," = true := by
    decide
  have hend : Text.encodable "\r\n" = true := by
    decide
  cases fields with
  | nil =>
      decide
  | cons t fields =>
      simp [record, Text.join_cons, Text.encodable_flatMap, encodable_field, hcomma, hend,
        Function.comp_def]

end Csv

namespace Journal

/-! ## Fields of entries -/

/-- A value as a field is shown: nothing for no value, a text as it is, and any other value
as its displayed form. -/
def shown (v : Value) : Text :=
  match v.face with
  | .null => []
  | .text t => t
  | _ => v.display

/-- What stands in a list is shown in its printed form, and there a code point that stands for
no character is written by its number. -/
example :
    shown (.list [.int 1, .date ⟨2020, 1, 2⟩, .text [.ofCode 0x378]]) =
      "[1, datetime.date(2020, 1, 2), '\\u0378']" := by
  decide +kernel

/-- The field of an entry under a name; a missing one is empty. -/
def fieldText (e : Entry) (name : Text) : Text :=
  ((Keyed.get? (.text name) e).map shown).getD []

/-- The fields of an entry in order. -/
def row (e : Entry) : List Text := header.map (fieldText e)

/-- Whether the field of an entry under a name has a text. -/
def hasText (e : Entry) (name : Text) : Bool := (cell (fieldOr e name (.text []))).isOk

/-- Whether an entry can be a record: its fields have texts, and these can be encoded. -/
def tabular (e : Entry) : Bool :=
  header.all fun name => hasText e name && (fieldText e name).encodable

/-- A computation gives a result under a condition, and fails otherwise. -/
def Yields {α : Type} (condition : Bool) (a : α) (x : Except Fault α) : Prop :=
  condition = true ∧ x = .ok a ∨ condition = false ∧ ∃ f, x = .error f

theorem yields_cell
    (v : Value) :
    Yields (cell v).isOk (shown v) (cell v) := by
  have hwords : ∀ t, v.words = .ok t → t = v.display := by
    intro t h
    unfold Value.words at h
    split at h <;> cases h
    rfl
  unfold cell
  split
  · rename_i hface
    exact .inl ⟨rfl, by simp [shown, hface]⟩
  · rename_i hface
    exact .inl ⟨rfl, by simp [shown, hface]⟩
  · rename_i hnull htext
    have hshown : shown v = v.display := by
      unfold shown
      split
      · exact absurd ‹_› hnull
      · exact absurd ‹_› (htext _)
      · rfl
    cases h : v.words with
    | error f =>
        exact .inr ⟨rfl, f, rfl⟩
    | ok t =>
        exact .inl ⟨rfl, by rw [hwords t h, hshown]⟩

theorem yields_cell_fieldOr
    (e : Entry) (name : Text) :
    Yields (hasText e name) (fieldText e name) (cell (fieldOr e name (.text []))) := by
  have hshown : shown (fieldOr e name (.text [])) = fieldText e name := by
    unfold fieldOr fieldText
    cases Keyed.get? (.text name) e <;> rfl
  rw [← hshown]
  exact yields_cell _

theorem yields_cells
    (e : Entry) (names : List Text) :
    Yields (names.all (hasText e)) (names.map (fieldText e)) (cells e names) := by
  induction names with
  | nil =>
      exact .inl ⟨rfl, rfl⟩
  | cons name names ih =>
      unfold cells
      rcases yields_cell_fieldOr e name with ⟨hname, hcell⟩ | ⟨hname, f, hcell⟩
      · rcases ih with ⟨hnames, hcells⟩ | ⟨hnames, f, hcells⟩
        · exact .inl ⟨by simp [hname, hnames], by simp [hcell, hcells]⟩
        · exact .inr ⟨by simp [hname, hnames], f, by simp [hcell, hcells]⟩
      · exact .inr ⟨by simp [hname], f, by simp [hcell]⟩

/-- Whether all fields of an entry have texts. -/
def hasTexts (e : Entry) : Bool := header.all (hasText e)

theorem yields_csvRecord
    (e : Entry) :
    Yields (hasTexts e) (Csv.record (row e)) (csvRecord e) := by
  unfold csvRecord
  rcases yields_cells e header with ⟨hall, hcells⟩ | ⟨hall, f, hcells⟩
  · exact .inl ⟨hall, by rw [hcells]; rfl⟩
  · exact .inr ⟨hall, f, by rw [hcells]⟩

/-- The records of entries one after the other. -/
def recordsText (entries : List Entry) : Text := (entries.map row).flatMap Csv.record

theorem yields_collect
    (entries : List Entry) :
    Yields (entries.all hasTexts) (recordsText entries) (collect csvRecord entries) := by
  induction entries with
  | nil =>
      exact .inl ⟨rfl, rfl⟩
  | cons e entries ih =>
      unfold collect
      rcases yields_csvRecord e with ⟨hone, hrecord⟩ | ⟨hone, f, hrecord⟩
      · rcases ih with ⟨hall, hcollect⟩ | ⟨hall, f, hcollect⟩
        · exact .inl ⟨by simp [hone, hall], by simp [hrecord, hcollect, recordsText]⟩
        · exact .inr ⟨by simp [hone, hall], f, by simp [hrecord, hcollect]⟩
      · exact .inr ⟨by simp [hone], f, by simp [hrecord]⟩

/-- The text of a table of entries, under a header or not. -/
def tablePart (withHeader : Bool) (entries : List Entry) : Text :=
  (if withHeader then Csv.record header else []) ++ recordsText entries

theorem yields_csvText
    (withHeader : Bool) (entries : List Entry) :
    Yields (entries.all hasTexts) (tablePart withHeader entries)
      (csvText withHeader entries) := by
  unfold csvText
  rcases yields_collect entries with ⟨hall, hcollect⟩ | ⟨hall, f, hcollect⟩
  · exact .inl ⟨hall, by rw [hcollect]; rfl⟩
  · exact .inr ⟨hall, f, by rw [hcollect]⟩

theorem encodable_header :
    Text.encodable (Csv.record header) = true := by
  decide

/-- The text of a table can be encoded if and only if the fields of its entries can. -/
theorem encodable_tablePart
    (withHeader : Bool) (entries : List Entry) :
    Text.encodable (tablePart withHeader entries) =
      entries.all fun e => (row e).all Text.encodable := by
  have hfront : Text.encodable (if withHeader then Csv.record header else []) = true := by
    cases withHeader
    · rfl
    · exact encodable_header
  rw [tablePart, Text.encodable_append, hfront, recordsText, Text.encodable_flatMap,
    List.all_map]
  simp [Csv.encodable_record, Function.comp_def]

/-- Entries can be records if and only if their fields have texts and these can be
encoded. -/
theorem all_tabular_eq
    (entries : List Entry) :
    entries.all tabular =
      (entries.all hasTexts && entries.all fun e => (row e).all Text.encodable) := by
  rw [Bool.eq_iff_iff]
  simp only [tabular, hasTexts, row, List.all_eq_true, Bool.and_eq_true, List.all_map,
    Function.comp_apply]
  constructor
  · intro h
    exact ⟨fun e he name hname => (h e he name hname).1,
      fun e he name hname => (h e he name hname).2⟩
  · rintro ⟨htexts, hencodable⟩ e he name hname
    exact ⟨htexts e he name hname, hencodable e he name hname⟩

/-! ## One write -/

/-- The text of a journal whose header was written, with the entries below it, or of one
without a header. -/
def tableText : Option (List Entry) → Text
  | none => []
  | some entries => tablePart true entries

/-- What stands in a journal's file: a table, or nothing, and then the file may not be
there. -/
def HoldsTable (files : FileTree) (p : Path) (table : Option (List Entry)) : Prop :=
  files.node? p = some (.file (tableText table)) ∨ files.node? p = none ∧ table = none

theorem HoldsTable.opened
    {files : FileTree} {p : Path} {table : Option (List Entry)}
    (h : HoldsTable files p table) :
    files.opened .append p = tableText table := by
  rcases h with h | ⟨h, rfl⟩ <;>
    simp [FileTree.opened, FileTree.content, FileTree.content?, h, tableText]

/-- The header is asked for as long as it was not written. -/
theorem HoldsTable.needsHeader
    {files : FileTree} {path : Path} {table : Option (List Entry)}
    (h : HoldsTable files path table) (hopen : files.checkOpen path = .ok ()) :
    Journal.needsHeader ⟨path, .append, .csv⟩ files = table.isNone := by
  unfold Journal.needsHeader
  dsimp only
  rw [FileTree.seen?_of_checkOpen hopen]
  rcases h with h | ⟨h, rfl⟩
  · rw [h]
    cases table <;> rfl
  · rw [h]
    rfl

/-- The table behind a batch, by whether the batch was written. -/
def extended (table : Option (List Entry)) (batch : List Entry) (done : Bool) :
    Option (List Entry) :=
  if done then some (table.getD [] ++ batch) else table

theorem tableText_extended
    (table : Option (List Entry)) (batch : List Entry) :
    tableText table ++ tablePart table.isNone batch =
      tableText (extended table batch true) := by
  cases table <;> simp [tableText, tablePart, extended, recordsText]

/-- What is known of a journal's file behind a write: whether the write was done, that the
file can be opened as before, and the table in it. -/
structure TableStep (files files' : FileTree) (path : Path) (table : Option (List Entry))
    (batch : List Entry) (done : Bool) : Prop where
  done_eq : done = ((files.checkOpen path).isOk && batch.all tabular)
  open_eq : (files'.checkOpen path).isOk = (files.checkOpen path).isOk
  holds : HoldsTable files' path (extended table batch done)

/-- A batch is written if and only if the file can be opened and all entries can be
records.  It is added to the table then, and otherwise the table stays. -/
theorem tableStep_write
    {files : FileTree} {path : Path} {table : Option (List Entry)}
    (h : HoldsTable files path table) (batch : List Entry) :
    TableStep files (Journal.write ⟨path, .append, .csv⟩ files batch).1 path table batch
      (Journal.write ⟨path, .append, .csv⟩ files batch).2.isOk := by
  have hrendered := yields_csvText
    (Journal.needsHeader ⟨path, .append, .csv⟩ files) batch
  have hwrote := wrote_write ⟨path, .append, .csv⟩ files batch
  generalize (Journal.write ⟨path, .append, .csv⟩ files batch).1 = files',
    (Journal.write ⟨path, .append, .csv⟩ files batch).2 = o at hwrote
  cases hwrote with
  | @refused f hrefused =>
      refine ⟨?_, rfl, h⟩
      rcases hrendered with ⟨htexts, hrender⟩ | ⟨htexts, -⟩
      · cases hopen : files.checkOpen path with
        | error g =>
            rfl
        | ok _ =>
            exact absurd hopen (hrefused _ hrender)
      · rw [all_tabular_eq, htexts, Bool.false_and, Bool.and_false]
        rfl
  | @opened text f hrender hopen htext =>
      rcases hrendered with ⟨htexts, hrender'⟩ | ⟨-, g, hrender'⟩
      · obtain rfl := Except.ok.inj (hrender'.symm.trans hrender)
        rw [encodable_tablePart] at htext
        refine ⟨?_, ?_, .inl ?_⟩
        · rw [all_tabular_eq, htext, Bool.and_false, Bool.and_false]
          rfl
        · rw [FileTree.checkOpen_put_file hopen, hopen]
        · rw [FileTree.node?_put_self, h.opened]
          rfl
      · cases hrender'.symm.trans hrender
  | @done text hrender hopen htext =>
      rcases hrendered with ⟨htexts, hrender'⟩ | ⟨-, g, hrender'⟩
      · obtain rfl := Except.ok.inj (hrender'.symm.trans hrender)
        have hall : batch.all tabular = true := by
          rw [all_tabular_eq, htexts, ← encodable_tablePart, htext]
          rfl
        refine ⟨?_, ?_, .inl ?_⟩
        · rw [hopen, hall]
          rfl
        · rw [FileTree.checkOpen_put_file hopen, hopen]
        · rw [FileTree.node?_put_self, h.opened, h.needsHeader hopen, tableText_extended]
          rfl
      · cases hrender'.symm.trans hrender

/-! ## A run of writes -/

/-- The entries of the batches that were written, given what became of every batch. -/
def entriesDone (batches : List (List Entry)) (outcomes : List (Except Fault Unit)) :
    List Entry :=
  (batches.zip outcomes).flatMap fun p => if p.2.isOk then p.1 else []

/-- Behind a run of writes the file holds the table with the entries of the batches that
were written, and a header if one was. -/
theorem holdsTable_writeAll
    {path : Path} {files : FileTree} {table : Option (List Entry)}
    (h : HoldsTable files path table) (batches : List (List Entry)) :
    let after := writeAll ⟨path, .append, .csv⟩ files batches
    after.2.map Except.isOk =
        batches.map (fun batch => (files.checkOpen path).isOk && batch.all tabular) ∧
      (after.1.checkOpen path).isOk = (files.checkOpen path).isOk ∧
        ∃ table', HoldsTable after.1 path table' ∧
          table'.getD [] = table.getD [] ++ entriesDone batches after.2 ∧
            table'.isSome = (table.isSome || after.2.any Except.isOk) := by
  -- Whether the file can be opened is decided by the first batch and stays as it is.
  induction batches generalizing files table with
  | nil =>
      exact ⟨rfl, rfl, table, h, by simp [writeAll, entriesDone], by simp [writeAll]⟩
  | cons batch batches ih =>
      have hstep := tableStep_write h batch
      obtain ⟨hdone, hopen, table', hholds, hentries, hsome⟩ := ih hstep.holds
      rw [hstep.open_eq] at hdone hopen
      refine ⟨?_, hopen, table', hholds, ?_, ?_⟩
      · rw [writeAll, List.map_cons, List.map_cons, hdone, hstep.done_eq]
      · rw [hentries]
        simp only [writeAll, entriesDone, List.zip_cons_cons, List.flatMap_cons]
        unfold extended
        split <;> simp
      · rw [hsome]
        simp only [writeAll, List.any_cons]
        unfold extended
        split <;> simp_all

/-- The fields of an entry that have texts are short enough to be read. -/
def Fits (e : Entry) : Prop :=
  ∀ name ∈ header, ∀ t ∈ (cell (fieldOr e name (.text []))).toOption,
    t.length ≤ Csv.fieldLimit

/-- An entry as it is read back: its fields, every one a text, under the names of the
header. -/
def rowValue (e : Entry) : Value :=
  .mapping (header.map fun name => (.text name, .text (fieldText e name)))

theorem readable_header :
    Csv.Readable header := by
  constructor <;> decide

theorem readable_row
    {e : Entry} (htexts : hasTexts e = true) (hfits : Fits e) :
    Csv.Readable (row e) := by
  refine ⟨by simp [row, header], by simp [row, header], fun t ht => ?_⟩
  obtain ⟨name, hname, rfl⟩ := List.mem_map.mp ht
  have hname' : hasText e name = true := List.all_eq_true.mp htexts name hname
  rcases yields_cell_fieldOr e name with ⟨-, hcell⟩ | ⟨hno, -⟩
  · exact hfits name hname _ (by rw [hcell]; rfl)
  · rw [hname'] at hno
    cases hno

theorem mapping_row
    (e : Entry) :
    Csv.mapping header (row e) = rowValue e := by
  rw [Csv.mapping_of_length_eq (by decide) (by simp [row])]
  rfl

/-- The text of a table is read as its entries. -/
theorem parse_tableText
    {entries : List Entry} (h : ∀ e ∈ entries, hasTexts e = true ∧ Fits e) :
    parse .csv (tableText (some entries)) = .ok (entries.map rowValue) := by
  have hsplit : tableText (some entries) = (header :: entries.map row).flatMap Csv.record := by
    rfl
  have hrows : ∀ fields ∈ header :: entries.map row, Csv.Readable fields := by
    intro fields hfields
    rcases List.mem_cons.mp hfields with rfl | hfields
    · exact readable_header
    · obtain ⟨e, he, rfl⟩ := List.mem_map.mp hfields
      exact readable_row (h e he).1 (h e he).2
  have hkept : (entries.map row).filter (fun fields => !fields.isEmpty) = entries.map row := by
    rw [List.filter_eq_self]
    intro fields hfields
    obtain ⟨e, -, rfl⟩ := List.mem_map.mp hfields
    rfl
  simp only [parse, hsplit, Csv.records_flatMap_record hrows, Csv.mappings, hkept,
    List.map_map]
  exact congrArg Except.ok (List.map_congr_left fun e _ => mapping_row e)

theorem entriesDone_eq
    {batches : List (List Entry)} {outcomes : List (Except Fault Unit)}
    {f : List Entry → Bool} (h : outcomes.map Except.isOk = batches.map f) :
    entriesDone batches outcomes = (batches.filter f).flatten := by
  induction batches generalizing outcomes with
  | nil =>
      rfl
  | cons batch batches ih =>
      cases outcomes with
      | nil =>
          cases h
      | cons o outcomes =>
          obtain ⟨hone, hothers⟩ := List.cons.inj h
          have hrest := ih hothers
          simp only [entriesDone] at hrest
          simp only [entriesDone, List.zip_cons_cons, List.flatMap_cons, hrest, hone,
            List.filter_cons]
          split <;> simp

/-- A batch is written to a table if and only if the file can be opened and all entries can
be records.  If one was written, the file has the header and then the record of every entry
of the batches that were written, and these entries are read back in order. -/
theorem read_writeAll_table
    (path : Path) {files : FileTree}
    (hnew : files.node? path = none ∨ files.node? path = some (.file []))
    {batches : List (List Entry)} (hfits : ∀ batch ∈ batches, ∀ e ∈ batch, Fits e) :
    let after := writeAll ⟨path, .append, .csv⟩ files batches
    let entries := entriesDone batches after.2
    after.2.map Except.isOk =
        batches.map (fun batch => (files.checkOpen path).isOk && batch.all tabular) ∧
      ((∃ o ∈ after.2, o.isOk = true) →
        after.1.content? path =
            some (Csv.record header ++ (entries.map row).flatMap Csv.record) ∧
          read ⟨path, .append, .csv⟩ after.1 = .ok (entries.map rowValue)) := by
  intro after entries
  have hempty : HoldsTable files path none := by
    rcases hnew with h | h
    · exact .inr ⟨h, rfl⟩
    · exact .inl h
  obtain ⟨hdone, hopen, table, hholds, hentries, hsome⟩ := holdsTable_writeAll hempty batches
  refine ⟨hdone, fun ⟨o, ho, hok⟩ => ?_⟩
  have htable : table = some entries := by
    have hone : after.2.any Except.isOk = true := List.any_eq_true.mpr ⟨o, ho, hok⟩
    cases table with
    | none =>
        rw [hone] at hsome
        cases hsome
    | some entries' =>
        exact congrArg some hentries
  -- Some batch was written, so that the file can be opened, then and now.
  have hopened : (files.checkOpen path).isOk = true := by
    have hmem : true ∈ after.2.map Except.isOk := List.mem_map.mpr ⟨o, ho, hok⟩
    rw [hdone] at hmem
    obtain ⟨batch, -, hbatch⟩ := List.mem_map.mp hmem
    exact (Bool.and_eq_true_iff.mp hbatch).1
  have hnode : after.1.node? path = some (.file (tableText (some entries))) := by
    rw [htable] at hholds
    rcases hholds with h | ⟨-, hnone⟩
    · exact h
    · cases hnone
  have hseen : after.1.seen? path = after.1.node? path := by
    rw [hopened] at hopen
    cases hcheck : after.1.checkOpen path with
    | error f =>
        rw [hcheck] at hopen
        cases hopen
    | ok _ =>
        exact FileTree.seen?_of_checkOpen hcheck
  refine ⟨by simp [FileTree.content?, hnode, tableText, tablePart, recordsText], ?_⟩
  rw [read, FileTree.load, hseen, hnode]
  refine parse_tableText fun e he => ?_
  have hwithin : e ∈ entriesDone batches after.2 := he
  rw [entriesDone_eq hdone] at hwithin
  obtain ⟨batch, hbatch, he⟩ := List.mem_flatten.mp hwithin
  obtain ⟨hmem, hwritten⟩ := List.mem_filter.mp hbatch
  have hall : batch.all tabular = true := (Bool.and_eq_true_iff.mp hwritten).2
  rw [all_tabular_eq] at hall
  exact ⟨List.all_eq_true.mp (Bool.and_eq_true_iff.mp hall).1 e he, hfits batch hmem e he⟩

/-- An entry with fields that need quotes, with values of other types, and without some of
the fields. -/
def sparseEntry : Entry :=
  [(.text "name", .text [.scalar '"', .scalar ',', .scalar '\r', .scalar '\n', .scalar '\x00']),
    (.text "sql", .null), (.text "params", .tuple [.int 1, .text "x"]),
    (.text "success", .bool true)]

/-- An entry with a surrogate. -/
def surrogateEntry : Entry := [(.text "name", .text [.ofCode 0xD800])]

/-- The file is made by a batch that is not written, and has its header once behind two
that are. -/
theorem read_writeAll_sparseEntry :
    let path : Path := ⟨["m.csv"], false⟩
    let batches := [[surrogateEntry], [], [sparseEntry, sparseEntry], [surrogateEntry]]
    let after := writeAll ⟨path, .append, .csv⟩ bareTree batches
    (∀ batch ∈ batches, ∀ e ∈ batch, Fits e) ∧
      after.2.map Except.isOk = [false, true, true, false] ∧
        read ⟨path, .append, .csv⟩ after.1 =
          .ok [rowValue sparseEntry, rowValue sparseEntry] := by
  intro path batches after
  have hnew : bareTree.node? path = none := by
    decide +kernel
  have hfits : ∀ batch ∈ batches, ∀ e ∈ batch, Fits e := by
    have hsurrogate : Fits surrogateEntry := by
      unfold Fits
      decide +kernel
    have hsparse : Fits sparseEntry := by
      unfold Fits
      decide +kernel
    simp [batches, hsurrogate, hsparse]
  have hopen : (bareTree.checkOpen path).isOk = true := by
    decide +kernel
  have hsurrogate : tabular surrogateEntry = false := by
    decide +kernel
  have hsparse : tabular sparseEntry = true := by
    decide +kernel
  obtain ⟨hdone, hread⟩ := read_writeAll_table path (.inl hnew) hfits
  have hmarks : after.2.map Except.isOk = [false, true, true, false] := by
    rw [hdone]
    simp [batches, hopen, hsurrogate, hsparse]
  have hone : ∃ o ∈ after.2, o.isOk = true :=
    List.mem_map.mp (by rw [hmarks]; decide : true ∈ after.2.map Except.isOk)
  obtain ⟨-, hread⟩ := hread hone
  refine ⟨hfits, hmarks, ?_⟩
  have hkept : (batches.filter fun batch =>
      (bareTree.checkOpen path).isOk && batch.all tabular).flatten =
        [sparseEntry, sparseEntry] := by
    simp [batches, List.filter_cons, hopen, hsurrogate, hsparse]
  rw [entriesDone_eq hdone, hkept] at hread
  exact hread

end Journal
end Datalink
