import Datalink.Proofs.Journal.Writing
import Datalink.Proofs.Json.Documents

/-!
# Journals of documents

Input: a journal in JSON on a file that is not there yet, and batches of entries that were
all written.  An entry has different texts for its keys, and under them values without
parts or lists of those.

Every entry is one line of printing ASCII, so that none of the code points that end lines
stands inside it, and none of the lines is blank.

Results: reading the journal gives the entries of all batches in order if writes append,
and the entries of the last batch if writes overwrite.
-/

namespace Datalink

namespace Json

/-- A code point that opens a value and is printing ASCII is not blank. -/
theorem not_blank_of_opener
    {c : CodePoint} (h : isInline c = true) (hc : Opener c) :
    c.isBlank = false := by
  have hspace : c.code ≠ 0x20 := by
    intro hcode
    have hc' : c = .scalar ' ' := CodePoint.code_injective hcode
    subst hc'
    cases hc.1
  rw [CodePoint.printsFrom_iff] at h
  exact CodePoint.not_blank_of_printsFrom
    ((CodePoint.printsFrom_iff _ _).mpr ⟨by omega, h.2⟩)

end Json

namespace Journal

/-! ## Lines of documents -/

/-- A text is made of lines that are documents of values. -/
inductive DocumentLines : Text → List Value → Prop
  | nil :
      DocumentLines [] []
  | cons
      {t text : Text} {v : Value} {vs : List Value}
      (hdecode : Json.decode t = .ok v)
      (hinline : Json.Inline t)
      (hopens : Json.Opens t)
      (h : DocumentLines text vs) :
      DocumentLines (t ++ .scalar '\n' :: text) (v :: vs)

theorem DocumentLines.append
    {s t : Text} {us vs : List Value} (hs : DocumentLines s us) (ht : DocumentLines t vs) :
    DocumentLines (s ++ t) (us ++ vs) := by
  induction hs with
  | nil =>
      exact ht
  | cons hdecode hinline hopens _ ih =>
      rw [List.append_assoc]
      exact .cons hdecode hinline hopens ih

/-- Lines of documents are read as the values of the documents. -/
theorem DocumentLines.parse
    {t : Text} {vs : List Value} (h : DocumentLines t vs) :
    Journal.parse .json t = .ok vs := by
  simp only [Journal.parse]
  induction h with
  | nil =>
      rfl
  | @cons t text v vs hdecode hinline hopens _ ih =>
      have hblank : Text.isBlank t = false := by
        obtain ⟨c, t', rfl, hc⟩ := hopens
        simp [Text.isBlank, Json.not_blank_of_opener (hinline c List.mem_cons_self) hc]
      rw [Text.lines_line fun c hc => CodePoint.not_break_of_printsFrom (hinline c hc), documents]
      simp [hblank, hdecode, ih]

/-- Entries that are readable as documents are written as lines of them. -/
theorem exists_documentLines
    {entries : List Entry}
    (h : ∀ e ∈ entries, Json.Readable Json.nestingLimit (.mapping e)) :
    ∃ text, collect jsonLine entries = .ok text ∧
      DocumentLines text (entries.map Value.mapping) := by
  induction entries with
  | nil =>
      exact ⟨[], rfl, .nil⟩
  | cons e entries ih =>
      obtain ⟨text, hcollect, hlines⟩ := ih fun e he => h e (List.mem_cons_of_mem _ he)
      obtain ⟨t, hencode, hdecode, hinline, hopens⟩ :=
        (h e List.mem_cons_self).decode_encode
      refine ⟨t ++ .scalar '\n' :: text, ?_, .cons hdecode hinline hopens hlines⟩
      simp [collect, jsonLine, hencode, hcollect, Text.ofString]

/-! ## The journal's file -/

/-- The journal's file holds the documents of entries, or is not there and there are
none. -/
def Holds (files : FileTree) (p : Path) (entries : List Entry) : Prop :=
  DocumentLines (files.content p) (entries.map Value.mapping) ∧
    (files.load p = .ok (some (files.content p)) ∨ files.load p = .ok none ∧ entries = [])

theorem holds_of_missing
    {files : FileTree} {p : Path} (h : files.node? p = none) :
    Holds files p [] := by
  have hcontent : files.content p = [] := by
    simp [FileTree.content, FileTree.content?, h]
  have hload : files.load p = .ok none := by
    simp [FileTree.load, FileTree.seen?, h]
  exact ⟨by rw [hcontent]; exact .nil, .inr ⟨hload, rfl⟩⟩

theorem read_of_holds
    {files : FileTree} {j : Journal} {entries : List Entry} (hformat : j.format = .json)
    (h : Holds files j.path entries) :
    j.read files = .ok (entries.map Value.mapping) := by
  obtain ⟨hlines, hload | ⟨hload, rfl⟩⟩ := h
  · rw [read, hload, hformat]
    exact hlines.parse
  · rw [read, hload]
    rfl

/-- The entries that are left of those in a file when it is opened. -/
def left (mode : WriteMode) (entries : List Entry) : List Entry :=
  match mode with
  | .overwrite => []
  | .append => entries

/-- The entries in a file when all batches were written to it, given those that were in it
before. -/
def retained (mode : WriteMode) (before : List Entry) (batches : List (List Entry)) :
    List Entry :=
  match mode with
  | .overwrite => batches.getLastD before
  | .append => before ++ batches.flatten

theorem retained_nil
    (mode : WriteMode) (before : List Entry) :
    retained mode before [] = before := by
  cases mode with
  | overwrite =>
      rfl
  | append =>
      simp [retained]

theorem retained_cons
    (mode : WriteMode) (before batch : List Entry) (batches : List (List Entry)) :
    retained mode before (batch :: batches) =
      retained mode (left mode before ++ batch) batches := by
  cases mode with
  | overwrite =>
      simp only [retained, left, List.nil_append, List.getLastD_cons]
  | append =>
      simp [retained, left]

/-- A batch that was written stands behind the entries that were left. -/
theorem holds_of_write
    {files : FileTree} {j : Journal} {entries batch : List Entry}
    (hformat : j.format = .json) (h : Holds files j.path entries)
    (hbatch : ∀ e ∈ batch, Json.Readable Json.nestingLimit (.mapping e))
    (hok : (j.write files batch).2.isOk = true) :
    Holds (j.write files batch).1 j.path (left j.mode entries ++ batch) := by
  have hopened : DocumentLines (files.opened j.mode j.path)
      ((left j.mode entries).map Value.mapping) := by
    cases hmode : j.mode with
    | overwrite =>
        exact .nil
    | append =>
        exact h.1
  obtain ⟨text, hrender, hafter, hload⟩ := exists_of_written hok
  obtain ⟨text', hcollect, hlines⟩ := exists_documentLines hbatch
  have htext : text' = text := by
    rw [render, hformat] at hrender
    exact Except.ok.inj (hcollect.symm.trans hrender)
  rw [htext] at hlines
  refine ⟨?_, .inl hload⟩
  rw [hafter, List.map_append]
  exact hopened.append hlines

/-- A run of batches that were all written leaves what its mode retains. -/
theorem holds_of_writeAll
    {j : Journal} (hformat : j.format = .json) {batches : List (List Entry)}
    (hbatches : ∀ batch ∈ batches, ∀ e ∈ batch,
      Json.Readable Json.nestingLimit (.mapping e))
    {files : FileTree} {entries : List Entry} (h : Holds files j.path entries)
    (hok : ∀ o ∈ (j.writeAll files batches).2, o.isOk = true) :
    Holds (j.writeAll files batches).1 j.path (retained j.mode entries batches) := by
  induction batches generalizing files entries with
  | nil =>
      rw [retained_nil]
      exact h
  | cons batch batches ih =>
      rw [retained_cons]
      refine ih (fun b hb => hbatches b (List.mem_cons_of_mem _ hb)) ?_ ?_
      · exact holds_of_write hformat h (hbatches batch List.mem_cons_self)
          (hok _ List.mem_cons_self)
      · exact fun o ho => hok o (List.mem_cons_of_mem _ ho)

/-! ## Entries of observations -/

/-- A value under a key of an entry: one without parts, or a list of those. -/
inductive Field : Value → Prop
  | leaf
      {v : Value}
      (h : Json.Leaf v) :
      Field v
  | list
      {vs : List Value}
      (h : ∀ v ∈ vs, Json.Leaf v) :
      Field (.list vs)

/-- An entry of the shape that observations have: different texts for keys, and fields
under them. -/
structure Document (e : Entry) : Prop where
  /-- The keys are texts, no two of them the same. -/
  keys : ∃ names : List Text, e.keys = names.map .text ∧ names.Nodup ∧
    ∀ name ∈ names, Text.unpaired name = true
  fields : ∀ f ∈ e, Field f.2

/-- The entry of an observation is a document if its fields have no parts and its
parameters are shown as values without parts. -/
theorem document_fields
    {o : Observation} (hname : Json.Leaf o.name) (hsql : Json.Leaf o.sql)
    (hparams : ∀ v ∈ o.params, Json.Leaf (Observation.journalParam v))
    (helapsed : Json.Leaf o.elapsed) (hsuccess : Json.Leaf o.success)
    (herror : Json.Leaf o.error) :
    Document o.fields := by
  refine ⟨⟨header, rfl, by decide, by decide⟩, ?_⟩
  have hlist : ∀ v ∈ o.params.map Observation.journalParam, Json.Leaf v := by
    intro v hv
    obtain ⟨u, hu, rfl⟩ := List.mem_map.mp hv
    exact hparams u hu
  simp only [Observation.fields, List.forall_mem_cons]
  exact ⟨.leaf hname, .leaf hsql, .list hlist, .leaf helapsed, .leaf hsuccess, .leaf herror,
    by simp⟩

theorem Field.readable
    {v : Value} (h : Field v) (room : Nat) :
    Json.Readable (room + 1) v := by
  cases h with
  | leaf h =>
      exact .leaf h
  | list h =>
      exact .list fun u hu => .leaf (h u hu)

/-- Entries with texts for keys are fields under those texts. -/
theorem exists_fieldsOf
    {e : Entry} {names : List Text} (h : e.keys = names.map .text) :
    ∃ es : List (Text × Value), es.map Prod.fst = names ∧ Json.fieldsOf es = e := by
  induction e generalizing names with
  | nil =>
      cases names with
      | nil =>
          exact ⟨[], rfl, rfl⟩
      | cons name names =>
          cases h
  | cons f e ih =>
      obtain ⟨k, v⟩ := f
      cases names with
      | nil =>
          cases h
      | cons name names =>
          obtain ⟨hk, hrest⟩ := List.cons.inj h
          obtain ⟨es, hes, hfields⟩ := ih hrest
          refine ⟨(name, v) :: es, by simp [hes], ?_⟩
          rw [← hfields]
          simp only at hk
          rw [hk]
          rfl

theorem Document.readable
    {e : Entry} (h : Document e) :
    Json.Readable Json.nestingLimit (.mapping e) := by
  obtain ⟨names, hkeys, hdistinct, hunpaired⟩ := h.keys
  obtain ⟨es, rfl, rfl⟩ := exists_fieldsOf hkeys
  refine .mapping hdistinct (fun f hf => ?_) (fun f hf => ?_)
  · exact hunpaired f.1 (List.mem_map_of_mem hf)
  · exact (h.fields (.text f.1, f.2) (List.mem_map_of_mem hf)).readable _

/-- Documents that were written to a journal on a new file are read back as they were:
all of them in order, or those of the last batch if every write overwrites the file. -/
theorem read_writeAll_documents
    (path : Path) (mode : WriteMode) {files : FileTree} (hnew : files.node? path = none)
    {batches : List (List Entry)} (hdocs : ∀ batch ∈ batches, ∀ e ∈ batch, Document e)
    (hdone : ∀ o ∈ (writeAll ⟨path, mode, .json⟩ files batches).2, o.isOk = true) :
    read ⟨path, mode, .json⟩ (writeAll ⟨path, mode, .json⟩ files batches).1 =
      .ok ((retained mode [] batches).map Value.mapping) :=
  read_of_holds rfl (holds_of_writeAll rfl
    (fun batch hbatch e he => (hdocs batch hbatch e he).readable) (holds_of_missing hnew)
    hdone)

/-- A text with quotes, controls, line ends, surrogates and a code point beyond four
digits. -/
def oddText : Text :=
  [.scalar '"', .scalar '\\', .scalar '\x00', .scalar '\r', .scalar '\n', .scalar '\u2028',
    .ofCode 0xDC00, .ofCode 0xD800, .scalar '\u00e9', .scalar '😀']

/-- An observation with such texts, a number that is none, and the least integer of 64
bits. -/
def oddObservation : Observation :=
  ⟨.text oddText, .text [],
    [.null, .bool true, .int (-0x8000000000000000), .real (0.0 / 0.0), .text oddText],
    .real 0.1, .bool false, .null⟩

theorem document_oddObservation :
    Document oddObservation.fields := by
  have hparams : ∀ v ∈ oddObservation.params, Json.Leaf (Observation.journalParam v) := by
    simp only [oddObservation, List.forall_mem_cons]
    exact ⟨.null, .bool true, .int (by decide +kernel), .real (by decide +kernel),
      .text (by decide), by simp⟩
  exact document_fields (.text (by decide)) (.text (by decide)) hparams
    (.real (by decide +kernel)) (.bool false) .null

theorem read_writeAll_oddObservation :
    let path : Path := ⟨["m.json"], false⟩
    let e := oddObservation.fields
    let batches := [[e], [], [e, e]]
    bareTree.node? path = none ∧
      (∀ o ∈ (writeAll ⟨path, .append, .json⟩ bareTree batches).2, o.isOk = true) ∧
        read ⟨path, .append, .json⟩ (writeAll ⟨path, .append, .json⟩ bareTree batches).1 =
          .ok [.mapping e, .mapping e, .mapping e] := by
  intro path e batches
  have hnew : bareTree.node? path = none := by
    decide +kernel
  have hdone : ∀ o ∈ (writeAll ⟨path, .append, .json⟩ bareTree batches).2,
      o.isOk = true := by
    decide +kernel
  have hdocs : ∀ batch ∈ batches, ∀ e ∈ batch, Document e := by
    simp [batches, e, document_oddObservation]
  exact ⟨hnew, hdone, read_writeAll_documents path .append hnew hdocs hdone⟩

end Journal

end Datalink
