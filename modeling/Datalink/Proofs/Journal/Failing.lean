import Datalink.Proofs.Journal.Tables
import Datalink.Proofs.Json.Documents

/-!
# Writes that fail

Input: any journal, whatever is in its file, and a batch that is not written.  The text of a
batch is made as a whole before the file is opened, so that an entry without a text leaves
the file alone, and so does a file that cannot be opened.  A text without encoding is found
out about later: the file is open then, and a journal that overwrites its file has emptied
it.

Results: what the file holds behind a write that failed.  It holds what it held before,
unless the write emptied it, and this is never so in a journal that appends or that writes
documents.
-/

namespace Datalink

namespace Json

/-- A text of printing ASCII has an encoding. -/
theorem Inline.encodable
    {t : Text} (h : Inline t) :
    Text.encodable t = true := by
  rw [Text.encodable, List.all_eq_true]
  intro c hc
  rw [CodePoint.not_surrogate_of_printsFrom (h c hc)]
  rfl

end Json

namespace Journal

/-- Documents of entries have an encoding, whatever surrogates are in the entries. -/
theorem encodable_documents
    {batch : List Entry} {text : Text} (h : collect jsonLine batch = .ok text) :
    text.encodable = true := by
  induction batch generalizing text with
  | nil =>
      cases h
      rfl
  | cons e batch ih =>
      rw [collect] at h
      split at h
      · cases h
      · rename_i line hline
        split at h
        · cases h
        · rename_i rest hrest
          cases h
          rw [jsonLine] at hline
          split at hline
          · cases hline
          · rename_i document hdocument
            cases hline
            simp [(Json.inline_encode hdocument).encodable, ih hrest]

/-- A batch empties the journal's file: the journal overwrites what is there, the file can
be opened, and the text of the batch has no encoding. -/
structure Empties (j : Journal) (files : FileTree) (batch : List Entry) : Prop where
  held : files.content j.path ≠ []
  mode_eq : j.mode = .overwrite
  opens : files.checkOpen j.path = .ok ()
  text : ∃ text, j.render files batch = .ok text ∧ text.encodable = false

section Failure

variable {j : Journal} {files : FileTree} {batch : List Entry}

theorem Empties.format_ne
    (h : j.Empties files batch) :
    j.format ≠ .json := by
  intro hformat
  obtain ⟨text, hrender, htext⟩ := h.text
  rw [render, hformat] at hrender
  rw [encodable_documents hrender] at htext
  cases htext

/-- A batch that empties the file is not written. -/
theorem Empties.write_eq
    (h : j.Empties files batch) :
    ∃ f, j.write files batch = (files.put j.path (.file []), .error f) := by
  obtain ⟨text, hrender, htext⟩ := h.text
  obtain ⟨f, hsave⟩ := FileTree.save_of_not_encodable h.opens j.mode htext
  refine ⟨f, ?_⟩
  simp only [write, hrender, hsave]
  rw [h.mode_eq, FileTree.opened.eq_def]

/-- A write that failed and did not empty the file left the files alone, or it opened the
file and kept what was there. -/
theorem content_of_not_empties
    {f : Fault} (h : (j.write files batch).2 = .error f) (hkeeps : ¬ j.Empties files batch) :
    (j.write files batch).1.content j.path = files.content j.path := by
  have hwrote := j.wrote_write files batch
  generalize (j.write files batch).1 = files', (j.write files batch).2 = o at hwrote h
  cases hwrote with
  | refused _ =>
      rfl
  | @opened text _ hrender hopen htext =>
      rw [FileTree.content_put_file]
      cases hmode : j.mode with
      | append =>
          rfl
      | overwrite =>
          by_cases hheld : files.content j.path = []
          · rw [hheld]
            rfl
          · exact absurd ⟨hheld, hmode, hopen, text, hrender, htext⟩ hkeeps
  | done _ _ _ =>
      cases h

/-- A write changes no place but that of the journal's file, whatever becomes of it. -/
theorem node?_write
    (j : Journal) (files : FileTree) (batch : List Entry) {p : Path}
    (hp : p.place ≠ j.path.place) :
    (j.write files batch).1.node? p = files.node? p := by
  have hwrote := j.wrote_write files batch
  generalize (j.write files batch).1 = files', (j.write files batch).2 = o at hwrote
  cases hwrote with
  | refused _ =>
      rfl
  | opened _ _ _ =>
      exact FileTree.node?_put_ne files _ hp
  | done _ _ _ =>
      exact FileTree.node?_put_ne files _ hp

/-- Behind a write that failed the file holds what it held before, unless the write emptied
it: then the journal overwrites its file and writes no documents.  No other place
changes. -/
theorem content_behind_failure
    {f : Fault} (h : (j.write files batch).2 = .error f) :
    let after := (j.write files batch).1
    (after.content j.path = files.content j.path ↔ ¬ j.Empties files batch) ∧
      (j.Empties files batch → after.content j.path = [] ∧ j.format ≠ .json) ∧
        ∀ p : Path, p.place ≠ j.path.place → after.node? p = files.node? p := by
  intro after
  have hempty : j.Empties files batch → after.content j.path = [] := by
    intro hempties
    obtain ⟨g, hwrite⟩ := hempties.write_eq
    simp only [after, hwrite, FileTree.content_put_file]
  refine ⟨⟨fun hsame hempties => ?_, content_of_not_empties h⟩, fun hempties => ?_, ?_⟩
  · exact hempties.held (hsame ▸ hempty hempties)
  · exact ⟨hempty hempties, hempties.format_ne⟩
  · exact fun p hp => node?_write j files batch hp

end Failure

/-- A file with the header of a table. -/
def headedTree : FileTree := bareTree.put ⟨["m.csv"], false⟩ (.file (Csv.record header))

/-- A table that is appended to is left as it was by an entry without encoding. -/
theorem header_behind_failed_append :
    let j : Journal := ⟨⟨["m.csv"], false⟩, .append, .csv⟩
    let after := j.write headedTree [sparseEntry, surrogateEntry]
    (∃ f, after.2 = .error f) ∧ after.1.content j.path = Csv.record header := by
  intro j after
  have hfails : ∃ f, after.2 = .error f := by
    cases hafter : after.2 with
    | error f =>
        exact ⟨f, rfl⟩
    | ok _ =>
        have hrefused : after.2.isOk = false := by
          decide +kernel
        rw [hafter] at hrefused
        cases hrefused
  obtain ⟨f, hf⟩ := hfails
  refine ⟨⟨f, hf⟩, ?_⟩
  have hkeeps : ¬ j.Empties headedTree [sparseEntry, surrogateEntry] := by
    intro hempties
    cases hempties.mode_eq
  rw [(content_behind_failure hf).1.mpr hkeeps]
  decide +kernel

/-- A table that is overwritten is lost by such an entry: the file is emptied and then
nothing is written. -/
theorem emptied_behind_failed_overwrite :
    let j : Journal := ⟨⟨["m.csv"], false⟩, .overwrite, .csv⟩
    let after := j.write headedTree [sparseEntry, surrogateEntry]
    after.2.isOk = false ∧ headedTree.content j.path = Csv.record header ∧
      after.1.content j.path ≠ headedTree.content j.path := by
  decide +kernel

end Journal
end Datalink
