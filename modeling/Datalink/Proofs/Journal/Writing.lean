import Datalink.Journal

/-!
# Writing batches to a journal

Batches of entries are written to one journal one after the other.  A batch whose text
cannot be made leaves the files as they are, and so does every batch if the journal's file
cannot be opened.  A batch whose text cannot be encoded finds out about that when the file
is open.

Results: what a write does to the journal's file in each of these cases, and that a file
that was opened once can be opened and loaded from then on.
-/

namespace Datalink

namespace FileTree

variable {files : FileTree} {p : Path}

/-- A path that can be used is not too long to be looked at. -/
theorem wholeSize_lt_of_checkPath
    (h : files.checkPath p = .ok ()) :
    files.wholeSize p < Path.pathLimit := by
  unfold checkPath Path.checkName at h
  dsimp only at h
  split at h
  · cases h
  · split at h
    · cases h
    · split at h
      · cases h
      · omega

theorem checkPath_of_checkOpen
    (h : files.checkOpen p = .ok ()) :
    files.checkPath p = .ok () := by
  unfold checkOpen at h
  split at h
  · cases h
  · assumption

/-- Something put at a place leaves its path as usable as it was. -/
theorem checkPath_put
    (node : Node) :
    (files.put p node).checkPath p = files.checkPath p := by
  rfl

/-- A file that was opened can be opened again, whatever was written to it. -/
theorem checkOpen_put_file
    (h : files.checkOpen p = .ok ()) (content : Text) :
    (files.put p (.file content)).checkOpen p = .ok () := by
  unfold checkOpen
  rw [checkPath_put, checkPath_of_checkOpen h, node?_put_self]

/-- A place that can be opened shows what is there. -/
theorem seen?_of_checkOpen
    (h : files.checkOpen p = .ok ()) :
    files.seen? p = files.node? p := by
  unfold seen?
  rw [if_pos (wholeSize_lt_of_checkPath (checkPath_of_checkOpen h))]

/-- A file that was opened is loaded with the text that was put there. -/
theorem load_put_file
    (h : files.checkOpen p = .ok ()) (content : Text) :
    (files.put p (.file content)).load p = .ok (some content) := by
  unfold load
  rw [seen?_of_checkOpen (checkOpen_put_file h content), node?_put_self]

@[simp] theorem content_put_file
    (content : Text) :
    (files.put p (.file content)).content p = content := by
  simp [FileTree.content, content?]

theorem save_of_checkOpen_eq_error
    {f : Fault} (h : files.checkOpen p = .error f) (mode : WriteMode) (text : Text) :
    files.save mode p text = (files, .error f) := by
  simp [save, h]

theorem save_of_encodable
    (h : files.checkOpen p = .ok ()) (mode : WriteMode) {text : Text}
    (htext : text.encodable = true) :
    files.save mode p text =
      (files.put p (.file (files.opened mode p ++ text)), .ok ()) := by
  simp [save, h, (Text.firstRun?_eq_none_iff text).mpr htext]

/-- A text without encoding leaves an opened file behind. -/
theorem save_of_not_encodable
    (h : files.checkOpen p = .ok ()) (mode : WriteMode) {text : Text}
    (htext : text.encodable = false) :
    ∃ f, files.save mode p text =
      (files.put p (.file (files.opened mode p)), .error f) := by
  cases hrun : text.firstRun? with
  | none =>
      rw [(Text.firstRun?_eq_none_iff text).mp hrun] at htext
      cases htext
  | some run =>
      exact ⟨.unencodable run, by simp [save, h, hrun]⟩

end FileTree

namespace Journal

/-- What a write can do, by the files and the outcome that it leaves. -/
inductive Wrote (j : Journal) (files : FileTree) (batch : List Entry) :
    FileTree → Except Fault Unit → Prop
  /-- The text could not be made, or the file could not be opened. -/
  | refused
      {f : Fault}
      (h : ∀ text, j.render files batch = .ok text → files.checkOpen j.path ≠ .ok ()) :
      Wrote j files batch files (.error f)
  /-- The text could not be encoded when the file was open. -/
  | opened
      {text : Text} {f : Fault}
      (hrender : j.render files batch = .ok text)
      (hopen : files.checkOpen j.path = .ok ())
      (htext : text.encodable = false) :
      Wrote j files batch (files.put j.path (.file (files.opened j.mode j.path))) (.error f)
  /-- The text was written. -/
  | done
      {text : Text}
      (hrender : j.render files batch = .ok text)
      (hopen : files.checkOpen j.path = .ok ())
      (htext : text.encodable = true) :
      Wrote j files batch (files.put j.path (.file (files.opened j.mode j.path ++ text)))
        (.ok ())

theorem wrote_write
    (j : Journal) (files : FileTree) (batch : List Entry) :
    Wrote j files batch (j.write files batch).1 (j.write files batch).2 := by
  unfold write
  cases hrender : j.render files batch with
  | error f =>
      exact .refused fun text htext => by rw [hrender] at htext; cases htext
  | ok text =>
      dsimp only
      cases hopen : files.checkOpen j.path with
      | error f =>
          rw [FileTree.save_of_checkOpen_eq_error hopen]
          exact .refused fun _ _ hok => by rw [hopen] at hok; cases hok
      | ok _ =>
          cases htext : text.encodable with
          | false =>
              obtain ⟨f, hsave⟩ := FileTree.save_of_not_encodable hopen j.mode htext
              rw [hsave]
              exact .opened hrender hopen htext
          | true =>
              rw [FileTree.save_of_encodable hopen j.mode htext]
              exact .done hrender hopen htext

/-- Behind a batch that was written its text stands at the end of the file, and the file can
be loaded. -/
theorem exists_of_written
    {j : Journal} {files : FileTree} {batch : List Entry}
    (h : (j.write files batch).2.isOk = true) :
    let after := (j.write files batch).1
    ∃ text, j.render files batch = .ok text ∧
      after.content j.path = files.opened j.mode j.path ++ text ∧
        after.load j.path = .ok (some (after.content j.path)) := by
  have hwrote := j.wrote_write files batch
  generalize (j.write files batch).1 = files', (j.write files batch).2 = o at hwrote h
  cases hwrote with
  | refused _ =>
      cases h
  | opened _ _ _ =>
      cases h
  | @done text hrender hopen _ =>
      refine ⟨text, hrender, FileTree.content_put_file _, ?_⟩
      rw [FileTree.content_put_file]
      exact FileTree.load_put_file hopen _

/-- Batches written one after the other: the files at the end, and what became of every
batch. -/
def writeAll (j : Journal) : FileTree → List (List Entry) →
    FileTree × List (Except Fault Unit)
  | files, [] => (files, [])
  | files, batch :: batches =>
      let one := j.write files batch
      let others := j.writeAll one.1 batches
      (others.1, one.2 :: others.2)

/-- A root directory with nothing in it. -/
def bareTree : FileTree := .empty ⟨"/root", 5, 1⟩

end Journal

end Datalink
