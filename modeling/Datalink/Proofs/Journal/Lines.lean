import Datalink.Proofs.Journal.Writing
import Datalink.Proofs.Observation.Line
import Mathlib.Data.List.Forall2

/-!
# Journals of plain lines

Input: a journal of plain lines that every write appends to, on a file that is not there
yet, and batches of observations that were all written.  Every observation is written as a
text with a line feed behind it, and the journal is cut at every line end when it is read.

Results: what is read are the lines of all these texts, in order.  It is one line for every
observation, and this line is the text that was written for it, if and only if no
observation holds a line end where its text shows it: a statement over several lines is read
back as several entries.
-/

namespace Datalink

namespace Journal

/-- A text is what a journal of plain lines shows of an observation. -/
def Shows (o : Observation) (t : Text) : Prop := plainLine o.fields = .ok t.terminated

theorem exists_of_collect_plainLine
    {batch : List Observation} {text : Text}
    (h : collect plainLine (batch.map Observation.fields) = .ok text) :
    ∃ ts : List Text, List.Forall₂ Shows batch ts ∧ text = ts.flatMap Text.terminated := by
  induction batch generalizing text with
  | nil =>
      exact ⟨[], .nil, (Except.ok.inj h).symm⟩
  | cons o batch ih =>
      rw [List.map_cons, collect] at h
      split at h
      · cases h
      · rename_i line hline
        split at h
        · cases h
        · rename_i rest hrest
          obtain ⟨t, rfl, -⟩ := Observation.exists_of_plainLine_fields hline
          obtain ⟨ts, hts, rfl⟩ := ih hrest
          exact ⟨t :: ts, .cons hline hts, (Except.ok.inj h).symm⟩

/-- Whether the texts that are shown of observations hold a line end. -/
theorem forall_unbroken_iff
    {os : List Observation} {ts : List Text} (h : List.Forall₂ Shows os ts) :
    (∀ t ∈ ts, t.Unbroken) ↔ ∀ o ∈ os, o.Unbroken := by
  induction h with
  | nil =>
      simp
  | cons hshows _ ih =>
      obtain ⟨t, hterminated, hiff⟩ := Observation.exists_of_plainLine_fields hshows
      obtain rfl := Text.terminated_injective hterminated
      rw [List.forall_mem_cons, List.forall_mem_cons, ih, hiff]

/-- A journal's file holds what is shown of observations, or is not there and there are
none. -/
def HoldsLines (files : FileTree) (p : Path) (os : List Observation) : Prop :=
  (∃ ts : List Text, List.Forall₂ Shows os ts ∧
      files.content p = ts.flatMap Text.terminated) ∧
    (files.load p = .ok (some (files.content p)) ∨ files.load p = .ok none ∧ os = [])

theorem holdsLines_of_missing
    {files : FileTree} {p : Path} (h : files.node? p = none) :
    HoldsLines files p [] := by
  have hcontent : files.content p = [] := by
    simp [FileTree.content, FileTree.content?, h]
  have hload : files.load p = .ok none := by
    simp [FileTree.load, FileTree.seen?, h]
  exact ⟨⟨[], .nil, hcontent⟩, .inr ⟨hload, rfl⟩⟩

/-- What is shown of a batch stands behind what was there. -/
theorem holdsLines_of_write
    {files : FileTree} {path : Path} {os : List Observation} (h : HoldsLines files path os)
    {batch : List Observation}
    (hok : (write ⟨path, .append, .plain⟩ files (batch.map Observation.fields)).2.isOk = true) :
    HoldsLines (write ⟨path, .append, .plain⟩ files (batch.map Observation.fields)).1 path
      (os ++ batch) := by
  obtain ⟨⟨ts, hts, hcontent⟩, -⟩ := h
  obtain ⟨text, hrender, hafter, hload⟩ := exists_of_written hok
  obtain ⟨us, hus, rfl⟩ := exists_of_collect_plainLine hrender
  refine ⟨⟨ts ++ us, List.rel_append hts hus, ?_⟩, .inl hload⟩
  rw [hafter, List.flatMap_append, ← hcontent]
  rfl

/-- A run of batches that were all written leaves what is shown of them, in order. -/
theorem holdsLines_of_writeAll
    {files : FileTree} {path : Path} {os : List Observation} (h : HoldsLines files path os)
    {batches : List (List Observation)}
    (hok : ∀ r ∈ (writeAll ⟨path, .append, .plain⟩ files
      (batches.map (·.map Observation.fields))).2, r.isOk = true) :
    HoldsLines (writeAll ⟨path, .append, .plain⟩ files
      (batches.map (·.map Observation.fields))).1 path (os ++ batches.flatten) := by
  induction batches generalizing files os with
  | nil =>
      rw [List.flatten_nil, List.append_nil]
      exact h
  | cons batch batches ih =>
      rw [List.flatten_cons, ← List.append_assoc]
      refine ih (holdsLines_of_write h ?_) ?_
      · exact hok _ List.mem_cons_self
      · exact fun r hr => hok r (List.mem_cons_of_mem _ hr)

/-- Such a file is read as its lines. -/
theorem read_of_holdsLines
    {files : FileTree} {path : Path} {mode : WriteMode} {os : List Observation}
    (h : HoldsLines files path os) :
    read ⟨path, mode, .plain⟩ files = .ok ((files.content path).lines.map .text) := by
  obtain ⟨⟨ts, hts, hcontent⟩, hload | ⟨hload, rfl⟩⟩ := h
  · rw [read, hload]
    rfl
  · cases hts
    rw [read, hload, hcontent]
    rfl

/-- A journal of plain lines on a new file is read as the lines of what was written for
every observation.  What was written is read back, one line for each observation, if and only if
no observation holds a line end where it is shown. -/
theorem read_writeAll_lines
    (path : Path) {files : FileTree} (hnew : files.node? path = none)
    {batches : List (List Observation)}
    (hdone : ∀ r ∈ (writeAll ⟨path, .append, .plain⟩ files
      (batches.map (·.map Observation.fields))).2, r.isOk = true) :
    let after := (writeAll ⟨path, .append, .plain⟩ files
      (batches.map (·.map Observation.fields))).1
    ∃ ts : List Text, List.Forall₂ Shows batches.flatten ts ∧
      read ⟨path, .append, .plain⟩ after =
          .ok ((ts.flatMap fun t => t.terminated.lines).map .text) ∧
        (read ⟨path, .append, .plain⟩ after = .ok (ts.map .text) ↔
          ∀ o ∈ batches.flatten, o.Unbroken) := by
  intro after
  have hholds := holdsLines_of_writeAll (holdsLines_of_missing hnew) hdone
  rw [List.nil_append] at hholds
  have hread : read ⟨path, .append, .plain⟩ after = _ := read_of_holdsLines hholds
  obtain ⟨ts, hts, hcontent⟩ := hholds.1
  rw [hcontent, Text.lines_flatMap_terminated] at hread
  refine ⟨ts, hts, hread, ?_⟩
  have htext : Function.Injective Value.text := fun _ _ => Value.text.inj
  rw [hread, ← forall_unbroken_iff hts, ← Text.flatMap_lines_terminated_eq_iff,
    Except.ok.injEq, (List.map_injective_iff.mpr htext).eq_iff]

/-- An observation with a line end in a parameter, and one in the error of an operation that
succeeded. -/
def quotedObservation : Observation :=
  ⟨.text "select", .text "SELECT ?", [.text "a\nb", .bytes .fixed [10], .real 0.5], .real 1.5,
    .bool true, .text "\n"⟩

theorem unbroken_quotedObservation :
    quotedObservation.Unbroken where
  name := by decide
  sql := by decide
  members := by
    simp only [quotedObservation, List.forall_mem_cons]
    simp [Value.isNamed]
  error := nofun

theorem read_writeAll_quotedObservation :
    let path : Path := ⟨["m.txt"], false⟩
    let batches := [[quotedObservation], [], [quotedObservation, quotedObservation]]
    let after := writeAll ⟨path, .append, .plain⟩ bareTree
      (batches.map (·.map Observation.fields))
    bareTree.node? path = none ∧ (∀ r ∈ after.2, r.isOk = true) ∧
      ∃ ts : List Text, List.Forall₂ Shows batches.flatten ts ∧
        read ⟨path, .append, .plain⟩ after.1 = .ok (ts.map .text) := by
  intro path batches after
  have hnew : bareTree.node? path = none := by
    decide +kernel
  have hdone : ∀ r ∈ after.2, r.isOk = true := by
    decide +kernel
  obtain ⟨ts, hts, -, hiff⟩ := read_writeAll_lines path hnew hdone
  refine ⟨hnew, hdone, ts, hts, hiff.mpr ?_⟩
  simp [batches, unbroken_quotedObservation]

/-- A statement over two lines. -/
def scriptObservation : Observation :=
  ⟨.text "select", .text "SELECT 1\nFROM t", [], .real 1.5, .bool true, .null⟩

/-- A statement over two lines is written as one entry and read back as two. -/
theorem two_lines_of_one_script :
    let j : Journal := ⟨⟨["m.txt"], false⟩, .append, .plain⟩
    let after := j.write bareTree [scriptObservation.fields]
    after.2.isOk = true ∧
      j.read after.1 =
        .ok [.text "select [1.500 ms] SELECT 1", .text "FROM t | [] -> ok"] := by
  intro j after
  have hdone : after.2.isOk = true := by
    decide +kernel
  have hcontent : after.1.content j.path =
      "select [1.500 ms] SELECT 1\nFROM t | [] -> ok\n" := by
    decide +kernel
  obtain ⟨_, -, -, hload⟩ := exists_of_written hdone
  refine ⟨hdone, ?_⟩
  rw [read, hload, hcontent]
  rfl

end Journal

end Datalink
