import Datalink.Proofs.Files.Directories
import Datalink.Proofs.Journal.Documents

/-!
# Journals that are refused

Input: any tree of files, and a path with settings for a journal at it.  The directories on
the way to the path are made before the settings are looked at.

Results: what a journal leaves in the tree that is refused for its settings.  It leaves the
directories that were missing, just as a journal with good settings does, and so the tree is
as it was if and only if none was missing.
-/

namespace Datalink
namespace Journal

/-- Of a text that is a setting it is asked whether it is one of the names. -/
theorem named_text
    (t : Text) (names : List Text) (refusal : Value → Fault) :
    named (.text t) names refusal =
      if t ∈ names then .ok t else .error (refusal (.text t)) := by
  have hmember : (names.map .text).any (Value.text t).same = decide (t ∈ names) := by
    rw [List.any_map, Bool.eq_iff_iff, List.any_eq_true, decide_eq_true_iff]
    simp
  rw [named, Value.isIn, Value.checkKey_text, hmember]
  · by_cases ht : t ∈ names <;> simp [ht]
  · rintro items ⟨⟩

/-- Behind the directories on the way only the settings can be refused. -/
theorem create_of_makeDirectories
    {files files' : FileTree} {path : Value} {text : Text} {inBytes : Bool}
    (hpath : pathText path = .ok (text, inBytes))
    (hmade : files.makeDirectories text = (files', .ok ())) (mode format : Value) :
    let place : Path := ⟨Path.follow files'.root.depth text, inBytes⟩
    create files path mode format =
      (files', (chooseMode mode).bind fun mode =>
        (chooseFormat (formatText files' place) format).map (Journal.mk place mode)) := by
  unfold create
  simp only [hpath, hmade]
  cases chooseMode mode with
  | error f =>
      rfl
  | ok mode =>
      simp only [Except.bind]
      cases chooseFormat
          (formatText files' ⟨Path.follow files'.root.depth text, inBytes⟩) format with
      | error f =>
          rfl
      | ok format =>
          rfl

/-- A refusal that is not about the path comes behind the directories on the way. -/
theorem directories_of_refused
    {files files' : FileTree} {path mode format : Value} {f : Fault}
    (h : create files path mode format = (files', .error f)) (hf : f.concernsPath = false) :
    ∃ text inBytes, pathText path = .ok (text, inBytes) ∧
      files' = files.addDirectories (files.way text) ∧
      files.makeDirectories text = (files', .ok ()) := by
  cases hpath : pathText path with
  | error g =>
      have hrefused : g.concernsPath = true := by
        unfold pathText at hpath
        split at hpath <;> cases hpath
        rfl
      simp only [create, hpath] at h
      cases h
      rw [hrefused] at hf
      cases hf
  | ok found =>
      obtain ⟨text, inBytes⟩ := found
      refine ⟨text, inBytes, rfl, ?_⟩
      rcases files.makeDirectories_eq_or text with hmade | ⟨g, hg, habout⟩
      · rw [create_of_makeDirectories hpath hmade] at h
        obtain rfl := congrArg Prod.fst h
        exact ⟨rfl, hmade⟩
      · have hleft : files.makeDirectories text = ((files.makeDirectories text).1, .error g) :=
          Prod.ext rfl hg
        rw [create, hpath] at h
        simp only at h
        rw [hleft] at h
        cases h
        rw [habout] at hf
        cases hf

/-- With settings that are names of their kinds, a journal is made wherever the directories
can be. -/
theorem exists_create_of_makeDirectories
    {files files' : FileTree} {path : Value} {text : Text} {inBytes : Bool}
    (hpath : pathText path = .ok (text, inBytes))
    (hmade : files.makeDirectories text = (files', .ok ())) :
    ∃ j, create files path (.text WriteMode.append.name) (.text JournalFormat.json.name) =
      (files', .ok j) := by
  have hmode : chooseMode (.text WriteMode.append.name) = .ok .append := by
    rw [chooseMode, named_text]
    rfl
  have hformat : ∀ name, chooseFormat name (.text JournalFormat.json.name) = .ok .json := by
    intro name
    simp only [chooseFormat, Value.equals_text, named_text]
    rfl
  refine ⟨⟨⟨Path.follow files'.root.depth text, inBytes⟩, .append, .json⟩, ?_⟩
  rw [create_of_makeDirectories hpath hmade, hmode, Except.bind, hformat]
  rfl

/-- A journal that is refused for another reason than its path leaves the directories on the
way to the path, of which it made those that were missing, and every other place as it was.
So the tree is as it was if and only if none was missing, and in any case it is the tree that
a journal leaves that is not refused. -/
theorem tree_behind_refused_settings
    {files files' : FileTree} {path mode format : Value} {f : Fault}
    (h : create files path mode format = (files', .error f)) (hf : f.concernsPath = false) :
    ∃ text inBytes, pathText path = .ok (text, inBytes) ∧
      (files' = files ↔ files.missing (files.way text) = []) ∧
      (∀ p : Path, files'.node? p =
        if p.place ∈ (files.missing (files.way text)).map Path.place then some .directory
        else files.node? p) ∧
      ∃ j, create files path (.text WriteMode.append.name) (.text JournalFormat.json.name) =
        (files', .ok j) := by
  obtain ⟨text, inBytes, hpath, rfl, hmade⟩ := directories_of_refused h hf
  exact ⟨text, inBytes, hpath, files.addDirectories_eq_self_iff _,
    files.node?_addDirectories _, exists_create_of_makeDirectories hpath hmade⟩

/-- A tree with two directories, one in the other. -/
def runsTree : FileTree :=
  (bareTree.put ⟨["runs"], false⟩ .directory).put ⟨["runs", "day"], false⟩ .directory

/-- A journal whose format cannot be told leaves both, where there was nothing. -/
theorem tree_behind_untold_format :
    create bareTree (.text "runs/day/m.log") (.text "append") (.text byPath) =
        (runsTree, .error .journalFormatUnknown) ∧
      Fault.journalFormatUnknown.concernsPath = false ∧ runsTree ≠ bareTree ∧
      runsTree.node? ⟨["runs", "day"], false⟩ = some .directory ∧
      ∃ j, create bareTree (.text "runs/day/m.log") (.text "append") (.text "json") =
        (runsTree, .ok j) := by
  have hmade : bareTree.makeDirectories "runs/day/m.log" = (runsTree, .ok ()) := by
    rfl
  have hmode : chooseMode (.text "append") = .ok .append := by
    rw [chooseMode, named_text]
    rfl
  have hformat : chooseFormat
      (formatText runsTree ⟨Path.follow runsTree.root.depth "runs/day/m.log", false⟩)
      (.text byPath) = .error .journalFormatUnknown := by
    simp only [chooseFormat, Value.equals_text]
    rfl
  have hrefused : create bareTree (.text "runs/day/m.log") (.text "append") (.text byPath) =
      (runsTree, .error .journalFormatUnknown) := by
    rw [create_of_makeDirectories rfl hmade, hmode, Except.bind, hformat]
    rfl
  obtain ⟨text, inBytes, hpath, hsame, hnode, hgood⟩ := tree_behind_refused_settings hrefused rfl
  cases hpath
  refine ⟨hrefused, rfl, mt hsame.mp (by decide +kernel), ?_, hgood⟩
  rw [hnode, if_pos (by decide +kernel)]

/-- A journal that is refused for its way of writing does not always leave the tree as it
was. -/
theorem not_untouched_behind_refused_mode :
    ¬ ∀ (files files' : FileTree) (path mode format : Value),
      create files path mode format = (files', .error (.journalMode mode)) → files' = files := by
  intro hclaim
  have hmade : bareTree.makeDirectories "runs/m.json" =
      (bareTree.put ⟨["runs"], false⟩ .directory, .ok ()) := by
    rfl
  have hmode : chooseMode (.text "merge") = .error (.journalMode (.text "merge")) := by
    rw [chooseMode, named_text]
    rfl
  have hrefused : create bareTree (.text "runs/m.json") (.text "merge") (.text byPath) =
      (bareTree.put ⟨["runs"], false⟩ .directory, .error (.journalMode (.text "merge"))) := by
    rw [create_of_makeDirectories rfl hmade, hmode]
    rfl
  have hsame := congrArg (fun files => files.node? ⟨["runs"], false⟩) (hclaim _ _ _ _ _ hrefused)
  have hne : (bareTree.put ⟨["runs"], false⟩ .directory).node? ⟨["runs"], false⟩ ≠
      bareTree.node? ⟨["runs"], false⟩ := by
    decide +kernel
  exact hne hsame

end Journal
end Datalink
