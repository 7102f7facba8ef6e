import Datalink.Files

/-!
# Directories made on the way

Input: a tree of files and the text of a path, which goes through one directory after the
other.  A name that leads nowhere goes through none, and a name that leads back goes through
the directory above.

Results: where all of them can be made, those that are missing are put into the tree, and
every other place is as it was.  So the tree is as it was if and only if none is missing.
Where one cannot be made the fault is about the path.
-/

namespace Datalink

namespace Path

/-- The names of the directories that a way goes through, given those that were reached. -/
def stages (depth : Nat) (reached : List Text) : List Text → List (List Text)
  | [] => []
  | name :: names =>
      let next := step depth reached name
      if isStill name then stages depth next names else next :: stages depth next names

end Path

/-- Whether a fault is about a path: it is none, or it cannot be gone. -/
def Fault.concernsPath : Fault → Bool
  | misfit (.path _) => true
  | unencodable _ => true
  | nullInName => true
  | nameTooLong _ => true
  | notDirectory _ => true
  | fileExists _ => true
  | nestedTooDeep => true
  | _ => false

namespace FileTree

/-- The directories that the text of a path goes through. -/
def way (files : FileTree) (path : Text) : List Path :=
  (Path.stages files.root.depth (Path.start files.root.depth path)
    (Path.split path).dropLast).map (Path.mk · false)

/-- Those of the places that have nothing at them. -/
def missing (files : FileTree) (ps : List Path) : List Path :=
  ps.filter fun p => (files.node? p).isNone

/-- A directory put at a place where there is nothing. -/
def addDirectory (files : FileTree) (p : Path) : FileTree :=
  match files.node? p with
  | some _ => files
  | none => files.put p .directory

/-- Directories put at places, one after the other. -/
def addDirectories (files : FileTree) (ps : List Path) : FileTree :=
  ps.foldl addDirectory files

theorem node?_put_of_place_eq
    (files : FileTree) {p q : Path} (node : Node) (h : q.place = p.place) :
    (files.put p node).node? q = some node := by
  simp [node?, put, h]

theorem addDirectories_cons
    (files : FileTree) (p : Path) (ps : List Path) :
    files.addDirectories (p :: ps) = (files.addDirectory p).addDirectories ps := by
  rfl

/-- Directories stand at the places where there was nothing, and nothing else changes. -/
theorem node?_addDirectories
    (files : FileTree) (ps : List Path) (q : Path) :
    (files.addDirectories ps).node? q =
      if q.place ∈ (files.missing ps).map Path.place then some .directory
      else files.node? q := by
  induction ps generalizing files with
  | nil =>
      rfl
  | cons p ps ih =>
      rw [addDirectories_cons, addDirectory]
      cases hp : files.node? p with
      | some node =>
          have hmissing : files.missing (p :: ps) = files.missing ps := by
            simp [missing, hp]
          rw [hmissing]
          exact ih files
      | none =>
          have hmissing : files.missing (p :: ps) = p :: files.missing ps := by
            simp [missing, hp]
          simp only [hmissing, List.map_cons, List.mem_cons]
          by_cases hq : q.place = p.place
          · rw [if_pos (.inl hq)]
            refine (ih _).trans ?_
            rw [node?_put_of_place_eq files _ hq, ite_self]
          · -- What was missing at another place is missing still.
            have hsame : q.place ∈ ((files.put p .directory).missing ps).map Path.place ↔
                q.place ∈ (files.missing ps).map Path.place := by
              simp only [missing, List.mem_map, List.mem_filter]
              refine exists_congr fun p' => and_congr_left fun hplace => ?_
              rw [node?_put_ne files _ (hplace ▸ hq)]
            refine (ih _).trans ?_
            rw [node?_put_ne files _ hq]
            simp only [hsame, hq, false_or]

/-- Nothing changes if and only if there is something at every place. -/
theorem addDirectories_eq_self_iff
    (files : FileTree) (ps : List Path) :
    files.addDirectories ps = files ↔ files.missing ps = [] := by
  constructor
  · intro hsame
    refine List.eq_nil_iff_forall_not_mem.mpr fun p hp => ?_
    have hnode := files.node?_addDirectories ps p
    obtain ⟨-, hnone⟩ := List.mem_filter.mp hp
    rw [if_pos (List.mem_map_of_mem hp), hsame, Option.isNone_iff_eq_none.mp hnone] at hnode
    cases hnode
  · intro hnone
    induction ps with
    | nil =>
        rfl
    | cons p ps ih =>
        obtain ⟨hp, hps⟩ := List.forall_mem_cons.mp (List.filter_eq_nil_iff.mp hnone)
        obtain ⟨node, hnode⟩ := Option.ne_none_iff_exists'.mp (by simpa using hp)
        rw [addDirectories_cons, addDirectory, hnode]
        exact ih (List.filter_eq_nil_iff.mpr hps)

theorem concernsPath_of_checkName
    {name : Text} {position size : Nat} {shown : Value} {f : Fault}
    (h : Path.checkName name position size shown = .error f) :
    f.concernsPath = true := by
  unfold Path.checkName at h
  split at h
  · cases h
    rfl
  · split at h
    · cases h
      rfl
    · split at h <;> cases h
      rfl

/-- A way is gone to its end, and then the missing ones of its directories are made, or
there is a fault about the path. -/
theorem makeOnWay_eq_or
    (files : FileTree) (reached : List Text) (size : Nat) (names : List Text) :
    files.makeOnWay reached size names =
        (files.addDirectories
          ((Path.stages files.root.depth reached names).map (Path.mk · false)), .ok ()) ∨
      ∃ f, (files.makeOnWay reached size names).2 = .error f ∧ f.concernsPath = true := by
  induction names generalizing files reached size with
  | nil =>
      exact .inl rfl
  | cons name names ih =>
      rw [makeOnWay, Path.stages]
      split
      · exact ih files _ _
      · rw [List.map_cons, addDirectories_cons, addDirectory]
        split
        · rename_i f hcheck
          exact .inr ⟨f, rfl, concernsPath_of_checkName hcheck⟩
        · cases hnode : files.node? ⟨Path.step files.root.depth reached name, false⟩ with
          | none =>
              exact ih (files.put _ .directory) _ _
          | some node =>
              cases node with
              | directory =>
                  exact ih files _ _
              | file content =>
                  refine .inr ?_
                  dsimp only
                  split
                  · exact ⟨_, rfl, rfl⟩
                  · exact ⟨_, rfl, rfl⟩

/-- The same of the directories that the text of a path goes through. -/
theorem makeDirectories_eq_or
    (files : FileTree) (path : Text) :
    files.makeDirectories path = (files.addDirectories (files.way path), .ok ()) ∨
      ∃ f, (files.makeDirectories path).2 = .error f ∧ f.concernsPath = true := by
  unfold makeDirectories
  dsimp only
  split
  · exact .inr ⟨_, rfl, rfl⟩
  · exact files.makeOnWay_eq_or _ _ _

end FileTree
end Datalink
