import Datalink.Assoc
import Datalink.Fault
import Datalink.Text.Utf8

/-!
# A tree of files

Directories and files below one root directory.  A path is the list of names that
lead from the root to a place, and it may lead back to the directories above the root.
The names of a place are bytes, so that paths in different spellings may lead to one
place.

A name has at most 255 bytes, and a path from the root of all files less than 4096.
Surrogates from U+DC80 to U+DCFF stand for single bytes that are no text; other
surrogates and the null character stand in no name.

Results: `makeDirectories` creates what is missing on the way to a place, and `save`
opens a file, empties it if asked to, and only then encodes the text to be written,
so that a text without encoding leaves an opened file behind.
-/

namespace Datalink

/-- A path as it was given: the names on the way from the root, and whether they were
given in bytes. -/
structure Path where
  names : List Text
  inBytes : Bool
deriving DecidableEq, Inhabited

/-- The names of a place, in bytes, on the way from the root. -/
abbrev Place := List (List UInt8)

namespace Path

/-- Whether a name leads nowhere: it is empty, or it is a single dot. -/
def isStill (name : Text) : Bool := name = [] ∨ name = ("." : Text)

/-- Whether a name leads back to the directory above. -/
def isUp (name : Text) : Bool := name = (".." : Text)

/-- The names of the directory above, if there are `depth` directories above the root.
The topmost directory is above itself. -/
def up (depth : Nat) (names : List Text) : List Text :=
  if names.all isUp then
    if names.length < depth then names ++ [(".." : Text)] else names
  else
    names.dropLast

/-- One name further. -/
def step (depth : Nat) (names : List Text) (name : Text) : List Text :=
  if isStill name then names else if isUp name then up depth names else names ++ [name]

/-- The names in the text of a path. -/
def split (t : Text) : List Text := Text.splitAt (.scalar '/') t

/-- Where the text of a path starts: at the topmost directory if a slash stands in front,
and at the root otherwise. -/
def start (depth : Nat) : Text → List Text
  | .scalar '/' :: _ => List.replicate depth (".." : Text)
  | _ => []

/-- The names of the place that the text of a path leads to. -/
def follow (depth : Nat) (t : Text) : List Text :=
  (split t).foldl (step depth) (start depth t)

/-- The names of a path with slashes between them. -/
def joined (p : Path) : Text := Text.join "/" p.names

/-- The text of a path, from the root; the root itself is a dot. -/
def text (p : Path) : Text := if p.names = [] then "." else p.joined

/-- The place that a path leads to. -/
def place (p : Path) : Place := p.names.map Text.toBytes

/-- Whether a path leads to a directory above the root. -/
def isAbove (p : Path) : Bool := !p.names.isEmpty && p.names.all isUp

/-- The most bytes that a name may have. -/
def nameLimit : Nat := 255

/-- The number of bytes that a path may not reach. -/
def pathLimit : Nat := 4096

/-- The most names on a way that is made from its end backwards. -/
def wayLimit : Nat := 978

/-- The number of bytes of a name. -/
def byteCount (name : Text) : Nat := name.toBytes.length

/-- A text with the stray bytes in it taken for characters. -/
def withoutStrayBytes (name : Text) : Text :=
  name.map fun c => if c.strayByte?.isSome then .scalar '?' else c

/-- Whether something can be made under a name at the end of a path.  Given are the
place of the name in the path, the number of bytes up to its end, and the path as
complaints show it. -/
def checkName (name : Text) (position size : Nat) (shown : Value) : Except Fault Unit :=
  match Text.firstRunFrom position (withoutStrayBytes name) with
  | some run => .error (.unencodable run)
  | none =>
      if name.contains (.scalar '\x00') then .error .nullInName
      else if pathLimit ≤ size ∨ nameLimit < byteCount name then .error (.nameTooLong shown)
      else .ok ()

end Path

/-- What is at a place: a directory, or a file with its text. -/
inductive Node where
  | directory
  | file (content : Text)
deriving DecidableEq, Inhabited

/-- Whether a file that is written keeps its text. -/
inductive WriteMode where
  | overwrite
  | append
deriving DecidableEq, Inhabited

/-- Where a root directory is: its path as complaints show it, the number of bytes that
its path has, and the number of directories above it. -/
structure Root where
  location : Text
  size : Nat
  depth : Nat
deriving DecidableEq, Inhabited

/-- Directories and files below a root directory. -/
structure FileTree where
  root : Root
  nodes : Assoc Place Node
deriving Inhabited

namespace FileTree

/-- A root directory with nothing in it. -/
def empty (root : Root) : FileTree := ⟨root, [([], .directory)]⟩

/-- The text of a path, from the root of all files. -/
def wholeText (files : FileTree) (names : List Text) : Text :=
  Text.join "/" (files.root.location :: names)

/-- A path as complaints show it. -/
def shown (files : FileTree) (p : Path) : Value :=
  if p.inBytes then .bytes .fixed (files.wholeText p.names).toBytes
  else .text (files.wholeText p.names)

/-- What is at a place. -/
def node? (files : FileTree) (p : Path) : Option Node :=
  match Assoc.get? p.place files.nodes with
  | some node => some node
  | none => if p.isAbove then some .directory else none

/-- A node put at a place. -/
def put (files : FileTree) (p : Path) (node : Node) : FileTree :=
  { files with nodes := Assoc.put p.place node files.nodes }

@[simp] theorem node?_put_self
    (files : FileTree) (p : Path) (node : Node) :
    (files.put p node).node? p = some node := by
  simp [node?, put]

@[simp] theorem node?_put_ne
    (files : FileTree) {p q : Path} (node : Node) (h : q.place ≠ p.place) :
    (files.put p node).node? q = files.node? q := by
  simp [node?, put, Assoc.get?_put_ne h]

/-- The text of the file at a place. -/
def content? (files : FileTree) (p : Path) : Option Text :=
  match files.node? p with
  | some (.file content) => some content
  | _ => none

/-- The text of the file at a place, where a file that is not there has none. -/
def content (files : FileTree) (p : Path) : Text := (files.content? p).getD []

/-- The directories on a way, made if they are missing.  Given are the names of the
place that was reached and the number of bytes of the way to it. -/
def makeOnWay (files : FileTree) (reached : List Text) (size : Nat) :
    List Text → FileTree × Except Fault Unit
  | [] => (files, .ok ())
  | name :: names =>
      let next := Path.step files.root.depth reached name
      let size := size + Path.byteCount name
      let shown : Value := .text (files.wholeText next)
      if Path.isStill name then
        makeOnWay files next (size + 1) names
      else
        match Path.checkName name 0 size shown with
        | .error f => (files, .error f)
        | .ok () =>
            match files.node? ⟨next, false⟩ with
            | some .directory => makeOnWay files next (size + 1) names
            | none => makeOnWay (files.put ⟨next, false⟩ .directory) next (size + 1) names
            | some (.file _) =>
                if names.all Path.isStill then (files, .error (.fileExists shown))
                else (files, .error (.notDirectory shown))

/-- The directories that the text of a path goes through, made if they are missing.
The way is made from its end backwards, up to a directory that is there. -/
def makeDirectories (files : FileTree) (path : Text) :
    FileTree × Except Fault Unit :=
  let names := (Path.split path).dropLast
  let missing := names.dropWhile fun name => Path.isStill name || Path.isUp name
  if Path.wayLimit < (missing.filter fun name => !name.isEmpty).length then
    (files, .error .nestedTooDeep)
  else
    files.makeOnWay (Path.start files.root.depth path) 0 names

/-- The number of bytes of a path from the root of all files. -/
def wholeSize (files : FileTree) (p : Path) : Nat :=
  files.root.size + 1 + Path.byteCount p.joined

/-- What a path shows: what is at its place, unless the path is too long. -/
def seen? (files : FileTree) (p : Path) : Option Node :=
  if files.wholeSize p < Path.pathLimit then files.node? p else none

/-- Whether a path can be used. -/
def checkPath (files : FileTree) (p : Path) : Except Fault Unit :=
  let last := p.names.getLastD []
  let position := files.root.size + 1 + (p.joined.length - last.length)
  Path.checkName last position (files.wholeSize p) (files.shown p)

/-- Whether something can be made at a place: there must be a directory to make it
in. -/
def checkParent (files : FileTree) (p : Path) : Except Fault Unit :=
  match files.node? ⟨Path.up files.root.depth p.names, p.inBytes⟩ with
  | some .directory => .ok ()
  | some (.file _) => .error (.notDirectory (files.shown p))
  | none => .error (.fileMissing (files.shown p))

/-- Whether a place can be opened for writing. -/
def checkOpen (files : FileTree) (p : Path) : Except Fault Unit :=
  match files.checkPath p with
  | .error f => .error f
  | .ok () =>
      match files.node? p with
      | some .directory => .error (.isDirectory (files.shown p))
      | some (.file _) => .ok ()
      | none => files.checkParent p

/-- What is left of a file's text when it is opened. -/
def opened (files : FileTree) (mode : WriteMode) (p : Path) : Text :=
  match mode with
  | .overwrite => []
  | .append => files.content p

/-- A text written to a file. -/
def save (files : FileTree) (mode : WriteMode) (p : Path) (text : Text) :
    FileTree × Except Fault Unit :=
  match files.checkOpen p with
  | .error f => (files, .error f)
  | .ok () =>
      let before := files.opened mode p
      match text.firstRun? with
      | some run => (files.put p (.file before), .error (.unencodable run))
      | none => (files.put p (.file (before ++ text)), .ok ())

/-- The text of a file, or none if there is no file; a directory has no text. -/
def load (files : FileTree) (p : Path) : Except Fault (Option Text) :=
  match files.seen? p with
  | none => .ok none
  | some (.file content) => .ok (some content)
  | some .directory => .error (.isDirectory (files.shown p))

/-- A directory made at a place where there is nothing. -/
def makeDirectory (files : FileTree) (p : Path) : FileTree × Except Fault Unit :=
  match files.checkPath p with
  | .error f => (files, .error f)
  | .ok () =>
      match files.node? p with
      | some _ => (files, .error (.fileExists (files.shown p)))
      | none =>
          match files.checkParent p with
          | .error f => (files, .error f)
          | .ok () => (files.put p .directory, .ok ())

/-- Whether there is something below a place.  Below a directory above the root there is
the root. -/
def isOccupied (files : FileTree) (p : Path) : Bool :=
  p.isAbove || files.nodes.any fun entry => entry.1 ≠ p.place ∧ p.place.isPrefixOf entry.1

/-- An empty directory taken away. -/
def removeDirectory (files : FileTree) (p : Path) : FileTree × Except Fault Unit :=
  match files.checkPath p with
  | .error f => (files, .error f)
  | .ok () =>
      match files.node? p with
      | none => (files, .error (.fileMissing (files.shown p)))
      | some (.file _) => (files, .error (.notDirectory (files.shown p)))
      | some .directory =>
          if files.isOccupied p then
            (files, .error (.directoryNotEmpty (files.shown p)))
          else
            ({ files with nodes := Assoc.erase p.place files.nodes }, .ok ())

/-- The text of a place, from the root. -/
def placeText (place : Place) : Text := Text.join "/" (place.map Text.ofBytes)

/-- Whether a place is seen in a listing: it is below the root, and the path of the
directory that it is in is not too long. -/
def isSeen (files : FileTree) (place : Place) : Bool :=
  let above := placeText place.dropLast
  !place.isEmpty && place.head? != some (".." : Text).toBytes &&
    files.root.size + 1 + Path.byteCount above < Path.pathLimit

/-- A place in a listing; a slash stands behind a directory. -/
def listed (entry : Place × Node) : Text :=
  match entry.2 with
  | .directory => placeText entry.1 ++ "/"
  | .file _ => placeText entry.1

/-- Everything below the root, sorted. -/
def listing (files : FileTree) : List Text :=
  ((files.nodes.filter fun entry => files.isSeen entry.1).map listed).mergeSort Text.le

end FileTree
end Datalink
