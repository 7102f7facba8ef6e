import Datalink.Csv.Reader
import Datalink.Csv.Writer
import Datalink.Files
import Datalink.Json.Reader
import Datalink.Json.Writer
import Datalink.Observation
import Datalink.Text.Lines

/-!
# Journals

A journal is a file that entries are written to and read back from, in one of three
formats: a JSON document per line, comma-separated values under a header, or plain
lines.  Every write appends to the file or overwrites it.

Entries are mappings whose keys may be any values.  A JSON document shows all of them;
the other formats look for the fields that they know.
-/

namespace Datalink

/-- The format of a journal. -/
inductive JournalFormat where
  | json
  | csv
  | plain
deriving DecidableEq, Inhabited

namespace JournalFormat

/-- The name of a format. -/
def name : JournalFormat → Text
  | json => "json"
  | csv => "csv"
  | plain => "txt"

/-- The format of a name. -/
def ofName? (t : Text) : Option JournalFormat :=
  if t = json.name then some json
  else if t = csv.name then some csv
  else if t = plain.name then some plain
  else none

/-- The format that the end of a file's name tells. -/
def ofPath? (path : Text) : Option JournalFormat :=
  if path.endsWith ".json" then some json
  else if path.endsWith ".jsonl" then some json
  else if path.endsWith ".csv" then some csv
  else if path.endsWith ".txt" then some plain
  else none

end JournalFormat

/-- The name of a way of writing. -/
def WriteMode.name : WriteMode → Text
  | overwrite => "overwrite"
  | append => "append"

/-- The way of writing of a name. -/
def WriteMode.ofName? (t : Text) : Option WriteMode :=
  if t = WriteMode.overwrite.name then some .overwrite
  else if t = WriteMode.append.name then some .append
  else none

/-- A file that entries are written to. -/
structure Journal where
  path : Path
  mode : WriteMode
  format : JournalFormat
deriving DecidableEq, Inhabited

namespace Journal

/-- The name that asks for the format to be told by the file's name. -/
def byPath : Text := "__autodetect__"

/-- The text of a setting that must be one of a set of names. -/
def named (v : Value) (names : List Text) (refusal : Value → Fault) :
    Except Fault Text :=
  match v.isIn (names.map .text) with
  | .error f => .error f
  | .ok true => v.asEncodable
  | .ok false =>
      match v.words with
      | .error f => .error f
      | .ok _ => .error (refusal v)

/-- The way of writing asked for. -/
def chooseMode (requested : Value) : Except Fault WriteMode :=
  match named requested [WriteMode.overwrite.name, WriteMode.append.name]
      .journalMode with
  | .error f => .error f
  | .ok t => .ok ((WriteMode.ofName? t).getD .append)

/-- The format asked for, or told by the file's name. -/
def chooseFormat (path : Except Fault Text) (requested : Value) :
    Except Fault JournalFormat :=
  match requested.equals (.text byPath) with
  | .error f => .error f
  | .ok true =>
      match path with
      | .error f => .error f
      | .ok path =>
          match JournalFormat.ofPath? path with
          | some format => .ok format
          | none => .error .journalFormatUnknown
  | .ok false =>
      match named requested
          [JournalFormat.json.name, JournalFormat.csv.name, JournalFormat.plain.name]
          .journalFormat with
      | .error f => .error f
      | .ok t => .ok ((JournalFormat.ofName? t).getD .json)

/-- The text of a path, and whether the path is given in bytes. -/
def pathText (path : Value) : Except Fault (Text × Bool) :=
  match path.face with
  | .text t => .ok (t, false)
  | .bytes .fixed data => .ok (Text.ofBytes data, true)
  | _ => .error (.misfit (.path path))

/-- The text at whose end a format can be looked for.  A path given in bytes has none. -/
def formatText (files : FileTree) (path : Path) : Except Fault Text :=
  if path.inBytes then .error (.misfit .textOperation)
  else .ok (files.wholeText path.names)

/-- A journal at a path.  The directories on the way are made first. -/
def create (files : FileTree) (path mode format : Value) :
    FileTree × Except Fault Journal :=
  match pathText path with
  | .error f => (files, .error f)
  | .ok (text, inBytes) =>
      match files.makeDirectories text with
      | (files, .error f) => (files, .error f)
      | (files, .ok ()) =>
          match chooseMode mode with
          | .error f => (files, .error f)
          | .ok mode =>
              let path : Path := ⟨Path.follow files.root.depth text, inBytes⟩
              match chooseFormat (formatText files path) format with
              | .error f => (files, .error f)
              | .ok format => (files, .ok ⟨path, mode, format⟩)

/-- Texts of entries, one after the other, up to the first that has none. -/
def collect (text : Entry → Except Fault Text) :
    List Entry → Except Fault Text
  | [] => .ok []
  | e :: es =>
      match text e with
      | .error f => .error f
      | .ok t =>
          match collect text es with
          | .error f => .error f
          | .ok ts => .ok (t ++ ts)

/-- The value of a field, or another value if the field is missing. -/
def fieldOr (e : Entry) (name : Text) (default : Value) : Value :=
  (Keyed.get? (.text name) e).getD default

/-- The value of a field, where a field that is missing has none. -/
def fieldValue (e : Entry) (name : Text) : Value := fieldOr e name .null

/-- An entry as a line of JSON. -/
def jsonLine (e : Entry) : Except Fault Text :=
  match Json.encode (.mapping e) with
  | .error f => .error f
  | .ok t => .ok (t ++ "\n")

/-- The names of the fields that a table of entries has. -/
def header : List Text := ["name", "sql", "params", "elapsed_ms", "success", "error"]

/-- A value as a field of a table. -/
def cell (v : Value) : Except Fault Text :=
  match v.face with
  | .null => .ok []
  | .text t => .ok t
  | _ => v.words

/-- The fields of a table for the given names; a missing one is empty. -/
def cells (e : Entry) : List Text → Except Fault (List Text)
  | [] => .ok []
  | name :: names =>
      match cell (fieldOr e name (.text [])) with
      | .error f => .error f
      | .ok t =>
          match cells e names with
          | .error f => .error f
          | .ok ts => .ok (t :: ts)

/-- An entry as a record. -/
def csvRecord (e : Entry) : Except Fault Text :=
  match cells e header with
  | .error f => .error f
  | .ok fields => .ok (Csv.record fields)

/-- Entries as a table, under a header if asked for. -/
def csvText (withHeader : Bool) (entries : List Entry) : Except Fault Text :=
  match collect csvRecord entries with
  | .error f => .error f
  | .ok t => .ok ((if withHeader then Csv.record header else []) ++ t)

/-- An entry as a plain line. -/
def plainLine (e : Entry) : Except Fault Text :=
  match operationLine (fieldValue e "name") (fieldValue e "sql") (fieldValue e "params")
      (fieldOr e "elapsed_ms" (.int 0)) (fieldValue e "success")
      (fieldValue e "error") with
  | .error f => .error f
  | .ok t => .ok (t ++ "\n")

/-- Whether a table needs its header: the file is new, is empty, or is about to be
overwritten. -/
def needsHeader (j : Journal) (files : FileTree) : Bool :=
  match j.mode with
  | .overwrite => true
  | .append =>
      match files.seen? j.path with
      | none => true
      | some (.file content) => content.isEmpty
      | some .directory => false

/-- The text of entries in the journal's format. -/
def render (j : Journal) (files : FileTree) (entries : List Entry) :
    Except Fault Text :=
  match j.format with
  | .json => collect jsonLine entries
  | .csv => csvText (j.needsHeader files) entries
  | .plain => collect plainLine entries

/-- Entries written to the journal's file. -/
def write (j : Journal) (files : FileTree) (entries : List Entry) :
    FileTree × Except Fault Unit :=
  match j.render files entries with
  | .error f => (files, .error f)
  | .ok text => files.save j.mode j.path text

/-- The documents of lines that are not blank. -/
def documents : List Text → Except Fault (List Value)
  | [] => .ok []
  | line :: lines =>
      if line.isBlank then
        documents lines
      else
        match Json.decode line with
        | .error f => .error f
        | .ok v =>
            match documents lines with
            | .error f => .error f
            | .ok vs => .ok (v :: vs)

/-- What a text of the journal's format holds. -/
def parse (format : JournalFormat) (content : Text) : Except Fault (List Value) :=
  match format with
  | .json => documents content.lines
  | .csv =>
      match Csv.records content with
      | .error f => .error f
      | .ok records => .ok (Csv.mappings records)
  | .plain => .ok (content.lines.map .text)

/-- What has been written to the journal's file. -/
def read (j : Journal) (files : FileTree) : Except Fault (List Value) :=
  match files.load j.path with
  | .error f => .error f
  | .ok none => .ok []
  | .ok (some content) => parse j.format content

end Journal
end Datalink
