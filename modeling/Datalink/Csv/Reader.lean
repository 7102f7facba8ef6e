import Datalink.Assoc
import Datalink.Fault

/-!
# Reading comma-separated values

Input: the text of a file.  The reader goes through it code point by code point and
knows at which place of a record it is.  A line feed, and the end of the text, also
end a line; a line that ends inside quotes is continued by the next one.

Results: `records` gives the fields of every record, an empty line being a record
without fields, and `mappings` takes the first record as the keys of the others.
-/

namespace Datalink
namespace Csv

/-- Where in a record the reader is. -/
inductive Place where
  | recordStart
  | fieldStart
  | unquoted
  | quoted
  /-- Behind a quote that ends the field unless another quote follows. -/
  | quoteSeen
  /-- Behind the end of the record, but still on its line. -/
  | lineEnd
deriving DecidableEq, Inhabited

/-- The most code points that a field may have. -/
def fieldLimit : Nat := 131072

/-- What the reader knows.  The field being read and the fields before it are held
backwards; the room is what the field may still grow by. -/
structure Reading where
  place : Place
  field : Text
  room : Nat
  fields : List Text
deriving Inhabited

namespace Reading

/-- The state at the start of a record. -/
def fresh : Reading := ⟨.recordStart, [], fieldLimit, []⟩

/-- A code point more in the field. -/
def add (r : Reading) (c : CodePoint) (place : Place) : Except Fault Reading :=
  match r.room with
  | 0 => .error .csvFieldTooLong
  | room + 1 => .ok { r with place := place, field := c :: r.field, room := room }

/-- The field finished. -/
def save (r : Reading) (place : Place) : Reading :=
  ⟨place, [], fieldLimit, r.field.reverse :: r.fields⟩

/-- The fields read so far. -/
def record (r : Reading) : List Text := r.fields.reverse

/-- Whether a code point belongs to a line end. -/
def isLineEnd (c : CodePoint) : Bool := c == .scalar '\n' || c == .scalar '\r'

/-- A code point at the start of a field. -/
def startField (r : Reading) (c : CodePoint) : Except Fault Reading :=
  if isLineEnd c then .ok (r.save .lineEnd)
  else if c = .scalar '"' then .ok { r with place := .quoted }
  else if c = .scalar ',' then .ok (r.save .fieldStart)
  else r.add c .unquoted

/-- The next code point of the text. -/
def step (r : Reading) (c : CodePoint) : Except Fault Reading :=
  match r.place with
  | .recordStart =>
      if isLineEnd c then .ok { r with place := .lineEnd } else r.startField c
  | .fieldStart => r.startField c
  | .unquoted =>
      if isLineEnd c then .ok (r.save .lineEnd)
      else if c = .scalar ',' then .ok (r.save .fieldStart)
      else r.add c .unquoted
  | .quoted =>
      if c = .scalar '"' then .ok { r with place := .quoteSeen } else r.add c .quoted
  | .quoteSeen =>
      if c = .scalar '"' then r.add c .quoted
      else if c = .scalar ',' then .ok (r.save .fieldStart)
      else if isLineEnd c then .ok (r.save .lineEnd)
      else r.add c .unquoted
  | .lineEnd =>
      if isLineEnd c then .ok r else .error .csvStrayLineEnd

/-- The end of a line. -/
def endLine (r : Reading) : Reading :=
  match r.place with
  | .recordStart => r
  | .fieldStart => r.save .recordStart
  | .unquoted => r.save .recordStart
  | .quoted => r
  | .quoteSeen => r.save .recordStart
  | .lineEnd => { r with place := .recordStart }

/-- The end of the text.  A field that is still in quotes ends here. -/
def finish (r : Reading) : List (List Text) :=
  if r.place = .quoted ∨ r.field ≠ [] then [(r.save .recordStart).record] else []

/-- The records of the rest of the text. -/
def run (r : Reading) : Text → Except Fault (List (List Text))
  | [] => .ok r.finish
  | c :: rest =>
      match r.step c with
      | .error f => .error f
      | .ok r =>
          if c = .scalar '\n' ∨ rest = [] then
            let ended := r.endLine
            if ended.place = .recordStart then
              match run fresh rest with
              | .error f => .error f
              | .ok records => .ok (ended.record :: records)
            else
              run ended rest
          else
            run r rest

end Reading

/-- The records of a text. -/
def records (t : Text) : Except Fault (List (List Text)) := Reading.fresh.run t

/-- A record under keys.  Keys without a field have no value, and fields without a
key are a list under no key. -/
def mapping (keys fields : List Text) : Value :=
  let present := keys.zip (fields.map Value.text)
  let missing := (keys.drop fields.length).map fun k => (k, Value.null)
  let entries := (Assoc.ofList (present ++ missing)).map fun e => (Value.text e.1, e.2)
  let surplus := fields.drop keys.length
  .mapping (if surplus = [] then entries
    else entries ++ [(.null, .list (surplus.map .text))])

/-- The records below the first one, as mappings; records without fields are left
out. -/
def mappings : List (List Text) → List Value
  | [] => []
  | keys :: rest => (rest.filter fun fields => !fields.isEmpty).map (mapping keys)

end Csv
end Datalink
