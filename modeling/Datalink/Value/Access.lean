import Datalink.Fault
import Datalink.Value.Keyed

/-!
# What is asked of values

Callers hand over values of any type.  An operation asks a value for its words, its
items, its text or its place in a list, or whether it can be a key, and a value that
has nothing of the kind is refused with the reason.

Results: a text has itself for its words and for its text, and it can be a key.
-/

namespace Datalink
namespace Value

/-- A text that may be missing, as a value. -/
def optionalText : Option Text → Value
  | none => null
  | some t => text t

/-- The displayed form of a value, if it has one. -/
def words (v : Value) : Except Fault Text :=
  if v.displayable then .ok v.display else .error .digitLimit

/-- The printed form of a value, if it has one. -/
def printed (v : Value) : Except Fault Text :=
  if v.printable then .ok v.print else .error .digitLimit

/-- The most items that are held at once. -/
def itemLimit : Nat := Nat.pow 2 33

/-- The length from which on a range has no length. -/
def lengthLimit : Nat := Nat.pow 2 63

/-- Why the items of a value cannot be held at once: there are too many of them. -/
def lengthFault? (v : Value) : Option Fault :=
  if v.announcedLength ≤ itemLimit then none
  else if v.announcedLength < lengthLimit then some .outOfMemory
  else some .lengthTooLarge

/-- The items of a value. -/
def asItems (v : Value) : Except Fault (List Value) :=
  match v.lengthFault? with
  | some f => .error f
  | none =>
      match v.items? with
      | some items => .ok items
      | none => .error (.misfit (.items v))

/-- The text of a value of which an operation on texts is asked.  Runs of bytes know
the operation, but not with a text beside them. -/
def asText (operation : Text) (v : Value) : Except Fault Text :=
  match v.face with
  | text t => .ok t
  | bytes .fixed _ => .error (.misfit .textOperation)
  | bytes .changeable _ => .error (.misfit .textOperation)
  | _ => .error (.memberMissing v.fullTypeName operation)

/-- The text of a value that is to be encoded. -/
def asEncodable (v : Value) : Except Fault Text :=
  match v.face with
  | text t => .ok t
  | _ => .error (.memberMissing v.fullTypeName "encode")

/-- The integer that a value is. -/
def integer? (v : Value) : Option Int :=
  match v.face with
  | bool b => some (if b then 1 else 0)
  | int n => some n
  | _ => none

/-- The place in a list that a value stands for. -/
def asIndex (v : Value) : Except Fault Int :=
  match v.integer? with
  | some n => .ok n
  | none => .error (.misfit (.index v))

mutual

/-- Why a value cannot be a key: something in it can change, or refuses to be
compared. -/
def keyFault? : Value → Option Fault
  | list items => some (.misfit (.key (list items)))
  | set items => some (.misfit (.key (set items)))
  | mapping entries => some (.misfit (.key (mapping entries)))
  | bytes .changeable data => some (.misfit (.key (bytes .changeable data)))
  | decimal (.notANumber _ true _) => some .signalingKey
  | tuple items => keyFaultIn? items
  | _ => none

/-- Why the values of a list cannot be keys. -/
def keyFaultIn? : List Value → Option Fault
  | [] => none
  | v :: vs =>
      match keyFault? v with
      | some f => some f
      | none => keyFaultIn? vs

end

/-- Whether a value can be a key. -/
def checkKey (v : Value) : Except Fault Unit :=
  match v.keyFault? with
  | some f => .error f
  | none => .ok ()

/-- Whether a value is one of the members of a set.  A set is looked for by its
items. -/
def isIn (v : Value) (members : List Value) : Except Fault Bool :=
  match v with
  | set items => .ok (members.any (fixedSet items).same)
  | v =>
      match v.checkKey with
      | .error f => .error f
      | .ok () => .ok (members.any v.same)

@[simp] theorem asText_text
    (operation t : Text) :
    (text t).asText operation = .ok t := by
  rfl

@[simp] theorem asEncodable_text
    (t : Text) :
    (text t).asEncodable = .ok t := by
  rfl

@[simp] theorem words_text
    (t : Text) :
    (text t).words = .ok t := by
  rfl

@[simp] theorem checkKey_text
    (t : Text) :
    (text t).checkKey = .ok () := by
  rfl

end Value

namespace Keyed

variable {α : Type}

/-- The mapping of a list of entries, whose keys must be usable. -/
def collect (entries : List (Value × α)) : Except Fault (Keyed α) :=
  match Value.keyFaultIn? (entries.map Prod.fst) with
  | some f => .error f
  | none => .ok (ofList entries)

end Keyed
end Datalink
