import Datalink.Value.Access

/-!
# Quoted identifiers

An identifier may be qualified: its parts are separated by dots.  Every part is
written between backticks, and a backtick inside a part is written twice.

Callers hand identifiers over as values; one that is no text is refused.
-/

namespace Datalink
namespace Identifier

/-- The code point that opens and closes a part. -/
def tick : CodePoint := .scalar '`'

/-- The code point between parts. -/
def dot : CodePoint := .scalar '.'

/-- One part between backticks. -/
def quotePart (part : Text) : Text :=
  tick :: (part.replace tick [tick, tick] ++ [tick])

/-- An identifier with every part quoted. -/
def quote (name : Text) : Text :=
  Text.join [dot] ((Text.splitAt dot name).map quotePart)

/-- The text of an identifier, which is going to be taken apart at its dots. -/
def ofValue (v : Value) : Except Fault Text := v.asText "split"

/-- The texts of identifiers, up to the first that is none. -/
def ofValues : List Value → Except Fault (List Text)
  | [] => .ok []
  | v :: vs =>
      match ofValue v with
      | .error f => .error f
      | .ok t =>
          match ofValues vs with
          | .error f => .error f
          | .ok ts => .ok (t :: ts)

@[simp] theorem ofValue_text
    (t : Text) :
    ofValue (.text t) = .ok t := by
  rfl

@[simp] theorem ofValues_text
    (ts : List Text) :
    ofValues (ts.map .text) = .ok ts := by
  induction ts with
  | nil =>
      rfl
  | cons t ts ih =>
      simp [ofValues, ih]

end Identifier
end Datalink
