import Datalink.Text.Utf8
import Datalink.Value.Printer
import Datalink.Value.Reader

/-!
# Members of enumerations

The member of an enumeration takes on the form of its enumeration: that of an
enumeration of integers holds an integer, and that of an enumeration of texts holds a
text.  What the member is given is turned into one; a tuple stands for several givens,
which are a spelling and its base, or bytes and their encoding.
-/

namespace Datalink
namespace Value

/-- What a member is given. -/
def givens : Value → List Value
  | tuple items => items
  | v => [v]

/-- A run of bytes as the text of its ASCII characters. -/
def asciiText (data : List UInt8) : Text := data.map fun b => .ofCode b.toNat

/-- The spelling of a number that a value is, made plain. -/
def spelling? (v : Value) : Option Text :=
  match v.face with
  | text t => some (Numeral.plain t)
  | bytes _ data => some (asciiText data)
  | _ => none

/-- The whole part of a decimal, unless it is beyond all use. -/
def wholePart? : Scaled → Option Int
  | .finite negative coefficient exponent =>
      let whole : Option Nat :=
        if exponent < 0 then
          if (Numeral.natural coefficient).length + exponent ≤ 0 then some 0
          else some (coefficient / Nat.pow 10 exponent.natAbs)
        else if exponent ≤ Numeral.digitLimit then
          some (coefficient * Nat.pow 10 exponent.natAbs)
        else
          none
      whole.map fun n => if negative then -(n : Int) else n
  | _ => none

/-- The integer that a value is turned into. -/
def toInteger? (v : Value) : Option Int :=
  match v.face with
  | bool b => some (if b then 1 else 0)
  | int n => some n
  | real x =>
      match Numeral.parts x with
      | .finite negative significand exponent =>
          let (num, den) := Numeral.quotient significand exponent
          some (if negative then -((num / den : Nat) : Int) else (num / den : Nat))
      | _ => none
  | decimal d => wholePart? d
  | uuid number => some number
  | v => v.spelling?.bind (Numeral.readInteger? 10)

/-- The integer that a spelling denotes in a base. -/
def toIntegerIn? (spelled base : Value) : Option Int :=
  match spelled.spelling?, base.face with
  | some t, int base =>
      if base = 0 ∨ 2 ≤ base ∧ base ≤ 36 then Numeral.readInteger? base.toNat t else none
  | _, _ => none

/-- The name of an encoding as encodings are looked up: in lower case, with underscores
for spaces and hyphens. -/
def encodingName (t : Text) : Text :=
  t.toLower.map fun c =>
    if c = .scalar ' ' ∨ c = .scalar '-' then .scalar '_' else c

/-- The names of the encoding whose code points have one to four bytes. -/
def utf8Names : List Text := ["utf_8", "utf8", "u8", "utf", "cp65001"]

/-- The names of the encoding of the ASCII characters. -/
def asciiNames : List Text :=
  ["ascii", "us_ascii", "646", "iso646_us", "cp367"]

/-- The names of the encoding of the first 256 code points. -/
def latinNames : List Text :=
  ["latin_1", "latin1", "latin", "l1", "iso_8859_1", "iso8859_1", "iso8859", "8859", "cp819"]

/-- The text of bytes in an encoding, if they have one. -/
def decoded? (data : List UInt8) (encoding : Text) : Option Text :=
  let name := encodingName encoding
  if utf8Names.contains name then
    Text.decode? data
  else if asciiNames.contains name then
    if data.all fun b => b < 0x80 then some (asciiText data) else none
  else if latinNames.contains name then
    some (asciiText data)
  else
    none

/-- The text that the givens of a member are turned into. -/
def textOf? : List Value → Option Text
  | [] => some []
  | [v] => some v.display
  | bytes _ data :: encoding :: _ =>
      match encoding.face with
      | text encoding => decoded? data encoding
      | _ => none
  | _ => none

/-- The integer that the givens of a member are turned into. -/
def integerOf? : List Value → Option Int
  | [] => some 0
  | [v] => v.toInteger?
  | [spelled, base] => toIntegerIn? spelled base
  | _ => none

/-- A member of an enumeration, which holds what its form asks for. -/
def enumerated (form : MemberForm) (enumeration name : Text) (v : Value) : Value :=
  let held : Value :=
    match form with
    | .plain => v
    | .integer => (integerOf? v.givens).elim v int
    | .textual => (textOf? v.givens).elim v text
  member form enumeration name held

end Value
end Datalink
