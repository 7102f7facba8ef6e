import Datalink.Assoc
import Datalink.Fault
import Datalink.Numeral.Reader

/-!
# Reading JSON

A document is one value with blanks around it.  Numbers with a fraction or an
exponent are floating-point numbers, `NaN` and the two infinities are read too, and
of two entries with the same key the later one counts.  Escaped surrogates that make
a pair become one code point.  Lists and mappings nest to a set depth.
-/

namespace Datalink
namespace Json

/-- Whether a code point may stand between the tokens of a document. -/
def isSpace (c : CodePoint) : Bool :=
  c == .scalar ' ' || c == .scalar '\t' || c == .scalar '\n' || c == .scalar '\r'

/-- The text without the blanks at its start. -/
def skipSpace (t : Text) : Text := t.dropWhile isSpace

/-- The number of four hexadecimal digits. -/
def hexUnit? (a b c d : CodePoint) : Option Nat :=
  match Numeral.hexDigit? a, Numeral.hexDigit? b, Numeral.hexDigit? c,
      Numeral.hexDigit? d with
  | some a, some b, some c, some d => some (a * 4096 + b * 256 + c * 16 + d)
  | _, _, _, _ => none

/-- The code point that two numbers make as a pair of surrogates. -/
def pair? (high low : Nat) : Option CodePoint :=
  if 0xD800 ≤ high ∧ high < 0xDC00 ∧ 0xDC00 ≤ low ∧ low < 0xE000 then
    some (.ofCode (0x10000 + (high - 0xD800) * 0x400 + (low - 0xDC00)))
  else
    none

/-- The code point of an escape with one letter. -/
def simpleEscape? (c : CodePoint) : Option CodePoint :=
  if c = .scalar '"' ∨ c = .scalar '\\' ∨ c = .scalar '/' then some c
  else if c = .scalar 'b' then some '\x08'
  else if c = .scalar 'f' then some '\x0c'
  else if c = .scalar 'n' then some '\n'
  else if c = .scalar 'r' then some '\r'
  else if c = .scalar 't' then some '\t'
  else none

/-- A code point in front of the text read so far. -/
def consRead (c : CodePoint) (result : Option (Text × Text)) : Option (Text × Text) :=
  result.map fun r => (c :: r.1, r.2)

/-- The text up to the closing quote, and the rest behind the quote. -/
def stringBody : Text → Option (Text × Text)
  | [] => none
  | .scalar '"' :: rest => some ([], rest)
  | .scalar '\\' :: .scalar 'u' :: a :: b :: c :: d :: rest =>
      match hexUnit? a b c d with
      | none => none
      | some high =>
          match rest with
          | .scalar '\\' :: .scalar 'u' :: e :: f :: g :: h :: after =>
              match (hexUnit? e f g h).bind (pair? high) with
              | some c => consRead c (stringBody after)
              | none =>
                  consRead (.ofCode high)
                    (stringBody
                      (.scalar '\\' :: .scalar 'u' :: e :: f :: g :: h :: after))
          | rest => consRead (.ofCode high) (stringBody rest)
  | .scalar '\\' :: c :: rest =>
      match simpleEscape? c with
      | none => none
      | some c => consRead c (stringBody rest)
  | c :: rest =>
      if c.code < 0x20 ∨ c = .scalar '\\' then none else consRead c (stringBody rest)

/-- A word at the start of a text, with the value it stands for. -/
def word? (t : Text) : List (Text × Value) → Option (Value × Text)
  | [] => none
  | (word, v) :: words =>
      match Text.dropOpening? word t with
      | some rest => some (v, rest)
      | none => word? t words

/-- The words that stand for values. -/
def words : List (Text × Value) :=
  [("null", .null), ("true", .bool true), ("false", .bool false),
    ("NaN", .real (0.0 / 0.0)), ("Infinity", .real (1.0 / 0.0)),
    ("-Infinity", .real (-1.0 / 0.0))]

/-- A number of more than one digit does not start with a zero. -/
def zeroInFront : Text → Bool
  | .scalar '0' :: _ :: _ => true
  | _ => false

/-- A word or a number at the start of a text, and the rest. -/
def leafAt (t : Text) : Except Fault (Value × Text) :=
  match word? t words with
  | some result => .ok result
  | none =>
      match Numeral.read? t with
      | none => .error .jsonMalformed
      | some (written, rest) =>
          if zeroInFront written.whole then
            .error .jsonMalformed
          else
            match written.toInt? with
            | none => .ok (.real written.toFloat, rest)
            | some n =>
                if Numeral.digitLimit < written.whole.length then
                  .error .digitLimit
                else
                  .ok (.int n, rest)

/-- The most lists and mappings around a value. -/
def nestingLimit : Nat := 978

/-- The mapping of a list of entries. -/
def mapping (entries : List (Text × Value)) : Value :=
  .mapping ((Assoc.ofList entries).map fun e => (.text e.1, e.2))

mutual

/-- A value at the start of a text, and the rest.  The room is what may still be
nested, and the fuel bounds the number of values. -/
def valueAt (room : Nat) : Nat → Text → Except Fault (Value × Text)
  | 0, _ => .error .jsonMalformed
  | fuel + 1, t =>
      match t with
      | .scalar '"' :: rest =>
          match stringBody rest with
          | none => .error .jsonMalformed
          | some (s, rest) => .ok (.text s, rest)
      | .scalar '[' :: rest =>
          match room, skipSpace rest with
          | 0, _ => .error .nestedTooDeep
          | _, .scalar ']' :: rest => .ok (.list [], rest)
          | room + 1, rest =>
              match itemsAt room fuel rest with
              | .error f => .error f
              | .ok (items, rest) => .ok (.list items, rest)
      | .scalar '\x7b' :: rest =>
          match room, skipSpace rest with
          | 0, _ => .error .nestedTooDeep
          | _, .scalar '\x7d' :: rest => .ok (.mapping [], rest)
          | room + 1, rest =>
              match entriesAt room fuel rest with
              | .error f => .error f
              | .ok (entries, rest) => .ok (mapping entries, rest)
      | t => leafAt t

/-- The items of a list up to its closing bracket, and the rest behind it. -/
def itemsAt (room : Nat) : Nat → Text → Except Fault (List Value × Text)
  | 0, _ => .error .jsonMalformed
  | fuel + 1, t =>
      match valueAt room fuel t with
      | .error f => .error f
      | .ok (v, rest) =>
          match skipSpace rest with
          | .scalar ']' :: rest => .ok ([v], rest)
          | .scalar ',' :: rest =>
              match itemsAt room fuel (skipSpace rest) with
              | .error f => .error f
              | .ok (vs, rest) => .ok (v :: vs, rest)
          | _ => .error .jsonMalformed

/-- The entries of a mapping up to its closing bracket, and the rest behind it. -/
def entriesAt (room : Nat) : Nat → Text → Except Fault (List (Text × Value) × Text)
  | 0, _ => .error .jsonMalformed
  | fuel + 1, t =>
      match t with
      | .scalar '"' :: rest =>
          match stringBody rest with
          | none => .error .jsonMalformed
          | some (k, rest) =>
              match skipSpace rest with
              | .scalar ':' :: rest =>
                  match valueAt room fuel (skipSpace rest) with
                  | .error f => .error f
                  | .ok (v, rest) =>
                      match skipSpace rest with
                      | .scalar '\x7d' :: rest => .ok ([(k, v)], rest)
                      | .scalar ',' :: rest =>
                          match entriesAt room fuel (skipSpace rest) with
                          | .error f => .error f
                          | .ok (es, rest) => .ok ((k, v) :: es, rest)
                      | _ => .error .jsonMalformed
              | _ => .error .jsonMalformed
      | _ => .error .jsonMalformed

end

/-- The value of a document.  Every bracket and every item takes two of the fuel at
most. -/
def decode (t : Text) : Except Fault Value :=
  match valueAt nestingLimit (2 * t.length + 2) (skipSpace t) with
  | .error f => .error f
  | .ok (v, rest) =>
      if (skipSpace rest).isEmpty then .ok v else .error .jsonMalformed

end Json
end Datalink
