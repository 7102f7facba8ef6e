import Datalink.Fault

/-!
# JSON text

Values in JSON, with a comma and a space between items and a colon and a space
after keys.  Texts are written in ASCII: everything outside the printing characters
is an escape, and a code point beyond four hexadecimal digits is a pair of
surrogates.  Tuples are written like lists.  Sets, bytes and other values that JSON
has no notion of are refused.
-/

namespace Datalink
namespace Json

/-- Floating-point numbers in JSON: those of the printed form, with other names for
the values that are no numbers. -/
def realLayout : Numeral.Layout := ⟨-4, 16, 2, "NaN", "Infinity"⟩

/-- An escape by number. -/
def escapeUnit (n : Nat) : Text := "\\u" ++ Text.hex 4 n

/-- A code point inside quotes. -/
def escaped (c : CodePoint) : Text :=
  if c = .scalar '"' then "\\\""
  else if c = .scalar '\\' then "\\\\"
  else if c = .scalar '\n' then "\\n"
  else if c = .scalar '\r' then "\\r"
  else if c = .scalar '\t' then "\\t"
  else if c = .scalar '\x08' then "\\b"
  else if c = .scalar '\x0c' then "\\f"
  else if 0x20 ≤ c.code ∧ c.code ≤ 0x7E then [c]
  else if c.code < 0x10000 then escapeUnit c.code
  else
    escapeUnit (0xD800 + (c.code - 0x10000) / 0x400) ++
      escapeUnit (0xDC00 + (c.code - 0x10000) % 0x400)

/-- A text in quotes. -/
def string (t : Text) : Text :=
  [.scalar '"'] ++ t.flatMap escaped ++ [.scalar '"']

/-- A whole number, if it is short enough. -/
def wholeNumber (n : Int) : Except Fault Text :=
  if Numeral.writable n then .ok (Numeral.integer n) else .error .digitLimit

/-- The text of a value without parts. -/
def leaf (v : Value) : Except Fault Text :=
  match v with
  | .null => .ok "null"
  | .bool b => .ok (if b then "true" else "false")
  | .int n => wholeNumber n
  | .real x => .ok (realLayout.render x)
  | .text t => .ok (string t)
  | v => .error (.misfit (.json v))

/-- A key of a mapping, which is written as a text. -/
def key (v : Value) : Except Fault Text :=
  match v.face with
  | .text t => .ok (string t)
  | face =>
      match leaf face with
      | .error (.misfit _) => .error (.misfit (.jsonKey v))
      | .error f => .error f
      | .ok t => .ok (string t)

mutual

/-- A value in JSON. -/
def encode : Value → Except Fault Text
  | .list items =>
      match encodeItems items with
      | .error f => .error f
      | .ok ts => .ok ("[" ++ Text.join ", " ts ++ "]")
  | .tuple items =>
      match encodeItems items with
      | .error f => .error f
      | .ok ts => .ok ("[" ++ Text.join ", " ts ++ "]")
  | .mapping entries =>
      match encodeEntries entries with
      | .error f => .error f
      | .ok ts => .ok ("\x7b" ++ Text.join ", " ts ++ "\x7d")
  | .member .integer _ _ v => encode v
  | .member .textual _ _ v => encode v
  | v => leaf v

/-- The values of a list in JSON. -/
def encodeItems : List Value → Except Fault (List Text)
  | [] => .ok []
  | v :: vs =>
      match encode v with
      | .error f => .error f
      | .ok t =>
          match encodeItems vs with
          | .error f => .error f
          | .ok ts => .ok (t :: ts)

/-- The entries of a mapping in JSON. -/
def encodeEntries : List (Value × Value) → Except Fault (List Text)
  | [] => .ok []
  | (k, v) :: es =>
      match key k with
      | .error f => .error f
      | .ok kt =>
          match encode v with
          | .error f => .error f
          | .ok vt =>
              match encodeEntries es with
              | .error f => .error f
              | .ok ts => .ok ((kt ++ ": " ++ vt) :: ts)

end

end Json
end Datalink
