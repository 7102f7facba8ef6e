import Datalink.Text.Printable

/-!
# Quoted texts

The printed form of a text stands between quotes.  Single quotes are used unless
the text holds one and holds no double quote.  The backslash, the quote in use,
and everything that does not print are written as escapes.
-/

namespace Datalink

namespace Text

/-- A number in lower-case hexadecimal with the given count of digits. -/
def hex : Nat → Nat → Text
  | 0, _ => []
  | width + 1, n => hex width (n / 16) ++ [.scalar (Nat.digitChar (n % 16))]

/-- The escape of a code point by its number, as short as its size allows. -/
def escapeByCode (n : Nat) : Text :=
  if n < 0x100 then
    "\\x" ++ hex 2 n
  else if n < 0x10000 then
    "\\u" ++ hex 4 n
  else
    "\\U" ++ hex 8 n

/-- One code point inside quotes. -/
def quotedPoint (quote : Char) (c : CodePoint) : Text :=
  if c = .scalar quote ∨ c = .scalar '\\' then
    [.scalar '\\', c]
  else if c = .scalar '\n' then
    "\\n"
  else if c = .scalar '\r' then
    "\\r"
  else if c = .scalar '\t' then
    "\\t"
  else if c.isPrinting then
    [c]
  else
    escapeByCode c.code

/-- The quote that a text is printed in. -/
def quoteFor (t : Text) : Char :=
  if t.contains (.scalar '\'') && !t.contains (.scalar '"') then '"' else '\''

/-- The printed form of a text. -/
def quoted (t : Text) : Text :=
  let quote := quoteFor t
  [.scalar quote] ++ t.flatMap (quotedPoint quote) ++ [.scalar quote]

end Text
end Datalink
