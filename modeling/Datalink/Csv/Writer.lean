import Datalink.Text.Basic

/-!
# Comma-separated values

A record is a line of fields with commas between them.  A field with a comma, a
quote or a line end in it stands in quotes, and quotes inside are written twice.
-/

namespace Datalink
namespace Csv

/-- Whether a code point makes a field stand in quotes. -/
def isSpecial (c : CodePoint) : Bool :=
  c == .scalar ',' || c == .scalar '"' || c == .scalar '\r' || c == .scalar '\n'

/-- A field in quotes. -/
def quotedField (t : Text) : Text :=
  [.scalar '"'] ++ t.replace (.scalar '"') "\"\"" ++ [.scalar '"']

/-- A field, in quotes if need be. -/
def field (t : Text) : Text := if t.any isSpecial then quotedField t else t

/-- A record with its line end. -/
def record (fields : List Text) : Text :=
  Text.join "," (fields.map field) ++ "\r\n"

end Csv
end Datalink
