import Datalink.Text.Basic

/-!
# Lines and blanks

A line ends at a line feed, a carriage return, the two together, or at one of
eight further separators; the last line needs no end.  Blank code points are the
white space of Unicode together with the four information separators.
-/

namespace Datalink
namespace CodePoint

/-- Whether a code point ends a line. -/
def isLineBreak (c : CodePoint) : Bool :=
  (0x0A ≤ c.code && c.code ≤ 0x0D) || (0x1C ≤ c.code && c.code ≤ 0x1E) ||
    c.code == 0x85 || c.code == 0x2028 || c.code == 0x2029

/-- Whether a code point is blank. -/
def isBlank (c : CodePoint) : Bool :=
  (0x09 ≤ c.code && c.code ≤ 0x0D) || (0x1C ≤ c.code && c.code ≤ 0x20) ||
    c.code == 0x85 || c.code == 0xA0 || c.code == 0x1680 ||
    (0x2000 ≤ c.code && c.code ≤ 0x200A) || c.code == 0x2028 || c.code == 0x2029 ||
    c.code == 0x202F || c.code == 0x205F || c.code == 0x3000

end CodePoint

namespace Text

/-- Whether a text holds blanks only. -/
def isBlank (t : Text) : Bool := t.all CodePoint.isBlank

/-- The code point put in front of the first line. -/
def consLine (c : CodePoint) : List Text → List Text
  | [] => [[c]]
  | line :: lines => (c :: line) :: lines

/-- The lines of a text without their ends. -/
def lines : Text → List Text
  | [] => []
  | .scalar '\r' :: .scalar '\n' :: rest => [] :: lines rest
  | c :: rest =>
      if c.isLineBreak then
        [] :: lines rest
      else
        consLine c (lines rest)

end Text
end Datalink
