import Datalink.Numeral.Reader
import Datalink.Text.Lines

/-!
# Spellings of numbers

Callers spell a number with the digits of any script, with blanks around it, and with
single underscores between its digits.  A spelling is made plain first: digits become
ASCII digits and blanks of other scripts become spaces.  A whole number may have a base
other than ten, and then its digits go on with the letters.
-/

namespace Datalink

/-- The zeros of the scripts that write numbers in base ten; the other nine digits of a
script follow its zero. -/
def CodePoint.scriptZeros : List Nat :=
  [0x30, 0x660, 0x6F0, 0x7C0, 0x966, 0x9E6, 0xA66, 0xAE6, 0xB66, 0xBE6, 0xC66, 0xCE6,
    0xD66, 0xDE6, 0xE50, 0xED0, 0xF20, 0x1040, 0x1090, 0x17E0, 0x1810, 0x1946, 0x19D0,
    0x1A80, 0x1A90, 0x1B50, 0x1BB0, 0x1C40, 0x1C50, 0xA620, 0xA8D0, 0xA900, 0xA9D0, 0xA9F0,
    0xAA50, 0xABF0, 0xFF10, 0x104A0, 0x10D30, 0x11066, 0x110F0, 0x11136, 0x111D0, 0x112F0,
    0x11450, 0x114D0, 0x11650, 0x116C0, 0x11730, 0x118E0, 0x11950, 0x11C50, 0x11D50,
    0x11DA0, 0x16A60, 0x16AC0, 0x16B50, 0x1D7CE, 0x1D7D8, 0x1D7E2, 0x1D7EC, 0x1D7F6,
    0x1E140, 0x1E2F0, 0x1E950, 0x1FBF0]

/-- The number of a digit of any script. -/
def CodePoint.scriptDigit? (c : CodePoint) : Option Nat :=
  (scriptZeros.find? fun first => first ≤ c.code && c.code < first + 10).map (c.code - ·)

/-- A digit of any script as an ASCII digit; every other code point stays. -/
def CodePoint.plainDigit (c : CodePoint) : CodePoint :=
  (c.scriptDigit?.map Numeral.digit).getD c

namespace Numeral

/-- A code point of a spelling made plain. -/
def plainPoint (c : CodePoint) : CodePoint :=
  if c.code < 0x80 then c else if c.isBlank then .scalar ' ' else c.plainDigit

/-- A spelling made plain. -/
def plain (t : Text) : Text := t.map plainPoint

/-- Whether a code point is an ASCII blank. -/
def isSpace (c : CodePoint) : Bool :=
  (0x09 ≤ c.code && c.code ≤ 0x0D) || c.code == 0x20

/-- A text without the code points of a kind at its ends. -/
def trim (isOuter : CodePoint → Bool) (t : Text) : Text :=
  ((t.dropWhile isOuter).reverse.dropWhile isOuter).reverse

/-- The number of a digit in a base of at most thirty-six. -/
def digitIn? (base : Nat) (c : CodePoint) : Option Nat :=
  let n := c.toLower.code
  let found : Option Nat :=
    if 0x30 ≤ n ∧ n ≤ 0x39 then some (n - 0x30)
    else if 0x61 ≤ n ∧ n ≤ 0x7A then some (n - 0x61 + 10)
    else none
  found.bind fun d => if d < base then some d else none

/-- The number of digits in a base. -/
def ofDigitsIn? (base : Nat) (t : Text) : Option Nat :=
  t.foldlM (fun n c => (digitIn? base c).map (base * n + ·)) 0

/-- The number of digits in a base, with single underscores between them. -/
def ofGroupsIn? (base : Nat) (t : Text) : Option Nat :=
  let groups := Text.splitAt (.scalar '_') t
  if groups.all fun group => !group.isEmpty then ofDigitsIn? base groups.flatten else none

/-- The letters that announce a base behind a zero. -/
def baseLetters : List (Char × Nat) := [('x', 16), ('o', 8), ('b', 2)]

/-- The base that the start of a spelling announces, and the rest behind it.  One
underscore may follow. -/
def announced? : Text → Option (Nat × Text)
  | .scalar '0' :: .scalar letter :: rest =>
      (baseLetters.lookup letter.toLower).map fun base =>
        match rest with
        | .scalar '_' :: rest => (base, rest)
        | rest => (base, rest)
  | _ => none

/-- The natural number that a spelling without sign denotes.  Base zero stands for the
base that the spelling announces, and for ten if it announces none; zeros may then stand
in front of nothing but zeros. -/
def readNatural? (base : Nat) (t : Text) : Option Nat :=
  match announced? t with
  | some (found, rest) =>
      if base = found ∨ base = 0 then ofGroupsIn? found rest else ofGroupsIn? base t
  | none =>
      if base = 0 then
        match t, ofGroupsIn? 10 t with
        | .scalar '0' :: _, some (_ + 1) => none
        | _, n => n
      else
        ofGroupsIn? base t

/-- The integer that a plain spelling denotes in a base. -/
def readInteger? (base : Nat) (t : Text) : Option Int :=
  let (negative, rest) := takeSign (trim isSpace t)
  (readNatural? base rest).map fun n => if negative then -(n : Int) else n

/-- A text without the underscores between its digits; no other underscore is allowed. -/
def dropUnderscores? : Text → Option Text
  | [] => some []
  | [c] => if c = .scalar '_' then none else some [c]
  | c :: d :: rest =>
      if c = .scalar '_' then
        none
      else if d = .scalar '_' then
        match rest with
        | e :: _ =>
            if c.isDigit && e.isDigit then (dropUnderscores? rest).map (c :: ·) else none
        | [] => none
      else
        (dropUnderscores? (d :: rest)).map (c :: ·)

end Numeral
end Datalink
