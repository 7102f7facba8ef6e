import Datalink.Numeral.Spelling
import Datalink.Value.Basic

/-!
# Values from their spellings

Numbers, identifiers and bytes are read from the spellings that callers use for them.
A decimal allows underscores anywhere, a floating-point number only between digits.  The
scheme of an identifier may be named anywhere in it, and its hyphens do not count.
-/

namespace Datalink
namespace Value

/-- A decimal that is no number, from its spelling without sign. -/
def readSpecial? (negative : Bool) (t : Text) : Option Scaled :=
  let special (signaling : Bool) (payload : Text) : Option Scaled :=
    if payload.all CodePoint.isDigit then
      some (.notANumber negative signaling (Numeral.ofDigits payload))
    else
      none
  if t = ("inf" : Text) ∨ t = ("infinity" : Text) then
    some (.infinite negative)
  else
    match Text.dropOpening? "nan" t, Text.dropOpening? "snan" t with
    | some payload, _ => special false payload
    | none, some payload => special true payload
    | none, none => none

/-- The digits and the exponent of a number from its spelling without sign.  There is a
digit before the point or behind it. -/
def readFinite? (t : Text) : Option (Nat × Int) :=
  let (whole, rest) := Numeral.takeDigits t
  let (fraction, rest) : Text × Text :=
    match rest with
    | .scalar '.' :: rest => Numeral.takeDigits rest
    | rest => ([], rest)
  match whole ++ fraction, Numeral.takeExponent rest with
  | [], _ => none
  | digits, (exponent, []) =>
      some (Numeral.ofDigits digits, exponent.getD 0 - fraction.length)
  | _, _ => none

/-- A decimal from its spelling. -/
def readScaled? (t : Text) : Option Scaled :=
  let spelling := (Numeral.trim CodePoint.isBlank t).filter fun c => c != .scalar '_'
  let (negative, rest) := Numeral.takeSign (Numeral.plain spelling)
  match readFinite? rest with
  | some (digits, exponent) => some (.finite negative digits exponent)
  | none => readSpecial? negative rest.toLower

/-- A floating-point number from its spelling. -/
def readReal? (t : Text) : Option Float :=
  match Numeral.dropUnderscores? (Numeral.trim Numeral.isSpace (Numeral.plain t)) with
  | none => none
  | some spelling =>
      let (negative, rest) := Numeral.takeSign spelling
      let read : Option Float :=
        match readFinite? rest, readSpecial? negative rest.toLower with
        | some (digits, exponent), _ => some (Numeral.nearest digits exponent)
        | none, some (.infinite _) => some (1.0 / 0.0)
        | none, some (.notANumber _ false _) =>
            if rest.length = 3 then some (0.0 / 0.0) else none
        | none, _ => none
      read.map fun x => if negative then -x else x

/-- An integer from its spelling. -/
def readInteger? (t : Text) : Option Int := Numeral.readInteger? 10 (Numeral.plain t)

/-- The number of an identifier from any of its spellings.  Thirty-two code points are
left of it without the name of its scheme, the brackets around it and its hyphens, and
they spell a hexadecimal number. -/
def readUuid? (t : Text) : Option Nat :=
  let isBracket (c : CodePoint) : Bool := c == .scalar '\x7b' || c == .scalar '\x7d'
  let named := Text.remove "uuid:" (Text.remove "urn:" t)
  let spelling := (Numeral.trim isBracket named).filter fun c => c != .scalar '-'
  if spelling.length = 32 then
    (Numeral.readInteger? 16 (Numeral.plain spelling)).map Int.toNat
  else
    none

/-- Bytes from two hexadecimal digits each.  There may be blanks between them. -/
def readBytes? : Text → Option (List UInt8)
  | [] => some []
  | [c] => if Numeral.isSpace c then some [] else none
  | a :: b :: rest =>
      if Numeral.isSpace a then
        readBytes? (b :: rest)
      else
        match Numeral.ofDigitsIn? 16 [a, b], readBytes? rest with
        | some n, some data => some (UInt8.ofNat n :: data)
        | _, _ => none

end Value
end Datalink
