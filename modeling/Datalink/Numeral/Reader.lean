import Datalink.Numeral.Binary
import Datalink.Numeral.Natural

/-!
# Reading numbers

A number in text is an optional minus sign, digits, and optionally a fraction and
an exponent.  The parts are cut off one after the other, and a fraction or an
exponent without digits is not taken.
-/

namespace Datalink
namespace Numeral

/-- The parts of a number in text.  A number without fraction and exponent is
whole. -/
structure Written where
  negative : Bool
  whole : Text
  fraction : Option Text
  exponent : Option Int
deriving Inhabited

/-- The floating-point number nearest to digits times a power of ten.  Numbers
above 10^309 and below 10^-324 are out of its range. -/
def nearest (digits : Nat) (exponent : Int) : Float :=
  let point := (natural digits).length + exponent
  if digits = 0 ∨ point < -324 then 0.0
  else if 310 < point then 1.0 / 0.0
  else Float.ofScientific digits (exponent < 0) exponent.natAbs

/-- The floating-point number nearest to an integer, if the integer is in its
range. -/
def nearestToInt? (n : Int) : Option Float :=
  let x := nearest n.natAbs 0
  match parts x with
  | .finite .. => some (if n < 0 then -x else x)
  | _ => none

namespace Written

/-- The floating-point number nearest to the written one. -/
def toFloat (w : Written) : Float :=
  let fraction := w.fraction.getD []
  let x := nearest (ofDigits (w.whole ++ fraction)) (w.exponent.getD 0 - fraction.length)
  if w.negative then -x else x

/-- The written number as an integer, if it is whole. -/
def toInt? (w : Written) : Option Int :=
  match w.fraction, w.exponent with
  | none, none =>
      some (if w.negative then -(ofDigits w.whole : Int) else ofDigits w.whole)
  | _, _ => none

end Written

/-- The number of a hexadecimal digit. -/
def hexDigit? (c : CodePoint) : Option Nat :=
  let n := c.code
  if 0x30 ≤ n ∧ n ≤ 0x39 then some (n - 0x30)
  else if 0x41 ≤ n ∧ n ≤ 0x46 then some (n - 0x41 + 10)
  else if 0x61 ≤ n ∧ n ≤ 0x66 then some (n - 0x61 + 10)
  else none

/-- The digits at the start of a text, and the rest. -/
def takeDigits (t : Text) : Text × Text :=
  (t.takeWhile CodePoint.isDigit, t.dropWhile CodePoint.isDigit)

/-- A minus sign at the start of a text, and the rest. -/
def takeMinus : Text → Bool × Text
  | .scalar '-' :: rest => (true, rest)
  | rest => (false, rest)

/-- A sign of either kind at the start of a text, and the rest. -/
def takeSign : Text → Bool × Text
  | .scalar '-' :: rest => (true, rest)
  | .scalar '+' :: rest => (false, rest)
  | rest => (false, rest)

/-- A fraction with at least one digit. -/
def takeFraction : Text → Option Text × Text
  | .scalar '.' :: rest =>
      match takeDigits rest with
      | ([], _) => (none, .scalar '.' :: rest)
      | (digits, rest) => (some digits, rest)
  | rest => (none, rest)

/-- The mark of an exponent and what follows it. -/
def exponentMark? : Text → Option Text
  | .scalar 'e' :: rest => some rest
  | .scalar 'E' :: rest => some rest
  | _ => none

/-- An exponent with at least one digit. -/
def takeExponent (t : Text) : Option Int × Text :=
  match exponentMark? t with
  | none => (none, t)
  | some marked =>
      let (negative, rest) := takeSign marked
      match takeDigits rest with
      | ([], _) => (none, t)
      | (digits, rest) =>
          (some (if negative then -(ofDigits digits : Int) else ofDigits digits), rest)

/-- The number at the start of a text, and the rest.  There must be a digit. -/
def read? (t : Text) : Option (Written × Text) :=
  let (negative, rest) := takeMinus t
  match takeDigits rest with
  | ([], _) => none
  | (whole, rest) =>
      let (fraction, rest) := takeFraction rest
      let (exponent, rest) := takeExponent rest
      some (⟨negative, whole, fraction, exponent⟩, rest)

end Numeral
end Datalink
