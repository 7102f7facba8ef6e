import Datalink.Numeral.Binary
import Datalink.Numeral.Natural

/-!
# The fewest digits that read back

Input: a positive floating-point number.  The decimals that round to it form an
interval; its ends belong to it exactly when the significand is even.

Algorithm: for one digit, two digits, and so on, look at the two neighbours of
the number on the decimal grid with that many digits.  The first grid with a
neighbour inside the interval wins, and of two such neighbours the nearer one.
Seventeen digits always suffice.
-/

namespace Datalink
namespace Numeral

/-- A decimal: digits times a power of ten. -/
structure Decimal where
  digits : Nat
  exponent : Int
deriving DecidableEq, Inhabited

/-- Whether a decimal is at most `quarters` times two to the power `exponent`. -/
def Decimal.le (d : Decimal) (quarters : Nat) (exponent : Int) : Bool :=
  let (tenNum, tenDen) := power 10 d.exponent
  let (twoNum, twoDen) := power 2 exponent
  d.digits * tenNum * twoDen ≤ quarters * twoNum * tenDen

/-- Whether a decimal is below `quarters` times two to the power `exponent`. -/
def Decimal.lt (d : Decimal) (quarters : Nat) (exponent : Int) : Bool :=
  let (tenNum, tenDen) := power 10 d.exponent
  let (twoNum, twoDen) := power 2 exponent
  d.digits * tenNum * twoDen < quarters * twoNum * tenDen

/-- The lower end of the interval that rounds to a significand, in quarters of a
unit.  Below a power of two the neighbour is only half as far away. -/
def lowerEnd (significand : Nat) (exponent : Int) : Nat :=
  if significand = Nat.pow 2 52 ∧ leastExponent < exponent then
    4 * significand - 1
  else
    4 * significand - 2

/-- The upper end of that interval, in quarters of a unit. -/
def upperEnd (significand : Nat) : Nat := 4 * significand + 2

/-- Whether a decimal rounds to the significand times the power of two. -/
def Decimal.readsBack (d : Decimal) (significand : Nat) (exponent : Int) : Bool :=
  if significand % 2 = 0 then
    !d.lt (lowerEnd significand exponent) (exponent - 2) &&
      d.le (upperEnd significand) (exponent - 2)
  else
    !d.le (lowerEnd significand exponent) (exponent - 2) &&
      d.lt (upperEnd significand) (exponent - 2)

/-- How far the decimals reach below one: no positive number is smaller than ten
to this power with a minus sign. -/
def depth : Nat := 340

/-- The least power of ten above a positive number. -/
def decade (significand : Nat) (exponent : Int) : Int :=
  let (num, den) := quotient significand exponent
  (natural (num * Nat.pow 10 depth / den)).length - depth

/-- The neighbour with the given number of digits that reads back, if one does. -/
def neighbour? (significand : Nat) (exponent : Int) (count : Nat) : Option Decimal :=
  let top := decade significand exponent
  let place := top - count
  let (num, den) := quotient significand exponent
  let (tenNum, tenDen) := power 10 place
  let below := num * tenDen / (den * tenNum)
  let lower : Decimal := ⟨below, place⟩
  let upper : Decimal :=
    if below + 1 = Nat.pow 10 count then ⟨1, top⟩ else ⟨below + 1, place⟩
  match lower.readsBack significand exponent, upper.readsBack significand exponent with
  | false, false => none
  | true, false => some lower
  | false, true => some upper
  | true, true =>
      if 2 * num * tenDen < (2 * below + 1) * den * tenNum then
        some lower
      else if (2 * below + 1) * den * tenNum < 2 * num * tenDen then
        some upper
      else if below % 2 = 0 then
        some lower
      else
        some upper

/-- The shortest decimal that reads back as a positive number. -/
def shortest (significand : Nat) (exponent : Int) : Decimal :=
  ((List.range' 1 17).findSome? (neighbour? significand exponent)).getD
    ⟨significand, 0⟩

end Numeral
end Datalink
