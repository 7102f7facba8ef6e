import Datalink.Numeral.Shortest

/-!
# Layout of floating-point text

The digits of a number are chosen first; a layout then says how they are laid
out: where positional notation ends, how an exponent is written, and what stands
for the values that are no numbers.
-/

namespace Datalink
namespace Numeral

/-- The decisions of a layout.  The point of a number is the position of its
decimal point, counted from its first digit. -/
structure Layout where
  /-- Positional notation needs a point above this. -/
  lowPoint : Int
  /-- Positional notation needs a point of at most this. -/
  highPoint : Int
  /-- The least number of digits in an exponent. -/
  exponentDigits : Nat
  notANumber : Text
  infinity : Text

/-- Zeros, as many as asked for. -/
def zeros (count : Nat) : Text := List.replicate count (.scalar '0')

/-- Digits with a point among them, in front of them or behind them. -/
def positional (digits : Text) (point : Int) : Text :=
  if point ≤ 0 then
    "0." ++ zeros (-point).toNat ++ digits
  else if digits.length ≤ point then
    digits ++ zeros (point - digits.length).toNat ++ ".0"
  else
    digits.take point.toNat ++ "." ++ digits.drop point.toNat

/-- An exponent with its sign. -/
def exponentText (width : Nat) (e : Int) : Text :=
  let sign : CodePoint := if e < 0 then .scalar '-' else .scalar '+'
  let digits := natural e.natAbs
  .scalar 'e' :: sign :: (zeros (width - digits.length) ++ digits)

/-- Digits with the point behind the first of them, and an exponent. -/
def scientific (width : Nat) (digits : Text) (point : Int) : Text :=
  let fraction : Text :=
    if digits.length ≤ 1 then [] else .scalar '.' :: digits.drop 1
  digits.take 1 ++ fraction ++ exponentText width (point - 1)

namespace Layout

/-- A positive decimal in a layout. -/
def decimal (layout : Layout) (d : Decimal) : Text :=
  let digits := natural d.digits
  let point := digits.length + d.exponent
  if layout.lowPoint < point ∧ point ≤ layout.highPoint then
    positional digits point
  else
    scientific layout.exponentDigits digits point

/-- A minus sign for a negative number. -/
def sign (negative : Bool) : Text := if negative then "-" else []

/-- A floating-point number in a layout. -/
def render (layout : Layout) (x : Float) : Text :=
  match parts x with
  | .notANumber => layout.notANumber
  | .infinite negative => sign negative ++ layout.infinity
  | .finite negative 0 _ => sign negative ++ "0.0"
  | .finite negative significand exponent =>
      sign negative ++ layout.decimal (shortest significand exponent)

end Layout
end Numeral
end Datalink
