import Datalink.Numeral.Layout

/-!
# A set number of decimal places

The exact value is rounded once, to the nearest multiple of the last place; a tie
goes to the even neighbour.
-/

namespace Datalink
namespace Numeral

/-- The whole number nearest to a quotient, the even one of two. -/
def roundHalfEven (num den : Nat) : Nat :=
  let whole := num / den
  let rest := 2 * (num % den)
  if rest < den then whole
  else if den < rest then whole + 1
  else whole + whole % 2

/-- A quotient with a set number of places. -/
def fixedQuotient (places num den : Nat) : Text :=
  let units := roundHalfEven (num * Nat.pow 10 places) den
  natural (units / Nat.pow 10 places) ++ "." ++ padded places (units % Nat.pow 10 places)

/-- A floating-point number with a set number of places. -/
def fixed (places : Nat) (x : Float) : Text :=
  match parts x with
  | .notANumber => "nan"
  | .infinite negative => Layout.sign negative ++ "inf"
  | .finite negative significand exponent =>
      let (num, den) := quotient significand exponent
      Layout.sign negative ++ fixedQuotient places num den

end Numeral
end Datalink
