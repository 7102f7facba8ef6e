/-!
# Floating-point numbers taken apart

A finite number is a sign, a significand below 2^53 and a power of two; the value
is the significand times that power.
-/

namespace Datalink
namespace Numeral

/-- A floating-point number, taken apart. -/
inductive Parts where
  | notANumber
  | infinite (negative : Bool)
  | finite (negative : Bool) (significand : Nat) (exponent : Int)
deriving DecidableEq, Inhabited

/-- The power of two of the least numbers. -/
def leastExponent : Int := -1074

/-- The parts of a number, read off its bits: one bit for the sign, eleven for
the exponent, fifty-two for the fraction. -/
def parts (x : Float) : Parts :=
  let bits := x.toBits.toNat
  let negative := bits / Nat.pow 2 63 == 1
  let exponent : Nat := bits / Nat.pow 2 52 % 2048
  let fraction : Nat := bits % Nat.pow 2 52
  if exponent = 2047 then
    if fraction = 0 then .infinite negative else .notANumber
  else if exponent = 0 then
    .finite negative fraction leastExponent
  else
    .finite negative (fraction + Nat.pow 2 52) (exponent - 1075)

/-- Numerator and denominator of a power with an integer exponent. -/
def power (base : Nat) : Int → Nat × Nat
  | .ofNat e => (Nat.pow base e, 1)
  | .negSucc e => (1, Nat.pow base (e + 1))

/-- Numerator and denominator of a significand times a power of two. -/
def quotient (significand : Nat) (exponent : Int) : Nat × Nat :=
  let (num, den) := power 2 exponent
  (significand * num, den)

end Numeral
end Datalink
