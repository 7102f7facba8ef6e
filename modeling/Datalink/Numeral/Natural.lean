import Datalink.Text.Basic

/-!
# Decimal text of whole numbers

Numbers are written in base ten without leading zeros, or with zeros in front up
to a given width.  A number of more than 4300 digits is neither written nor read.
-/

namespace Datalink
namespace Numeral

/-- The most digits that a whole number may have when it is written or read. -/
def digitLimit : Nat := 4300

/-- Whether a whole number is short enough to be written. -/
def writable (n : Int) : Bool := n.natAbs < Nat.pow 10 digitLimit

/-- The digit of a number below ten. -/
def digit (d : Nat) : CodePoint := .scalar (Nat.digitChar d)

/-- The digits of a natural number. -/
def natural (n : Nat) : Text := (Nat.toDigits 10 n).map CodePoint.scalar

/-- The digits of an integer, with a minus sign in front of a negative one. -/
def integer : Int → Text
  | .ofNat n => natural n
  | .negSucc n => .scalar '-' :: natural (n + 1)

/-- The last digits of a number, as many as the width says. -/
def padded : Nat → Nat → Text
  | 0, _ => []
  | width + 1, n => padded width (n / 10) ++ [digit (n % 10)]

@[simp] theorem padded_length
    (width n : Nat) :
    (padded width n).length = width := by
  induction width generalizing n with
  | zero =>
      rfl
  | succ width ih =>
      simp [padded, ih]

/-- The number that a text of digits denotes. -/
def ofDigits (t : Text) : Nat :=
  t.foldl (fun n c => n * 10 + (c.code - 48)) 0

/-- Whether a text is a non-empty run of ASCII digits. -/
def isDigits (t : Text) : Bool := !t.isEmpty && t.all CodePoint.isDigit

end Numeral
end Datalink
