import Datalink.Numeral.Fixed
import Datalink.Text.Quoted
import Datalink.Value.Basic

/-!
# Values in text

The printed form of a value shows its kind: texts stand in quotes, lists in square
brackets, tuples in round ones, and a date, a time or a decimal is the call that makes it.
The displayed form is the same except that a text, a date, a time or a decimal stands for
itself, a member of an enumeration shows its name, and a space divides a date from its time
of day.

Whole numbers of more than 4300 digits have no text; a value is printable when it
holds no such number.  How deep a value may be nested before the stack of an interpreter
is used up by printing it is left out: a printable value has a text at any depth.
-/

namespace Datalink
namespace Value

/-- Floating-point numbers are positional between 1e-4 and 1e16, and an exponent
has at least two digits. -/
def realLayout : Numeral.Layout := ⟨-4, 16, 2, "nan", "inf"⟩

/-- The quote that a run of bytes is printed in. -/
def byteQuote (data : List UInt8) : UInt8 :=
  if data.contains 0x27 && !data.contains 0x22 then 0x22 else 0x27

/-- The ASCII character of a byte. -/
def byteChar (b : UInt8) : CodePoint := .scalar (Char.ofNat b.toNat)

/-- One byte inside quotes.  The quotes to be escaped are given. -/
def quotedByte (escapedQuote b : UInt8) : Text :=
  if b = escapedQuote ∨ b = 0x5C then
    [.scalar '\\', byteChar b]
  else if b = 0x0A then
    "\\n"
  else if b = 0x0D then
    "\\r"
  else if b = 0x09 then
    "\\t"
  else if b < 0x20 ∨ 0x7F ≤ b then
    "\\x" ++ Text.hex 2 b.toNat
  else
    [byteChar b]

/-- A run of bytes in quotes, with its mark in front.  Fixed bytes escape the quote in
use; changeable ones escape the single quote, whichever quote is in use. -/
def quotedBytes (form : BytesForm) (data : List UInt8) : Text :=
  let quote := byteQuote data
  let escapedQuote : UInt8 :=
    match form with
    | .changeable => 0x27
    | _ => quote
  [.scalar 'b', byteChar quote] ++ data.flatMap (quotedByte escapedQuote) ++
    [byteChar quote]

/-- The digits of a coefficient with a point at the given place. -/
def pointed (digits : Text) (point : Int) : Text :=
  if point ≤ 0 then
    "0." ++ Numeral.zeros (-point).toNat ++ digits
  else if digits.length ≤ point then
    digits ++ Numeral.zeros (point - digits.length).toNat
  else
    digits.take point.toNat ++ "." ++ digits.drop point.toNat

/-- A decimal in text: positional if it is no multiple of ten by its exponent and
has at most six leading zeros, and with an exponent otherwise. -/
def scaledText : Scaled → Text
  | .notANumber negative signaling payload =>
      Numeral.Layout.sign negative ++ (if signaling then "sNaN" else "NaN" : Text) ++
        (if payload = 0 then [] else Numeral.natural payload)
  | .infinite negative => Numeral.Layout.sign negative ++ "Infinity"
  | .finite negative coefficient exponent =>
      let digits := Numeral.natural coefficient
      let point := digits.length + exponent
      Numeral.Layout.sign negative ++
        if exponent ≤ 0 ∧ -6 < point then
          pointed digits point
        else
          pointed digits 1 ++ "E" ++ (if point - 1 < 0 then "-" else "+" : Text) ++
            Numeral.natural (point - 1).natAbs

/-- A decimal with a set number of places.  One that is too small for them is a zero, and
a whole one is its digits with zeros behind them. -/
def scaledFixed (places : Nat) : Scaled → Text
  | .finite negative coefficient exponent =>
      let digits := Numeral.natural coefficient
      Numeral.Layout.sign negative ++
        if coefficient = 0 ∨ digits.length + exponent < -places then
          Numeral.fixedQuotient places 0 1
        else if 0 ≤ exponent then
          digits ++ Numeral.zeros exponent.toNat ++ "." ++ Numeral.zeros places
        else
          Numeral.fixedQuotient places coefficient (Nat.pow 10 exponent.natAbs)
  | d => scaledText d

/-- The number of digits of a decimal with a set number of places. -/
def scaledWidth (places : Nat) : Scaled → Nat
  | .finite _ 0 _ => places
  | .finite _ coefficient exponent =>
      (Numeral.natural coefficient).length + exponent.toNat + places
  | _ => 0

/-- A universally unique identifier in groups of hexadecimal digits. -/
def uuidText (number : Nat) : Text :=
  let digits := Text.hex 32 number
  digits.take 8 ++ "-" ++ (digits.drop 8).take 4 ++ "-" ++ (digits.drop 12).take 4 ++
    "-" ++ (digits.drop 16).take 4 ++ "-" ++ digits.drop 20

/-- Printed items with commas between them. -/
def commaSeparated (items : List Text) : Text := Text.join ", " items

mutual

/-- The printed form of a value. -/
def print : Value → Text
  | null => "None"
  | bool b => if b then "True" else "False"
  | int n => Numeral.integer n
  | real x => realLayout.render x
  | text t => t.quoted
  | bytes .fixed data => quotedBytes .fixed data
  | bytes .changeable data => "bytearray(" ++ quotedBytes .changeable data ++ ")"
  | bytes .view _ => "<memory>"
  | list items => "[" ++ commaSeparated (printItems items) ++ "]"
  | tuple [] => "()"
  | tuple [item] => "(" ++ print item ++ ",)"
  | tuple (item :: next :: items) =>
      "(" ++ commaSeparated (print item :: print next :: printItems items) ++ ")"
  | set [] => "set()"
  | set (item :: items) =>
      "\x7b" ++ commaSeparated (print item :: printItems items) ++ "\x7d"
  | fixedSet [] => "frozenset()"
  | fixedSet (item :: items) =>
      "frozenset(\x7b" ++ commaSeparated (print item :: printItems items) ++ "\x7d)"
  | mapping entries => "\x7b" ++ commaSeparated (printEntries entries) ++ "\x7d"
  | stream _ => "<generator>"
  | range start stop step =>
      let ends := Numeral.integer start ++ ", " ++ Numeral.integer stop
      "range(" ++ (if step = 1 then ends else ends ++ ", " ++ Numeral.integer step) ++ ")"
  | decimal d => "Decimal('" ++ scaledText d ++ "')"
  | uuid number => "UUID('" ++ uuidText number ++ "')"
  | date d => d.print
  | time t off => Calendar.timePrint t off
  | moment d t off => Calendar.momentPrint d t off
  | member _ enumeration name v =>
      "<" ++ enumeration ++ "." ++ name ++ ": " ++ print v ++ ">"

/-- The printed forms of the values of a list. -/
def printItems : List Value → List Text
  | [] => []
  | v :: vs => print v :: printItems vs

/-- The printed forms of the entries of a mapping. -/
def printEntries : List (Value × Value) → List Text
  | [] => []
  | (k, v) :: es => (print k ++ ": " ++ print v) :: printEntries es

end

/-- The displayed form of a value. -/
def display : Value → Text
  | text t => t
  | decimal d => scaledText d
  | uuid number => uuidText number
  | date d => d.text
  | time t off => Calendar.timeText t off
  | moment d t off => d.text ++ " " ++ Calendar.timeText t off
  | member .integer _ _ v => v.print
  | member _ enumeration name _ => enumeration ++ "." ++ name
  | v => v.print

mutual

/-- Whether a value holds no whole number that is too long to be written. -/
def printable : Value → Bool
  | int n => Numeral.writable n
  | list items => allPrintable items
  | tuple items => allPrintable items
  | set items => allPrintable items
  | fixedSet items => allPrintable items
  | mapping entries => entriesPrintable entries
  | range start stop step =>
      Numeral.writable start && Numeral.writable stop && Numeral.writable step
  | member _ _ _ v => printable v
  | _ => true

/-- Whether every value of a list is printable. -/
def allPrintable : List Value → Bool
  | [] => true
  | v :: vs => printable v && allPrintable vs

/-- Whether every entry of a mapping is printable. -/
def entriesPrintable : List (Value × Value) → Bool
  | [] => true
  | (k, v) :: es => printable k && printable v && entriesPrintable es

end

/-- Whether the displayed form of a value exists.  The name of a member needs no
number. -/
def displayable : Value → Bool
  | member .integer _ _ v => v.printable
  | member .. => true
  | v => v.printable

end Value
end Datalink
