import Datalink.Numeral.Binary
import Datalink.Value.Basic

/-!
# When two values are the same

Numbers of different kinds are the same when they denote the same number exactly,
and truth values count as the numbers zero and one.  A value that is no number is
not even the same as itself.  Lists differ from tuples, runs of bytes are the same
whatever their form, and the order inside sets and mappings does not matter.
-/

namespace Datalink
namespace Value

/-- A number without its kind.  An exact one is a ratio times a power of ten, so that
decimals with long exponents need no long ratios. -/
inductive Quantity where
  | exact (ratio : Rat) (exponent : Int)
  | infinite (negative : Bool)
  | notANumber
deriving DecidableEq

/-- A negative number if asked for. -/
def signed (negative : Bool) (q : Rat) : Rat := if negative then -q else q

/-- The rational number of a numerator and a denominator. -/
def ratio (q : Nat × Nat) : Rat := mkRat q.1 q.2

/-- The number that a floating-point number denotes. -/
def ofReal (x : Float) : Quantity :=
  match Numeral.parts x with
  | .notANumber => .notANumber
  | .infinite negative => .infinite negative
  | .finite negative significand exponent =>
      .exact (signed negative (ratio (Numeral.quotient significand exponent))) 0

/-- The number that a decimal denotes. -/
def ofScaled : Scaled → Quantity
  | .finite negative coefficient exponent => .exact (signed negative coefficient) exponent
  | .infinite negative => .infinite negative
  | .notANumber .. => .notANumber

/-- The number of a value that is one. -/
def quantity? : Value → Option Quantity
  | bool b => some (.exact (if b then 1 else 0) 0)
  | int n => some (.exact n 0)
  | real x => some (ofReal x)
  | decimal d => some (ofScaled d)
  | _ => none

/-- The digits of the numerator less those of the denominator.  A positive ratio stands
between the powers of ten next to this one. -/
def decade (p : Rat) : Int :=
  (Numeral.natural p.num.natAbs).length - (Numeral.natural p.den).length

/-- Whether one positive ratio times a power of ten is less than another.  Where the
decades do not decide it the powers are close, and only their distance is written out. -/
def lessPositive (p : Rat) (e : Int) (q : Rat) (f : Int) : Bool :=
  let distance := (decade q + f) - (decade p + e)
  if 2 ≤ distance then true
  else if distance ≤ -2 then false
  else decide (p * ratio (Numeral.power 10 (e - f)) < q)

/-- Whether one ratio times a power of ten is less than another. -/
def lessScaled (p : Rat) (e : Int) (q : Rat) (f : Int) : Bool :=
  if e = f then decide (p < q)
  else if p ≤ 0 ∧ 0 ≤ q then decide (p < q)
  else if 0 ≤ p ∧ q ≤ 0 then false
  else if 0 < p then lessPositive p e q f
  else lessPositive (-q) f (-p) e

/-- Whether two ratios times powers of ten are the same. -/
def sameScaled (p : Rat) (e : Int) (q : Rat) (f : Int) : Bool :=
  if e = f then p == q else !lessScaled p e q f && !lessScaled q f p e

@[simp] theorem lessScaled_intCast
    (a b e : Int) :
    lessScaled a e b e = decide (a < b) := by
  rw [lessScaled, if_pos rfl, decide_eq_decide]
  exact Rat.intCast_lt_intCast

@[simp] theorem sameScaled_intCast
    (a b e : Int) :
    sameScaled a e b e = (a == b) := by
  rw [sameScaled, if_pos rfl, Bool.beq_eq_decide_eq, Bool.beq_eq_decide_eq, decide_eq_decide]
  exact Rat.intCast_inj

/-- Whether two numbers are the same number. -/
def Quantity.same : Quantity → Quantity → Bool
  | .exact p e, .exact q f => sameScaled p e q f
  | .infinite m, .infinite n => m == n
  | _, _ => false

/-- Whether two ranges yield the same items. -/
def sameRange (a b : Int × Int × Int) : Bool :=
  let n := rangeLength a.1 a.2.1 a.2.2
  n == rangeLength b.1 b.2.1 b.2.2 &&
    (n == 0 || a.1 == b.1 && (n == 1 || a.2.2 == b.2.2))

/-- Whether two values without parts are the same. -/
def sameLeaf (a b : Value) : Bool :=
  match a.quantity?, b.quantity? with
  | some p, some q => p.same q
  | none, none =>
      match a, b with
      | null, null => true
      | text s, text t => s == t
      | bytes _ x, bytes _ y => x == y
      | range a b c, range d e f => sameRange (a, b, c) (d, e, f)
      | uuid m, uuid n => m == n
      | date d, date e => d == e
      | time s p, time t q => Calendar.sameTime (s, p) (t, q)
      | moment d s p, moment e t q => Calendar.sameMoment (d, s, p) (e, t, q)
      | _, _ => false
  | _, _ => false

mutual

/-- Whether two values are the same. -/
def same : Value → Value → Bool
  | list xs, other =>
      match other with
      | list ys => sameItems xs ys
      | _ => false
  | tuple xs, other =>
      match other with
      | tuple ys => sameItems xs ys
      | _ => false
  | set xs, other =>
      match other with
      | set ys => xs.length == ys.length && allWithin xs ys
      | fixedSet ys => xs.length == ys.length && allWithin xs ys
      | _ => false
  | fixedSet xs, other =>
      match other with
      | set ys => xs.length == ys.length && allWithin xs ys
      | fixedSet ys => xs.length == ys.length && allWithin xs ys
      | _ => false
  | mapping es, other =>
      match other with
      | mapping fs => es.length == fs.length && allEntriesWithin es fs
      | _ => false
  | stream _, _ => false
  | member .plain _ _ _, _ => false
  | member .integer _ _ v, other => same v other
  | member .textual _ _ v, other => same v other
  | leaf, other => sameLeaf leaf other.face

/-- Whether two lists have the same items in the same order. -/
def sameItems : List Value → List Value → Bool
  | [], ys => ys.isEmpty
  | x :: xs, ys =>
      match ys with
      | [] => false
      | y :: ys => same x y && sameItems xs ys

/-- Whether every value of a list is the same as some value of another. -/
def allWithin : List Value → List Value → Bool
  | [], _ => true
  | x :: xs, ys => ys.any (same x) && allWithin xs ys

/-- Whether every entry of a mapping has a counterpart in another. -/
def allEntriesWithin :
    List (Value × Value) → List (Value × Value) → Bool
  | [], _ => true
  | (k, v) :: es, fs =>
      fs.any (fun f => same k f.1 && same v f.2) && allEntriesWithin es fs

end

/-- The values of a list without repetition, the first of each kept. -/
def distinct (items : List Value) : List Value :=
  items.foldl (fun kept v => if kept.any v.same then kept else kept ++ [v]) []

@[simp] theorem same_text
    (s t : Text) :
    (text s).same (text t) = (s == t) := by
  simp [same, face, sameLeaf, quantity?]

end Value
end Datalink
