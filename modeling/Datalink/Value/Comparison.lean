import Datalink.Value.Access

/-!
# Comparing values

Any two values may be asked whether they are the same; only a signaling decimal
refuses to be compared with a number, and then only if the comparison gets as far as
that.  Numbers are ordered exactly, whatever their kinds; no number stands before or
after a value that is no number, and decimals refuse that question.

Results: texts and integers are always comparable, and integers stand in the order of the
integers.
-/

namespace Datalink
namespace Value

/-- Whether a value is a decimal that refuses to be compared. -/
def isSignaling : Value → Bool
  | decimal (.notANumber _ signaling _) => signaling
  | _ => false

/-- Whether comparing two values without parts is refused. -/
def refusesLeaf (a b : Value) : Bool :=
  a.quantity?.isSome && b.quantity?.isSome && (a.isSignaling || b.isSignaling)

mutual

/-- Whether comparing two values is refused. -/
def refuses : Value → Value → Bool
  | list xs, other =>
      match other with
      | list ys => xs.length == ys.length && refusesItems xs ys
      | _ => false
  | tuple xs, other =>
      match other with
      | tuple ys => refusesItems xs ys
      | _ => false
  | mapping es, other =>
      match other with
      | mapping fs => es.length == fs.length && refusesEntries es fs
      | _ => false
  | member .integer _ _ v, other => refuses v other
  | leaf, other => refusesLeaf leaf other.face

/-- Whether comparing two lists item by item is refused before a difference shows. -/
def refusesItems : List Value → List Value → Bool
  | [], _ => false
  | x :: xs, ys =>
      match ys with
      | [] => false
      | y :: ys => refuses x y || (same x y && refusesItems xs ys)

/-- Whether comparing two mappings key by key is refused before a difference shows. -/
def refusesEntries : List (Value × Value) → List (Value × Value) → Bool
  | [], _ => false
  | (k, v) :: es, fs =>
      match Keyed.get? k fs with
      | none => false
      | some w => refuses v w || (same v w && refusesEntries es fs)

end

/-- Whether two values are the same, unless comparing them is refused. -/
def equals (a b : Value) : Except Fault Bool :=
  if a.refuses b then .error .undefinedComparison else .ok (a.same b)

/-- The first place at which a value stands in a list. -/
def position? (v : Value) : List Value → Except Fault (Option Nat)
  | [] => .ok none
  | w :: ws =>
      match w.equals v with
      | .error f => .error f
      | .ok true => .ok (some 0)
      | .ok false =>
          match position? v ws with
          | .error f => .error f
          | .ok place => .ok (place.map (· + 1))

/-- How two numbers may stand to each other. -/
inductive Order where
  | less
  | atMost
  | greater
deriving DecidableEq, Inhabited

/-- The sign of an order. -/
def Order.symbol : Order → Text
  | less => "<"
  | atMost => "<="
  | greater => ">"

/-- Whether one number is less than another. -/
def Quantity.less : Quantity → Quantity → Bool
  | .exact p e, .exact q f => lessScaled p e q f
  | .exact .., .infinite negative => !negative
  | .infinite negative, .exact .. => negative
  | .infinite m, .infinite n => m && !n
  | _, _ => false

/-- Whether two numbers stand in an order. -/
def Order.holds (o : Order) (p q : Quantity) : Bool :=
  match o with
  | less => p.less q
  | atMost => p.less q || p.same q
  | greater => q.less p

/-- Whether a value is a decimal. -/
def isDecimal : Value → Bool
  | decimal _ => true
  | _ => false

/-- Whether two values stand in an order.  Only numbers do. -/
def compare (o : Order) (a b : Value) : Except Fault Bool :=
  match a.face.quantity?, b.face.quantity? with
  | some p, some q =>
      if (a.isDecimal || b.isDecimal) && (p == .notANumber || q == .notANumber) then
        .error .undefinedComparison
      else
        .ok (o.holds p q)
  | _, _ => .error (.misfit (.order o.symbol a b))

@[simp] theorem compare_less_int
    (a b : Int) :
    (int a).compare .less (int b) = .ok (decide (a < b)) := by
  simp [compare, face, quantity?, isDecimal, Order.holds, Quantity.less]

@[simp] theorem compare_atMost_int
    (a b : Int) :
    (int a).compare .atMost (int b) = .ok (decide (a ≤ b)) := by
  have h : (a < b ∨ a = b) ↔ a ≤ b := by
    omega
  simp [compare, face, quantity?, isDecimal, Order.holds, Quantity.less, Quantity.same,
    Bool.beq_eq_decide_eq, ← Bool.decide_or, h]

@[simp] theorem equals_int
    (a b : Int) :
    (int a).equals (int b) = .ok (a == b) := by
  simp [equals, refuses, refusesLeaf, same, face, quantity?, isSignaling, sameLeaf,
    Quantity.same]

@[simp] theorem equals_text
    (s t : Text) :
    (text s).equals (text t) = .ok (s == t) := by
  simp [equals, refuses, refusesLeaf, quantity?]

end Value
end Datalink
