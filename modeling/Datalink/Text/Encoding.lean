import Datalink.Text.Basic

/-!
# Texts that can be encoded

A text has an encoding as bytes exactly when no code point of it is a surrogate.
The first run of neighbouring surrogates is what an encoder complains about.
-/

namespace Datalink
namespace Text

/-- Whether a text has an encoding: it holds no surrogate. -/
def encodable (t : Text) : Bool := t.all fun c => !c.isSurrogate

@[simp] theorem encodable_nil :
    encodable [] = true := by
  rfl

@[simp] theorem encodable_cons
    (c : CodePoint) (t : Text) :
    encodable (c :: t) = (!c.isSurrogate && encodable t) := by
  simp [encodable]

@[simp] theorem encodable_append
    (s t : Text) :
    encodable (s ++ t) = (encodable s && encodable t) := by
  simp [encodable]

/-- The text of a string has an encoding. -/
@[simp] theorem encodable_ofString
    (s : String) :
    encodable (ofString s) = true := by
  simp [encodable, ofString, CodePoint.isSurrogate]

/-- A run of neighbouring surrogates: where it starts, its first surrogate, and
how many more follow that one. -/
structure SurrogateRun where
  start : Nat
  first : Fin 2048
  more : Nat
deriving DecidableEq, Inhabited

/-- The first run of surrogates, positions counted from the given one. -/
def firstRunFrom : Nat → Text → Option SurrogateRun
  | _, [] => none
  | i, .scalar _ :: rest => firstRunFrom (i + 1) rest
  | i, .surrogate s :: rest =>
      some ⟨i, s, (rest.takeWhile CodePoint.isSurrogate).length⟩

/-- The first run of surrogates in a text. -/
def firstRun? (t : Text) : Option SurrogateRun := firstRunFrom 0 t

theorem firstRunFrom_eq_none_iff
    (i : Nat) (t : Text) :
    firstRunFrom i t = none ↔ encodable t = true := by
  induction t generalizing i with
  | nil =>
      simp [firstRunFrom, encodable]
  | cons c rest ih =>
      cases c with
      | scalar c =>
          simpa [firstRunFrom, encodable, CodePoint.isSurrogate] using ih (i + 1)
      | surrogate s =>
          simp [firstRunFrom, encodable, CodePoint.isSurrogate]

theorem firstRun?_eq_none_iff
    (t : Text) :
    firstRun? t = none ↔ encodable t = true :=
  firstRunFrom_eq_none_iff 0 t

end Text
end Datalink
