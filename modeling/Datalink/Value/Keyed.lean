import Datalink.Value.Equality

/-!
# Mappings from values

A mapping from values is a list of keys with what is under them, in the order in
which the keys were first put.  Two keys are one when they are the same value, so
that the number one, the truth value and the text of a member each find what was put
under their equals; the key that was put first stays.

Results: no key is put twice.
-/

namespace Datalink

/-- Keys with what is under them, in order. -/
abbrev Keyed (α : Type) := List (Value × α)

namespace Keyed

variable {α : Type}

/-- What is under a key. -/
def get? (key : Value) : Keyed α → Option α
  | [] => none
  | (k, a) :: rest => if key.same k then some a else get? key rest

/-- Something put under a key. -/
def put (key : Value) (a : α) : Keyed α → Keyed α
  | [] => [(key, a)]
  | (k, b) :: rest => if key.same k then (k, a) :: rest else (k, b) :: put key a rest

/-- The mapping of a list of entries, put one after the other. -/
def ofList (entries : List (Value × α)) : Keyed α :=
  entries.foldl (fun m e => put e.1 e.2 m) []

/-- The keys in order. -/
def keys (m : Keyed α) : List Value := m.map Prod.fst

@[simp] theorem keys_nil :
    keys ([] : Keyed α) = [] := by
  rfl

@[simp] theorem keys_cons
    (e : Value × α) (m : Keyed α) :
    keys (e :: m) = e.1 :: keys m := by
  rfl

theorem keys_put
    (key : Value) (a : α) (m : Keyed α) :
    keys (put key a m) =
      if m.keys.any key.same = true then m.keys else m.keys ++ [key] := by
  induction m with
  | nil =>
      simp [put]
  | cons e rest ih =>
      by_cases hk : key.same e.1 = true
      · simp [put, hk]
      · by_cases hrest : (keys rest).any key.same = true
        · rw [if_pos hrest] at ih
          simp [put, hk, ih, hrest]
        · rw [if_neg hrest] at ih
          simp [put, hk, ih, hrest]

end Keyed

/-- The mapping of a list of entries as a value, later ones replacing earlier
ones. -/
def Value.ofEntries (entries : List (Value × Value)) : Value :=
  .mapping (Keyed.ofList entries)

end Datalink
