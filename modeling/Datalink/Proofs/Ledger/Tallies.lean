import Datalink.Ledger
import Datalink.Proofs.Value.Naming

/-!
# Tallies by name

Names are told apart by their text, whatever else a tally may be under.

Results: an observation under a name is counted once under the text of that name and under
no other, be it held back or written out or lost, and its failure is counted with it.
-/

namespace Datalink

namespace Ledger

/-- The tally under a name; one of nothing if there is none. -/
def tallyOf (l : Ledger) (name : Text) : Tally :=
  (Keyed.get? (.text name) l.tallies).getD Tally.zero

/-- How often an operation of a name was counted. -/
def callsOf (l : Ledger) (name : Text) : Nat := (l.tallyOf name).calls

/-- How often an operation of a name was counted as a failure. -/
def failuresOf (l : Ledger) (name : Text) : Nat := (l.tallyOf name).failures

/-- The names that there are tallies of. -/
def names (l : Ledger) : List Value := Keyed.keys l.tallies

theorem tallies_record
    (l : Ledger) (o : Observation) (files : FileTree) :
    (l.record o files).1.tallies = (l.count o).1.tallies := by
  unfold record
  rcases l.count o with ⟨l', _ | _⟩
  · rfl
  · exact tallies_hold l' o

section Texts

variable (l : Ledger) {o : Observation} {name : Text} (hname : o.name.text? = some name)
variable (files : FileTree)
include hname

theorem tallies_count :
    (l.count o).1.tallies = Keyed.put o.name ((l.tallyOf name).add o).1 l.tallies := by
  unfold count tallyOf
  rw [Value.checkKey_of_text? hname, Keyed.get?_of_text? hname]

theorem tallyOf_record
    (other : Text) :
    (l.record o files).1.tallyOf other =
      if other = name then ((l.tallyOf name).add o).1 else l.tallyOf other := by
  rw [tallyOf, tallies_record, l.tallies_count hname, Keyed.get?_put_of_text? rfl hname]
  split <;> rfl

/-- An observation counts once, under its name. -/
theorem callsOf_record
    (other : Text) :
    (l.record o files).1.callsOf other = l.callsOf other + if other = name then 1 else 0 := by
  rw [callsOf, l.tallyOf_record hname]
  by_cases h : other = name
  · subst h
    simp [callsOf]
  · simp [callsOf, h]

/-- Its failure is counted with it. -/
theorem failuresOf_record
    (other : Text) :
    (l.record o files).1.failuresOf other =
      l.failuresOf other + if other = name ∧ o.success.truthy = false then 1 else 0 := by
  rw [failuresOf, l.tallyOf_record hname]
  by_cases h : other = name
  · subst h
    rw [if_pos rfl, Tally.failures_add]
    cases o.success.truthy <;> simp [failuresOf]
  · simp [failuresOf, h]

theorem mem_names_record
    {k : Value} (h : k ∈ (l.record o files).1.names) :
    k ∈ l.names ∨ k = o.name := by
  rw [names, tallies_record, l.tallies_count hname, Keyed.keys_put] at h
  split at h
  · exact .inl h
  · rcases List.mem_append.mp h with h | h
    · exact .inl h
    · exact .inr (List.mem_singleton.mp h)

end Texts

end Ledger

end Datalink
