import Datalink.Ledger

/-!
# Which observations a ledger counts

An observation is counted under its name, and its time is added to a total and held
against the longest time so far.  That fails if the name cannot be a key, or if the time
is no number that can be added to a floating-point number.

Results: in a ledger whose longest times are such numbers, an observation is counted if
and only if its name can be a key and its time is such a number, and the longest times
stay such numbers.  A ledger that has taken nothing is such a ledger.
-/

namespace Datalink

namespace Value

/-- Whether a value is a number that can be added to a floating-point number. -/
def isTime (v : Value) : Bool :=
  match v.face with
  | bool _ => true
  | int n => (Numeral.nearestToInt? n).isSome
  | real _ => true
  | _ => false

theorem quantity?_of_isTime
    {v : Value} (h : v.isTime = true) :
    ∃ q, v.face.quantity? = some q := by
  unfold isTime at h
  cases hface : v.face <;> simp_all [quantity?]

theorem not_isDecimal_of_isTime
    {v : Value} (h : v.isTime = true) :
    v.isDecimal = false := by
  cases v with
  | decimal d =>
      cases h
  | _ =>
      rfl

/-- Two numbers that can be added to floating-point numbers stand in an order or do not. -/
theorem compare_of_isTime
    (o : Order) {v w : Value} (hv : v.isTime = true) (hw : w.isTime = true) :
    ∃ b, v.compare o w = .ok b := by
  obtain ⟨p, hp⟩ := quantity?_of_isTime hv
  obtain ⟨q, hq⟩ := quantity?_of_isTime hw
  refine ⟨o.holds p q, ?_⟩
  simp [compare, hp, hq, not_isDecimal_of_isTime hv, not_isDecimal_of_isTime hw]

end Value

namespace Keyed

variable {α : Type} {p : α → Prop}

theorem get?_of_forall
    {m : Keyed α} (h : ∀ e ∈ m, p e.2) {key : Value} {a : α} (ha : get? key m = some a) :
    p a := by
  induction m with
  | nil =>
      cases ha
  | cons e rest ih =>
      obtain ⟨he, hrest⟩ := List.forall_mem_cons.mp h
      by_cases hkey : key.same e.1 = true
      · rw [get?, if_pos hkey] at ha
        exact Option.some.inj ha ▸ he
      · rw [get?, if_neg hkey] at ha
        exact ih hrest ha

theorem forall_put
    {m : Keyed α} (h : ∀ e ∈ m, p e.2) (key : Value) {a : α} (ha : p a) :
    ∀ e ∈ put key a m, p e.2 := by
  induction m with
  | nil =>
      simpa [put] using ha
  | cons e rest ih =>
      obtain ⟨he, hrest⟩ := List.forall_mem_cons.mp h
      by_cases hkey : key.same e.1 = true
      · rw [put, if_pos hkey]
        exact List.forall_mem_cons.mpr ⟨ha, hrest⟩
      · rw [put, if_neg hkey]
        exact List.forall_mem_cons.mpr ⟨he, ih hrest⟩

end Keyed

namespace Tally

/-- Whether other times can be held against the longest time of a tally. -/
def Timed (t : Tally) : Prop := t.longest.isTime = true

theorem isOk_sum
    (total : Float) (elapsed : Value) :
    (sum total elapsed).isOk = elapsed.isTime := by
  unfold sum Value.isTime
  cases elapsed.face with
  | int n =>
      dsimp only
      cases Numeral.nearestToInt? n <;> rfl
  | _ =>
      rfl

variable {t : Tally} (h : t.Timed)

include h

theorem longer_of_timed
    {elapsed : Value} (he : elapsed.isTime = true) :
    ∃ v, longer t.longest elapsed = .ok v ∧ v.isTime = true := by
  obtain ⟨b, hb⟩ := Value.compare_of_isTime .greater he h
  cases b with
  | false =>
      exact ⟨t.longest, by simp [longer, hb], h⟩
  | true =>
      exact ⟨elapsed, by simp [longer, hb], he⟩

/-- A time is added if and only if it is a number that can be. -/
theorem addTime_of_timed
    (elapsed : Value) :
    (t.addTime elapsed).2.isOk = elapsed.isTime ∧ (t.addTime elapsed).1.Timed := by
  have hsum := isOk_sum t.total elapsed
  cases htotal : sum t.total elapsed with
  | error f =>
      rw [htotal] at hsum
      simp only [addTime, htotal]
      exact ⟨hsum, h⟩
  | ok total =>
      rw [htotal] at hsum
      obtain ⟨v, hlonger, hv⟩ := longer_of_timed h hsum.symm
      simp only [addTime, htotal, hlonger]
      exact ⟨hsum, hv⟩

end Tally

/-- Whether an observation can be counted: its name can be a key, and its time can be
added to other times. -/
def Observation.countable (o : Observation) : Bool :=
  o.name.checkKey.isOk && o.elapsed.isTime

namespace Ledger

/-- Whether other times can be held against all the longest times of a ledger. -/
def Timed (l : Ledger) : Prop := ∀ e ∈ l.tallies, e.2.Timed

theorem timed_empty
    (capacity : Nat) (journal : Option Journal) :
    (empty capacity journal).Timed := by
  intro e he
  cases he

theorem count_of_timed
    {l : Ledger} (h : l.Timed) (o : Observation) :
    (l.count o).2.isOk = o.countable ∧ (l.count o).1.Timed := by
  unfold count Observation.countable
  cases hkey : o.name.checkKey with
  | error f =>
      exact ⟨rfl, h⟩
  | ok _ =>
      have hbefore : ((Keyed.get? o.name l.tallies).getD Tally.zero).Timed := by
        cases hget : Keyed.get? o.name l.tallies with
        | none =>
            rfl
        | some t =>
            exact Keyed.get?_of_forall h hget
      have hcounted : (((Keyed.get? o.name l.tallies).getD Tally.zero).count o).Timed := hbefore
      obtain ⟨hok, hafter⟩ := Tally.addTime_of_timed hcounted o.elapsed
      exact ⟨hok, Keyed.forall_put h o.name hafter⟩

end Ledger

end Datalink
