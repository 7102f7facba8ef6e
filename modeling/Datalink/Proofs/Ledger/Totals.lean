import Datalink.Proofs.Ledger.History
import Datalink.Proofs.Ledger.Tallies
import Datalink.Proofs.Value.Naming
import Mathlib.Algebra.GroupWithZero.Nat
import Mathlib.Data.List.Induction

/-!
# What the tallies of a ledger tell

Input: a run of calls on a new ledger, each with the files that it finds, so that any of the
writes may fail, and observations whose names are texts.

Results: behind the run the tally of a name counts the observations that were brought under
this name, sums their times up in order and has the longest of them, and there is none if no
observation was brought under it.  The names come in the order of their first observations,
and all tallies together count every observation.  Nothing of this depends on what is held
back, on the journal, or on how a call ended.

A time that cannot be added to a floating-point number, such as an integer that is too large
for one, is counted but neither summed up nor held against the longest.
-/

namespace Datalink

namespace Value

/-- The floating-point number that a time is added up as. -/
def time? (v : Value) : Option Float :=
  match v.face with
  | bool b => some (if b then 1.0 else 0.0)
  | int n => Numeral.nearestToInt? n
  | real x => some x
  | _ => none

theorem isTime_eq
    (v : Value) :
    v.isTime = v.time?.isSome := by
  unfold isTime time?
  cases v.face <;> rfl

/-- The greater of two numbers; the first unless the second is greater. -/
def greater (v w : Value) : Value :=
  match v.face.quantity?, w.face.quantity? with
  | some p, some q => if p.less q then w else v
  | _, _ => v

theorem isTime_greater
    {v w : Value} (hv : v.isTime = true) (hw : w.isTime = true) :
    (v.greater w).isTime = true := by
  unfold greater
  split
  · split <;> assumption
  · exact hv

theorem distinct_concat
    (items : List Value) (v : Value) :
    distinct (items ++ [v]) =
      if (distinct items).any v.same = true then distinct items else distinct items ++ [v] := by
  simp [distinct]

/-- The values of a list without repetition are each the same as none before it. -/
theorem pairwise_distinct
    (items : List Value) :
    (distinct items).Pairwise fun v w => w.same v = false := by
  induction items using List.reverseRecOn with
  | nil =>
      exact .nil
  | append_singleton items v ih =>
      rw [distinct_concat]
      split
      · exact ih
      · rename_i hnew
        refine List.pairwise_append.mpr ⟨ih, List.pairwise_singleton _ _, ?_⟩
        simpa using hnew

theorem mem_of_mem_distinct
    {items : List Value} {v : Value} (h : v ∈ distinct items) :
    v ∈ items := by
  induction items using List.reverseRecOn with
  | nil =>
      exact h
  | append_singleton items w ih =>
      rw [distinct_concat] at h
      split at h
      · exact List.mem_append_left _ (ih h)
      · rcases List.mem_append.mp h with h | h
        · exact List.mem_append_left _ (ih h)
        · exact List.mem_append_right _ h

end Value

namespace Keyed

variable {α : Type}

/-- Where no key is the same as one before it, what stands beside a key is found under it. -/
theorem get?_of_mem
    {m : Keyed α} (hkeys : m.keys.Pairwise fun k l => l.same k = false) {e : Value × α}
    (he : e ∈ m) (hself : e.1.same e.1 = true) :
    get? e.1 m = some e.2 := by
  induction m with
  | nil =>
      cases he
  | cons first rest ih =>
      obtain ⟨hfirst, hrest⟩ := List.pairwise_cons.mp hkeys
      rcases List.mem_cons.mp he with rfl | he
      · simp [get?, hself]
      · have hother : e.1.same first.1 = false := hfirst e.1 (List.mem_map_of_mem he)
        rw [get?, hother]
        exact ih hrest he

/-- Something that weighs one more than what was under its key makes a mapping weigh one
more. -/
theorem sum_put
    {weight : α → Nat} (key : Value) {a : α} (m : Keyed α)
    (ha : weight a = ((get? key m).map weight).getD 0 + 1) :
    ((put key a m).map fun e => weight e.2).sum = (m.map fun e => weight e.2).sum + 1 := by
  induction m with
  | nil =>
      simpa [put, get?] using ha
  | cons e rest ih =>
      by_cases hkey : key.same e.1 = true
      · rw [get?, if_pos hkey] at ha
        simp only [put, if_pos hkey, List.map_cons, List.sum_cons, ha, Option.map_some,
          Option.getD_some]
        omega
      · rw [get?, if_neg hkey] at ha
        simp only [put, if_neg hkey, List.map_cons, List.sum_cons, ih ha]
        omega

end Keyed

namespace Tally

theorem sum_of_time?
    {elapsed : Value} {x : Float} (h : elapsed.time? = some x) (total : Float) :
    sum total elapsed = .ok (total + x) := by
  unfold Value.time? at h
  unfold sum
  cases hface : elapsed.face <;> simp_all

theorem longer_eq
    {x y : Value} (hx : x.isTime = true) (hy : y.isTime = true) :
    longer x y = .ok (x.greater y) := by
  obtain ⟨p, hp⟩ := Value.quantity?_of_isTime hx
  obtain ⟨q, hq⟩ := Value.quantity?_of_isTime hy
  simp [longer, Value.compare, hp, hq, Value.not_isDecimal_of_isTime hx,
    Value.not_isDecimal_of_isTime hy, Value.Order.holds, Value.greater]

theorem addTime_of_time?
    {t : Tally} (ht : t.Timed) {elapsed : Value} {x : Float} (h : elapsed.time? = some x) :
    (t.addTime elapsed).1 =
      { t with total := t.total + x, longest := t.longest.greater elapsed } := by
  have htime : elapsed.isTime = true := by
    rw [Value.isTime_eq, h]
    rfl
  simp [addTime, sum_of_time? h, longer_eq ht htime]

theorem addTime_of_time?_eq_none
    (t : Tally) {elapsed : Value} (h : elapsed.time? = none) :
    (t.addTime elapsed).1 = t := by
  have hsum := isOk_sum t.total elapsed
  rw [Value.isTime_eq, h] at hsum
  cases hresult : sum t.total elapsed with
  | ok total =>
      rw [hresult] at hsum
      cases hsum
  | error f =>
      simp [addTime, hresult]

/-- The tally that some observations come to, in the order in which they were brought. -/
def gathered (os : List Observation) : Tally where
  calls := os.length
  failures := os.countP fun o => !o.success.truthy
  total := (os.filterMap fun o => o.elapsed.time?).foldl (· + ·) 0.0
  longest := ((os.map Observation.elapsed).filter Value.isTime).foldl Value.greater (.real 0.0)

theorem timed_gathered
    (os : List Observation) :
    (gathered os).Timed := by
  have hfold : ∀ (vs : List Value) (v : Value), v.isTime = true → (∀ w ∈ vs, w.isTime = true) →
      (vs.foldl Value.greater v).isTime = true := by
    intro vs
    induction vs with
    | nil =>
        exact fun v hv _ => hv
    | cons w vs ih =>
        intro v hv hvs
        obtain ⟨hw, hvs⟩ := List.forall_mem_cons.mp hvs
        exact ih _ (Value.isTime_greater hv hw) hvs
  exact hfold _ _ rfl fun w hw => (List.mem_filter.mp hw).2

/-- Adding one more observation makes the tally that it and those before it come to. -/
theorem add_gathered
    (os : List Observation) (o : Observation) :
    ((gathered os).add o).1 = gathered (os ++ [o]) := by
  have hcount : (gathered os).count o =
      { gathered os with
        calls := (gathered (os ++ [o])).calls
        failures := (gathered (os ++ [o])).failures } := by
    cases htruthy : o.success.truthy <;> simp [count, gathered, htruthy, List.countP_append]
  have htimed : ((gathered os).count o).Timed := timed_gathered os
  have htime := Value.isTime_eq o.elapsed
  cases h : o.elapsed.time? with
  | none =>
      rw [h] at htime
      rw [add, addTime_of_time?_eq_none _ h, hcount]
      simp [gathered, h, htime]
  | some x =>
      rw [h] at htime
      rw [add, addTime_of_time? htimed h, hcount]
      simp [gathered, h, htime]

end Tally

namespace Ledger

/-- The observations under a name. -/
def under (name : Value) (os : List Observation) : List Observation :=
  os.filter fun o => o.name.text? == name.text?

/-- The tallies with an observation counted. -/
def counted (m : Keyed Tally) (o : Observation) : Keyed Tally :=
  match o.name.checkKey with
  | .error _ => m
  | .ok () => Keyed.put o.name (((Keyed.get? o.name m).getD Tally.zero).add o).1 m

theorem tallies_count_eq
    (l : Ledger) (o : Observation) :
    (l.count o).1.tallies = counted l.tallies o := by
  unfold count counted
  cases o.name.checkKey <;> rfl

/-- A call counts what it brings, however it ends. -/
theorem tallies_perform
    (l : Ledger) (c : Call) (files : FileTree) :
    (c.perform l files).1.tallies = c.brought.foldl counted l.tallies := by
  cases c with
  | record o =>
      rw [Call.perform, tallies_record, tallies_count_eq]
      rfl
  | flush =>
      simp [Call.perform, flush, Call.brought]

theorem tallies_history
    (l : Ledger) (visits : List Visit) :
    (history l visits).ledger.tallies =
      (visits.flatMap fun v => v.call.brought).foldl counted l.tallies := by
  induction visits generalizing l with
  | nil =>
      rfl
  | cons v visits ih =>
      rw [List.flatMap_cons, List.foldl_append, ← tallies_perform]
      exact ih (v.call.perform l v.files).1

/-- What tallies that were made of some observations have to do with them. -/
structure Gathers (os : List Observation) (m : Keyed Tally) : Prop where
  tally : ∀ {name : Value} {t : Text}, name.text? = some t →
    Keyed.get? name m =
      if under name os = [] then none else some (Tally.gathered (under name os))
  keys : m.keys = Value.distinct (os.map Observation.name)
  calls : (m.map fun e => e.2.calls).sum = os.length

theorem under_concat
    (name : Value) (os : List Observation) (o : Observation) :
    under name (os ++ [o]) =
      if o.name.text? = name.text? then under name os ++ [o] else under name os := by
  by_cases h : o.name.text? = name.text? <;> simp [under, h]

section Counting

variable {os : List Observation} {m : Keyed Tally} (h : Gathers os m) {o : Observation}
variable {t : Text} (ho : o.name.text? = some t)
include h ho

theorem counted_eq_put :
    counted m o = Keyed.put o.name (Tally.gathered (under o.name os ++ [o])) m := by
  have hbefore : (Keyed.get? o.name m).getD Tally.zero = Tally.gathered (under o.name os) := by
    rw [h.tally ho]
    split
    · rename_i hnone
      rw [hnone]
      rfl
    · rfl
  rw [counted, Value.checkKey_of_text? ho, hbefore, Tally.add_gathered]

theorem get?_counted
    {name : Value} {s : Text} (hname : name.text? = some s) :
    Keyed.get? name (counted m o) =
      if under name (os ++ [o]) = [] then none
      else some (Tally.gathered (under name (os ++ [o]))) := by
  rw [counted_eq_put h ho, Keyed.get?_put_of_text? hname ho]
  by_cases hst : s = t
  · have hsame : o.name.text? = name.text? := by
      rw [ho, hname, hst]
    have hunder : under o.name os = under name os := by
      rw [under, under, hsame]
    simp [hst, under_concat, hsame, hunder]
  · have hother : ¬ o.name.text? = name.text? := by
      rw [ho, hname, Option.some.injEq]
      exact fun hts => hst hts.symm
    rw [if_neg hst, under_concat, if_neg hother]
    exact h.tally hname

theorem gathers_counted :
    Gathers (os ++ [o]) (counted m o) where
  tally := get?_counted h ho
  keys := by
    rw [counted_eq_put h ho, Keyed.keys_put, h.keys, List.map_append, List.map_singleton,
      Value.distinct_concat]
  calls := by
    have hone : (Tally.gathered (under o.name os ++ [o])).calls =
        ((Keyed.get? o.name m).map Tally.calls).getD 0 + 1 := by
      rw [h.tally ho]
      by_cases hnone : under o.name os = [] <;> simp [hnone, Tally.gathered]
    rw [counted_eq_put h ho, Keyed.sum_put o.name m hone, h.calls, List.length_append,
      List.length_singleton]

end Counting

theorem gathers_foldl
    {os : List Observation} (hnames : ∀ o ∈ os, o.name.text?.isSome = true) :
    Gathers os (os.foldl counted []) := by
  induction os using List.reverseRecOn with
  | nil =>
      exact ⟨fun _ => rfl, rfl, rfl⟩
  | append_singleton os o ih =>
      obtain ⟨t, ht⟩ := Option.isSome_iff_exists.mp (hnames o (by simp))
      rw [List.foldl_append]
      exact gathers_counted (ih fun p hp => hnames p (by simp [hp])) ht

/-- What the ledger tells of the observations that were brought. -/
structure Tells (l : Ledger) (os : List Observation) : Prop where
  tally : ∀ name : Value, name.text?.isSome = true → l.tally? name =
    .ok (if under name os = [] then none else some (Tally.gathered (under name os)))
  summary : l.summary = (Value.distinct (os.map Observation.name)).map fun name =>
    (name, .mapping (Tally.gathered (under name os)).fields)
  calls : (l.tallies.map fun e => e.2.calls).sum = os.length
  failures : ∀ e ∈ l.tallies, e.2.failures ≤ e.2.calls

section Telling

variable {os : List Observation} (hnames : ∀ o ∈ os, o.name.text?.isSome = true)
include hnames

/-- Every tally is that of the observations under its name. -/
theorem Gathers.entry
    {m : Keyed Tally} (h : Gathers os m) {e : Value × Tally} (he : e ∈ m) :
    e.2 = Tally.gathered (under e.1 os) := by
  have hpairwise : m.keys.Pairwise fun v w => w.same v = false := by
    rw [h.keys]
    exact Value.pairwise_distinct _
  have hkey : e.1 ∈ os.map Observation.name := by
    apply Value.mem_of_mem_distinct
    rw [← h.keys]
    exact List.mem_map_of_mem he
  obtain ⟨o, ho, hname⟩ := List.mem_map.mp hkey
  obtain ⟨t, ht⟩ := Option.isSome_iff_exists.mp (hnames o ho)
  rw [hname] at ht
  have hfound := Keyed.get?_of_mem hpairwise he ((Value.same_iff_of_text? ht _).mpr ht)
  rw [h.tally ht] at hfound
  split at hfound
  · cases hfound
  · exact (Option.some.inj hfound).symm

theorem tells_of_gathers
    {l : Ledger} (h : Gathers os l.tallies) :
    l.Tells os where
  tally := by
    intro name hname
    obtain ⟨t, ht⟩ := Option.isSome_iff_exists.mp hname
    rw [tally?, Value.checkKey_of_text? ht]
    exact congrArg Except.ok (h.tally ht)
  summary := by
    rw [← h.keys, Keyed.keys, List.map_map, summary]
    refine List.map_congr_left fun e he => ?_
    rw [h.entry hnames he]
    rfl
  calls := h.calls
  failures := by
    intro e he
    rw [h.entry hnames he]
    exact List.countP_le_length

end Telling

/-- Behind every run of calls on a new ledger its tallies tell of all observations that were
brought, whatever the capacity, the journal and the files that the calls found. -/
theorem tells_of_history
    (capacity : Nat) (journal : Option Journal) {visits : List Visit}
    (hnames : ∀ v ∈ visits, ∀ o ∈ v.call.brought, o.name.text?.isSome = true) :
    (history (empty capacity journal) visits).ledger.Tells
      (visits.flatMap fun v => v.call.brought) := by
  have hbrought : ∀ o ∈ visits.flatMap fun v => v.call.brought, o.name.text?.isSome = true := by
    intro o ho
    obtain ⟨v, hv, ho⟩ := List.mem_flatMap.mp ho
    exact hnames v hv o ho
  refine tells_of_gathers hbrought ?_
  rw [tallies_history]
  exact gathers_foldl hbrought

/-- A run in which no observation reaches its journal. -/
def blockedVisits : List Visit :=
  [.record sound, .flush, .record timeless, .record sound].map fun c => ⟨c, blockedFiles⟩

/-- An observation is counted though its recording fails. -/
theorem tells_of_blocked_history :
    (∀ v ∈ blockedVisits, ∀ o ∈ v.call.brought, o.name.text?.isSome = true) ∧
      ((Call.record sound).perform (empty 1 (some blockedJournal)) blockedFiles).2.2.isOk = false ∧
      let l := (history (empty 1 (some blockedJournal)) blockedVisits).ledger
      l.tally? (.text "select") = .ok (some (Tally.gathered [sound, timeless, sound])) ∧
        l.tally? (.text "insert") = .ok none := by
  have hnames : ∀ v ∈ blockedVisits, ∀ o ∈ v.call.brought, o.name.text?.isSome = true := by
    decide
  have htells := tells_of_history 1 (some blockedJournal) hnames
  exact ⟨hnames, by decide +kernel, htells.tally (.text "select") rfl,
    htells.tally (.text "insert") rfl⟩

end Ledger

end Datalink
