import Datalink.Fault

/-!
# Binding parameters

Input: values as callers hold them.  The engine stores five classes of values:
nothing, integers of 64 bits, floating-point numbers, encodable texts and bytes.

`bind` takes a value to one of these or refuses it, and `bindAll` does so for a
positional list of parameters.  Truth values become integers, buffers become fixed
bytes, dates and identifiers become texts, and a plain member of an enumeration is
bound by its value.

Values may be nested to any depth.  The limit that an interpreter sets to recursion, and with
it to how deep a member or the printed form of a refused value may be nested, is left out.
The limit to the digits of a whole number is kept: a refusal that would write a longer one
gives way to another fault.

A range may have more integers than can be listed, so that the first one that does not
fit is computed.

Results: `firstOutside?_eq` says that it is the one that a search of the list finds, and
`bindRange_eq` that a range is bound as the list of its integers.
-/

namespace Datalink
namespace Parameter

/-- The least integer of 64 bits. -/
def least : Int := -0x8000000000000000

/-- The greatest integer of 64 bits. -/
def greatest : Int := 0x7FFFFFFFFFFFFFFF

/-- Whether an integer fits into 64 bits. -/
def fits (n : Int) : Bool := least ≤ n && n ≤ greatest

/-- The refusal of a parameter.  A refusal that cannot be worded is a fault of its
own. -/
def refuse (problem : BindingProblem) : Fault :=
  if problem.wordable then .binding problem else .digitLimit

/-- The value of a parameter as the engine stores it. -/
def bind : Value → Except Fault Value
  | .null => .ok .null
  | .real x => .ok (.real x)
  | .text t =>
      match t.firstRun? with
      | some run => .error (refuse (.unencodable run))
      | none => .ok (.text t)
  | .bool b => .ok (.int (if b then 1 else 0))
  | .int n => if fits n then .ok (.int n) else .error (refuse (.outOfRange n))
  | .bytes _ data => .ok (.bytes .fixed data)
  | .date d => .ok (.text d.text)
  | .time t off => .ok (.text (Calendar.timeText t off))
  | .moment d t off => .ok (.text (Calendar.momentText d t off))
  | .uuid number => .ok (.text (Value.uuidText number))
  | .member .plain _ _ v => bind v
  | .member form enumeration name v =>
      match bind v with
      | .ok _ => .ok (.member form enumeration name v)
      | .error f => .error f
  | v => .error (refuse (.unsupported v))

/-- Parameters bound from left to right, up to the first that is refused. -/
def bindItems : List Value → Except Fault (List Value)
  | [] => .ok []
  | v :: vs =>
      match bind v with
      | .error f => .error f
      | .ok b =>
          match bindItems vs with
          | .error f => .error f
          | .ok bs => .ok (b :: bs)

/-- How many steps can be taken from an integer before one leads out. -/
def room (start step : Int) : Nat :=
  ((if step < 0 then start - least else greatest - start) / step.natAbs).toNat

/-- The first integer of a range that does not fit.  If both ends fit, all do. -/
def firstOutside? (start stop step : Int) : Option Int :=
  let length := Value.rangeLength start stop step
  if length = 0 ∨ fits start ∧ fits (start + step * (length - 1 : Nat)) then none
  else if !fits start then some start
  else some (start + step * (room start step + 1 : Nat))

/-- The integers of a range bound in order, up to the first that does not fit. -/
def bindRange (start stop step : Int) : Except Fault (List Value) :=
  match firstOutside? start stop step with
  | some n => .error (refuse (.outOfRange n))
  | none => .ok ((Value.rangeItems start stop step).map .int)

/-- Whether the items of a value have positions: texts, buffers, mappings and sets
have none. -/
def isPositional (v : Value) : Bool :=
  v.isIterable &&
    match v.face with
    | .mapping _ => false
    | .set _ => false
    | .fixedSet _ => false
    | _ => true

/-- The parameters of a statement, bound in order.  No value means no
parameters. -/
def bindAll (params : Value) : Except Fault (List Value) :=
  match params with
  | .null => .ok []
  | _ =>
      if isPositional params then
        match params with
        | .range start stop step => bindRange start stop step
        | params => bindItems (params.items?.getD [])
      else
        .error (refuse (.notPositional params))

theorem fits_iff
    (n : Int) :
    fits n = true ↔ least ≤ n ∧ n ≤ greatest := by
  simp [fits]

/-- As many steps as there is room for lead to an integer that fits, and one more leads
out. -/
theorem fits_step_iff
    {start step : Int} (h : fits start) (hs : step ≠ 0) (i : Nat) :
    fits (start + step * i) = true ↔ i ≤ room start step := by
  rw [fits_iff] at *
  have hd : (0 : Int) < step.natAbs := by omega
  generalize hR : (if step < 0 then start - least else greatest - start) = R
  have hroom : (room start step : Int) = R / step.natAbs := by
    have : 0 ≤ R / step.natAbs := Int.ediv_nonneg (by split at hR <;> omega) (by omega)
    simp only [room, hR]
    omega
  have key : (i : Int) ≤ R / step.natAbs ↔ i * (step.natAbs : Int) ≤ R :=
    Int.le_ediv_iff_mul_le hd
  have hi : (0 : Int) ≤ i * (step.natAbs : Int) := Int.mul_nonneg (by omega) (by omega)
  rw [← Int.ofNat_le, hroom, key]
  by_cases hn : step < 0
  · have hm : step * i = -(i * (step.natAbs : Int)) := by
      rw [Int.ofNat_natAbs_of_nonpos (by omega), Int.mul_neg, Int.neg_neg, Int.mul_comm]
    rw [if_pos hn] at hR
    rw [hm]
    omega
  · have hm : step * i = i * (step.natAbs : Int) := by
      rw [Int.natAbs_of_nonneg (by omega), Int.mul_comm]
    rw [if_neg hn] at hR
    rw [hm]
    omega

theorem firstOutside?_eq
    (start stop step : Int) :
    firstOutside? start stop step =
      (Value.rangeItems start stop step).find? fun n => !fits n := by
  unfold firstOutside? Value.rangeItems
  rw [List.find?_map]
  generalize hl : Value.rangeLength start stop step = length
  have hs : length ≠ 0 → step ≠ 0 := by
    intro hne hz
    subst hz
    simp [Value.rangeLength] at hl
    omega
  simp only []
  split
  · rename_i h
    rw [List.find?_eq_none.2]
    · rfl
    · intro i hi
      have hi := List.mem_range.1 hi
      rcases h with h | ⟨hf, hlast⟩
      · omega
      · have := (fits_step_iff hf (hs (by omega)) _).1 hlast
        have := (fits_step_iff hf (hs (by omega)) i).2 (by omega)
        simp [this]
  · rename_i h
    have hne : length ≠ 0 := fun hz => h (.inl hz)
    split
    · rename_i hf
      rw [(List.find?_range_eq_some (i := 0)).2]
      · simp
      · refine ⟨by simpa using hf, List.mem_range.2 (by omega), by omega⟩
    · rename_i hf
      have hf : fits start = true := by simpa using hf
      have hlast : ¬ length - 1 ≤ room start step := fun hle =>
        h (.inr ⟨hf, (fits_step_iff hf (hs hne) _).2 hle⟩)
      rw [(List.find?_range_eq_some (i := room start step + 1)).2]
      · simp
      · refine ⟨?_, List.mem_range.2 (by omega), ?_⟩
        · have := mt (fits_step_iff hf (hs hne) (room start step + 1)).1 (by omega)
          simpa using this
        · intro j hj
          have := (fits_step_iff hf (hs hne) j).2 (by omega)
          simp [this]

/-- Integers are bound as they are, up to the first that does not fit. -/
theorem bindItems_int
    (ns : List Int) :
    bindItems (ns.map .int) =
      match ns.find? fun n => !fits n with
      | some n => .error (refuse (.outOfRange n))
      | none => .ok (ns.map .int) := by
  induction ns with
  | nil => rfl
  | cons n ns ih =>
    cases h : fits n with
    | false => simp [bindItems, bind, h]
    | true =>
      simp only [List.map_cons, bindItems, bind, h, if_true, ih, List.find?_cons, Bool.not_true]
      cases ns.find? fun n => !fits n <;> rfl

/-- A range is bound as the list of its integers. -/
theorem bindRange_eq
    (start stop step : Int) :
    bindRange start stop step =
      bindItems ((Value.rangeItems start stop step).map .int) := by
  rw [bindItems_int, ← firstOutside?_eq]
  unfold bindRange
  cases firstOutside? start stop step <;> rfl

end Parameter
end Datalink
