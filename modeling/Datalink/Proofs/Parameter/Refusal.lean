import Datalink.Proofs.Parameter.Bindable

/-!
# How parameters are refused

Input: any value, and any value that is handed over as the parameters of a statement.

A refusal says what is wrong with a value and writes the value out.  An integer with more
than 4300 digits cannot be written, and neither can a value that holds one, however deep.

Results: a value that cannot be bound is refused as such if and only if no integer in it is
that long, and otherwise the refusal gives way to the fault of writing the integer.
Parameters without positions are always refused as such, and other parameters are refused as
the first item is that cannot be bound.
-/

namespace Datalink

namespace Value

/-- The integers that stand in the printed form of a value beside those of its parts. -/
def numerals : Value → List Int
  | int n => [n]
  | range start stop step => [start, stop, step]
  | _ => []

/-- The values whose printed forms stand in the printed form of a value. -/
def parts : Value → List Value
  | list items => items
  | tuple items => items
  | set items => items
  | fixedSet items => items
  | mapping entries => entries.flatMap fun e => [e.1, e.2]
  | member _ _ _ v => [v]
  | _ => []

/-- Whether an integer stands in the printed form of a value. -/
inductive Writes : Value → Int → Prop where
  | numeral
      {v : Value} {n : Int}
      (hn : n ∈ v.numerals) :
      Writes v n
  | part
      {v w : Value} {n : Int}
      (hw : w ∈ v.parts)
      (h : Writes w n) :
      Writes v n

/-- Whether an integer that is too long to be written stands in the printed form of a
value. -/
def Overlong (v : Value) : Prop := ∃ n, v.Writes n ∧ Nat.pow 10 Numeral.digitLimit ≤ n.natAbs

theorem allPrintable_eq
    (vs : List Value) :
    allPrintable vs = vs.all printable := by
  induction vs with
  | nil =>
      rfl
  | cons v vs ih =>
      rw [allPrintable, ih, List.all_cons]

theorem entriesPrintable_eq
    (es : List (Value × Value)) :
    entriesPrintable es = (es.flatMap fun e => [e.1, e.2]).all printable := by
  induction es with
  | nil =>
      rfl
  | cons e es ih =>
      simp [entriesPrintable, ih, Bool.and_assoc]

/-- A value is printable if its own integers and all its parts are. -/
theorem printable_eq
    (v : Value) :
    v.printable = (v.numerals.all Numeral.writable && v.parts.all printable) := by
  cases v <;>
    simp [printable, numerals, parts, allPrintable_eq, entriesPrintable_eq, Bool.and_assoc]

theorem sizeOf_lt_of_mem_parts
    {v w : Value} (h : w ∈ v.parts) :
    sizeOf w < sizeOf v := by
  cases v with
  | mapping entries =>
      obtain ⟨e, he, hw⟩ := List.mem_flatMap.mp h
      have hentry := List.sizeOf_lt_of_mem he
      obtain ⟨k, u⟩ := e
      simp only [Prod.mk.sizeOf_spec] at hentry
      simp only [List.mem_cons, List.not_mem_nil, or_false] at hw
      rcases hw with rfl | rfl <;> simp only [mapping.sizeOf_spec] <;> omega
  | member form enumeration name u =>
      rw [parts, List.mem_singleton] at h
      subst h
      simp only [member.sizeOf_spec]
      omega
  | list items | tuple items | set items | fixedSet items =>
      have hitem := List.sizeOf_lt_of_mem h
      simp only [parts] at hitem
      simp only [list.sizeOf_spec, tuple.sizeOf_spec, set.sizeOf_spec, fixedSet.sizeOf_spec]
      omega
  | _ =>
      cases h

theorem exists_writes_of_not_printable
    (v : Value) (h : v.printable = false) :
    ∃ n, v.Writes n ∧ Numeral.writable n = false := by
  rw [printable_eq, Bool.and_eq_false_iff, List.all_eq_false, List.all_eq_false] at h
  rcases h with ⟨n, hn, hlong⟩ | ⟨w, hw, hpart⟩
  · exact ⟨n, .numeral hn, by simpa using hlong⟩
  · obtain ⟨n, hn, hlong⟩ := exists_writes_of_not_printable w (by simpa using hpart)
    exact ⟨n, .part hw hn, hlong⟩
termination_by sizeOf v
decreasing_by exact sizeOf_lt_of_mem_parts hw

theorem writable_of_writes
    {v : Value} {n : Int} (h : v.Writes n) (hv : v.printable = true) :
    Numeral.writable n = true := by
  induction h with
  | numeral hn =>
      rw [printable_eq, Bool.and_eq_true, List.all_eq_true] at hv
      exact hv.1 _ hn
  | part hw _ ih =>
      rw [printable_eq, Bool.and_eq_true, List.all_eq_true, List.all_eq_true] at hv
      exact ih (hv.2 _ hw)

/-- A value has a printed form unless an integer in it is too long. -/
theorem overlong_iff
    (v : Value) :
    v.Overlong ↔ v.printable = false := by
  have hlong : ∀ n : Int, Nat.pow 10 Numeral.digitLimit ≤ n.natAbs ↔ Numeral.writable n = false := by
    intro n
    rw [Numeral.writable, decide_eq_false_iff_not, Nat.not_lt]
  constructor
  · rintro ⟨n, hwrites, hn⟩
    rw [hlong] at hn
    rw [Bool.eq_false_iff]
    intro hprintable
    rw [writable_of_writes hwrites hprintable] at hn
    cases hn
  · intro h
    obtain ⟨n, hwrites, hn⟩ := exists_writes_of_not_printable v h
    exact ⟨n, hwrites, (hlong n).mpr hn⟩

end Value

namespace Parameter

/-- The faults of a value that cannot be bound. -/
inductive Refusal (v : Value) : Fault → Prop where
  | worded
      (problem : BindingProblem)
      (h : ¬ v.Overlong) :
      Refusal v (.binding problem)
  | wordless
      (h : v.Overlong) :
      Refusal v .digitLimit

theorem Refusal.eq_digitLimit
    {v : Value} {f : Fault} (h : Refusal v f) (hlong : v.Overlong) :
    f = .digitLimit := by
  cases h with
  | worded problem h =>
      exact absurd hlong h
  | wordless h =>
      rfl

theorem Refusal.exists_eq_binding
    {v : Value} {f : Fault} (h : Refusal v f) (hlong : ¬ v.Overlong) :
    ∃ problem, f = .binding problem := by
  cases h with
  | worded problem h =>
      exact ⟨problem, rfl⟩
  | wordless h =>
      exact absurd h hlong

theorem refusal_refuse
    {v : Value} {problem : BindingProblem} (h : problem.wordable = v.printable) :
    Refusal v (refuse problem) := by
  unfold refuse
  rw [h]
  cases hprintable : v.printable with
  | false =>
      exact .wordless (v.overlong_iff.mpr hprintable)
  | true =>
      refine .worded problem fun hlong => ?_
      rw [v.overlong_iff.mp hlong] at hprintable
      cases hprintable

/-- A member of an enumeration is refused as its value is. -/
theorem Refusal.member
    {v : Value} {f : Fault} (h : Refusal v f) (form : MemberForm) (enumeration name : Text) :
    Refusal (.member form enumeration name v) f := by
  have hsame : (Value.member form enumeration name v).Overlong ↔ v.Overlong := by
    rw [Value.overlong_iff, Value.overlong_iff, Value.printable]
  cases h with
  | worded problem h =>
      exact .worded problem (mt hsame.mp h)
  | wordless h =>
      exact .wordless (hsame.mpr h)

theorem refusal_of_bind
    {v : Value} {f : Fault} (h : bind v = .error f) :
    Refusal v f := by
  induction v using bind.induct generalizing f with
  | case3 t run hrun =>
      rw [bind, hrun] at h
      cases h
      exact refusal_refuse rfl
  | case4 t hrun =>
      rw [bind, hrun] at h
      cases h
  | case6 n hfits =>
      rw [bind, if_pos hfits] at h
      cases h
  | case7 n hfits =>
      rw [bind, if_neg hfits] at h
      obtain rfl := Except.error.inj h
      refine refusal_refuse ?_
      rw [BindingProblem.wordable, Value.printable]
  | case13 enumeration name v ih =>
      exact (ih h).member .plain enumeration name
  | case14 form enumeration name v hform a hbind ih =>
      rw [bind_member hform, hbind] at h
      cases h
  | case15 form enumeration name v hform g hbind ih =>
      rw [bind_member hform, hbind] at h
      cases h
      exact (ih hbind).member form enumeration name
  | case16 v =>
      rw [bind] at h
      · cases h
        exact refusal_refuse rfl
      all_goals assumption
  | _ =>
      cases h

theorem exists_refusal
    {v : Value} (h : ¬ Bindable v) :
    ∃ f, bind v = .error f ∧ Refusal v f := by
  cases hbind : bind v with
  | ok b =>
      exact absurd (bindable_of_bind hbind) h
  | error f =>
      exact ⟨f, rfl, refusal_of_bind hbind⟩

/-- The faults of parameters that cannot be bound. -/
inductive RefusalOfAll (params : Value) : Fault → Prop where
  | unordered
      (h : ∀ items, ¬ params.Lists items) :
      RefusalOfAll params (.binding (.notPositional params))
  | item
      {before after : List Value} {v : Value} {f : Fault}
      (hitems : params.Lists (before ++ v :: after))
      (hbefore : ∀ u ∈ before, Bindable u)
      (hv : ¬ Bindable v)
      (h : Refusal v f) :
      RefusalOfAll params f

theorem refusalOfAll_of_bindAll
    {params : Value} {f : Fault} (h : bindAll params = .error f) :
    RefusalOfAll params f := by
  by_cases hlists : ∃ items, params.Lists items
  · obtain ⟨items, hitems⟩ := hlists
    rw [bindAll_of_lists hitems] at h
    obtain ⟨before, v, after, rfl, hbefore, hv⟩ := bindItems_eq_error_iff.mp h
    refine .item hitems hbefore (fun hbindable => ?_) (refusal_of_bind hv)
    obtain ⟨b, hb⟩ := hbindable.bind
    cases hb.symm.trans hv
  · have hno := not_exists.mp hlists
    rcases bindAll_of_not_lists hno with ⟨hnone, -⟩ | ⟨hrefused, -⟩
    · cases hnone.symm.trans h
    · rw [hrefused] at h
      cases h
      exact .unordered hno

/-- A value that cannot be bound is refused as such, unless an integer in it is too long to be
written.  Parameters that cannot be bound are refused as such if they have no positions, and
otherwise as the first item is that cannot be bound. -/
theorem refused_unless_overlong
    (v params : Value) :
    (¬ Bindable v → ∃ f, bind v = .error f ∧ Refusal v f) ∧
      ((∀ bs, bindAll params ≠ .ok bs) →
        ∃ f, bindAll params = .error f ∧ RefusalOfAll params f) := by
  refine ⟨exists_refusal, fun hparams => ?_⟩
  cases hbind : bindAll params with
  | ok bs =>
      exact absurd hbind (hparams bs)
  | error f =>
      exact ⟨f, rfl, refusalOfAll_of_bindAll hbind⟩

/-- The least natural number that is too long to be written. -/
def longNumber : Int := Nat.pow 10 Numeral.digitLimit

theorem overlong_longNumber :
    (Value.int longNumber).Overlong :=
  ⟨longNumber, .numeral (List.mem_singleton.mpr rfl), by decide +kernel⟩

theorem not_bindable_longNumber :
    ¬ Bindable (.int longNumber) := by
  intro h
  cases h with
  | int n h =>
      have hgreat : ¬ longNumber ≤ 2 ^ 63 - 1 := by
        decide +kernel
      exact hgreat h.2

theorem not_bindable_list
    (items : List Value) :
    ¬ Bindable (.list items) := by
  rintro ⟨⟩

/-- A list of a short integer is refused as such, and a list of a long one is not; given as
parameters the list is refused as its item is. -/
theorem list_refused_unless_overlong :
    let short : Value := .list [.int 1]
    let long : Value := .list [.int longNumber]
    ¬ Bindable short ∧ (∃ p, bind short = .error (.binding p)) ∧
      ¬ Bindable long ∧ bind long = .error .digitLimit ∧
        (∀ bs, bindAll long ≠ .ok bs) ∧ bindAll long = .error .digitLimit := by
  intro short long
  have hwritable : ¬ short.Overlong := by
    rw [Value.overlong_iff, Bool.not_eq_false]
    decide +kernel
  have hoverlong : long.Overlong := by
    obtain ⟨n, hwrites, hn⟩ := overlong_longNumber
    exact ⟨n, .part List.mem_cons_self hwrites, hn⟩
  have hlists : long.Lists [.int longNumber] := ⟨rfl, rfl, rfl⟩
  have hall : ∀ bs, bindAll long ≠ .ok bs := by
    intro bs hbs
    rw [bindAll_of_lists hlists] at hbs
    exact not_bindable_longNumber ((exists_bindItems_iff _).mp ⟨bs, hbs⟩ _ List.mem_cons_self)
  obtain ⟨f, hf, hshort⟩ := (refused_unless_overlong short long).1 (not_bindable_list _)
  obtain ⟨g, hg, hlong⟩ := (refused_unless_overlong long long).1 (not_bindable_list _)
  obtain ⟨k, hk, hitem⟩ := (refused_unless_overlong long long).2 hall
  obtain ⟨p, rfl⟩ := hshort.exists_eq_binding hwritable
  obtain rfl := hlong.eq_digitLimit hoverlong
  refine ⟨not_bindable_list _, ⟨p, hf⟩, not_bindable_list _, hg, hall, ?_⟩
  cases hitem with
  | unordered h =>
      exact absurd hlists (h _)
  | item hitems _ _ h =>
      have hsplit := Option.some.inj (hitems.items.symm.trans hlists.items)
      rcases List.append_eq_singleton_iff.mp hsplit with ⟨-, hv⟩ | ⟨-, hv⟩
      · obtain ⟨rfl, -⟩ := List.cons.inj hv
        rw [hk, h.eq_digitLimit overlong_longNumber]
      · cases hv

/-- What cannot be bound is not always refused as such. -/
theorem not_refused_as_such :
    ¬ ∀ v : Value, ¬ Bindable v → ∃ p, bind v = .error (.binding p) := by
  intro hclaim
  obtain ⟨p, hp⟩ := hclaim (.int longNumber) not_bindable_longNumber
  cases refusal_of_bind hp with
  | worded _ h =>
      exact h overlong_longNumber

end Parameter

end Datalink
