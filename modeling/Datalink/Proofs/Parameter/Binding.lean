import Datalink.Parameter
import Mathlib.Data.List.Forall2

/-!
# Bound parameters

Input: values as callers hold them.  A member of an enumeration that is an integer or a
text besides is regular if it holds one, as all do that an enumeration makes.

Results: a value that was bound is bound to itself, and it is one that the engine stores if
what it was bound from is regular.  A list of parameters is bound item by item.
-/

namespace Datalink

namespace Text

theorem encodable_of_subset
    {s t : Text} (h : encodable t = true) (hs : s ⊆ t) :
    encodable s = true := by
  simp only [encodable, List.all_eq_true] at h ⊢
  exact fun c hc => h c (hs hc)

@[simp] theorem encodable_hex
    (width n : Nat) :
    encodable (hex width n) = true := by
  induction width generalizing n with
  | zero =>
      rfl
  | succ width ih =>
      simp [hex, ih, CodePoint.isSurrogate]

end Text

@[simp] theorem Numeral.encodable_padded
    (width n : Nat) :
    Text.encodable (padded width n) = true := by
  induction width generalizing n with
  | zero =>
      rfl
  | succ width ih =>
      simp [padded, digit, ih, CodePoint.isSurrogate]

namespace Calendar

@[simp] theorem encodable_date
    (d : Date) :
    Text.encodable d.text = true := by
  simp [Date.text]

@[simp] theorem encodable_fractionText
    (microsecond : Nat) :
    Text.encodable (fractionText microsecond) = true := by
  unfold fractionText
  split <;> simp [CodePoint.isSurrogate]

@[simp] theorem encodable_offsetText
    (off : Offset) :
    Text.encodable (offsetText off) = true := by
  unfold offsetText
  split
  · rfl
  · -- The sign, and whether there are seconds.
    simp only [Text.encodable_cons, Text.encodable_append]
    split <;> split <;> simp [CodePoint.isSurrogate]

@[simp] theorem encodable_timeText
    (t : Clock) (off : Offset) :
    Text.encodable (timeText t off) = true := by
  simp [timeText, Clock.text]

@[simp] theorem encodable_momentText
    (d : Date) (t : Clock) (off : Offset) :
    Text.encodable (momentText d t off) = true := by
  simp [momentText]

end Calendar

namespace Value

@[simp] theorem encodable_uuidText
    (number : Nat) :
    Text.encodable (uuidText number) = true := by
  have hpart : ∀ skipped taken,
      Text.encodable (((Text.hex 32 number).drop skipped).take taken) = true :=
    fun skipped taken => Text.encodable_of_subset (Text.encodable_hex 32 number)
      (List.Subset.trans (List.take_subset _ _) (List.drop_subset _ _))
  have hfront := hpart 0 8
  have hback := Text.encodable_of_subset (Text.encodable_hex 32 number)
    (List.drop_subset 20 _)
  rw [List.drop_zero] at hfront
  simp [uuidText, hfront, hback, hpart]

/-- Whether a value is of one of the classes that the engine stores: nothing, a
floating-point number, an integer of 64 bits, an encodable text, or fixed bytes. -/
def isStorable (v : Value) : Bool :=
  match v.face with
  | null => true
  | real _ => true
  | int n => Parameter.fits n
  | text t => t.encodable
  | bytes .fixed _ => true
  | _ => false

/-- Whether a member of an enumeration that is an integer or a text besides holds one. -/
def isRegular : Value → Bool
  | member .plain _ _ v => v.isRegular
  | member .integer _ _ (int _) => true
  | member .integer .. => false
  | member .textual _ _ (text _) => true
  | member .textual .. => false
  | _ => true

end Value

namespace Parameter

theorem fits_of_bind
    {n : Int} {b : Value} (h : bind (.int n) = .ok b) :
    fits n = true ∧ b = .int n := by
  by_cases hfits : fits n = true
  · simp only [bind, hfits, if_true] at h
    exact ⟨hfits, (Except.ok.inj h).symm⟩
  · simp [bind, hfits] at h

theorem encodable_of_bind
    {t : Text} {b : Value} (h : bind (.text t) = .ok b) :
    t.encodable = true ∧ b = .text t := by
  cases hrun : t.firstRun? with
  | none =>
      simp only [bind, hrun] at h
      exact ⟨(Text.firstRun?_eq_none_iff t).mp hrun, (Except.ok.inj h).symm⟩
  | some run =>
      simp [bind, hrun] at h

/-- A member that is an integer or a text besides is bound as it is, if its value can be
bound. -/
theorem bind_member
    {form : MemberForm} (hform : form ≠ .plain) (enumeration name : Text) (v : Value) :
    bind (.member form enumeration name v) =
      (bind v).map fun _ => .member form enumeration name v := by
  rw [bind]
  · cases bind v <;> rfl
  · exact hform

/-- What a value is bound to. -/
inductive Settled : Value → Prop where
  | null : Settled .null
  | real (x : Float) : Settled (.real x)
  | int (n : Int) (hfits : fits n = true) : Settled (.int n)
  | text (t : Text) (hencodable : t.encodable = true) : Settled (.text t)
  | bytes (data : List UInt8) : Settled (.bytes .fixed data)
  /-- A member that is an integer or a text besides stays what it is. -/
  | member (form : MemberForm) (enumeration name : Text) (v a : Value)
      (hform : form ≠ .plain) (hvalue : bind v = .ok a) :
      Settled (.member form enumeration name v)

/-- A value is bound to one that the engine stores, which is regular if the value is. -/
theorem settled_of_bind
    {v b : Value} (h : bind v = .ok b) :
    Settled b ∧ (v.isRegular = true → b.isRegular = true) := by
  induction v using bind.induct generalizing b with
  | case3 t =>
      obtain ⟨hencodable, rfl⟩ := encodable_of_bind h
      exact ⟨.text t hencodable, id⟩
  | case4 t =>
      obtain ⟨hencodable, rfl⟩ := encodable_of_bind h
      exact ⟨.text t hencodable, id⟩
  | case5 flag =>
      cases h
      cases flag <;> exact ⟨.int _ rfl, id⟩
  | case6 n =>
      obtain ⟨hfits, rfl⟩ := fits_of_bind h
      exact ⟨.int n hfits, id⟩
  | case7 n =>
      obtain ⟨hfits, rfl⟩ := fits_of_bind h
      exact ⟨.int n hfits, id⟩
  | case9 d =>
      cases h
      exact ⟨.text _ (Calendar.encodable_date d), id⟩
  | case10 t off =>
      cases h
      exact ⟨.text _ (Calendar.encodable_timeText t off), id⟩
  | case11 d t off =>
      cases h
      exact ⟨.text _ (Calendar.encodable_momentText d t off), id⟩
  | case12 number =>
      cases h
      exact ⟨.text _ (Value.encodable_uuidText number), id⟩
  | case13 enumeration name v ih =>
      exact ih h
  | case14 form enumeration name v hform a hbind =>
      rw [bind_member hform, hbind] at h
      cases h
      exact ⟨.member form enumeration name v a hform hbind, id⟩
  | case15 form enumeration name v hform f hbind =>
      rw [bind_member hform, hbind] at h
      cases h
  | case16 v =>
      rw [bind] at h
      · cases h
      all_goals assumption
  | _ =>
      cases h
      exact ⟨by constructor, id⟩

/-- A value that was bound is bound to itself. -/
theorem bind_bind
    {v b : Value} (h : bind v = .ok b) :
    bind b = .ok b := by
  cases (settled_of_bind h).1 with
  | int n hfits =>
      simp only [bind, hfits, if_true]
  | text t hencodable =>
      simp only [bind, (Text.firstRun?_eq_none_iff t).mpr hencodable]
  | member form enumeration name v a hform hvalue =>
      rw [bind_member hform, hvalue]
      rfl
  | _ =>
      rfl

/-- A value that was bound is of one of the classes that the engine stores. -/
theorem isStorable_of_bind
    {v b : Value} (h : bind v = .ok b) (hv : v.isRegular = true) :
    b.isStorable = true := by
  obtain ⟨hsettled, hregular⟩ := settled_of_bind h
  have hb := hregular hv
  cases hsettled with
  | int n hfits =>
      exact hfits
  | text t hencodable =>
      exact hencodable
  | member form enumeration name v a hform hvalue =>
      -- A regular member shows what it holds, which was bound as well.
      cases form with
      | plain =>
          exact absurd rfl hform
      | integer =>
          cases v with
          | int n =>
              exact (fits_of_bind hvalue).1
          | _ =>
              cases hb
      | textual =>
          cases v with
          | text t =>
              exact (encodable_of_bind hvalue).1
          | _ =>
              cases hb
  | _ =>
      rfl

/-- Items are bound one by one, and as many come of them. -/
theorem bindItems_eq_ok_iff
    {vs bs : List Value} :
    bindItems vs = .ok bs ↔ List.Forall₂ (fun v b => bind v = .ok b) vs bs := by
  induction vs generalizing bs with
  | nil =>
      rw [bindItems, Except.ok.injEq, List.forall₂_nil_left_iff]
      exact eq_comm
  | cons v vs ih =>
      rw [List.forall₂_cons_left_iff, bindItems]
      constructor
      · intro h
        cases hv : bind v with
        | error f =>
            simp [hv] at h
        | ok first =>
            cases hvs : bindItems vs with
            | error f =>
                simp [hv, hvs] at h
            | ok rest =>
                simp only [hv, hvs, Except.ok.injEq] at h
                exact ⟨first, rest, rfl, ih.mp hvs, h.symm⟩
      · rintro ⟨first, rest, hv, hrest, rfl⟩
        rw [hv, ih.mpr hrest]

/-- Each of them comes of an item. -/
theorem exists_of_mem_bindItems
    {vs bs : List Value} (h : bindItems vs = .ok bs) {b : Value} (hb : b ∈ bs) :
    ∃ v ∈ vs, bind v = .ok b := by
  have hall := bindItems_eq_ok_iff.mp h
  induction hall with
  | nil =>
      cases hb
  | @cons v first vs rest hv hrest ih =>
      rcases List.mem_cons.mp hb with rfl | hb
      · exact ⟨v, List.mem_cons_self, hv⟩
      · obtain ⟨u, hu, hbind⟩ := ih (bindItems_eq_ok_iff.mpr hrest) hb
        exact ⟨u, List.mem_cons_of_mem v hu, hbind⟩

/-- Parameters that were bound are those of a list that was bound item by item, or none. -/
theorem exists_of_mem_bindAll
    {params : Value} {values : List Value} (h : bindAll params = .ok values)
    {b : Value} (hb : b ∈ values) :
    ∃ v ∈ params.items?.getD [], bind v = .ok b := by
  refine exists_of_mem_bindItems ?_ hb
  unfold bindAll at h
  split at h
  · cases h
    cases hb
  · split at h
    · split at h
      · rename_i start stop step _ _
        rw [bindRange_eq] at h
        exact h
      · exact h
    · cases h

end Parameter
end Datalink
