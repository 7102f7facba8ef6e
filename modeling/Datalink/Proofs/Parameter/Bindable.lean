import Datalink.Proofs.Parameter.Binding
import Mathlib.Algebra.Group.Int.Defs

/-!
# Values that can be bound

Input: any value, and any value that is handed over as the parameters of a statement.

The kinds of values that can be bound are listed in `Bindable`, whatever `bind` looks at
first.  Values yield their items in order if they are made of items and are no texts,
buffers, mappings or sets.

Results: a value is bound if and only if it is of one of these kinds, and then to a value
that the engine stores, which stays as it is when it is bound again.  Parameters are bound if
and only if there are none or all their items can be bound, item by item, and otherwise the
first item that cannot be bound is the fault.
-/

namespace Datalink

namespace Value

/-- Whether the items of a value have no positions, since it is a mapping or a set. -/
def isUnordered (v : Value) : Bool :=
  match v.face with
  | mapping _ => true
  | set _ => true
  | fixedSet _ => true
  | _ => false

/-- Whether a value yields some items in order. -/
structure Lists (v : Value) (items : List Value) : Prop where
  items : v.items? = some items
  not_textual : v.isTextual = false
  not_unordered : v.isUnordered = false

/-- What the engine stores is bound as it is. -/
theorem bind_of_isStorable
    {v : Value} (h : v.isStorable = true) :
    Parameter.bind v = .ok v := by
  induction v using Parameter.bind.induct with
  | case1 =>
      rfl
  | case2 x =>
      rfl
  | case3 t run hrun =>
      have hnone := (Text.firstRun?_eq_none_iff t).mpr h
      rw [hrun] at hnone
      cases hnone
  | case4 t hrun =>
      rw [Parameter.bind, hrun]
  | case6 n hfits =>
      rw [Parameter.bind, if_pos hfits]
  | case7 n hfits =>
      exact absurd h hfits
  | case8 form data =>
      cases form with
      | fixed =>
          rfl
      | changeable =>
          cases h
      | view =>
          cases h
  | case14 form enumeration name v hform a hbind ih =>
      rw [Parameter.bind_member hform, hbind]
      rfl
  | case15 form enumeration name v hform f hbind ih =>
      -- It shows what it holds, so that this is stored as well.
      have hv : v.isStorable = true := by
        cases form with
        | plain =>
            exact absurd rfl hform
        | integer =>
            exact h
        | textual =>
            exact h
      rw [ih hv] at hbind
      cases hbind
  | case16 v =>
      cases v <;> simp_all [isStorable, face]
  | _ =>
      cases h

end Value

namespace Parameter

/-- The kinds of values that can be bound. -/
inductive Bindable : Value → Prop
  | null : Bindable .null
  | real (x : Float) : Bindable (.real x)
  | text (t : Text) (h : ∀ c ∈ t, c.isSurrogate = false) : Bindable (.text t)
  | bool (b : Bool) : Bindable (.bool b)
  | int (n : Int) (h : -2 ^ 63 ≤ n ∧ n ≤ 2 ^ 63 - 1) : Bindable (.int n)
  | bytes (form : BytesForm) (data : List UInt8) : Bindable (.bytes form data)
  | date (d : Calendar.Date) : Bindable (.date d)
  | time (t : Calendar.Clock) (off : Calendar.Offset) : Bindable (.time t off)
  | moment (d : Calendar.Date) (t : Calendar.Clock) (off : Calendar.Offset) :
      Bindable (.moment d t off)
  | uuid (number : Nat) : Bindable (.uuid number)
  /-- A member of an enumeration, by its value.  One that is an integer or a text besides
  has this integer or text for its value. -/
  | member (form : MemberForm) (enumeration name : Text) (v : Value) (h : Bindable v) :
      Bindable (.member form enumeration name v)

theorem fits_iff_pow
    (n : Int) :
    fits n = true ↔ -2 ^ 63 ≤ n ∧ n ≤ 2 ^ 63 - 1 := by
  rw [fits_iff, least, greatest]
  omega

theorem Bindable.bind
    {v : Value} (h : Bindable v) :
    ∃ b, bind v = .ok b := by
  induction h with
  | text t h =>
      have hencodable : t.encodable = true := by
        simpa [Text.encodable] using h
      exact ⟨.text t, by rw [Parameter.bind, (Text.firstRun?_eq_none_iff t).mpr hencodable]⟩
  | int n h =>
      exact ⟨.int n, by rw [Parameter.bind, if_pos ((fits_iff_pow n).mpr h)]⟩
  | member form enumeration name v h ih =>
      obtain ⟨b, hb⟩ := ih
      cases form with
      | plain =>
          exact ⟨b, hb⟩
      | integer =>
          exact ⟨_, by rw [bind_member (by simp), hb]; rfl⟩
      | textual =>
          exact ⟨_, by rw [bind_member (by simp), hb]; rfl⟩
  | _ =>
      exact ⟨_, rfl⟩

theorem bindable_of_bind
    {v b : Value} (h : bind v = .ok b) :
    Bindable v := by
  induction v using bind.induct generalizing b with
  | case3 t run hrun =>
      obtain ⟨hencodable, -⟩ := encodable_of_bind h
      rw [(Text.firstRun?_eq_none_iff t).mpr hencodable] at hrun
      cases hrun
  | case4 t hrun =>
      exact .text t (by simpa [Text.encodable] using (encodable_of_bind h).1)
  | case6 n hfits =>
      exact .int n ((fits_iff_pow n).mp hfits)
  | case7 n hfits =>
      exact absurd (fits_of_bind h).1 hfits
  | case13 enumeration name v ih =>
      exact .member .plain enumeration name v (ih h)
  | case14 form enumeration name v hform a hbind ih =>
      exact .member form enumeration name v (ih hbind)
  | case15 form enumeration name v hform f hbind ih =>
      rw [bind_member hform, hbind] at h
      cases h
  | case16 v =>
      rw [bind] at h
      · cases h
      all_goals assumption
  | _ =>
      constructor

/-- A value can be bound if and only if it is of one of the kinds listed. -/
theorem exists_bind_iff
    (v : Value) :
    (∃ b, bind v = .ok b) ↔ Bindable v :=
  ⟨fun ⟨_, h⟩ => bindable_of_bind h, Bindable.bind⟩

theorem bindItems_cons_of_error
    {v : Value} {f : Fault} (h : bind v = .error f) (vs : List Value) :
    bindItems (v :: vs) = .error f := by
  rw [bindItems, h]

theorem bindItems_cons_of_ok
    {v b : Value} (h : bind v = .ok b) (vs : List Value) :
    bindItems (v :: vs) = (bindItems vs).map (b :: ·) := by
  rw [bindItems, h]
  cases bindItems vs <;> rfl

/-- Items are refused if and only if one of them is, and then with the fault of the first
such. -/
theorem bindItems_eq_error_iff
    {vs : List Value} {f : Fault} :
    bindItems vs = .error f ↔
      ∃ before v after, vs = before ++ v :: after ∧ (∀ u ∈ before, Bindable u) ∧
        bind v = .error f := by
  induction vs with
  | nil =>
      constructor
      · rintro ⟨⟩
      · rintro ⟨before, v, after, hsplit, -⟩
        cases before <;> cases hsplit
  | cons v vs ih =>
      constructor
      · intro h
        cases hv : bind v with
        | error g =>
            rw [bindItems_cons_of_error hv] at h
            cases h
            exact ⟨[], v, vs, rfl, by simp, hv⟩
        | ok b =>
            rw [bindItems_cons_of_ok hv] at h
            have hrest : bindItems vs = .error f := by
              cases hvs : bindItems vs <;> simp_all [Except.map]
            obtain ⟨before, u, after, rfl, hbefore, hu⟩ := ih.mp hrest
            refine ⟨v :: before, u, after, rfl, ?_, hu⟩
            exact List.forall_mem_cons.mpr ⟨bindable_of_bind hv, hbefore⟩
      · rintro ⟨before, u, after, hsplit, hbefore, hu⟩
        cases before with
        | nil =>
            obtain ⟨rfl, rfl⟩ := List.cons.inj hsplit
            exact bindItems_cons_of_error hu vs
        | cons w before =>
            obtain ⟨rfl, rfl⟩ := List.cons.inj hsplit
            obtain ⟨hv, hbefore⟩ := List.forall_mem_cons.mp hbefore
            obtain ⟨b, hb⟩ := hv.bind
            rw [bindItems_cons_of_ok hb, ih.mpr ⟨before, u, after, rfl, hbefore, hu⟩]
            rfl

/-- Items can be bound if and only if each of them can. -/
theorem exists_bindItems_iff
    (vs : List Value) :
    (∃ bs, bindItems vs = .ok bs) ↔ ∀ v ∈ vs, Bindable v := by
  constructor
  · rintro ⟨bs, h⟩
    have hall := bindItems_eq_ok_iff.mp h
    clear h
    induction hall with
    | nil =>
        simp
    | cons hv _ ih =>
        exact List.forall_mem_cons.mpr ⟨bindable_of_bind hv, ih⟩
  · intro h
    cases hbound : bindItems vs with
    | ok bs =>
        exact ⟨bs, rfl⟩
    | error f =>
        obtain ⟨before, v, after, rfl, -, hv⟩ := bindItems_eq_error_iff.mp hbound
        obtain ⟨b, hb⟩ := (h v (by simp)).bind
        cases hv.symm.trans hb

/-- What yields items in order is what has positional items. -/
theorem isPositional_iff
    (v : Value) :
    isPositional v = true ↔ ∃ items, v.Lists items := by
  have hordered : isPositional v = (v.isIterable && !v.isUnordered) := by
    unfold isPositional Value.isUnordered
    cases v.face <;> rfl
  rw [hordered, v.isIterable_eq]
  constructor
  · intro h
    simp only [Bool.and_eq_true, Bool.not_eq_true'] at h
    obtain ⟨items, hitems⟩ := Option.isSome_iff_exists.mp h.1.1
    exact ⟨items, hitems, h.1.2, h.2⟩
  · rintro ⟨items, h⟩
    simp [h.items, h.not_textual, h.not_unordered]

/-- Parameters that yield items in order are bound item by item. -/
theorem bindAll_of_lists
    {params : Value} {items : List Value} (h : params.Lists items) :
    bindAll params = bindItems items := by
  have hpositional := (isPositional_iff params).mpr ⟨items, h⟩
  unfold bindAll
  split
  · cases h.items
  · rw [if_pos hpositional]
    split
    · rename_i start stop step _
      rw [bindRange_eq]
      exact congrArg bindItems (Option.some.inj h.items)
    · rw [h.items, Option.getD_some]

/-- No parameters are bound to none, and any others that yield no items in order are
refused. -/
theorem bindAll_of_not_lists
    {params : Value} (h : ∀ items, ¬ params.Lists items) :
    bindAll params = .ok [] ∧ params = .null ∨
      bindAll params = .error (refuse (.notPositional params)) ∧ params ≠ .null := by
  have hno : isPositional params = false := by
    rw [Bool.eq_false_iff]
    intro hpositional
    obtain ⟨items, hitems⟩ := (isPositional_iff params).mp hpositional
    exact h items hitems
  cases params with
  | null =>
      exact .inl ⟨rfl, rfl⟩
  | _ =>
      exact .inr ⟨by simp [bindAll, hno], by simp⟩

/-- Parameters can be bound if and only if there are none or they yield items in order, all of
which can be bound. -/
theorem exists_bindAll_iff
    (params : Value) :
    (∃ bs, bindAll params = .ok bs) ↔
      params = .null ∨ ∃ items, params.Lists items ∧ ∀ v ∈ items, Bindable v := by
  by_cases hlists : ∃ items, params.Lists items
  · obtain ⟨items, hitems⟩ := hlists
    rw [bindAll_of_lists hitems, exists_bindItems_iff]
    constructor
    · exact fun h => .inr ⟨items, hitems, h⟩
    · rintro (rfl | ⟨items', hitems', h⟩)
      · cases hitems.items
      · obtain rfl := Option.some.inj (hitems'.items.symm.trans hitems.items)
        exact h
  · have hno : ∀ items, ¬ params.Lists items := not_exists.mp hlists
    rcases bindAll_of_not_lists hno with ⟨hbind, hnull⟩ | ⟨hbind, hnull⟩
    · exact ⟨fun _ => .inl hnull, fun _ => ⟨[], hbind⟩⟩
    · rw [hbind]
      constructor
      · rintro ⟨bs, ⟨⟩⟩
      · rintro (h | ⟨items, hitems, -⟩)
        · exact absurd h hnull
        · exact absurd hitems (hno items)

/-- Parameters that were bound are bound item by item. -/
theorem forall₂_of_bindAll
    {params : Value} {bs : List Value} (h : bindAll params = .ok bs) :
    List.Forall₂ (fun v b => bind v = .ok b) (params.items?.getD []) bs := by
  rcases (exists_bindAll_iff params).mp ⟨bs, h⟩ with rfl | ⟨items, hitems, -⟩
  · cases h
    exact .nil
  · rw [bindAll_of_lists hitems] at h
    rw [hitems.items, Option.getD_some]
    exact bindItems_eq_ok_iff.mp h

/-- What was bound is bound to itself. -/
theorem bindAll_tuple_of_bindAll
    {params : Value} {bs : List Value} (h : bindAll params = .ok bs) :
    bindAll (.tuple bs) = .ok bs := by
  have hlists : (Value.tuple bs).Lists bs := ⟨rfl, rfl, rfl⟩
  have hall := forall₂_of_bindAll h
  rw [bindAll_of_lists hlists, bindItems_eq_ok_iff, List.forall₂_same]
  intro b hb
  obtain ⟨v, -, hv⟩ := exists_of_mem_bindItems (bindItems_eq_ok_iff.mpr hall) hb
  exact bind_bind hv

/-- A value is bound if and only if it is of one of the kinds that can be.  What it is bound
to is bound to itself, and the engine stores it unless the value is a member that no
enumeration makes.  What the engine stores is bound as it is.  Parameters are bound if and
only if there are none or they yield items in order that can be bound.  They are bound item by
item to what is bound to itself, and if there is an item that cannot be bound, the first such
item is the fault. -/
theorem bound_iff_bindable :
    (∀ v : Value,
      ((∃ b, bind v = .ok b) ↔ Bindable v) ∧
      (∀ b, bind v = .ok b →
        bind b = .ok b ∧ (v.isRegular = true → b.isStorable = true)) ∧
      (v.isStorable = true → bind v = .ok v)) ∧
    ∀ params : Value,
      ((∃ bs, bindAll params = .ok bs) ↔
        params = .null ∨ ∃ items, params.Lists items ∧ ∀ v ∈ items, Bindable v) ∧
      (∀ bs, bindAll params = .ok bs →
        List.Forall₂ (fun v b => bind v = .ok b) (params.items?.getD []) bs ∧
          bindAll (.tuple bs) = .ok bs) ∧
      ∀ items, params.Lists items → ∀ f,
        (bindAll params = .error f ↔
          ∃ before v after, items = before ++ v :: after ∧ (∀ u ∈ before, Bindable u) ∧
            bind v = .error f) := by
  constructor
  · intro v
    refine ⟨exists_bind_iff v, fun b hb => ⟨bind_bind hb, isStorable_of_bind hb⟩, ?_⟩
    exact Value.bind_of_isStorable
  · intro params
    refine ⟨exists_bindAll_iff params, fun bs hbs => ?_, fun items hitems f => ?_⟩
    · exact ⟨forall₂_of_bindAll hbs, bindAll_tuple_of_bindAll hbs⟩
    · rw [bindAll_of_lists hitems, bindItems_eq_error_iff]

/-- A date in a member of an enumeration that is in another one. -/
def nestedDate : Value :=
  .member .plain "Outer" "A" (.member .plain "Inner" "B" (.date ⟨2020, 1, 2⟩))

/-- The date is bound to a text that the engine stores, and a text with a surrogate behind
it and behind a truth value is the fault of them all. -/
theorem bound_nestedDate :
    let stored : Value := .text "2020-01-02"
    let bad : Value := .text [.ofCode 0xD800]
    nestedDate.isRegular = true ∧ bind nestedDate = .ok stored ∧ bind stored = .ok stored ∧
      stored.isStorable = true ∧
      ∃ f, bindAll (.list [nestedDate, .bool true, bad, .list []]) = .error f ∧
        bind bad = .error f := by
  intro stored bad
  have hdate : bind nestedDate = .ok stored := rfl
  obtain ⟨hbindable, hstored, -⟩ := bound_iff_bindable.1 nestedDate
  obtain ⟨hagain, hclass⟩ := hstored stored hdate
  obtain ⟨-, -, hfault⟩ := bound_iff_bindable.2 (.list [nestedDate, .bool true, bad, .list []])
  refine ⟨rfl, hdate, hagain, hclass rfl, _, ?_, rfl⟩
  refine (hfault _ ⟨rfl, rfl, rfl⟩ _).mpr ⟨[nestedDate, .bool true], bad, [.list []], rfl, ?_, rfl⟩
  exact List.forall_mem_cons.mpr ⟨hbindable.mp ⟨stored, hdate⟩, by simpa using .bool true⟩

end Parameter

end Datalink
