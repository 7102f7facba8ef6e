import Datalink.Proofs.Parameter.Bindable
import Datalink.Proofs.Session.Announcing

/-!
# Members of enumerations where parameters are shown

Input: members of enumerations in members of enumerations, as deep as they may be, and
operations with such parameters, through open transactions, in any world.

Plain members come off a value one after the other, up to a member that is an integer or a
text besides, if there is one.  Such a member is bound as it is.

Results: a member is bound to what its value is bound to, which is no member, if and only if
all the members that it is made of are plain.  Otherwise what comes of it is the first one
that is an integer or a text besides.  The engine, the line about the statement and the
ledger get the parameters as they were bound, and so whatever came of each.
-/

namespace Datalink

open Routine (run)

namespace Value

/-- Whether a value is a member of an enumeration. -/
def isMember : Value → Bool
  | member .. => true
  | _ => false

/-- A value without the plain members that it is in. -/
def bare : Value → Value
  | member .plain _ _ v => v.bare
  | v => v

/-- A value without the members that it is in. -/
def unwrapped : Value → Value
  | member _ _ _ v => v.unwrapped
  | v => v

/-- Without plain members a value is no member, and the same as without any, or a member that
is an integer or a text besides. -/
theorem bare_cases
    (v : Value) :
    v.bare.isMember = false ∧ v.unwrapped = v.bare ∨
      ∃ form enumeration name u, form ≠ .plain ∧ v.bare = member form enumeration name u ∧
        v.unwrapped = u.unwrapped ∧
          (v.isRegular = true → (member form enumeration name u).isRegular = true) := by
  induction v using bare.induct with
  | case1 enumeration name v ih =>
      exact ih
  | case2 v hv =>
      cases v with
      | member form enumeration name u =>
          refine .inr ⟨form, enumeration, name, u, ?_, ?_, rfl, id⟩
          · rintro rfl
            exact hv enumeration name u rfl
          · rw [bare]
            exact hv
      | _ =>
          exact .inl ⟨rfl, rfl⟩

end Value

namespace Parameter

theorem bind_bare
    (v : Value) :
    bind v.bare = bind v := by
  induction v using Value.bare.induct with
  | case1 enumeration name v ih =>
      exact ih
  | case2 v hv =>
      rw [Value.bare]
      exact hv

/-- What is no member is not bound to one. -/
theorem isMember_of_bind
    {v b : Value} (h : bind v = .ok b) (hv : v.isMember = false) :
    b.isMember = false := by
  induction v using bind.induct with
  | case3 t =>
      obtain ⟨-, rfl⟩ := encodable_of_bind h
      rfl
  | case4 t =>
      obtain ⟨-, rfl⟩ := encodable_of_bind h
      rfl
  | case6 n =>
      obtain ⟨-, rfl⟩ := fits_of_bind h
      rfl
  | case7 n =>
      obtain ⟨-, rfl⟩ := fits_of_bind h
      rfl
  | case16 v =>
      rw [bind] at h
      · cases h
      all_goals assumption
  | case13 | case14 | case15 =>
      cases hv
  | _ =>
      cases h
      rfl

theorem eq_of_bind_member
    {form : MemberForm} (hform : form ≠ .plain) {enumeration name : Text} {v b : Value}
    (h : bind (.member form enumeration name v) = .ok b) :
    b = .member form enumeration name v ∧ ∃ a, bind v = .ok a := by
  rw [bind_member hform] at h
  cases hv : bind v with
  | error f =>
      rw [hv] at h
      cases h
  | ok a =>
      rw [hv] at h
      cases h
      exact ⟨rfl, a, rfl⟩

/-- A member that an enumeration made and that is an integer or a text besides has for its face
what its value is bound to. -/
theorem bind_of_isRegular
    {form : MemberForm} (hform : form ≠ .plain) {enumeration name : Text} {v b : Value}
    (hregular : (Value.member form enumeration name v).isRegular = true)
    (h : bind (.member form enumeration name v) = .ok b) :
    bind v.unwrapped = .ok b.face := by
  obtain ⟨rfl, a, hv⟩ := eq_of_bind_member hform h
  cases form with
  | plain =>
      exact absurd rfl hform
  | integer =>
      cases v with
      | int n =>
          obtain ⟨-, rfl⟩ := fits_of_bind hv
          exact hv
      | _ =>
          cases hregular
  | textual =>
      cases v with
      | text t =>
          obtain ⟨-, rfl⟩ := encodable_of_bind hv
          exact hv
      | _ =>
          cases hregular

/-- How a member with its value is bound.  If all its members are plain it is bound as its
value is, and as what is in all of them, to no member.  If not, it is bound to the first of
the others, which is, if an enumeration made it, what is in all of them besides. -/
structure BoundAs (m v b : Value) : Prop where
  bound : bind m = .ok b
  all_plain : m.bare.isMember = false →
    bind v = .ok b ∧ bind m.unwrapped = .ok b ∧ b.isMember = false
  mixed : m.bare.isMember = true →
    b = m.bare ∧ (m.isRegular = true → bind m.unwrapped = .ok b.face)

theorem exists_boundAs
    (form : MemberForm) (enumeration name : Text) {v : Value} (h : Bindable v) :
    ∃ b, BoundAs (.member form enumeration name v) v b := by
  obtain ⟨b, hb⟩ := (Bindable.member form enumeration name v h).bind
  have hbare := (bind_bare (.member form enumeration name v)).trans hb
  refine ⟨b, hb, fun hnone => ?_, fun hsome => ?_⟩
  · rcases Value.bare_cases (.member form enumeration name v) with ⟨-, hunwrapped⟩ |
      ⟨form', enumeration', name', u, -, hmember, -⟩
    · refine ⟨?_, by rw [hunwrapped, hbare], isMember_of_bind hbare hnone⟩
      cases form with
      | plain =>
          exact hb
      | _ =>
          cases hnone
    · rw [hmember] at hnone
      cases hnone
  · rcases Value.bare_cases (.member form enumeration name v) with ⟨hnone, -⟩ |
      ⟨form', enumeration', name', u, hform, hmember, hunwrapped, hregular⟩
    · rw [hnone] at hsome
      cases hsome
    · rw [hmember] at hbare
      refine ⟨(eq_of_bind_member hform hbare).1.trans hmember.symm, fun hm => ?_⟩
      rw [hunwrapped]
      exact bind_of_isRegular hform (hregular hm) hbare

/-- What an item was bound to stands in the place of the item. -/
theorem exists_getElem?_of_bindAll
    {params : Value} {values : List Value} (h : bindAll params = .ok values) {i : Nat} {v : Value}
    (hi : (params.items?.getD [])[i]? = some v) :
    ∃ b, values[i]? = some b ∧ bind v = .ok b := by
  have hall := forall₂_of_bindAll h
  obtain ⟨hlt, rfl⟩ := List.getElem?_eq_some_iff.mp hi
  have hlt' : i < values.length := hall.length_eq ▸ hlt
  exact ⟨values[i], List.getElem?_eq_getElem hlt', hall.get hlt hlt'⟩

end Parameter

namespace Operation

/-- What the engine, the lines about statements and the ledger get to see of an operation with
its statement and its parameters, as they were bound. -/
structure Shows (s : Session) (o : Operation) (sql : Value) (values : List Value)
    (w w' : World) : Prop where
  sent : ∃ calls, w'.calls = w.calls ++ calls ∧
    (∀ st ∈ executed calls, st = (sql, values)) ∧
      w'.announcements s.logger = w.announcements s.logger ++
        if s.logQueries then (executed calls).map announcement else []
  recorded : w'.Holding w.ledger w.files ∨
    ∃ seen : Observation, seen.name = .text o.channel.name ∧ seen.sql = sql ∧
      seen.params = values ∧ w'.ledger = w.ledger.map fun l => (l.record seen w.files).1

/-- A script has no parameters. -/
theorem values_of_script
    {o : Operation} {sql : Value} {values : List Value} (hprepare : o.prepare = .ok (sql, values))
    (hscript : o.channel = .script) :
    values = [] := by
  cases o with
  | script sql' =>
      cases hprepare
      rfl
  | _ =>
      cases hscript

/-- All that a prepared operation hands to the engine is its statement with its parameters. -/
theorem eq_of_statement?
    {o : Operation} {sql : Value} {values : List Value} (hprepare : o.prepare = .ok (sql, values))
    {call : EngineCall} (hcall : call ∈ o.channel.calls sql values) {st : Value × List Value}
    (hst : call.statement? = some st) :
    st = (sql, values) := by
  cases hchannel : o.channel with
  | script =>
      obtain rfl := values_of_script hprepare hchannel
      rw [hchannel, Channel.calls, List.mem_singleton] at hcall
      subst hcall
      exact (Option.some.inj hst).symm
  | _ =>
      cases call with
      | execute st' ps =>
          obtain ⟨rfl, rfl⟩ := Channel.eq_of_execute_mem_calls hcall
          exact (Option.some.inj hst).symm
      | script st' =>
          rw [hchannel] at hcall
          simp [Channel.calls] at hcall
      | _ =>
          cases hst

theorem shows_of_prepared
    (s : Session) {h : Handle} {o : Operation} {w : World} (hopen : h.IsOpen w) {sql : Value}
    {values : List Value} (hprepare : o.prepare = .ok (sql, values)) :
    o.Shows s sql values w (run (o.perform s h) w).2 where
  sent := by
    obtain ⟨calls, hcalls, hmade⟩ := calledOnly_perform s hprepare h w
    obtain ⟨calls', hcalls', hlines⟩ := (s.announces_perform h o w).world w (.refl s _ w)
    obtain rfl : calls = calls' := List.append_cancel_left (hcalls.symm.trans hcalls')
    refine ⟨calls, hcalls, fun st hst => ?_, ?_⟩
    · obtain ⟨call, hcall, hstatement⟩ := List.mem_filterMap.mp hst
      exact eq_of_statement? hprepare (hmade call hcall) hstatement
    · rw [hlines]
      unfold Session.announced
      rw [List.filter_true]
  recorded := by
    obtain ⟨hnoted, hunnoted⟩ := ledger_of_prepared (s := s) hopen hprepare
    by_cases hyes : Measure.Measurable (run (o.channel.send s sql values) w.nextReading.2).1 ∧
        sql.displayable = true
    · obtain ⟨-, elapsed, hledger⟩ := hnoted hyes
      exact .inr ⟨_, rfl, rfl, rfl, hledger⟩
    · exact .inl (hunnoted hyes).2

/-- A member is bound as its value is, and to no member, if all the members that it is made of
are plain, and otherwise to the first that is not.  What it is bound to stands in its place
wherever it is a parameter of an operation: in what the engine, the lines about statements
and the ledger get to see. -/
theorem members_shown_as_bound
    (form : MemberForm) (enumeration name : Text) {v : Value} (hv : Parameter.Bindable v) :
    let m := Value.member form enumeration name v
    ∃ b, Parameter.BoundAs m v b ∧
      ∀ (s : Session) (h : Handle) (o : Operation) (w : World) (sql params : Value)
          (values : List Value),
        h.IsOpen w → o.statement = .ok (sql, params) → Parameter.bindAll params = .ok values →
          (∀ i : Nat, (params.items?.getD [])[i]? = some m → values[i]? = some b) ∧
            o.Shows s sql values w (run (o.perform s h) w).2 := by
  intro m
  obtain ⟨b, hb⟩ := Parameter.exists_boundAs form enumeration name hv
  refine ⟨b, hb, fun s h o w sql params values hopen hstatement hvalues => ⟨fun i hi => ?_, ?_⟩⟩
  · obtain ⟨b', hplace, hbind⟩ := Parameter.exists_getElem?_of_bindAll hvalues hi
    rw [hplace, Except.ok.inj (hbind.symm.trans hb.bound)]
  · have hprepare := prepare_of_statement hstatement
    rw [hvalues] at hprepare
    exact shows_of_prepared s hopen hprepare

/-- A member of a plain enumeration. -/
def red : Value := .member .plain "Color" "RED" (.text "red")

/-- A member of an enumeration of integers. -/
def high : Value := .member .integer "Level" "HIGH" (.int 2)

/-- A row added with both. -/
def addRedAndHigh : Operation :=
  .executeRaw (.text "INSERT INTO t VALUES (?, ?)") (.tuple [red, high])

/-- Of the first there is only its value to be seen, and the second is to be seen itself. -/
theorem high_shown_as_member :
    let before := Session.answering .silent
    let behind := (run (addRedAndHigh.perform Session.talkative .session) before).2
    Parameter.Bindable (.int 2) ∧ (∃ b, Parameter.BoundAs high (.int 2) b ∧ b = high) ∧
      Handle.session.IsOpen before ∧
      addRedAndHigh.statement =
        .ok (.text "INSERT INTO t VALUES (?, ?)", .tuple [red, high]) ∧
      Parameter.bindAll (.tuple [red, high]) = .ok [.text "red", high] ∧
      (∃ calls, behind.calls = before.calls ++ calls ∧
        ∀ st ∈ executed calls, st.2 = [.text "red", high]) ∧
      behind.announcements .session =
        ["INSERT INTO t VALUES (?, ?) | ['red', <Level.HIGH: 2>]"] := by
  intro before behind
  have htwo : Parameter.Bindable (.int 2) := .int 2 (by decide)
  obtain ⟨b, hb, hshown⟩ := members_shown_as_bound .integer "Level" "HIGH" htwo
  obtain ⟨-, hshows⟩ := hshown Session.talkative .session addRedAndHigh before _ _
    [.text "red", high] trivial rfl rfl
  obtain ⟨calls, hcalls, hall, -⟩ := hshows.sent
  refine ⟨htwo, ⟨b, hb, (hb.mixed rfl).1⟩, trivial, rfl, rfl, ⟨calls, hcalls, fun st hst => ?_⟩,
    by decide +kernel⟩
  rw [hall st hst]

/-- A member of an enumeration of integers is not bound as its value is. -/
theorem high_not_bound_as_value :
    ¬ ∀ (form : MemberForm) (enumeration name : Text) (v : Value), Parameter.Bindable v →
      ∃ b, Parameter.bind (.member form enumeration name v) = .ok b ∧
        Parameter.bind v = .ok b ∧ b.isMember = false := by
  intro hclaim
  obtain ⟨b, hmember, hvalue, -⟩ :=
    hclaim .integer "Level" "HIGH" (.int 2) (.int 2 (by decide))
  cases hmember
  cases hvalue

end Operation
end Datalink
