import Datalink.Proofs.Statement.NamedQuery

/-!
# What statements do with their tables

Input: a query of any kind.  A caller may derive a kind from one of the four under any name,
and the name in lower case tells the statement.

A statement opens with its verb: it reads rows, adds one, changes rows or removes rows.  No
two verbs open alike.

Results: a query that can be put into words does what its clauses are made for, unless its
kind has the name of another verb, for which the clauses are enough as well.  Reading is
enough for removing, and changing is enough for adding and for removing.  Wherever the names
in such a query are texts, the other verb is what its words say.
-/

namespace Datalink

/-- What is done with a table. -/
inductive Verb where
  | select
  | insert
  | update
  | delete
deriving DecidableEq, Inhabited

namespace Verb

/-- The words that open a statement. -/
def opening : Verb → Text
  | select => "SELECT "
  | insert => "INSERT INTO "
  | update => "UPDATE "
  | delete => "DELETE FROM "

/-- The name of a verb in lower case. -/
def name : Verb → Text
  | select => "select"
  | insert => "insert"
  | update => "update"
  | delete => "delete"

/-- The form of the statements with a verb. -/
def form : Verb → Statement.Form
  | select => .select
  | insert => .insert
  | update => .update
  | delete => .delete

/-- Whether the rows of the table may be others afterwards. -/
def modifies : Verb → Bool
  | select => false
  | _ => true

theorem eq_of_opening
    {v w : Verb} {t : Text} (hv : v.opening <+: t) (hw : w.opening <+: t) :
    v = w := by
  have hone : v.opening <+: w.opening ∨ w.opening <+: v.opening :=
    List.prefix_or_prefix_of_prefix hv hw
  cases v <;> cases w <;> first | rfl | exact absurd hone (by decide)

theorem name_injective
    {v w : Verb} (h : v.name = w.name) :
    v = w := by
  cases v <;> cases w <;> first | rfl | exact absurd h (by decide)

/-- The name of a kind asks for the form of a verb if in lower case it is the name of that
verb. -/
theorem ofName?_eq_some_iff
    (kind : Text) (v : Verb) :
    Statement.Form.ofName? kind = some v.form ↔ kind.toLower = v.name := by
  constructor
  · intro h
    simp only [Statement.Form.ofName?] at h
    -- One case for each name that asks for a form.
    repeat' split at h
    all_goals cases v <;> cases h <;> assumption
  · intro h
    simp only [Statement.Form.ofName?, h]
    cases v <;> rfl

end Verb

/-- Whether a piece of words opens with a verb. -/
def Fragment.Says (f : Fragment) (v : Verb) : Prop := v.opening <+: f.sql

theorem Fragment.Says.unique
    {f : Fragment} {v w : Verb} (hv : f.Says v) (hw : f.Says w) :
    v = w :=
  Verb.eq_of_opening hv hw

namespace Statement

/-- The verb of a statement. -/
def verb : Statement → Verb
  | select .. => .select
  | insert .. => .insert
  | update .. => .update
  | delete .. => .delete

/-- A statement in words opens with its verb. -/
theorem says_render
    (s : Statement) :
    s.render.Says s.verb := by
  cases s <;>
    simp only [Fragment.Says, render, Fragment.append_assoc] <;> exact List.prefix_append _ _

end Statement

namespace Clauses

/-- The verb that clauses are made for. -/
def verb? : Clauses → Option Verb
  | select .. => some .select
  | insert _ => some .insert
  | update .. => some .update
  | delete _ => some .delete
  | bare => none

/-- The other verbs that clauses are enough for. -/
def otherVerbs : Clauses → List Verb
  | select .. => [.delete]
  | update .. => [.insert, .delete]
  | _ => []

theorem ne_of_mem_otherVerbs
    {c : Clauses} {v w : Verb} (hv : c.verb? = some v) (hw : w ∈ c.otherVerbs) :
    w ≠ v := by
  cases c with
  | select columns conditions order limit offset =>
      cases hv
      simp_all [otherVerbs]
  | update assignments conditions =>
      cases hv
      rintro rfl
      simp [otherVerbs] at hw
  | _ =>
      cases hw

end Clauses

/-- Whether a query is taken for one with another verb, since its kind has that verb's
name. -/
structure Query.MistakenFor (q : Query) (v : Verb) : Prop where
  enough : v ∈ q.clauses.otherVerbs
  named : q.name.toLower = v.name

namespace Statement

theorem verb_ofSelect
    {columns order : List Value} {table : Value} {conditions : Keyed Value}
    {limit offset : Option Value} {s : Statement}
    (h : ofSelect columns table conditions order limit offset = .ok s) :
    s.verb = .select := by
  obtain ⟨_, -, h⟩ := Fault.exists_of_bind_eq_ok h
  obtain ⟨_, -, h⟩ := Fault.exists_of_bind_eq_ok h
  obtain ⟨_, -, h⟩ := Fault.exists_of_bind_eq_ok h
  obtain ⟨_, -, h⟩ := Fault.exists_of_bind_eq_ok h
  cases h
  rfl

theorem verb_ofInsert
    {table : Value} {assignments : Keyed Value} {s : Statement}
    (h : ofInsert table assignments = .ok s) :
    s.verb = .insert := by
  obtain ⟨_, -, h⟩ := Fault.exists_of_bind_eq_ok h
  obtain ⟨_, -, h⟩ := Fault.exists_of_bind_eq_ok h
  cases h
  rfl

theorem isSome_of_conditionsOf
    {q : Query} {conditions : List Condition} (h : conditionsOf q = .ok conditions) :
    q.clauses.conditions?.isSome = true := by
  unfold conditionsOf at h
  cases hconditions : q.clauses.conditions? with
  | none =>
      rw [hconditions] at h
      cases h
  | some _ =>
      rfl

theorem verb_ofUpdate
    {q : Query} {assignments : Keyed Value} {s : Statement} (h : ofUpdate q assignments = .ok s) :
    s.verb = .update ∧ q.clauses.conditions?.isSome = true := by
  obtain ⟨_, -, h⟩ := Fault.exists_of_bind_eq_ok h
  obtain ⟨_, -, h⟩ := Fault.exists_of_bind_eq_ok h
  obtain ⟨_, hconditions, h⟩ := Fault.exists_of_bind_eq_ok h
  cases h
  exact ⟨rfl, isSome_of_conditionsOf hconditions⟩

theorem verb_ofDelete
    {q : Query} {s : Statement} (h : ofDelete q = .ok s) :
    s.verb = .delete ∧ q.clauses.conditions?.isSome = true := by
  obtain ⟨_, -, h⟩ := Fault.exists_of_bind_eq_ok h
  obtain ⟨_, hconditions, h⟩ := Fault.exists_of_bind_eq_ok h
  cases h
  exact ⟨rfl, isSome_of_conditionsOf hconditions⟩

/-- The statement that a query asks for by a form has the verb of this form, and the clauses
of the query are made for it or enough for it. -/
theorem verb_of_ofForm
    {form : Form} {q : Query} {s : Statement} (h : ofForm form q = .ok s) :
    form = s.verb.form ∧ (q.clauses.verb? = some s.verb ∨ s.verb ∈ q.clauses.otherVerbs) := by
  rcases q with ⟨kind, derived, table, clauses⟩
  cases form with
  | select =>
      cases clauses with
      | select columns conditions order limit offset =>
          rw [verb_ofSelect h]
          exact ⟨rfl, .inl rfl⟩
      | _ =>
          cases h
  | insert =>
      cases clauses with
      | insert assignments =>
          rw [verb_ofInsert h]
          exact ⟨rfl, .inl rfl⟩
      | update assignments conditions =>
          rw [verb_ofInsert h]
          exact ⟨rfl, .inr (by simp [Clauses.otherVerbs])⟩
      | _ =>
          cases h
  | update =>
      cases clauses with
      | insert assignments =>
          cases (verb_ofUpdate h).2
      | update assignments conditions =>
          rw [(verb_ofUpdate h).1]
          exact ⟨rfl, .inl rfl⟩
      | _ =>
          cases h
  | delete =>
      obtain ⟨hverb, hconditions⟩ := verb_ofDelete h
      rw [hverb]
      cases clauses with
      | delete conditions =>
          exact ⟨rfl, .inl rfl⟩
      | insert assignments =>
          cases hconditions
      | bare =>
          cases hconditions
      | _ =>
          exact ⟨rfl, .inr (by simp [Clauses.otherVerbs])⟩
  | conditions =>
      cases h

end Statement

namespace Query

variable {q : Query} {f : Fragment}

/-- The words of a query say a verb that its clauses are made for or that it is mistaken
for. -/
theorem exists_says_of_render
    (h : (Subject.query q).render = .ok f) :
    ∃ said, f.Says said ∧ q.name.toLower = said.name ∧
      (q.clauses.verb? = some said ∨ said ∈ q.clauses.otherVerbs) := by
  simp only [Subject.render, Statement.ofSubject] at h
  cases hstatement : Statement.ofQuery q with
  | error g =>
      rw [hstatement] at h
      cases h
  | ok s =>
      rw [hstatement] at h
      cases h
      unfold Statement.ofQuery at hstatement
      cases hform : Statement.Form.ofName? q.name with
      | none =>
          rw [hform] at hstatement
          cases hstatement
      | some form =>
          rw [hform] at hstatement
          obtain ⟨rfl, hverb⟩ := Statement.verb_of_ofForm hstatement
          exact ⟨s.verb, s.says_render, (Verb.ofName?_eq_some_iff _ _).mp hform, hverb⟩

end Query

namespace NamedQuery

/-- The query of a kind that was derived under a name. -/
def under (n : NamedQuery) (kind : Text) : Query :=
  { n.toQuery with name := kind, derived := true }

section Under

variable {n : NamedQuery} {kind : Text}

theorem ofDelete_under
    {entries : List (Text × Value)} (h : n.clauses.conditions? = some (keyed entries)) :
    Statement.ofDelete (n.under kind) = .ok (.delete n.table (conditionsOf entries)) := by
  simp [Statement.ofDelete, Statement.conditionsOf, h, ofKeyed_keyed, bind, Except.bind, pure,
    Except.pure, under, toQuery]

theorem ofInsert_under
    (entries : List (Text × Value)) :
    Statement.ofInsert (n.under kind).table (keyed entries) =
      .ok (.insert n.table (assignmentsOf entries)) := by
  simp [Statement.ofInsert, assignments_keyed, bind, Except.bind, pure, Except.pure, under,
    toQuery]

/-- A query that is mistaken for another has a statement with the other's verb, which modifies
the table. -/
theorem exists_ofQuery_of_mistakenFor
    {verb : Verb} (h : (n.under kind).MistakenFor verb) :
    ∃ s, Statement.ofQuery (n.under kind) = .ok s ∧ s.verb = verb ∧ verb.modifies = true := by
  have hform := (Verb.ofName?_eq_some_iff _ _).mpr h.named
  have hother := h.enough
  simp only [Statement.ofQuery, hform]
  cases n with
  | select columns table conditions order limit offset =>
      obtain rfl : verb = .delete := List.mem_singleton.mp hother
      exact ⟨_, ofDelete_under rfl, rfl, rfl⟩
  | update table assignments conditions =>
      rcases List.mem_cons.mp hother with rfl | hother
      · exact ⟨_, ofInsert_under assignments, rfl, rfl⟩
      · obtain rfl : verb = .delete := List.mem_singleton.mp hother
        exact ⟨_, ofDelete_under rfl, rfl, rfl⟩
  | insert table assignments =>
      cases hother
  | delete table conditions =>
      cases hother

end Under

end NamedQuery

/-- A query that can be put into words says the verb that its clauses are made for if and only
if it is not mistaken for one with another verb, and what it says otherwise is the verb that it
is mistaken for.  A query whose names are texts says any verb that it is mistaken for, and this
one modifies the table. -/
theorem said_unless_mistaken
    (q : Query) (n : NamedQuery) (kind : Text) :
    (∀ (f : Fragment) (verb : Verb), (Subject.query q).render = .ok f →
      q.clauses.verb? = some verb →
        (f.Says verb ↔ ∀ other, ¬ q.MistakenFor other) ∧
          ∀ other, f.Says other → other = verb ∨ q.MistakenFor other) ∧
    ∀ other : Verb, (n.under kind).MistakenFor other →
      other.modifies = true ∧
        ∃ f, (Subject.query (n.under kind)).render = .ok f ∧ f.Says other := by
  constructor
  · intro f verb hrender hverb
    obtain ⟨said, hsaid, hname, hmade⟩ := Query.exists_says_of_render hrender
    have hown : said = verb ∨ q.MistakenFor said := by
      rcases hmade with hmade | hother
      · exact .inl (Option.some.inj (hmade.symm.trans hverb))
      · exact .inr ⟨hother, hname⟩
    refine ⟨⟨fun hsays other hmistaken => ?_, fun hnone => ?_⟩, fun other hsays => ?_⟩
    · -- Its kind has one name only, and the verb of this name is what it says.
      obtain rfl : other = said := Verb.name_injective (hmistaken.named.symm.trans hname)
      exact Clauses.ne_of_mem_otherVerbs hverb hmistaken.enough (hsaid.unique hsays)
    · rcases hown with rfl | hmistaken
      · exact hsaid
      · exact absurd hmistaken (hnone said)
    · obtain rfl := hsays.unique hsaid
      exact hown
  · intro other hmistaken
    obtain ⟨s, hstatement, rfl, hmodifies⟩ := NamedQuery.exists_ofQuery_of_mistakenFor hmistaken
    refine ⟨hmodifies, s.render, ?_, s.says_render⟩
    simp only [Subject.render, Statement.ofSubject, hstatement]

/-- All rows of a table. -/
def allRows : NamedQuery := .select [] "t" [] [] none none

/-- They are asked for by a kind that is called as the removing of rows is. -/
def disguisedReading : Query := allRows.under "Delete"

/-- It says that rows are removed, and does not say that they are read. -/
theorem disguised_reading_removes :
    disguisedReading.clauses.verb? = some .select ∧ disguisedReading.MistakenFor .delete ∧
      ∃ f, (Subject.query disguisedReading).render = .ok f ∧ f.Says .delete ∧ ¬ f.Says .select := by
  have hmistaken : disguisedReading.MistakenFor .delete := ⟨by decide, by decide⟩
  obtain ⟨howns, hothers⟩ := said_unless_mistaken disguisedReading allRows "Delete"
  obtain ⟨-, f, hrender, hsays⟩ := hothers .delete hmistaken
  obtain ⟨hown, -⟩ := howns f .select hrender rfl
  exact ⟨rfl, hmistaken, f, hrender, hsays, fun hread => hown.mp hread .delete hmistaken⟩

/-- What is said is not always what the clauses are made for. -/
theorem not_said_under_other_name :
    ¬ ∀ (q : Query) (f : Fragment) (verb : Verb), (Subject.query q).render = .ok f →
      q.clauses.verb? = some verb → f.Says verb := by
  intro hclaim
  have hrender : (Subject.query disguisedReading).render =
      .ok (Statement.delete "t" []).render := rfl
  have hsays := hclaim disguisedReading _ .select hrender rfl
  cases hsays.unique (Statement.says_render (.delete "t" []))

end Datalink
