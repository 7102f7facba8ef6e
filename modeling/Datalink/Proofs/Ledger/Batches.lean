import Datalink.Proofs.Journal.Writing
import Datalink.Proofs.Ledger.Counting

/-!
# Batches on their way from a ledger to its journal

A ledger is called to take an observation or to be flushed, again and again.  A call may
hand a batch over to the journal, and then nothing is held back any more, whatever becomes
of the batch.  Without a journal no batch is handed over, and what does not fit is
forgotten.  The files that a call finds are any.

Results: with a journal, the batches that were handed over followed by what is held back
are the observations that were taken, in order; a batch handed over by taking an
observation has as many observations as the ledger's capacity, and one handed over by a
flush has fewer, but not none.  Without a journal the latest observations are held back.
Each of these is what one call preserves, by cases on the course that it takes.
-/

namespace Datalink

namespace Ledger

theorem record_of_refused
    {l : Ledger} {o : Observation} {f : Fault} (h : (l.count o).2 = .error f)
    (files : FileTree) :
    l.record o files = ((l.count o).1, files, .error f) := by
  unfold record
  split
  · rename_i heq
    rw [heq] at h ⊢
    cases h
    rfl
  · rename_i heq
    rw [heq] at h
    cases h

theorem record_of_counted
    {l : Ledger} {o : Observation} (h : (l.count o).2 = .ok ()) (files : FileTree) :
    l.record o files =
      (((l.count o).1.hold o).1, writeOut l.journal ((l.count o).1.hold o).2 files) := by
  unfold record
  split
  · rename_i heq
    rw [heq] at h
    cases h
  · rename_i heq
    have hjournal := l.journal_count o
    rw [heq] at hjournal ⊢
    simp [← hjournal]

/-- A call on a ledger. -/
inductive Call where
  | record (o : Observation)
  | flush

namespace Call

/-- What a call does to a ledger and to its files, and how it ends. -/
def perform (l : Ledger) (files : FileTree) : Call → Ledger × FileTree × Except Fault Unit
  | record o => l.record o files
  | flush => l.flush files

/-- The observation that a call brings, if it brings one. -/
def brought : Call → List Observation
  | record o => [o]
  | flush => []

/-- Why what a call brings is not taken: it cannot be counted. -/
def refusal? (l : Ledger) : Call → Option Fault
  | record o =>
      match (l.count o).2 with
      | .error f => some f
      | .ok () => none
  | flush => none

/-- What a call brings, unless it is refused. -/
def taken (l : Ledger) (c : Call) : List Observation :=
  if (c.refusal? l).isSome then [] else c.brought

/-- What a call has for the journal.  An empty batch is not handed over. -/
def batch (l : Ledger) : Call → List Observation
  | record o =>
      match (l.count o).2 with
      | .error _ => []
      | .ok () => ((l.count o).1.hold o).2
  | flush => l.drain.2

/-- The batch that a call hands over, if it hands one over, with the call. -/
def handed (l : Ledger) (c : Call) : List (Call × List Observation) :=
  if c.batch l = [] then [] else [(c, c.batch l)]

/-- The courses that a call may take, by what it takes, what it has for the journal, and
what is held back behind it. -/
inductive Course (l : Ledger) :
    Call → List Observation → List Observation → List Observation → Prop
  | refused
      (o : Observation) :
      Course l (record o) [] [] l.held
  | kept
      (o : Observation)
      (hroom : l.held.length + 1 < l.capacity) :
      Course l (record o) [o] [] (l.held ++ [o])
  | shortened
      (o : Observation)
      (hfull : l.capacity ≤ l.held.length + 1)
      (hjournal : l.journal = none) :
      Course l (record o) [o] [] (latest l.capacity (l.held ++ [o]))
  | filled
      (o : Observation)
      (hfull : l.capacity ≤ l.held.length + 1)
      (hjournal : l.journal.isSome = true) :
      Course l (record o) [o] (l.held ++ [o]) []
  | idle
      (hjournal : l.journal = none) :
      Course l flush [] [] l.held
  | flushed
      (hjournal : l.journal.isSome = true) :
      Course l flush [] l.held []

section Steps

variable (l : Ledger) (c : Call) (files : FileTree)

theorem course :
    Course l c (c.taken l) (c.batch l) (c.perform l files).1.held := by
  cases c with
  | record o =>
      cases hcount : (l.count o).2 with
      | error f =>
          simp only [taken, refusal?, batch, perform, hcount, record_of_refused hcount,
            held_count]
          exact .refused o
      | ok _ =>
          simp only [taken, refusal?, brought, batch, perform, hcount,
            record_of_counted hcount, hold, held_count, capacity_count, journal_count]
          by_cases hroom : l.held.length + 1 < l.capacity
          · simp only [hroom, if_true]
            exact .kept o hroom
          · have hfull : l.capacity ≤ l.held.length + 1 := by
              omega
            cases hj : l.journal with
            | none =>
                simp only [hroom, if_false]
                exact .shortened o hfull hj
            | some j =>
                simp only [hroom, if_false]
                exact .filled o hfull (by rw [hj]; rfl)
  | flush =>
      cases hj : l.journal with
      | none =>
          simp only [taken, refusal?, brought, batch, perform, Ledger.flush, drain, hj]
          exact .idle hj
      | some j =>
          simp only [taken, refusal?, brought, batch, perform, Ledger.flush, drain, hj]
          exact .flushed (by rw [hj]; rfl)

@[simp] theorem journal_perform :
    (c.perform l files).1.journal = l.journal := by
  cases c with
  | record o =>
      cases hcount : (l.count o).2 with
      | error f =>
          simp [perform, record_of_refused hcount]
      | ok _ =>
          simp [perform, record_of_counted hcount]
  | flush =>
      simp [perform, Ledger.flush]

@[simp] theorem capacity_perform :
    (c.perform l files).1.capacity = l.capacity := by
  cases c with
  | record o =>
      cases hcount : (l.count o).2 with
      | error f =>
          simp [perform, record_of_refused hcount]
      | ok _ =>
          simp [perform, record_of_counted hcount]
  | flush =>
      simp [perform, Ledger.flush]

/-- A call that is not refused ends as the writing of its batch ends. -/
theorem perform_eq :
    (c.perform l files).2 =
      match c.refusal? l with
      | some f => (files, .error f)
      | none => writeOut l.journal (c.batch l) files := by
  cases c with
  | record o =>
      cases hcount : (l.count o).2 with
      | error f =>
          simp [perform, refusal?, hcount, record_of_refused hcount]
      | ok _ =>
          simp [perform, refusal?, batch, hcount, record_of_counted hcount]
  | flush =>
      simp [perform, refusal?, batch, Ledger.flush]

theorem batch_of_refused
    {l : Ledger} {c : Call} {f : Fault} (h : c.refusal? l = some f) :
    c.batch l = [] := by
  cases c with
  | record o =>
      cases hcount : (l.count o).2 with
      | error g =>
          simp [batch, hcount]
      | ok _ =>
          simp [refusal?, hcount] at h
  | flush =>
      cases h

theorem flatten_handed :
    ((c.handed l).map Prod.snd).flatten = c.batch l := by
  unfold handed
  split
  · rename_i hempty
    simp [hempty]
  · simp

end Steps

section Taking

variable {l : Ledger} (htimed : l.Timed) (c : Call)

include htimed

theorem isNone_refusal?_of_timed :
    (c.refusal? l).isNone = c.brought.all Observation.countable := by
  cases c with
  | record o =>
      have hcount := (count_of_timed htimed o).1
      simp only [refusal?, brought, List.all_cons, List.all_nil, Bool.and_true, ← hcount]
      cases (l.count o).2 <;> rfl
  | flush =>
      rfl

/-- What a call brings is taken if it can be counted. -/
theorem taken_of_timed :
    c.taken l = c.brought.filter Observation.countable := by
  have hrefusal := isNone_refusal?_of_timed htimed c
  unfold taken
  cases c with
  | record o =>
      cases hresult : (record o).refusal? l <;> simp_all [brought]
  | flush =>
      rfl

theorem timed_perform
    (files : FileTree) :
    (c.perform l files).1.Timed := by
  cases c with
  | record o =>
      have hafter := (count_of_timed htimed o).2
      unfold Timed at hafter ⊢
      cases hcount : (l.count o).2 with
      | error f =>
          simpa [perform, record_of_refused hcount] using hafter
      | ok _ =>
          simpa [perform, record_of_counted hcount] using hafter
  | flush =>
      unfold Timed at htimed ⊢
      simpa [perform, Ledger.flush] using htimed

end Taking

/-- How large a batch is that is handed over: as large as the ledger's capacity if it is
handed over by taking an observation, and smaller if it is by a flush. -/
def Sized (capacity : Nat) : Call × List Observation → Prop
  | (record _, batch) => batch.length = capacity
  | (flush, batch) => 1 ≤ batch.length ∧ batch.length < capacity

section Keeping

variable {l : Ledger} (c : Call) (files : FileTree)

/-- With a journal nothing is lost on the way to it. -/
theorem batch_append_held
    (hjournal : l.journal.isSome = true) :
    c.batch l ++ (c.perform l files).1.held = l.held ++ c.taken l := by
  have hcourse := c.course l files
  generalize c.taken l = taken, c.batch l = batch, (c.perform l files).1.held = held at hcourse
  cases hcourse with
  | refused o =>
      simp
  | kept o _ =>
      simp
  | shortened o _ hnone =>
      rw [hnone] at hjournal
      cases hjournal
  | filled o _ _ =>
      simp
  | idle hnone =>
      simp
  | flushed _ =>
      simp

/-- With a journal there is room behind every call, and the batch that is handed over has
its size. -/
theorem sized_handed
    (hjournal : l.journal.isSome = true) (hroom : l.held.length < l.capacity) :
    (c.perform l files).1.held.length < l.capacity ∧ ∀ p ∈ c.handed l, Sized l.capacity p := by
  have hcourse := c.course l files
  unfold handed
  generalize c.taken l = taken, c.batch l = batch, (c.perform l files).1.held = held at hcourse
  cases hcourse with
  | refused o =>
      exact ⟨hroom, by simp⟩
  | kept o hspare =>
      exact ⟨by simpa using hspare, by simp⟩
  | shortened o _ hnone =>
      rw [hnone] at hjournal
      cases hjournal
  | filled o hfull _ =>
      refine ⟨Nat.lt_of_le_of_lt (Nat.zero_le _) hroom, ?_⟩
      simp only [List.append_eq_nil_iff, List.cons_ne_nil, and_false, if_false,
        List.forall_mem_singleton, Sized, List.length_append, List.length_singleton]
      omega
  | idle hnone =>
      exact ⟨hroom, by simp⟩
  | flushed _ =>
      refine ⟨Nat.lt_of_le_of_lt (Nat.zero_le _) hroom, ?_⟩
      by_cases hempty : l.held = []
      · simp [hempty]
      · have hsome : 1 ≤ l.held.length := List.length_pos_iff.mpr hempty
        simp only [hempty, if_false, List.forall_mem_singleton, Sized]
        exact ⟨hsome, hroom⟩

/-- A call that hands a batch over hands everything over. -/
theorem all_handed
    (hbatch : c.batch l ≠ []) :
    c.batch l = l.held ++ c.taken l ∧ (c.perform l files).1.held = [] := by
  have hcourse := c.course l files
  generalize c.taken l = taken, c.batch l = batch,
    (c.perform l files).1.held = held at hcourse hbatch ⊢
  cases hcourse with
  | filled o _ _ =>
      exact ⟨rfl, rfl⟩
  | flushed _ =>
      exact ⟨by simp, rfl⟩
  | _ =>
      exact absurd rfl hbatch

/-- Without a journal nothing is handed over. -/
theorem batch_of_journal_eq_none
    (hjournal : l.journal = none) :
    c.batch l = [] := by
  have hcourse := c.course l default
  generalize c.taken l = taken, c.batch l = batch,
    (c.perform l default).1.held = held at hcourse
  cases hcourse with
  | filled o _ hsome =>
      rw [hjournal] at hsome
      cases hsome
  | flushed hsome =>
      rw [hjournal] at hsome
      cases hsome
  | _ =>
      rfl

end Keeping

end Call

/-- Whether a list is the end of another, and as long as a capacity allows. -/
def Latest (capacity : Nat) (held recorded : List Observation) : Prop :=
  held <:+ recorded ∧ held.length = min recorded.length capacity

/-- Without a journal the latest observations are held back behind a call if they were
before. -/
theorem Call.latest_perform
    {l : Ledger} (hjournal : l.journal = none) {recorded : List Observation}
    (h : Latest l.capacity l.held recorded) (c : Call) (files : FileTree) :
    Latest l.capacity (c.perform l files).1.held (recorded ++ c.taken l) := by
  have hcourse := c.course l files
  generalize c.taken l = taken, c.batch l = batch, (c.perform l files).1.held = held at hcourse
  obtain ⟨hsuffix, hlength⟩ := h
  have happend (o : Observation) : l.held ++ [o] <:+ recorded ++ [o] := by
    obtain ⟨front, hfront⟩ := hsuffix
    exact ⟨front, by rw [← hfront, List.append_assoc]⟩
  cases hcourse with
  | refused o =>
      simpa using ⟨hsuffix, hlength⟩
  | kept o hroom =>
      refine ⟨happend o, ?_⟩
      simp only [List.length_append, List.length_singleton]
      omega
  | shortened o hfull _ =>
      refine ⟨(List.drop_suffix _ _).trans (happend o), ?_⟩
      simp only [latest, List.length_drop, List.length_append, List.length_singleton]
      omega
  | filled o _ hsome =>
      rw [hjournal] at hsome
      cases hsome
  | idle _ =>
      simpa using ⟨hsuffix, hlength⟩
  | flushed hsome =>
      rw [hjournal] at hsome
      cases hsome

end Ledger

end Datalink
