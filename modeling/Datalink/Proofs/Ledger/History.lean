import Datalink.Proofs.Ledger.Batches

/-!
# What becomes of the observations of a ledger

A ledger is called again and again, and every call finds some files, which may have been
changed by anyone since the call before.

Results: `batches_then_held` says where the observations are that a new ledger was handed,
`fate` what one call can do with them, and `gone_behind_failed_write` that the batch of a
failed write is nowhere any more.
-/

namespace Datalink

namespace Ledger

open Call

/-- A call with the files that it finds. -/
structure Visit where
  call : Call
  files : FileTree

/-- What a run of calls comes to: the ledger behind it, the observations that were taken,
and the batches that were handed over, each with its call. -/
structure History where
  ledger : Ledger
  taken : List Observation
  handed : List (Call × List Observation)

/-- The run of calls that begins with a ledger. -/
def history (l : Ledger) : List Visit → History
  | [] => ⟨l, [], []⟩
  | v :: visits =>
      let rest := history (v.call.perform l v.files).1 visits
      { rest with
        taken := v.call.taken l ++ rest.taken
        handed := v.call.handed l ++ rest.handed }

/-- The observations that were handed over, in order. -/
def History.batches (h : History) : List Observation := (h.handed.map Prod.snd).flatten

section Runs

variable {l : Ledger} (visits : List Visit)

@[simp] theorem journal_history :
    (history l visits).ledger.journal = l.journal := by
  induction visits generalizing l with
  | nil =>
      rfl
  | cons v visits ih =>
      exact ih.trans (v.call.journal_perform l v.files)

/-- With a journal, what was handed over followed by what is held back is what was held
back at first followed by what was taken. -/
theorem batches_append_held
    (hjournal : l.journal.isSome = true) :
    (history l visits).batches ++ (history l visits).ledger.held =
      l.held ++ (history l visits).taken := by
  induction visits generalizing l with
  | nil =>
      simp [history, History.batches]
  | cons v visits ih =>
      have hstep := v.call.batch_append_held v.files hjournal
      have hrest := ih (l := (v.call.perform l v.files).1) (by simpa using hjournal)
      simp only [history, History.batches, List.map_append, List.flatten_append,
        flatten_handed, List.append_assoc] at hrest ⊢
      rw [hrest, ← List.append_assoc, hstep, List.append_assoc]

theorem sized_history
    (hjournal : l.journal.isSome = true) (hroom : l.held.length < l.capacity) :
    (history l visits).ledger.held.length < l.capacity ∧
      ∀ p ∈ (history l visits).handed, Sized l.capacity p := by
  induction visits generalizing l with
  | nil =>
      exact ⟨hroom, by simp [history]⟩
  | cons v visits ih =>
      obtain ⟨hbehind, hsized⟩ := v.call.sized_handed v.files hjournal hroom
      obtain ⟨hend, hrest⟩ := ih (l := (v.call.perform l v.files).1) (by simpa using hjournal)
        (by simpa using hbehind)
      rw [capacity_perform] at hend hrest
      refine ⟨hend, fun p hp => ?_⟩
      rcases List.mem_append.mp hp with hp | hp
      · exact hsized p hp
      · exact hrest p hp

theorem latest_history
    (hjournal : l.journal = none) {recorded : List Observation}
    (h : Latest l.capacity l.held recorded) :
    (history l visits).handed = [] ∧
      Latest l.capacity (history l visits).ledger.held (recorded ++ (history l visits).taken) := by
  induction visits generalizing l recorded with
  | nil =>
      exact ⟨rfl, by simpa [history] using h⟩
  | cons v visits ih =>
      have hstep := latest_perform hjournal h v.call v.files
      rw [← v.call.capacity_perform l v.files] at hstep
      obtain ⟨hnone, hrest⟩ := ih (by simpa using hjournal) hstep
      have hbatch := v.call.batch_of_journal_eq_none hjournal
      rw [capacity_perform, List.append_assoc] at hrest
      exact ⟨by simp [history, handed, hbatch, hnone], hrest⟩

theorem timed_history
    (htimed : l.Timed) :
    (history l visits).ledger.Timed ∧
      (history l visits).taken =
        (visits.flatMap fun v => v.call.brought).filter Observation.countable := by
  induction visits generalizing l with
  | nil =>
      exact ⟨htimed, rfl⟩
  | cons v visits ih =>
      obtain ⟨hend, hrest⟩ := ih (v.call.timed_perform htimed v.files)
      refine ⟨hend, ?_⟩
      simp only [history, hrest, taken_of_timed htimed, List.flatMap_cons, List.filter_append]

/-- In a run that begins with a new ledger the observations that can be counted are taken.
With a journal, the batches that were handed over followed by what is held back are these
observations in order, every batch has its size, and fewer are held back than the capacity.
Without one no batch was handed over, and the latest are held back.  Of every call that
may come next it holds that it is refused if it brings what cannot be counted, and that it
does to the files what writing its batch does. -/
theorem batches_then_held
    {capacity : Nat} (hcapacity : 1 ≤ capacity) (journal : Option Journal)
    (visits : List Visit) :
    let h := history (empty capacity journal) visits
    let recorded := (visits.flatMap fun v => v.call.brought).filter Observation.countable
    (journal.isSome = true →
        h.batches ++ h.ledger.held = recorded ∧ (∀ p ∈ h.handed, Sized capacity p) ∧
          h.ledger.held.length < capacity) ∧
      (journal = none → h.handed = [] ∧ Latest capacity h.ledger.held recorded) ∧
        ∀ v : Visit,
          (v.call.refusal? h.ledger).isNone = v.call.brought.all Observation.countable ∧
            (v.call.perform h.ledger v.files).2 =
              match v.call.refusal? h.ledger with
              | some f => (v.files, .error f)
              | none => writeOut journal (v.call.batch h.ledger) v.files := by
  intro h recorded
  obtain ⟨htimed, htaken⟩ := timed_history visits (timed_empty capacity journal)
  refine ⟨fun hjournal => ?_, fun hjournal => ?_, fun v => ⟨?_, ?_⟩⟩
  · obtain ⟨hend, hsized⟩ := sized_history visits (l := empty capacity journal) hjournal
      hcapacity
    refine ⟨?_, hsized, hend⟩
    have hall := batches_append_held visits (l := empty capacity journal) hjournal
    rw [htaken] at hall
    exact hall
  · have hlatest : Latest capacity (empty capacity journal).held [] := by
      simp [Latest, empty]
    have hrun := latest_history visits (l := empty capacity journal) hjournal hlatest
    rw [htaken] at hrun
    exact hrun
  · exact isNone_refusal?_of_timed htimed v.call
  · have hnext := v.call.perform_eq h.ledger v.files
    rw [journal_history] at hnext
    exact hnext

/-- An observation that can be counted. -/
def sound : Observation :=
  ⟨.text "select", .text "SELECT 1", [.int 1], .real 1.5, .bool true, .null⟩

/-- An observation whose time is no number. -/
def timeless : Observation := { sound with elapsed := .text "x" }

/-- A journal at a place that is a directory. -/
def blockedJournal : Journal := ⟨⟨["m.json"], false⟩, .append, .json⟩

/-- The files with that directory. -/
def blockedFiles : FileTree := Journal.bareTree.put blockedJournal.path .directory

/-- A flush and a full ledger each hand a batch over, though it cannot be written. -/
theorem batches_then_held_blocked :
    let visits : List Visit := [.record sound, .flush, .record sound, .record timeless,
      .record sound, .flush, .record sound].map fun c => ⟨c, blockedFiles⟩
    let h := history (empty 2 (some blockedJournal)) visits
    1 ≤ 2 ∧ h.handed.map (fun p => p.2.length) = [1, 2] ∧
      h.batches ++ h.ledger.held = [sound, sound, sound, sound] := by
  intro visits h
  have hcapacity : 1 ≤ 2 := by
    decide
  obtain ⟨hjournal, -⟩ := batches_then_held hcapacity (some blockedJournal) visits
  refine ⟨hcapacity, by decide +kernel, ?_⟩
  rw [(hjournal rfl).1]
  rfl

end Runs

/-- The files behind a write that did not reach its journal: they are as they were, or the
journal's file was opened. -/
def Unwritten (j : Journal) (files files' : FileTree) : Prop :=
  files' = files ∨ files' = files.put j.path (.file (files.opened j.mode j.path))

/-- What can become of observations that are held back or have just been taken, by what is
held back behind the call, its files and its end. -/
inductive Fate (j : Journal) (files : FileTree) (all : List Observation) :
    List Observation → FileTree → Except Fault Unit → Prop
  | kept
      {r : Except Fault Unit} :
      Fate j files all all files r
  | written
      {entries : List Entry} {text : Text}
      (hentries : entriesOf all = .ok entries)
      (hrender : j.render files entries = .ok text) :
      Fate j files all [] (files.put j.path (.file (files.opened j.mode j.path ++ text))) (.ok ())
  | gone
      {files' : FileTree} {f : Fault}
      (hfiles : Unwritten j files files') :
      Fate j files all [] files' (.error f)

theorem writeOut_of_ne_nil
    (j : Journal) (files : FileTree) {batch : List Observation} (hbatch : batch ≠ []) :
    writeOut (some j) batch files =
      match entriesOf batch with
      | .error f => (files, .error f)
      | .ok entries => j.write files entries := by
  obtain ⟨o, rest, rfl⟩ := List.exists_cons_of_ne_nil hbatch
  rfl

theorem fate_writeOut
    (j : Journal) (files : FileTree) {batch : List Observation} (hbatch : batch ≠ []) :
    Fate j files batch [] (writeOut (some j) batch files).1 (writeOut (some j) batch files).2 := by
  rw [writeOut_of_ne_nil j files hbatch]
  cases hentries : entriesOf batch with
  | error f =>
      exact .gone (.inl rfl)
  | ok entries =>
      dsimp only
      have hwrote := j.wrote_write files entries
      generalize (j.write files entries).1 = files', (j.write files entries).2 = r at hwrote ⊢
      cases hwrote with
      | refused _ =>
          exact .gone (.inl rfl)
      | opened _ _ _ =>
          exact .gone (.inr rfl)
      | done hrender _ _ =>
          exact .written hentries hrender

section Fates

variable {l : Ledger} {j : Journal} (hjournal : l.journal = some j) (c : Call)
variable (files : FileTree)

include hjournal

/-- A call keeps the observations that are held back and the one that it takes, or writes
all of them out, or fails to, and then they are gone. -/
theorem fate :
    Fate j files (l.held ++ c.taken l) (c.perform l files).1.held (c.perform l files).2.1
      (c.perform l files).2.2 := by
  have hkeep := c.batch_append_held files (l := l) (by rw [hjournal]; rfl)
  rw [c.perform_eq l files, hjournal]
  by_cases hbatch : c.batch l = []
  · rw [hbatch, List.nil_append] at hkeep
    rw [hbatch, hkeep]
    cases c.refusal? l <;> exact .kept
  · obtain ⟨hall, hnone⟩ := c.all_handed files hbatch
    -- The batch has left the ledger before its writing begins, however that ends.
    cases hrefusal : c.refusal? l with
    | none =>
        rw [← hall, hnone]
        exact fate_writeOut j files hbatch
    | some f =>
        exact absurd (batch_of_refused hrefusal) hbatch

/-- A call whose batch cannot be written has handed everything over, and nothing is held
back behind it. -/
theorem perform_of_failed
    (hcounted : c.refusal? l = none) (hfailed : (c.perform l files).2.2.isOk = false) :
    c.handed l = [(c, l.held ++ c.brought)] ∧ (c.perform l files).1.held = [] ∧
      Unwritten j files (c.perform l files).2.1 := by
  have htaken : c.taken l = c.brought := by
    simp [taken, hcounted]
  have hperform := c.perform_eq l files
  rw [hcounted, hjournal] at hperform
  have hbatch : c.batch l ≠ [] := by
    intro hempty
    rw [hempty] at hperform
    rw [hperform] at hfailed
    cases hfailed
  obtain ⟨hall, hnone⟩ := c.all_handed files hbatch
  refine ⟨by rw [handed, if_neg hbatch, hall, htaken], hnone, ?_⟩
  have hfate := fate_writeOut j files hbatch
  rw [hperform] at hfailed ⊢
  generalize c.batch l = batch at hfate hfailed hbatch ⊢
  generalize (writeOut (some j) batch files).1 = files',
    (writeOut (some j) batch files).2 = r at hfate hfailed ⊢
  cases hfate with
  | kept =>
      exact absurd rfl hbatch
  | written _ _ =>
      cases hfailed
  | gone hfiles =>
      exact hfiles

/-- A call keeps all observations, or writes all of them out, or fails to write them.  In
the last case nothing is held back behind it.  The batch, which is all that was held back
and what the call brings, has not reached the journal, and later calls hand over what is
taken later and nothing else. -/
theorem gone_behind_failed_write :
    let after := c.perform l files
    Fate j files (l.held ++ c.taken l) after.1.held after.2.1 after.2.2 ∧
      (c.refusal? l = none → after.2.2.isOk = false →
        c.handed l = [(c, l.held ++ c.brought)] ∧ after.1.held = [] ∧
          Unwritten j files after.2.1 ∧
            ∀ visits, (history after.1 visits).batches ++ (history after.1 visits).ledger.held =
              (history after.1 visits).taken) := by
  refine ⟨fate hjournal c files, fun hcounted hfailed => ?_⟩
  obtain ⟨hhanded, hnone, hfiles⟩ := perform_of_failed hjournal c files hcounted hfailed
  refine ⟨hhanded, hnone, hfiles, fun visits => ?_⟩
  have hlater := batches_append_held (l := (c.perform l files).1) visits (by simp [hjournal])
  rwa [hnone, List.nil_append] at hlater

end Fates

/-- A ledger with one observation that is about to be full. -/
def almostFull : Ledger := { empty 2 (some blockedJournal) with held := [sound] }

/-- The call that makes it full. -/
def oneMore : Call := .record sound

/-- Two observations are gone if a full ledger cannot write them. -/
theorem gone_behind_blocked_journal :
    almostFull.journal = some blockedJournal ∧
      (oneMore.perform almostFull blockedFiles).2.2.isOk = false ∧
        oneMore.handed almostFull = [(oneMore, [sound, sound])] ∧
          (oneMore.perform almostFull blockedFiles).1.held = [] := by
  have hjournal : almostFull.journal = some blockedJournal := by
    rfl
  have hcounted : (oneMore.refusal? almostFull).isNone = true := by
    decide +kernel
  have hfailed : (oneMore.perform almostFull blockedFiles).2.2.isOk = false := by
    decide +kernel
  obtain ⟨-, hgone⟩ := gone_behind_failed_write hjournal oneMore blockedFiles
  obtain ⟨hhanded, hnone, -, -⟩ := hgone (Option.isNone_iff_eq_none.mp hcounted) hfailed
  exact ⟨hjournal, hfailed, hhanded, hnone⟩

/-- What could not be written is not held back. -/
theorem not_kept_behind_blocked_journal :
    ¬ ∀ (l : Ledger) (j : Journal) (c : Call) (files : FileTree),
      l.journal = some j → c.refusal? l = none → (c.perform l files).2.2.isOk = false →
        Unwritten j files (c.perform l files).2.1 →
          ∀ o ∈ l.held ++ c.brought, o ∈ (c.perform l files).1.held := by
  intro hclaim
  have hcounted : (oneMore.refusal? almostFull).isNone = true := by
    decide +kernel
  have hfailed : (oneMore.perform almostFull blockedFiles).2.2.isOk = false := by
    decide +kernel
  rw [Option.isNone_iff_eq_none] at hcounted
  obtain ⟨-, hnone, hfiles⟩ :=
    perform_of_failed (j := blockedJournal) rfl oneMore blockedFiles hcounted hfailed
  have hkept := hclaim almostFull blockedJournal oneMore blockedFiles rfl hcounted hfailed
    hfiles sound List.mem_cons_self
  rw [hnone] at hkept
  cases hkept

end Ledger

end Datalink
