import Datalink.Proofs.Session.Lifespan
import Datalink.Proofs.Session.Planning
import Mathlib.Data.Finset.Insert

/-!
# Attaching the file

Input: a session that is connected, and a request to attach its file under a name.  The
engine answers as it likes, with rows that list what is attached, and fails as it likes, with
failures that have words.

Results: the statements that are sent, in their order.  The file is attached if and only if
the name is not among those that were just listed, and the first failure ends the request
with its statement.  If the engine keeps a catalog of names and lists it truthfully, then
requests for one name, however many, add that name to the catalog once, and turn foreign key
constraints on.
-/

namespace Datalink

open Routine (run)

namespace Session

/-- The second columns of some rows. -/
def seconds (rows : List (List Value)) : List Value := rows.filterMap (·[1]?)

/-- Whether every row has a second column that can be a name. -/
def Listing (rows : List (List Value)) : Prop :=
  ∀ row ∈ rows, ∃ v, row[1]? = some v ∧ v.keyFault? = none

/-- Whether a name is among the second columns of some rows. -/
def listed (name : Text) (rows : List (List Value)) : Bool :=
  (seconds rows).any (Value.text name).same

theorem secondColumn_of_listing
    {rows : List (List Value)} (h : Listing rows) :
    secondColumn rows = .ok (seconds rows) := by
  induction rows with
  | nil =>
      rfl
  | cons row rows ih =>
      obtain ⟨v, hv, hkey⟩ := h row List.mem_cons_self
      have hrest := ih fun r hr => h r (List.mem_cons_of_mem row hr)
      rcases row with _ | ⟨a, _ | ⟨b, rest⟩⟩
      · cases hv
      · cases hv
      · obtain rfl : b = v := Option.some.inj hv
        simp [secondColumn, seconds, Value.checkKey, hkey, hrest]

theorem listing_of_secondColumn
    {rows : List (List Value)} {vs : List Value} (h : secondColumn rows = .ok vs) :
    Listing rows := by
  induction rows generalizing vs with
  | nil =>
      rintro row ⟨⟩
  | cons row rows ih =>
      rcases row with _ | ⟨a, _ | ⟨b, rest⟩⟩
      · cases h
      · cases h
      · cases hkey : b.keyFault? with
        | some f =>
            simp [secondColumn, Value.checkKey, hkey] at h
        | none =>
            cases hrest : secondColumn rows with
            | error f =>
                simp [secondColumn, Value.checkKey, hkey, hrest] at h
            | ok us =>
                intro r hr
                rcases List.mem_cons.mp hr with rfl | hr
                · exact ⟨b, rfl, hkey⟩
                · exact ih hrest r hr

variable (s : Session)

/-- The statements of a request to attach the session's file under a name, with their
parameters, be the name known or not. -/
def attachPlan (name : Text) (known : Bool) : List (Value × List Value) :=
  [(listStatement, [])] ++
    ((if known then [] else [(attachStatement, [s.settings.path, .text name])]) ++
      [(foreignKeyStatement true, [])])

/-- What came of a request to attach the session's file under a name: the calls that were
made from a point of the exchange on, and the result. -/
structure Attached (e : Exchange) (name : Text) (cs : List EngineCall) (r : Except Fault Unit) :
    Prop where
  first : cs.head? = some (.execute listStatement [])
  follows : Listing e.next.rows →
    s.Follows e (s.attachPlan name (listed name e.next.rows)) cs r
  unlisted : ¬ Listing e.next.rows → executed cs = [(listStatement, [])] ∧ r.isOk = false

/-- What is attached, read from the list. -/
def readAttached : Routine (List Value) := do
  let cursor ← Engine.execute listStatement []
  Engine.closingCursor cursor do
    let rows ← Engine.fetch cursor
    Routine.ofExcept (secondColumn rows)

/-- Behind the list, the file is attached unless its name is known, and foreign key
constraints are turned on. -/
def attachBehind (name : Text) (known : Bool) : Routine Unit := do
  if !known then
    let params : List Value := [s.settings.path, .text name]
    s.noteStatement attachStatement params
    let _ ← s.wrapping attachStatement (Engine.execute attachStatement params)
  let _ ← s.wrapping (foreignKeyStatement true)
    (Engine.execute (foreignKeyStatement true) [])
  return ()

/-- Whether the name is known is seen in the list. -/
theorem attach_text
    (name : Text) :
    s.attach (.text name) = s.guarded (do
      let attached ← s.wrapping listStatement readAttached
      s.attachBehind name (attached.any (Value.text name).same)) :=
  rfl

/-- Without the list nothing more is done. -/
theorem run_attach_of_unread
    {w w' : World} (hconnected : w.connected = true) {f : Fault}
    (hread : run readAttached w = (.error f, w')) (name : Text) :
    run (s.attach (.text name)) w = (.error (s.wrapped f listStatement).1,
      { w' with lines := w'.lines ++ (s.wrapped f listStatement).2 }) := by
  rw [attach_text, s.run_guarded hconnected, Routine.run_bind, s.run_wrapping_error hread]

theorem run_attach_of_read
    {w w' : World} (hconnected : w.connected = true) {rows : List (List Value)}
    (hread : run readAttached w = (.ok (seconds rows), w')) (name : Text) :
    run (s.attach (.text name)) w = run (s.attachBehind name (listed name rows)) w' := by
  rw [attach_text, s.run_guarded hconnected, Routine.run_bind, s.run_wrapping_ok hread]
  rfl

theorem planned_attachBehind
    (hpath : s.logQueries = true → s.settings.path.printable = true) (name : Text)
    (known : Bool) :
    s.Planned
      ((if known then [] else [(attachStatement, [s.settings.path, .text name])]) ++
        [(foreignKeyStatement true, [])])
      (s.attachBehind name known) := by
  have hkeys : s.Planned [(foreignKeyStatement true, [])] (do
      let _ ← s.wrapping (foreignKeyStatement true)
        (Engine.execute (foreignKeyStatement true) [])
      return ()) :=
    (Planned.executed _ _).bind fun _ => .pure ()
  cases known with
  | true =>
      exact hkeys
  | false =>
      have hname : (Value.text name).printable = true := rfl
      have hnoted : s.Planned [] (s.noteStatement attachStatement [s.settings.path, .text name]) :=
        .note (fun _ => rfl) fun hlog => by simp [Value.allPrintable, hpath hlog, hname]
      exact hnoted.bind fun _ => (Planned.executed attachStatement _).bind fun _ => hkeys

/-- A request to attach the file lists what is attached first. -/
theorem attach_told
    (hpath : s.logQueries = true → s.settings.path.printable = true) (name : Text)
    {e : Exchange} {w : World} (hworded : e.Worded) (hanswers : e.answers = w.answers)
    (hconnected : w.connected = true) :
    let after := run (s.attach (.text name)) w
    ∃ cs, Leads e w cs after.2 ∧ s.Attached e name cs after.1 := by
  intro after
  rcases hread : run readAttached w with ⟨r, w'⟩
  obtain ⟨cs, hleads, hfirst, hlist, houtcome⟩ := Engine.run_looked hanswers hconnected hread
  have hunread : ∀ f, r = .error f →
      after = (.error (s.wrapped f listStatement).1,
        { w' with lines := w'.lines ++ (s.wrapped f listStatement).2 }) := by
    rintro f rfl
    exact s.run_attach_of_unread hconnected hread name
  rcases houtcome with ⟨hclean, hr⟩ | ⟨x, y, hoff, hlast, hr⟩
  · cases hseconds : secondColumn e.next.rows with
    | error f =>
        have hunlisted : ¬ Listing e.next.rows := by
          intro hlisting
          cases hseconds.symm.trans (secondColumn_of_listing hlisting)
        rw [hunread f (hr.trans hseconds)]
        refine ⟨cs, ⟨hleads.calls, hleads.answers, hleads.connected⟩, ?_⟩
        exact
          { first := hfirst
            follows := fun hlisting => (hunlisted hlisting).elim
            unlisted := fun _ => ⟨hlist, rfl⟩ }
    | ok attached =>
        have hlisting := listing_of_secondColumn hseconds
        obtain rfl : attached = seconds e.next.rows :=
          Except.ok.inj (hseconds.symm.trans (secondColumn_of_listing hlisting))
        obtain rfl : r = .ok (seconds e.next.rows) := hr.trans hseconds
        obtain ⟨ds, hrest, hfollows⟩ :=
          s.planned_attachBehind hpath name (listed name e.next.rows) _ w' (hworded.afterAll cs)
            hleads.answers hleads.connected
        have hafter : after = run (s.attachBehind name (listed name e.next.rows)) w' :=
          s.run_attach_of_read hconnected hread name
        rw [hafter]
        refine ⟨cs ++ ds, hleads.trans hrest, ?_⟩
        exact
          { first := by rw [List.head?_append, hfirst]; rfl
            follows := fun _ => hfollows.prepend hclean hlist
            unlisted := fun hunlisted => (hunlisted hlisting).elim }
  · have hy : y.Worded := hworded.failures (List.mem_of_getLast? hlast)
    rw [hunread y hr, s.wrapped_of_worded listStatement hy]
    refine ⟨cs, ⟨hleads.calls, hleads.answers, hleads.connected⟩, ?_⟩
    exact
      { first := hfirst
        follows := fun _ =>
          .broken hoff (hlist ▸ List.prefix_append ..) (by rw [hlist]; rfl) hlast
        unlisted := fun _ => ⟨hlist, rfl⟩ }

end Session

/-- What an engine keeps: the names that are attached, and whether foreign key constraints are
on. -/
structure Catalog where
  names : Finset Text
  enforcing : Bool

namespace Catalog

/-- Behind a statement that was executed.  One that attaches a file adds its name. -/
def tell (c : Catalog) : Value × List Value → Catalog
  | (sql, [_, .text name]) =>
      if sql.same Session.attachStatement then { c with names := insert name c.names } else c
  | (sql, []) =>
      if sql.same (Session.foreignKeyStatement true) then { c with enforcing := true }
      else if sql.same (Session.foreignKeyStatement false) then { c with enforcing := false }
      else c
  | _ => c

/-- Behind a call.  One that fails changes nothing. -/
def after (c : Catalog) (e : Exchange) (call : EngineCall) : Catalog :=
  match e.failure? call, call.statement? with
  | none, some statement => c.tell statement
  | _, _ => c

/-- Behind some calls. -/
def afterAll (c : Catalog) (e : Exchange) : List EngineCall → Catalog
  | [] => c
  | call :: cs => (c.after e call).afterAll (e.after call) cs

/-- Whether some rows list exactly the names of a catalog. -/
structure Lists (c : Catalog) (rows : List (List Value)) : Prop where
  listing : Session.Listing rows
  listed_iff : ∀ name, Session.listed name rows = true ↔ name ∈ c.names

/-- Whether an engine that keeps a catalog lists its names whenever it is asked for them. -/
def Truthful (c : Catalog) (e : Exchange) : List EngineCall → Prop
  | [] => True
  | call :: cs =>
      (call = .execute Session.listStatement [] → e.failure? call = none → c.Lists e.next.rows) ∧
        (c.after e call).Truthful (e.after call) cs

theorem afterAll_append
    (c : Catalog) (e : Exchange) (cs ds : List EngineCall) :
    c.afterAll e (cs ++ ds) = (c.afterAll e cs).afterAll (e.afterAll cs) ds := by
  induction cs generalizing c e with
  | nil =>
      rfl
  | cons call cs ih =>
      exact ih (c.after e call) (e.after call)

theorem truthful_append
    (c : Catalog) (e : Exchange) (cs ds : List EngineCall) :
    c.Truthful e (cs ++ ds) ↔
      c.Truthful e cs ∧ (c.afterAll e cs).Truthful (e.afterAll cs) ds := by
  induction cs generalizing c e with
  | nil =>
      exact ⟨fun h => ⟨trivial, h⟩, fun h => h.2⟩
  | cons call cs ih =>
      have hrest := ih (c.after e call) (e.after call)
      exact (and_congr_right fun _ => hrest).trans and_assoc.symm

/-- An engine that is not asked lists nothing. -/
theorem truthful_of_unasked
    (c : Catalog) (e : Exchange) {cs : List EngineCall}
    (h : ∀ call ∈ cs, call.statement? ≠ some (Session.listStatement, [])) :
    c.Truthful e cs := by
  induction cs generalizing c e with
  | nil =>
      trivial
  | cons call cs ih =>
      refine ⟨?_, ih _ _ fun d hd => h d (List.mem_cons_of_mem call hd)⟩
      rintro rfl
      exact absurd rfl (h _ List.mem_cons_self)

/-- If no call fails, every statement that is executed is told. -/
theorem afterAll_of_clean
    (c : Catalog) {e : Exchange} {cs : List EngineCall} (h : e.failures cs = []) :
    c.afterAll e cs = (executed cs).foldl tell c := by
  induction cs generalizing c e with
  | nil =>
      rfl
  | cons call cs ih =>
      obtain ⟨hcall, hrest⟩ := List.append_eq_nil_iff.mp h
      have hsent : e.failure? call = none := Option.toList_eq_nil_iff.mp hcall
      rw [afterAll, ih (c.after e call) hrest, after, hsent]
      cases hstatement : call.statement? with
      | none =>
          simp [executed, hstatement]
      | some statement =>
          simp [executed, hstatement]

/-- A plan to attach the file adds the name unless it is known. -/
theorem foldl_tell_attachPlan
    (s : Session) (c : Catalog) (name : Text) (known : Bool) :
    (s.attachPlan name known).foldl tell c =
      ⟨if known then c.names else insert name c.names, true⟩ := by
  have hlist : Session.listStatement.same (Session.foreignKeyStatement true) = false ∧
      Session.listStatement.same (Session.foreignKeyStatement false) = false := by
    decide +kernel
  have hattach : Session.attachStatement.same Session.attachStatement = true := by
    decide +kernel
  have hkeys : (Session.foreignKeyStatement true).same (Session.foreignKeyStatement true) =
      true := by
    decide +kernel
  cases known <;> simp [Session.attachPlan, tell, hlist, hattach, hkeys]

end Catalog

namespace Session

variable {s : Session} {e : Exchange} {c : Catalog} {name : Text} {cs : List EngineCall}

/-- A request without failures adds the name to a catalog that is listed truthfully. -/
theorem Attached.settles
    {r : Except Fault Unit} (h : s.Attached e name cs r) (htruthful : c.Truthful e cs)
    (hclean : e.failures cs = []) :
    executed cs = s.attachPlan name (decide (name ∈ c.names)) ∧
      c.afterAll e cs = ⟨insert name c.names, true⟩ := by
  have hlists : c.Lists e.next.rows := by
    obtain ⟨ds, rfl⟩ : ∃ ds, cs = .execute listStatement [] :: ds := by
      cases cs with
      | nil => cases h.first
      | cons call ds => exact ⟨ds, by rw [Option.some.inj h.first]⟩
    have hsent := (List.append_eq_nil_iff.mp hclean).1
    exact htruthful.1 rfl (Option.toList_eq_nil_iff.mp hsent)
  have hknown : listed name e.next.rows = decide (name ∈ c.names) := by
    rw [Bool.eq_iff_iff, hlists.listed_iff, decide_eq_true_iff]
  have hall : executed cs = s.attachPlan name (decide (name ∈ c.names)) := by
    rw [← hknown]
    cases h.follows hlists.listing with
    | through _ hall =>
        exact hall
    | broken _ _ _ hlast =>
        rw [hclean] at hlast
        cases hlast
  refine ⟨hall, ?_⟩
  rw [c.afterAll_of_clean hclean, hall, Catalog.foldl_tell_attachPlan]
  by_cases hmem : name ∈ c.names
  · simp [hmem]
  · simp [hmem]

variable {w : World}

/-- So do several requests for one name, and all but the first find it there. -/
theorem requests_told
    (hpath : s.logQueries = true → s.settings.path.printable = true) (name : Text) (n : Nat)
    (hworded : e.Worded) (hanswers : e.answers = w.answers) (hconnected : w.connected = true) :
    let w' := s.play w (List.replicate (n + 1) (.attach (.text name)))
    ∃ cs, Leads e w cs w' ∧
      ∀ c : Catalog, c.Truthful e cs → e.failures cs = [] →
        c.afterAll e cs = ⟨insert name c.names, true⟩ ∧
          executed cs = s.attachPlan name (decide (name ∈ c.names)) ++
            (List.replicate n (s.attachPlan name true)).flatten := by
  induction n generalizing e w with
  | zero =>
      obtain ⟨cs, hleads, hattached⟩ := s.attach_told hpath name hworded hanswers hconnected
      refine ⟨cs, hleads, fun c htruthful hclean => ?_⟩
      obtain ⟨hall, hafter⟩ := hattached.settles htruthful hclean
      exact ⟨hafter, by simp [hall]⟩
  | succ n ih =>
      obtain ⟨cs, hleads, hattached⟩ := s.attach_told hpath name hworded hanswers hconnected
      obtain ⟨ds, hlater, hrest⟩ := ih (hworded.afterAll cs) hleads.answers hleads.connected
      refine ⟨cs ++ ds, hleads.trans hlater, fun c htruthful hclean => ?_⟩
      rw [Exchange.failures_append, List.append_eq_nil_iff] at hclean
      obtain ⟨htruthful, hstill⟩ := (c.truthful_append ..).mp htruthful
      obtain ⟨hall, hafter⟩ := hattached.settles htruthful hclean.1
      rw [hafter] at hstill
      obtain ⟨hafter', hall'⟩ := hrest _ hstill hclean.2
      refine ⟨?_, ?_⟩
      · rw [Catalog.afterAll_append, hafter, hafter', Finset.insert_idem]
      · simp [hall, hall', List.replicate_succ]

/-- A request to attach the file under a name asks for the list, attaches the file if the name
is not in it, and turns foreign key constraints on; the first failure ends it, and is passed on
with the statement that was being run.  If the engine lists truthfully what it keeps and no
call fails, then requests for one name leave that name in the catalog, beside those that were
there, and foreign key constraints on, and only the first one may attach the file. -/
theorem attached_at_most_once
    (s : Session) {w : World} (hconnected : w.connected = true) (hworded : w.Worded)
    (hpath : s.logQueries = true → s.settings.path.printable = true) (name : Text) :
    (let after := run (s.attach (.text name)) w
      ∃ cs, after.2.calls = w.calls ++ cs ∧ s.Attached (.start w) name cs after.1) ∧
    ∀ n : Nat,
      let w' := s.play w (List.replicate (n + 1) (.attach (.text name)))
      ∃ cs, w'.calls = w.calls ++ cs ∧
        ∀ c : Catalog, c.Truthful (.start w) cs → (Exchange.start w).failures cs = [] →
          c.afterAll (.start w) cs = ⟨insert name c.names, true⟩ ∧
            executed cs = s.attachPlan name (decide (name ∈ c.names)) ++
              (List.replicate n (s.attachPlan name true)).flatten := by
  have hstart : (Exchange.start w).Worded := Exchange.worded_start hworded
  have hanswers : (Exchange.start w).answers = w.answers := rfl
  refine ⟨?_, fun n => ?_⟩
  · obtain ⟨cs, hleads, hattached⟩ := s.attach_told hpath name hstart hanswers hconnected
    exact ⟨cs, hleads.calls, hattached⟩
  · obtain ⟨cs, hleads, hsettled⟩ := requests_told hpath name n hstart hanswers hconnected
    exact ⟨cs, hleads.calls, hsettled⟩

/-- An answer that lists names. -/
def naming (names : List Text) : Answer :=
  { Answer.silent with rows := names.map fun name => [.int 0, .text name, .text ""] }

theorem lists_naming
    (names : List Text) (on : Bool) :
    Catalog.Lists ⟨names.toFinset, on⟩ (naming names).rows := by
  have hseconds : seconds (naming names).rows = names.map .text := by
    simp [seconds, naming, List.filterMap_map]
  refine ⟨fun row hrow => ?_, fun name => ?_⟩
  · obtain ⟨name, -, rfl⟩ := List.mem_map.mp hrow
    exact ⟨.text name, rfl, rfl⟩
  · rw [listed, hseconds]
    simp

/-- An engine that is asked twice to attach a file under a name. -/
def askedTwice : World :=
  { (default : World) with
    connected := true
    answers := [naming ["main"], .silent, .silent, naming ["dev", "main"], .silent] }

/-- The calls of a request for that name, be it known or not. -/
def devCalls (known : Bool) : List EngineCall :=
  [.execute listStatement [], .fetch, .closeCursor] ++
    ((if known then [] else
        [.execute attachStatement [(default : Session).settings.path, .text "dev"]]) ++
      [.execute (foreignKeyStatement true) []])

theorem truthful_devCalls
    (known : Bool) (c : Catalog) (e : Exchange) (h : c.Lists e.next.rows) :
    c.Truthful e (devCalls known) := by
  have hattach : attachStatement ≠ listStatement := fun heq =>
    absurd (Value.text.inj heq) (by decide +kernel)
  have hkeys : foreignKeyStatement true ≠ listStatement := fun heq =>
    absurd (Value.text.inj heq) (by decide +kernel)
  refine ⟨fun _ _ => h, Catalog.truthful_of_unasked _ _ ?_⟩
  cases known <;> simp [EngineCall.statement?, hattach, hkeys]

theorem calls_askedTwice :
    (play default askedTwice (List.replicate 2 (.attach (.text "dev")))).calls =
      devCalls false ++ devCalls true := by
  with_unfolding_all rfl

/-- The file is attached by the first request and not by the second. -/
theorem attached_once_of_two :
    let s : Session := default
    let w' := s.play askedTwice (List.replicate 2 (.attach (.text "dev")))
    let main : Catalog := ⟨[("main" : Text)].toFinset, false⟩
    askedTwice.connected = true ∧ askedTwice.Worded ∧ s.logQueries = false ∧
      ∃ cs, w'.calls = cs ∧ main.Truthful (.start askedTwice) cs ∧
        (Exchange.start askedTwice).failures cs = [] ∧
        main.afterAll (.start askedTwice) cs = ⟨[("dev" : Text), "main"].toFinset, true⟩ ∧
        executed cs =
          [(listStatement, []), (attachStatement, [s.settings.path, .text "dev"]),
            (foreignKeyStatement true, []), (listStatement, []),
            (foreignKeyStatement true, [])] := by
  intro s w' main
  have hconnected : askedTwice.connected = true := rfl
  have hworded : askedTwice.Worded := by
    decide +kernel
  have hquiet : s.logQueries = false := rfl
  obtain ⟨cs, hcalls, hsettled⟩ :=
    (attached_at_most_once s hconnected hworded (fun h => by cases h) "dev").2 1
  have hmade : w'.calls = devCalls false ++ devCalls true := calls_askedTwice
  obtain rfl : cs = devCalls false ++ devCalls true := hcalls.symm.trans hmade
  have hclean : (Exchange.start askedTwice).failures (devCalls false ++ devCalls true) = [] :=
    List.length_eq_zero_iff.mp (by decide +kernel)
  have hattached : main.afterAll (.start askedTwice) (devCalls false) =
      ⟨[("dev" : Text), "main"].toFinset, true⟩ := by
    rw [main.afterAll_of_clean rfl]
    exact Catalog.foldl_tell_attachPlan s main "dev" false
  have htruthful : main.Truthful (.start askedTwice) (devCalls false ++ devCalls true) := by
    refine (main.truthful_append ..).mpr ⟨?_, ?_⟩
    · exact truthful_devCalls false main _ (lists_naming ["main"] false)
    · rw [hattached]
      exact truthful_devCalls true _ _ (lists_naming ["dev", "main"] true)
  obtain ⟨hafter, hall⟩ := hsettled main htruthful hclean
  have hnew : decide (("dev" : Text) ∈ main.names) = false := by
    decide +kernel
  rw [hnew] at hall
  refine ⟨hconnected, hworded, hquiet, _, hmade, htruthful, hclean, ?_, hall⟩
  rw [hafter]
  simp [main]

end Session

end Datalink
