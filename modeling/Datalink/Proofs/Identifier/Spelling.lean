import Datalink.Proofs.Identifier.Reading
import Mathlib.Logic.Function.Basic

/-!
# Spellings of identifiers

Input: any text.  Parts are spelled between backticks, with dots between the parts, and a
backtick inside a part is spelled by two.

Results: the reader takes the one spelling off the front of a text behind which nothing
could be added to it, and finds none only if there is none.  A quoted identifier is the
spelling of its parts, so that it tells the identifier, and so does any text that opens
with it and goes on with neither a backtick nor a dot.
-/

namespace Datalink
namespace Identifier

/-- How the text of a part is spelled between its backticks. -/
inductive Escaped : Text → Text → Prop
  | nil :
      Escaped [] []
  | doubled
      {part t : Text}
      (h : Escaped part t) :
      Escaped (tick :: part) (tick :: tick :: t)
  | other
      {c : CodePoint} {part t : Text}
      (hc : c ≠ tick)
      (h : Escaped part t) :
      Escaped (c :: part) (c :: t)

/-- How parts are spelled one after the other. -/
inductive Spells : List Text → Text → Prop
  | last
      {part t : Text}
      (h : Escaped part t) :
      Spells [part] (tick :: (t ++ [tick]))
  | next
      {part t u : Text} {parts : List Text}
      (h : Escaped part t)
      (hs : Spells parts u) :
      Spells (part :: parts) (tick :: (t ++ tick :: dot :: u))

/-- The parts taken off the front of a text, and the text behind them. -/
def takeParts? : Text → Option (List Text × Text)
  | .scalar '`' :: rest => readParts rest
  | _ => none

theorem escaped_replace
    (part : Text) :
    Escaped part (part.replace tick [tick, tick]) := by
  induction part with
  | nil =>
      exact .nil
  | cons c part ih =>
      by_cases hc : c = tick
      · subst hc
        rw [Text.replace_cons_self]
        exact .doubled ih
      · rw [Text.replace_cons_of_ne hc]
        exact .other hc ih

theorem Escaped.eq_replace
    {part t : Text} (h : Escaped part t) :
    t = part.replace tick [tick, tick] := by
  induction h with
  | nil =>
      rfl
  | doubled h ih =>
      rw [Text.replace_cons_self, ← ih]
      rfl
  | other hc h ih =>
      rw [Text.replace_cons_of_ne hc, ← ih]

/-- Parts are spelled by quoting each of them. -/
theorem spells_quoteParts
    (part : Text) (parts : List Text) :
    Spells (part :: parts)
      (tick :: (part.replace tick [tick, tick] ++
        tick :: parts.flatMap fun p => dot :: quotePart p)) := by
  induction parts generalizing part with
  | nil =>
      exact .last (escaped_replace part)
  | cons next parts ih =>
      rw [List.flatMap_cons, List.cons_append, quotePart_append]
      exact .next (escaped_replace part) (ih next)

/-- There is no other spelling of parts. -/
theorem Spells.eq_quoteParts
    {parts : List Text} {t : Text} (h : Spells parts t) :
    ∃ first others,
      parts = first :: others ∧
      t = tick :: (first.replace tick [tick, tick] ++
        tick :: others.flatMap fun p => dot :: quotePart p) := by
  induction h with
  | @last part t h =>
      exact ⟨part, [], rfl, by rw [h.eq_replace, List.flatMap_nil]⟩
  | @next part t u parts h hs ih =>
      obtain ⟨first, others, rfl, rfl⟩ := ih
      refine ⟨part, first :: others, rfl, ?_⟩
      rw [h.eq_replace, List.flatMap_cons, List.cons_append, quotePart_append]

/-- A quoted identifier spells its parts. -/
theorem spells_quote
    (name : Text) :
    Spells (Text.splitAt dot name) (quote name) := by
  obtain ⟨part, parts, hparts, hquote⟩ := quote_append name []
  rw [List.append_nil, List.append_nil] at hquote
  rw [hparts, hquote]
  exact spells_quoteParts part parts

/-- A spelling behind which nothing could be added to it is taken off a text. -/
theorem Spells.takeParts?_append
    {parts : List Text} {t rest : Text} (h : Spells parts t) (hrest : Stops rest) :
    takeParts? (t ++ rest) = some (parts, rest) := by
  obtain ⟨first, others, rfl, rfl⟩ := h.eq_quoteParts
  rw [List.cons_append, List.append_assoc, List.cons_append, tick, takeParts?, ← tick]
  exact readParts_parts first others hrest

/-- A doubled backtick in front of the first part belongs to its text. -/
theorem Spells.doubled
    {part t : Text} {parts : List Text} (h : Spells (part :: parts) (tick :: t)) :
    Spells ((tick :: part) :: parts) (tick :: tick :: tick :: t) := by
  cases h with
  | last h =>
      exact .last (.doubled h)
  | next h hs =>
      exact .next (.doubled h) hs

/-- Any other code point in front of the first part belongs to its text. -/
theorem Spells.other
    {c : CodePoint} {part t : Text} {parts : List Text} (hc : c ≠ tick)
    (h : Spells (part :: parts) (tick :: t)) :
    Spells ((c :: part) :: parts) (tick :: c :: t) := by
  cases h with
  | last h =>
      exact .last (.other hc h)
  | next h hs =>
      exact .next (.other hc h) hs

/-- What is read from inside the first part on is the rest of a spelling, behind which
nothing could be added to it. -/
theorem spells_of_readParts
    {u rest : Text} {parts : List Text} (h : readParts u = some (parts, rest)) :
    ∃ t, Spells parts (tick :: t) ∧ u = t ++ rest ∧ Stops rest := by
  induction u using readParts.induct generalizing parts rest with
  | case1 u ih =>
      rw [← tick, readParts_doubled] at h
      obtain ⟨⟨parts', rest'⟩, hread, hpush⟩ := Option.map_eq_some_iff.mp h
      obtain ⟨t, hs, rfl, hstops⟩ := ih hread
      obtain ⟨first, others, rfl, -⟩ := hs.eq_quoteParts
      cases hpush
      exact ⟨tick :: tick :: t, hs.doubled, rfl, hstops⟩
  | case2 u ih =>
      rw [← tick, ← dot, readParts_nextPart] at h
      obtain ⟨⟨parts', rest'⟩, hread, hstart⟩ := Option.map_eq_some_iff.mp h
      obtain ⟨t, hs, rfl, hstops⟩ := ih hread
      cases hstart
      exact ⟨tick :: dot :: tick :: t, .next .nil hs, rfl, hstops⟩
  | case3 u htick hdot =>
      have hstops : Stops u := by
        refine ⟨?_, ?_⟩
        · intro hhead
          cases u with
          | nil =>
              cases hhead
          | cons c u =>
              cases hhead
              exact htick u rfl
        · rintro ⟨t, rfl⟩
          exact hdot t rfl
      rw [← tick, readParts_closing hstops] at h
      cases h
      exact ⟨[tick], .last .nil, rfl, hstops⟩
  | case4 c u hdoubled hnext hclosing ih =>
      have hc : c ≠ tick := by
        rintro rfl
        exact hclosing rfl
      rw [readParts_other hc] at h
      obtain ⟨⟨parts', rest'⟩, hread, hpush⟩ := Option.map_eq_some_iff.mp h
      obtain ⟨t, hs, rfl, hstops⟩ := ih hread
      obtain ⟨first, others, rfl, -⟩ := hs.eq_quoteParts
      cases hpush
      exact ⟨c :: t, hs.other hc, rfl, hstops⟩
  | case5 =>
      cases h

/-- The reader takes parts off a text exactly if the text opens with their spelling and
nothing behind it could be added to it. -/
theorem takeParts?_eq_some_iff
    {u rest : Text} {parts : List Text} :
    takeParts? u = some (parts, rest) ↔
      ∃ t, Spells parts t ∧ u = t ++ rest ∧ Stops rest := by
  constructor
  · intro h
    unfold takeParts? at h
    split at h
    · obtain ⟨t, hs, rfl, hstops⟩ := spells_of_readParts h
      exact ⟨tick :: t, hs, rfl, hstops⟩
    · cases h
  · rintro ⟨t, hs, rfl, hstops⟩
    exact hs.takeParts?_append hstops

/-- A text opens with one such spelling at most. -/
theorem Spells.unique
    {parts parts' : List Text} {t t' rest rest' : Text}
    (h : Spells parts t) (h' : Spells parts' t') (hrest : Stops rest) (hrest' : Stops rest')
    (heq : t ++ rest = t' ++ rest') :
    parts = parts' ∧ t = t' ∧ rest = rest' := by
  have hread := h.takeParts?_append hrest
  rw [heq, h'.takeParts?_append hrest'] at hread
  cases hread
  exact ⟨rfl, List.append_cancel_right heq, rfl⟩

/-- A quoted identifier is told by its text.  With a text behind it that opens with neither
a backtick nor a dot it is read back, part by part, and that text is left; no other spelling
could be taken off the whole. -/
theorem quote_read_in_one_way :
    Function.Injective quote ∧
      ∀ (name rest : Text), Ends rest →
        (∃ parts, takeParts? (quote name ++ rest) = some (parts, rest) ∧
          Text.join [dot] parts = name) ∧
        ∀ (parts : List Text) (t rest' : Text), Spells parts t → Stops rest' →
          t ++ rest' = quote name ++ rest →
            parts = Text.splitAt dot name ∧ t = quote name ∧ rest' = rest := by
  have hread : ∀ name rest : Text, Ends rest →
      takeParts? (quote name ++ rest) = some (Text.splitAt dot name, rest) :=
    fun name rest h => (spells_quote name).takeParts?_append h.stops
  refine ⟨fun name other heq => ?_, fun name rest h => ⟨?_, ?_⟩⟩
  · have hname := hread name [] ends_nil
    rw [heq, hread other [] ends_nil] at hname
    have hparts : Text.splitAt dot other = Text.splitAt dot name :=
      congrArg Prod.fst (Option.some.inj hname)
    rw [← Text.join_splitAt dot name, ← hparts, Text.join_splitAt]
  · exact ⟨_, hread name rest h, Text.join_splitAt dot name⟩
  · intro parts t rest' hs hstops heq
    exact hs.unique (spells_quote name) hstops h.stops heq

/-- Two parts of one backtick each. -/
def tickParts : List Text := ["`", "`"]

/-- The name of these parts is read back in front of a condition. -/
theorem ticks_read_in_one_way :
    Ends " IS NULL" ∧ quote "`.`" = ("````.````" : Text) ∧
      takeParts? "````.```` IS NULL" = some (tickParts, (" IS NULL" : Text)) ∧
      ∀ (parts : List Text) (t rest : Text), Spells parts t → Stops rest →
        t ++ rest = ("````.```` IS NULL" : Text) → parts = tickParts := by
  have hends : Ends " IS NULL" := by
    constructor <;> decide
  have hquote : quote "`.`" ++ (" IS NULL" : Text) = ("````.```` IS NULL" : Text) := by
    decide
  have hsplit : Text.splitAt dot "`.`" = tickParts := by
    decide
  obtain ⟨⟨parts, hread, -⟩, hone⟩ := quote_read_in_one_way.2 "`.`" " IS NULL" hends
  rw [hquote] at hread hone
  obtain ⟨t, hs, heq, hstops⟩ := takeParts?_eq_some_iff.mp hread
  obtain ⟨hparts, -, -⟩ := hone parts t _ hs hstops heq.symm
  refine ⟨hends, by decide, by rw [hread, hparts, hsplit], fun parts t rest hs hstops heq => ?_⟩
  obtain ⟨hparts, -, -⟩ := hone parts t rest hs hstops heq
  rw [hparts, hsplit]

end Identifier
end Datalink
