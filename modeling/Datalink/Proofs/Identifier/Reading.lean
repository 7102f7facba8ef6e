import Datalink.Identifier

/-!
# Reading quoted identifiers

Input: text that opens with a quoted identifier.  The reader takes parts between
backticks for as long as a dot and a further part follow, and it takes a doubled
backtick inside a part for one backtick.

Results: a quoted identifier is read back, and the text behind it is left as it is,
provided that this text opens neither with a backtick nor with a dot.  Any other text
that the identifier is followed by would be taken for a piece of it.
-/

namespace Datalink
namespace Identifier

/-- A code point in front of the first part that was read. -/
def push (c : CodePoint) : List Text × Text → List Text × Text
  | ([], rest) => ([[c]], rest)
  | (part :: parts, rest) => ((c :: part) :: parts, rest)

/-- An empty part in front of those that were read. -/
def startPart (r : List Text × Text) : List Text × Text := ([] :: r.1, r.2)

/-- The parts of an identifier from inside its first part on, and the text behind the
identifier. -/
def readParts : Text → Option (List Text × Text)
  | .scalar '`' :: .scalar '`' :: rest => (readParts rest).map (push tick)
  | .scalar '`' :: .scalar '.' :: .scalar '`' :: rest => (readParts rest).map startPart
  | .scalar '`' :: rest => some ([[]], rest)
  | c :: rest => (readParts rest).map (push c)
  | [] => none

/-- A quoted identifier taken off the front of a text. -/
def read? : Text → Option (Text × Text)
  | .scalar '`' :: rest => (readParts rest).map fun r => (Text.join [dot] r.1, r.2)
  | _ => none

/-- Whether a reader that was at a closing backtick has come to the end: the backtick is not
the first of two, and no further part follows. -/
def Stops (rest : Text) : Prop := rest.head? ≠ some tick ∧ ¬ [dot, tick] <+: rest

/-- Whether a text can stand behind a quoted identifier without becoming a piece of
it. -/
def Ends (rest : Text) : Prop := rest.head? ≠ some tick ∧ rest.head? ≠ some dot

theorem Ends.stops
    {rest : Text} (h : Ends rest) :
    Stops rest := by
  refine ⟨h.1, ?_⟩
  rintro ⟨t, rfl⟩
  exact h.2 rfl

theorem ends_nil :
    Ends [] := by
  constructor <;> simp

theorem ends_cons
    {c : CodePoint} (ht : c ≠ tick) (hd : c ≠ dot) (rest : Text) :
    Ends (c :: rest) := by
  constructor <;> simpa

/-- A backtick at which an identifier ends is left behind. -/
theorem readParts_closing
    {rest : Text} (h : Stops rest) :
    readParts (tick :: rest) = some ([[]], rest) := by
  obtain ⟨ht, hd⟩ := h
  have htick : ∀ t, rest ≠ .scalar '`' :: t := by
    rintro t rfl
    exact ht rfl
  have hdot : ∀ t, rest ≠ .scalar '.' :: .scalar '`' :: t := by
    rintro t rfl
    exact hd ⟨t, rfl⟩
  rw [tick, readParts]
  · exact fun t h => htick t h
  · exact fun t h => hdot t h

theorem readParts_nextPart
    (rest : Text) :
    readParts (tick :: dot :: tick :: rest) = (readParts rest).map startPart := by
  rw [tick, dot, readParts]

theorem readParts_doubled
    (rest : Text) :
    readParts (tick :: tick :: rest) = (readParts rest).map (push tick) := by
  rw [tick, readParts]
  rfl

theorem readParts_other
    {c : CodePoint} (h : c ≠ tick) (rest : Text) :
    readParts (c :: rest) = (readParts rest).map (push c) := by
  rw [readParts]
  · rintro t rfl
    exact absurd rfl h
  · rintro t rfl
    exact absurd rfl h
  · rintro rfl
    exact absurd rfl h

/-- The text of a part is read back code point by code point. -/
theorem readParts_replace_append
    (part rest : Text) :
    readParts (part.replace tick [tick, tick] ++ rest) =
      (readParts rest).map fun r => part.foldr push r := by
  induction part with
  | nil =>
      simp [Text.replace]
  | cons c part ih =>
      by_cases hc : c = tick
      · subst hc
        simp only [Text.replace_cons_self, List.cons_append, List.nil_append]
        rw [readParts_doubled, ih, Option.map_map]
        rfl
      · rw [Text.replace_cons_of_ne hc, List.cons_append, readParts_other hc, ih,
          Option.map_map]
        rfl

theorem foldr_push
    (part first : Text) (parts : List Text) (rest : Text) :
    List.foldr push (first :: parts, rest) part = ((part ++ first) :: parts, rest) := by
  induction part with
  | nil =>
      rfl
  | cons c part ih =>
      simp [ih, push]

/-- A quoted part is a backtick, its text, and what follows from the closing backtick
on. -/
theorem quotePart_append
    (part rest : Text) :
    quotePart part ++ rest = tick :: (part.replace tick [tick, tick] ++ tick :: rest) := by
  simp [quotePart]

/-- From inside a part on, this part and all parts behind dots are read back. -/
theorem readParts_parts
    (part : Text) (parts : List Text) {rest : Text} (h : Stops rest) :
    readParts
        (part.replace tick [tick, tick] ++
          tick :: ((parts.flatMap fun p => dot :: quotePart p) ++ rest)) =
      some (part :: parts, rest) := by
  induction parts generalizing part with
  | nil =>
      rw [List.flatMap_nil, List.nil_append, readParts_replace_append, readParts_closing h]
      simp [foldr_push]
  | cons next parts ih =>
      rw [List.flatMap_cons, List.append_assoc, List.cons_append, quotePart_append,
        readParts_replace_append, readParts_nextPart, ih next]
      simp [startPart, foldr_push]

/-- A quoted identifier opens with a backtick, behind which its parts are read back. -/
theorem quote_append
    (name rest : Text) :
    ∃ part parts,
      Text.splitAt dot name = part :: parts ∧
      quote name ++ rest =
        tick :: (part.replace tick [tick, tick] ++
          tick :: ((parts.flatMap fun p => dot :: quotePart p) ++ rest)) := by
  cases hparts : Text.splitAt dot name with
  | nil =>
      exact absurd hparts (Text.splitAt_ne_nil dot name)
  | cons part parts =>
      refine ⟨part, parts, rfl, ?_⟩
      rw [quote, hparts, List.map_cons, Text.join_cons, List.append_assoc, quotePart_append]
      simp [List.flatMap_map]

/-- A quoted identifier is read back, and the text behind it is left. -/
theorem read?_quote_append
    (name : Text) {rest : Text} (h : Ends rest) :
    read? (quote name ++ rest) = some (name, rest) := by
  obtain ⟨part, parts, hparts, hquote⟩ := quote_append name rest
  have hname : Text.join [dot] (part :: parts) = name := by
    rw [← hparts, Text.join_splitAt]
  rw [hquote, tick, read?, ← tick, readParts_parts part parts h.stops]
  simp [hname]

end Identifier
end Datalink
