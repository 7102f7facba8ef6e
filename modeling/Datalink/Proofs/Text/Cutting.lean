import Datalink.Text.Basic

/-!
# Cutting texts

A text is cut at the first separator or at all of them, and an opening is taken off.  The
recursive definitions are said again here in the words of lists.

Results: what stands before and behind the first separator, the parts between all
separators, and the rest of a text that has an opening.
-/

namespace Datalink

namespace Text

/-- What stands before and behind the first separator. -/
theorem cut_eq
    (sep : CodePoint) (t : Text) :
    cut sep t =
      (t.takeWhile (· ≠ sep),
        if sep ∈ t then some ((t.dropWhile (· ≠ sep)).drop 1) else none) := by
  induction t with
  | nil =>
      rfl
  | cons c rest ih =>
      by_cases hc : c = sep
      · subst hc
        simp [cut]
      · simp [cut, hc, Ne.symm hc, ih]

/-- The parts between all separators. -/
theorem splitAt_eq_splitOn
    (sep : CodePoint) (t : Text) :
    splitAt sep t = t.splitOn sep := by
  induction t with
  | nil =>
      simp [splitAt]
  | cons c rest ih =>
      rw [List.splitOn] at ih ⊢
      rw [List.splitOnP_cons_eq_if_modifyHead, ← ih]
      by_cases hc : c = sep
      · simp [splitAt, hc]
      · obtain ⟨part, parts, hparts⟩ := List.exists_cons_of_ne_nil (splitAt_ne_nil sep rest)
        simp [splitAt, hc, hparts]

theorem eq_append_of_dropOpening?
    {opening t rest : Text} (h : dropOpening? opening t = some rest) :
    t = opening ++ rest := by
  induction opening generalizing t with
  | nil =>
      exact Option.some.inj h
  | cons o opening ih =>
      cases t with
      | nil =>
          cases h
      | cons c t =>
          by_cases ho : o = c
          · rw [dropOpening?, if_pos ho] at h
            rw [ih h, ho, List.cons_append]
          · rw [dropOpening?, if_neg ho] at h
            cases h

/-- An opening is taken off if it is there. -/
theorem getD_dropOpening?
    (opening t : Text) :
    (dropOpening? opening t).getD t =
      if opening <+: t then t.drop opening.length else t := by
  cases hrest : dropOpening? opening t with
  | some rest =>
      have ht := eq_append_of_dropOpening? hrest
      have hopening : opening <+: t := ⟨rest, ht.symm⟩
      rw [if_pos hopening, ht, List.drop_left, Option.getD_some]
  | none =>
      have hno : ¬ opening <+: t := by
        rintro ⟨rest, rfl⟩
        rw [dropOpening?_append] at hrest
        cases hrest
      rw [if_neg hno, Option.getD_none]

end Text

end Datalink
