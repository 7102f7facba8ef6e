import Datalink.Proofs.Text.Printing

/-!
# Lines of texts

Input: texts with a line feed behind each of them, one after the other.  A text may hold
line ends of its own.

Results: the lines are those of every text with its line feed, in order, so that no text is
joined with a line of another; no line holds a line end; and the lines are the texts
themselves if and only if none of the texts holds one.
-/

namespace Datalink

namespace Text

/-- Whether a text holds no line end. -/
def Unbroken (t : Text) : Prop := ∀ c ∈ t, c.isLineBreak = false

instance (t : Text) : Decidable (Unbroken t) :=
  inferInstanceAs (Decidable (∀ c ∈ t, c.isLineBreak = false))

@[simp] theorem unbroken_nil :
    Unbroken [] := by
  simp [Unbroken]

@[simp] theorem unbroken_cons
    (c : CodePoint) (t : Text) :
    Unbroken (c :: t) ↔ c.isLineBreak = false ∧ Unbroken t := by
  simp [Unbroken]

@[simp] theorem unbroken_append
    (s t : Text) :
    Unbroken (s ++ t) ↔ Unbroken s ∧ Unbroken t := by
  simp [Unbroken, or_imp, forall_and]

theorem PrintsFrom.unbroken
    {lowest : Nat} {t : Text} (h : PrintsFrom lowest t) (hlowest : 0x20 ≤ lowest) :
    Unbroken t :=
  fun c hc => CodePoint.not_break_of_printsFrom (h.of_le hlowest c hc)

/-- Texts with a separator between them hold no line end if and only if none of them
does. -/
theorem unbroken_join
    {sep : Text} (hsep : Unbroken sep) (ts : List Text) :
    Unbroken (join sep ts) ↔ ∀ t ∈ ts, Unbroken t := by
  induction ts with
  | nil =>
      simp [join]
  | cons t ts ih =>
      cases ts with
      | nil =>
          simp [join]
      | cons next ts =>
          simp only [join, unbroken_append, hsep, and_true, ih, List.forall_mem_cons]

/-! ## Lines one after the other -/

/-- A line end that is no carriage return with a line feed behind it ends a line. -/
theorem lines_cons_of_break
    {c : CodePoint} {t : Text} (h : c.isLineBreak = true)
    (hpair : c = .scalar '\r' → t.head? ≠ some (.scalar '\n')) :
    lines (c :: t) = [] :: lines t := by
  rw [lines, if_pos h]
  rintro rest hc rfl
  exact hpair hc rfl

theorem consLine_append
    (c : CodePoint) {ls : List Text} (hls : ls ≠ []) (others : List Text) :
    consLine c (ls ++ others) = consLine c ls ++ others := by
  cases ls with
  | nil =>
      exact absurd rfl hls
  | cons line ls =>
      rfl

theorem consLine_ne_nil
    (c : CodePoint) (ls : List Text) :
    consLine c ls ≠ [] := by
  cases ls <;> simp [consLine]

theorem lines_ne_nil
    {t : Text} (h : t ≠ []) :
    lines t ≠ [] := by
  revert h
  induction t using lines.fun_cases with
  | case1 =>
      exact fun h => absurd rfl h
  | case2 rest =>
      simp [lines]
  | case3 c rest hpair hbreak =>
      rw [lines.eq_3 c rest hpair, if_pos hbreak]
      simp
  | case4 c rest hpair hbreak =>
      rw [lines.eq_3 c rest hpair, if_neg hbreak]
      exact fun _ => consLine_ne_nil c _

/-- What stands behind a line feed starts a line of its own. -/
theorem lines_append_feed
    (s t : Text) :
    lines (s ++ .scalar '\n' :: t) = lines (s ++ [.scalar '\n']) ++ lines t := by
  -- The induction follows the reader; only a carriage return at the end of `s` makes one line
  -- end with the line feed.
  induction s using lines.induct with
  | case1 =>
      rfl
  | case2 rest ih =>
      simp only [List.cons_append, lines, ih]
  | case3 c rest hpair hbreak ih =>
      cases rest with
      | nil =>
          by_cases hc : c = .scalar '\r'
          · subst hc
            rfl
          · have hreturn : ∀ u : Text, c = .scalar '\r' → u.head? ≠ some (.scalar '\n') :=
              fun _ h => absurd h hc
            simp only [List.cons_append, List.nil_append,
              lines_cons_of_break hbreak (hreturn _)]
            rfl
      | cons d rest =>
          have hreturn : ∀ u : Text, c = .scalar '\r' →
              (d :: (rest ++ u)).head? ≠ some (.scalar '\n') := by
            rintro u hc hd
            exact hpair rest hc (congrArg (· :: rest) (Option.some.inj hd))
          simp only [List.cons_append] at ih ⊢
          rw [lines_cons_of_break hbreak (hreturn _), lines_cons_of_break hbreak (hreturn _),
            ih, List.cons_append]
  | case4 c rest hpair hbreak ih =>
      have hc : c.isLineBreak = false := by
        simpa using hbreak
      simp only [List.cons_append, lines_cons_of_not_break hc, ih]
      exact consLine_append c (lines_ne_nil (by simp)) _

/-- No line holds a line end. -/
theorem unbroken_of_mem_lines
    {line t : Text} (h : line ∈ lines t) :
    Unbroken line := by
  induction t using lines.induct generalizing line with
  | case1 =>
      cases h
  | case2 rest ih =>
      rcases List.mem_cons.mp h with rfl | h
      · exact unbroken_nil
      · exact ih h
  | case3 c rest hpair hbreak ih =>
      rw [lines.eq_3 c rest hpair, if_pos hbreak] at h
      rcases List.mem_cons.mp h with rfl | h
      · exact unbroken_nil
      · exact ih h
  | case4 c rest hpair hbreak ih =>
      rw [lines.eq_3 c rest hpair, if_neg hbreak] at h
      have hc : c.isLineBreak = false := by
        simpa using hbreak
      cases hlines : lines rest with
      | nil =>
          rw [hlines] at h
          rw [List.mem_singleton.mp h]
          simp [hc]
      | cons first others =>
          rw [hlines] at h ih
          rcases List.mem_cons.mp h with rfl | h
          · exact (unbroken_cons _ _).mpr ⟨hc, ih List.mem_cons_self⟩
          · exact ih (List.mem_cons_of_mem _ h)

/-- A text with a line feed behind it. -/
def terminated (t : Text) : Text := t ++ "\n"

theorem terminated_injective :
    Function.Injective terminated :=
  fun _ _ h => List.append_cancel_right h

/-- The lines of texts with a line feed behind each of them are those of every text. -/
theorem lines_flatMap_terminated
    (ts : List Text) :
    lines (ts.flatMap terminated) = ts.flatMap fun t => lines t.terminated := by
  induction ts with
  | nil =>
      rfl
  | cons t ts ih =>
      rw [List.flatMap_cons, List.flatMap_cons, ← ih, terminated, List.append_assoc]
      exact lines_append_feed t _

/-- Texts with a line feed behind each of them are the lines if and only if none of them
holds a line end. -/
theorem flatMap_lines_terminated_eq_iff
    (ts : List Text) :
    (ts.flatMap fun t => lines t.terminated) = ts ↔ ∀ t ∈ ts, Unbroken t := by
  constructor
  · intro h t ht
    rw [← h] at ht
    obtain ⟨u, -, hline⟩ := List.mem_flatMap.mp ht
    exact unbroken_of_mem_lines hline
  · intro h
    have hone : ∀ t ∈ ts, lines t.terminated = [t] := fun t ht => lines_line (h t ht) []
    rw [List.flatMap_def, List.map_congr_left hone, ← List.flatMap_def, List.flatMap_singleton']

end Text

end Datalink
