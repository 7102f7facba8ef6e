import Datalink.Text.Encoding
import Datalink.Text.Lines
import Datalink.Text.Printable
import Mathlib.Data.List.Chain

/-!
# Texts that print

What numbers and documents are written in: code points of ASCII from the space on, or from
the one behind the space on.  Of all other code points a table says which ones print.

Results: such a text of ASCII stays in one line and has an encoding, and without spaces it has
no blanks either.  A code point that prints is in no range of the table, so that it ends no
line.
-/

namespace Datalink

namespace CodePoint

/-- Whether a code point of ASCII is a given one or behind it, and no control behind the
printing ones. -/
def printsFrom (lowest : Nat) (c : CodePoint) : Bool :=
  lowest ≤ c.code && c.code ≤ 0x7E

theorem printsFrom_iff
    (lowest : Nat) (c : CodePoint) :
    c.printsFrom lowest = true ↔ lowest ≤ c.code ∧ c.code ≤ 0x7E := by
  simp [printsFrom]

theorem not_break_of_printsFrom
    {c : CodePoint} (h : c.printsFrom 0x20 = true) :
    c.isLineBreak = false := by
  rw [printsFrom_iff] at h
  simp only [isLineBreak, Bool.or_eq_false_iff, Bool.and_eq_false_iff,
    decide_eq_false_iff_not, beq_eq_false_iff_ne]
  omega

theorem not_blank_of_printsFrom
    {c : CodePoint} (h : c.printsFrom 0x21 = true) :
    c.isBlank = false := by
  rw [printsFrom_iff] at h
  simp only [isBlank, Bool.or_eq_false_iff, Bool.and_eq_false_iff,
    decide_eq_false_iff_not, beq_eq_false_iff_ne]
  omega

theorem not_surrogate_of_printsFrom
    {lowest : Nat} {c : CodePoint} (h : c.printsFrom lowest = true) :
    c.isSurrogate = false := by
  cases c with
  | scalar c =>
      rfl
  | surrogate s =>
      have hhigh : 0xD800 + s.val ≤ 0x7E := ((printsFrom_iff _ _).mp h).2
      omega

theorem printsFrom_of_isDigit
    {c : CodePoint} (h : c.isDigit = true) :
    c.printsFrom 0x21 = true := by
  cases c with
  | scalar c =>
      simp only [isDigit, Char.isDigit, Bool.and_eq_true, decide_eq_true_eq] at h
      have hlow : 48 ≤ c.toNat := h.1
      have hhigh : c.toNat ≤ 57 := h.2
      rw [printsFrom_iff, code]
      omega
  | surrogate s =>
      cases h

/-! ### The table of what does not print -/

/-- The search for a number stops at a range beyond it, and loses nothing by that. -/
theorem inRanges_iff
    {ranges : List (Nat × Nat)} (hordered : (ranges.map Prod.fst).Pairwise (· < ·)) (n : Nat) :
    inRanges n ranges = true ↔ ∃ r ∈ ranges, r.1 ≤ n ∧ n ≤ r.2 := by
  induction ranges with
  | nil =>
      simp [inRanges]
  | cons r ranges ih =>
      obtain ⟨hfirst, hrest⟩ := List.pairwise_cons.mp hordered
      have hbeyond : (∃ s ∈ ranges, s.1 ≤ n ∧ n ≤ s.2) → r.1 ≤ n := by
        rintro ⟨s, hs, hn, -⟩
        have hlt : r.1 < s.1 := hfirst s.1 (List.mem_map_of_mem hs)
        omega
      rw [inRanges, Bool.and_eq_true, Bool.or_eq_true, ih hrest, decide_eq_true_iff,
        decide_eq_true_iff, List.exists_mem_cons_iff, and_or_left, and_iff_right_of_imp hbeyond]

theorem nonprinting_ordered :
    (nonprinting.map Prod.fst).Pairwise (· < ·) := by
  rw [← List.isChain_iff_pairwise]
  decide +kernel

/-- What prints is in none of the ranges. -/
theorem isPrinting_iff
    (c : CodePoint) :
    c.isPrinting = true ↔ ∀ r ∈ nonprinting, ¬ (r.1 ≤ c.code ∧ c.code ≤ r.2) := by
  rw [isPrinting, Bool.not_eq_true', ← Bool.not_eq_true, inRanges_iff nonprinting_ordered]
  simp only [not_exists, not_and]

/-- What prints as it is ends no line. -/
theorem not_break_of_isPrinting
    {c : CodePoint} (h : c.isPrinting = true) :
    c.isLineBreak = false := by
  have hout := c.isPrinting_iff.mp h
  have hcontrols := hout (0x00, 0x1F) (by decide +kernel)
  have hnext := hout (0x7F, 0xA0) (by decide +kernel)
  have hseparators := hout (0x2028, 0x202F) (by decide +kernel)
  simp only [isLineBreak, Bool.or_eq_false_iff, Bool.and_eq_false_iff,
    decide_eq_false_iff_not, beq_eq_false_iff_ne]
  omega

end CodePoint

namespace Text

/-- Whether all code points of a text are in ASCII, printing, and a given one or behind
it. -/
def PrintsFrom (lowest : Nat) (t : Text) : Prop := ∀ c ∈ t, c.printsFrom lowest = true

variable {lowest : Nat}

instance (t : Text) : Decidable (PrintsFrom lowest t) :=
  inferInstanceAs (Decidable (∀ c ∈ t, c.printsFrom lowest = true))

@[simp] theorem printsFrom_nil :
    PrintsFrom lowest [] := by
  simp [PrintsFrom]

@[simp] theorem printsFrom_cons
    (c : CodePoint) (t : Text) :
    PrintsFrom lowest (c :: t) ↔ c.printsFrom lowest = true ∧ PrintsFrom lowest t := by
  simp [PrintsFrom]

@[simp] theorem printsFrom_append
    (s t : Text) :
    PrintsFrom lowest (s ++ t) ↔ PrintsFrom lowest s ∧ PrintsFrom lowest t := by
  simp [PrintsFrom, or_imp, forall_and]

theorem PrintsFrom.of_subset
    {s t : Text} (h : PrintsFrom lowest t) (hs : s ⊆ t) :
    PrintsFrom lowest s :=
  fun c hc => h c (hs hc)

theorem PrintsFrom.of_le
    {least : Nat} {t : Text} (h : PrintsFrom lowest t) (hle : least ≤ lowest) :
    PrintsFrom least t := by
  intro c hc
  have hcode := (CodePoint.printsFrom_iff _ _).mp (h c hc)
  exact (CodePoint.printsFrom_iff _ _).mpr ⟨Nat.le_trans hle hcode.1, hcode.2⟩

theorem lines_cons_of_not_break
    {c : CodePoint} (h : c.isLineBreak = false) (t : Text) :
    lines (c :: t) = consLine c (lines t) := by
  rw [lines]
  · simp [h]
  · rintro rest rfl
    cases h

/-- A text without line ends in front of a line feed is the first line. -/
theorem lines_line
    {t : Text} (h : ∀ c ∈ t, c.isLineBreak = false) (rest : Text) :
    lines (t ++ .scalar '\n' :: rest) = t :: lines rest := by
  induction t with
  | nil =>
      rfl
  | cons c t ih =>
      rw [List.cons_append, lines_cons_of_not_break (h c List.mem_cons_self),
        ih fun d hd => h d (List.mem_cons_of_mem c hd)]
      rfl

end Text

end Datalink
