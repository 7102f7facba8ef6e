import Datalink.Numeral.Layout
import Datalink.Numeral.Reader
import Datalink.Proofs.Text.Printing

/-!
# Reading numbers in front of other text

The reader of numbers goes on for as long as what it finds can be a piece of the number.
A text that opens with a code point that stands in no number is left behind as it is.

Results: a number is read in front of such a text as it is read alone, what the reader
leaves is an end of what it was given, and the digits of an integer are read as that
integer.  The text of a number, whole or not, has visible code points only.
-/

namespace Datalink
namespace Numeral

/-- Whether a code point can be a piece of a number. -/
def isPiece (c : CodePoint) : Bool :=
  c.isDigit || c == .scalar '.' || c == .scalar 'e' || c == .scalar 'E' ||
    c == .scalar '+' || c == .scalar '-'

/-- Whether a text can stand behind a number without becoming a piece of it. -/
def Ends (rest : Text) : Prop := ∀ c ∈ rest.head?, isPiece c = false

section Ends

variable {rest : Text} (h : Ends rest)

include h

/-- A text that stands behind numbers opens with none of their pieces. -/
theorem Ends.ne_cons
    {c : CodePoint} (hc : isPiece c = true) (t : Text) :
    rest ≠ c :: t := by
  rintro rfl
  have hno := h c rfl
  rw [hc] at hno
  cases hno

theorem takeMinus_append
    (t : Text) :
    takeMinus (t ++ rest) = Prod.map id (· ++ rest) (takeMinus t) := by
  cases t with
  | nil =>
      simp [takeMinus, h.ne_cons (c := .scalar '-') (by decide)]
  | cons c t =>
      by_cases hc : c = .scalar '-'
      · subst hc
        rfl
      · simp [takeMinus, hc]

theorem takeSign_append
    (t : Text) :
    takeSign (t ++ rest) = Prod.map id (· ++ rest) (takeSign t) := by
  cases t with
  | nil =>
      simp [takeSign, h.ne_cons (c := .scalar '-') (by decide),
        h.ne_cons (c := .scalar '+') (by decide)]
  | cons c t =>
      by_cases hminus : c = .scalar '-'
      · subst hminus
        rfl
      · by_cases hplus : c = .scalar '+'
        · subst hplus
          rfl
        · simp [takeSign, hminus, hplus]

theorem takeDigits_append
    (t : Text) :
    takeDigits (t ++ rest) = Prod.map id (· ++ rest) (takeDigits t) := by
  induction t with
  | nil =>
      cases rest with
      | nil =>
          rfl
      | cons c rest =>
          have hc : c.isDigit = false := by
            have hpiece := h c rfl
            simp only [isPiece, Bool.or_eq_false_iff] at hpiece
            simp [hpiece]
          simp [takeDigits, hc]
  | cons c t ih =>
      simp only [takeDigits, Prod.map, id, Prod.mk.injEq] at ih
      by_cases hc : c.isDigit = true
      · simp [takeDigits, hc, ih]
      · simp [takeDigits, hc]

theorem takeFraction_append
    (t : Text) :
    takeFraction (t ++ rest) = Prod.map id (· ++ rest) (takeFraction t) := by
  cases t with
  | nil =>
      simp [takeFraction, h.ne_cons (c := .scalar '.') (by decide)]
  | cons c t =>
      by_cases hc : c = .scalar '.'
      · subst hc
        have hdigits := takeDigits_append h t
        simp only [List.cons_append, takeFraction, hdigits]
        obtain ⟨_ | ⟨d, digits⟩, after⟩ := takeDigits t <;> rfl
      · simp [takeFraction, hc]

theorem exponentMark?_append
    (t : Text) :
    exponentMark? (t ++ rest) = (exponentMark? t).map (· ++ rest) := by
  cases t with
  | nil =>
      simp [exponentMark?, h.ne_cons (c := .scalar 'e') (by decide),
        h.ne_cons (c := .scalar 'E') (by decide)]
  | cons c t =>
      by_cases hlower : c = .scalar 'e'
      · subst hlower
        rfl
      · by_cases hupper : c = .scalar 'E'
        · subst hupper
          rfl
        · simp [exponentMark?, hlower, hupper]

theorem takeExponent_append
    (t : Text) :
    takeExponent (t ++ rest) = Prod.map id (· ++ rest) (takeExponent t) := by
  simp only [takeExponent, exponentMark?_append h]
  cases exponentMark? t with
  | none =>
      rfl
  | some marked =>
      simp only [Option.map_some, takeSign_append h, Prod.map, takeDigits_append h, id]
      obtain ⟨_ | ⟨d, digits⟩, after⟩ := takeDigits (takeSign marked).2 <;> rfl

/-- A number is read in front of other text as it is read alone. -/
theorem read?_append
    (t : Text) :
    read? (t ++ rest) = (read? t).map (Prod.map id (· ++ rest)) := by
  simp only [read?, takeMinus_append h, Prod.map, takeDigits_append h, id]
  obtain ⟨_ | ⟨d, digits⟩, after⟩ := takeDigits (takeMinus t).2
  · rfl
  · simp [takeFraction_append h, takeExponent_append h, Prod.map]

end Ends

section Suffixes

theorem takeMinus_suffix
    (t : Text) :
    (takeMinus t).2 <:+ t := by
  unfold takeMinus
  split
  · exact List.suffix_cons _ _
  · exact List.suffix_rfl

theorem takeSign_suffix
    (t : Text) :
    (takeSign t).2 <:+ t := by
  unfold takeSign
  split
  · exact List.suffix_cons _ _
  · exact List.suffix_cons _ _
  · exact List.suffix_rfl

theorem takeDigits_suffix
    (t : Text) :
    (takeDigits t).2 <:+ t :=
  List.dropWhile_suffix _

theorem takeFraction_suffix
    (t : Text) :
    (takeFraction t).2 <:+ t := by
  unfold takeFraction
  split
  · rename_i rest
    have hdigits := takeDigits_suffix rest
    split
    · exact List.suffix_rfl
    · rename_i hd
      rw [hd] at hdigits
      exact hdigits.trans (List.suffix_cons _ _)
  · exact List.suffix_rfl

theorem exponentMark?_suffix
    {t marked : Text} (h : exponentMark? t = some marked) :
    marked <:+ t := by
  unfold exponentMark? at h
  split at h
  · cases h
    exact List.suffix_cons _ _
  · cases h
    exact List.suffix_cons _ _
  · cases h

theorem takeExponent_suffix
    (t : Text) :
    (takeExponent t).2 <:+ t := by
  unfold takeExponent
  split
  · exact List.suffix_rfl
  · rename_i marked hmark
    have hdigits := takeDigits_suffix (takeSign marked).2
    dsimp only
    split
    · exact List.suffix_rfl
    · rename_i hd
      rw [hd] at hdigits
      exact (hdigits.trans (takeSign_suffix marked)).trans (exponentMark?_suffix hmark)

/-- What is left behind a number is an end of the text that it was read from. -/
theorem read?_suffix
    {t rest : Text} {w : Written} (h : read? t = some (w, rest)) :
    rest <:+ t := by
  have hdigits := takeDigits_suffix (takeMinus t).2
  unfold read? at h
  dsimp only at h
  split at h
  · cases h
  · rename_i hd
    rw [hd] at hdigits
    cases h
    exact (((takeExponent_suffix _).trans (takeFraction_suffix _)).trans hdigits).trans
      (takeMinus_suffix t)

end Suffixes

/-! ## Digits -/

theorem natural_ne_nil
    (n : Nat) :
    natural n ≠ [] := by
  simp [natural]

/-- A number has digits only. -/
theorem isDigit_of_mem_natural
    {n : Nat} {c : CodePoint} (h : c ∈ natural n) :
    c.isDigit = true := by
  obtain ⟨d, hd, rfl⟩ := List.mem_map.mp h
  exact Nat.isDigit_of_mem_toDigits (by decide) (by decide) hd

/-- The digits of a number denote it. -/
@[simp] theorem ofDigits_natural
    (n : Nat) :
    ofDigits (natural n) = n := by
  have hread : Nat.ofDigitChars 10 (Nat.toDigits 10 n) 0 = n := Nat.ofDigitChars_ten_toDigits
  rw [Nat.ofDigitChars] at hread
  simp only [ofDigits, natural, List.foldl_map, CodePoint.code]
  simpa [Nat.mul_comm] using hread

/-- A number above nine has its tenth in front of its last digit. -/
theorem natural_of_ten_le
    {n : Nat} (h : 10 ≤ n) :
    natural n = natural (n / 10) ++ [digit (n % 10)] := by
  simp [natural, digit, Nat.toDigits_of_base_le (by decide) h]

theorem natural_of_lt_ten
    {n : Nat} (h : n < 10) :
    natural n = [digit n] := by
  simp [natural, digit, Nat.toDigits_of_lt_base h]

/-- A positive number does not start with a zero. -/
theorem head?_natural_ne_zero
    {n : Nat} (h : 0 < n) :
    (natural n).head? ≠ some (.scalar '0') := by
  induction n using Nat.strongRecOn with
  | ind n ih =>
      by_cases hsmall : n < 10
      · rw [natural_of_lt_ten hsmall]
        simp [digit]
        omega
      · have hten : 10 ≤ n := by
          omega
        have htenth := ih (n / 10) (by omega) (by omega)
        rw [natural_of_ten_le hten]
        cases hn : natural (n / 10) with
        | nil =>
            exact absurd hn (natural_ne_nil _)
        | cons d digits =>
            rwa [hn] at htenth

theorem length_natural_le
    {n limit : Nat} (hlimit : 0 < limit) (h : n < Nat.pow 10 limit) :
    (natural n).length ≤ limit := by
  rw [natural, List.length_map]
  exact (Nat.length_toDigits_le_iff (by decide) hlimit).mpr h

theorem takeDigits_natural
    (n : Nat) :
    takeDigits (natural n) = (natural n, []) := by
  have hall := fun c (hc : c ∈ natural n) => isDigit_of_mem_natural hc
  have htake := @List.takeWhile_append_of_pos _ _ _ [] hall
  have hdrop := @List.dropWhile_append_of_pos _ _ _ [] hall
  simp only [List.append_nil, List.takeWhile_nil, List.dropWhile_nil] at htake hdrop
  rw [takeDigits, htake, hdrop]

/-- The digits of a number are no minus sign. -/
theorem takeMinus_natural
    (n : Nat) :
    takeMinus (natural n) = (false, natural n) := by
  unfold takeMinus
  split
  · rename_i rest heq
    have hdigit := isDigit_of_mem_natural (n := n) (c := .scalar '-') (by rw [heq]; simp)
    cases hdigit
  · rfl

theorem read?_of_takeMinus
    {t : Text} {negative : Bool} {n : Nat} (h : takeMinus t = (negative, natural n)) :
    read? t = some (⟨negative, natural n, none, none⟩, []) := by
  simp only [read?, h, takeDigits_natural]
  cases hn : natural n with
  | nil =>
      exact absurd hn (natural_ne_nil n)
  | cons d digits =>
      rfl

/-- The text of an integer is read as its sign and its digits. -/
theorem read?_integer
    (n : Int) :
    read? (integer n) = some (⟨decide (n < 0), natural n.natAbs, none, none⟩, []) := by
  cases n with
  | ofNat n =>
      rw [integer, read?_of_takeMinus (takeMinus_natural n)]
      rfl
  | negSucc n =>
      have hminus : takeMinus (integer (.negSucc n)) = (true, natural (n + 1)) := rfl
      rw [read?_of_takeMinus hminus, decide_eq_true (Int.negSucc_lt_zero n)]
      rfl

/-! ## The text of a number -/

/-- Whether a text has visible code points of ASCII only: no blanks and no controls. -/
abbrev Visible (t : Text) : Prop := t.PrintsFrom 0x21

@[simp] theorem visible_natural
    (n : Nat) :
    Visible (natural n) :=
  fun _ hc => CodePoint.printsFrom_of_isDigit (isDigit_of_mem_natural hc)

@[simp] theorem visible_zeros
    (count : Nat) :
    Visible (zeros count) := by
  intro c hc
  rw [List.eq_of_mem_replicate hc]
  decide

theorem visible_integer
    (n : Int) :
    Visible (integer n) := by
  cases n with
  | ofNat n =>
      exact visible_natural n
  | negSucc n =>
      exact (Text.printsFrom_cons _ _).mpr ⟨by decide, visible_natural _⟩

theorem visible_positional
    {digits : Text} (h : Visible digits) (point : Int) :
    Visible (positional digits point) := by
  have hfront : Visible "0." := by
    decide
  have hpoint : Visible "." := by
    decide
  have hback : Visible ".0" := by
    decide
  have htake : Visible (digits.take point.toNat) := h.of_subset (List.take_subset _ _)
  have hdrop : Visible (digits.drop point.toNat) := h.of_subset (List.drop_subset _ _)
  unfold positional
  split
  · simp [hfront, h]
  · split
    · simp [hback, h]
    · simp [hpoint, htake, hdrop]

theorem visible_exponentText
    (width : Nat) (e : Int) :
    Visible (exponentText width e) := by
  have hmark : CodePoint.printsFrom 0x21 (.scalar 'e') = true := by
    decide
  have hsign : CodePoint.printsFrom 0x21 (if e < 0 then .scalar '-' else .scalar '+') =
      true := by
    split <;> decide
  simp [exponentText, hmark, hsign]

theorem visible_scientific
    (width : Nat) {digits : Text} (h : Visible digits) (point : Int) :
    Visible (scientific width digits point) := by
  have hpoint : CodePoint.printsFrom 0x21 (.scalar '.') = true := by
    decide
  have htake : Visible (digits.take 1) := h.of_subset (List.take_subset _ _)
  have htail : Visible digits.tail := fun c hc => h c (List.mem_of_mem_tail hc)
  unfold scientific
  dsimp only
  split
  · simp [htake, visible_exponentText]
  · simp [htake, visible_exponentText, hpoint, htail]

/-- The text of a floating-point number is visible if the names of those that are no
numbers are. -/
theorem visible_render
    {layout : Layout} (hnan : Visible layout.notANumber) (hinf : Visible layout.infinity)
    (x : Float) :
    Visible (layout.render x) := by
  have hsign : ∀ negative, Visible (Layout.sign negative) := by
    decide
  have hzero : Visible "0.0" := by
    decide
  have hdecimal : ∀ d, Visible (layout.decimal d) := by
    intro d
    unfold Layout.decimal
    dsimp only
    split
    · exact visible_positional (visible_natural _) _
    · exact visible_scientific _ (visible_natural _) _
  unfold Layout.render
  split
  · exact hnan
  · simp [hsign, hinf]
  · simp [hsign, hzero]
  · simp [hsign, hdecimal]

end Numeral
end Datalink
