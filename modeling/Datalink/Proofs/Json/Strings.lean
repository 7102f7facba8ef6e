import Datalink.Json.Reader
import Datalink.Json.Writer
import Datalink.Proofs.Text.Printing

/-!
# Reading texts in JSON

Input: the text between two quotes, as it is written: letters behind a backslash, escapes
by number, pairs of them, and code points that stand for themselves.

Results: such a text is read back and what stands behind the closing quote is left, for
every text in which no high surrogate stands directly in front of a low one.  A reader
would take the escapes of such surrogates for one code point, so that no other text is
read back.  What stands between the quotes is printing ASCII.
-/

namespace Datalink

namespace CodePoint

/-- Whether a code point is a surrogate that can open a pair. -/
def isHigh (c : CodePoint) : Bool := 0xD800 ≤ c.code && c.code < 0xDC00

/-- Whether a code point is a surrogate that can close a pair. -/
def isLow (c : CodePoint) : Bool := 0xDC00 ≤ c.code && c.code < 0xE000

theorem code_lt
    (c : CodePoint) :
    c.code < 0x110000 := by
  cases c with
  | scalar c =>
      rcases c.valid with h | h
      · have : c.toNat < 0xD800 := h
        simp only [code]
        omega
      · have : c.toNat < 0x110000 := h.2
        exact this
  | surrogate s =>
      simp only [code]
      omega

end CodePoint

/-- Whether no high surrogate stands directly in front of a low one. -/
def Text.unpaired : Text → Bool
  | c :: d :: rest => !(c.isHigh && d.isLow) && unpaired (d :: rest)
  | _ => true

namespace Json

/-- Whether a code point is a printing one of ASCII. -/
abbrev isInline (c : CodePoint) : Bool := c.printsFrom 0x20

/-- Whether a text has printing code points of ASCII only. -/
abbrev Inline (t : Text) : Prop := t.PrintsFrom 0x20

/-! ## Escapes by number -/

theorem hexDigit?_digitChar
    {d : Nat} (h : d < 16) :
    Numeral.hexDigit? (.scalar (Nat.digitChar d)) = some d := by
  revert d
  decide

/-- Four hexadecimal digits are read as the number that they were written for. -/
theorem hexUnit?_digitChar
    {n : Nat} (h : n < 0x10000) :
    hexUnit? (.scalar (Nat.digitChar (n / 16 / 16 / 16 % 16)))
      (.scalar (Nat.digitChar (n / 16 / 16 % 16))) (.scalar (Nat.digitChar (n / 16 % 16)))
      (.scalar (Nat.digitChar (n % 16))) = some n := by
  have hdigit : ∀ m : Nat,
      Numeral.hexDigit? (.scalar (Nat.digitChar (m % 16))) = some (m % 16) :=
    fun m => hexDigit?_digitChar (Nat.mod_lt m (by decide))
  simp only [hexUnit?, hdigit, Option.some.injEq]
  omega

/-- An escape by number at the start of a text, and the rest. -/
def unit? : Text → Option (Nat × Text)
  | .scalar '\\' :: .scalar 'u' :: a :: b :: c :: d :: rest =>
      (hexUnit? a b c d).map fun n => (n, rest)
  | _ => none

theorem unit?_escapeUnit
    {n : Nat} (h : n < 0x10000) (rest : Text) :
    unit? (escapeUnit n ++ rest) = some (n, rest) := by
  change (hexUnit? _ _ _ _).map (fun n => (n, rest)) = _
  rw [hexUnit?_digitChar h]
  rfl

/-- An escape by number is read as a code point, together with the escape behind it if
the two make a pair. -/
theorem stringBody_escapeUnit
    {n : Nat} (h : n < 0x10000) (rest : Text) :
    stringBody (escapeUnit n ++ rest) =
      match (unit? rest).bind fun r => (pair? n r.1).map fun c => (c, r.2) with
      | some (c, after) => consRead c (stringBody after)
      | none => consRead (.ofCode n) (stringBody rest) := by
  change stringBody (.scalar '\\' :: .scalar 'u' :: _ :: _ :: _ :: _ :: rest) = _
  rw [stringBody, hexUnit?_digitChar h]
  dsimp only
  split
  · rename_i e f g k after
    rw [unit?]
    cases hexUnit? e f g k with
    | none =>
        rfl
    | some low =>
        simp only [Option.bind_some, Option.map_some]
        cases pair? n low <;> rfl
  · rename_i hno
    rw [unit?]
    · rfl
    · exact hno

theorem simpleEscape?_ne_u
    {letter c : CodePoint} (h : simpleEscape? letter = some c) :
    letter ≠ .scalar 'u' := by
  rintro rfl
  cases h

/-- An escape with a letter is read as the code point that the letter stands for. -/
theorem stringBody_letter
    {letter c : CodePoint} (h : simpleEscape? letter = some c) (rest : Text) :
    stringBody (.scalar '\\' :: letter :: rest) = consRead c (stringBody rest) := by
  have hu := simpleEscape?_ne_u h
  rw [stringBody]
  · simp only [h]
  · intro a b c d after hletter
    exact absurd hletter hu

/-- A code point that is no quote, no backslash and no control is read as itself. -/
theorem stringBody_self
    {c : CodePoint} (hin : isInline c = true) (hquote : c ≠ .scalar '"')
    (hslash : c ≠ .scalar '\\') (rest : Text) :
    stringBody (c :: rest) = consRead c (stringBody rest) := by
  have hlow : ¬ (c.code < 0x20 ∨ c = .scalar '\\') := by
    rw [CodePoint.printsFrom_iff] at hin
    rintro (h | h)
    · omega
    · exact hslash h
  rw [stringBody]
  · rw [if_neg hlow]
  · intro h
    exact hquote h
  · intro a b c d after h
    exact absurd h hslash
  · intro d after h
    exact absurd h hslash

/-! ## The ways of writing a code point -/

/-- How a code point may be written between quotes. -/
inductive Spelled (c : CodePoint) : Text → Prop
  /-- A letter behind a backslash. -/
  | letter
      {letter : CodePoint}
      (hletter : isInline letter = true)
      (hread : simpleEscape? letter = some c) :
      Spelled c [.scalar '\\', letter]
  /-- The code point itself. -/
  | self
      (hin : isInline c = true)
      (hquote : c ≠ .scalar '"')
      (hslash : c ≠ .scalar '\\') :
      Spelled c [c]
  /-- One escape by number. -/
  | unit
      (hcode : c.code < 0x10000) :
      Spelled c (escapeUnit c.code)
  /-- Two escapes by number. -/
  | pair
      (hcode : 0x10000 ≤ c.code) :
      Spelled c
        (escapeUnit (0xD800 + (c.code - 0x10000) / 0x400) ++
          escapeUnit (0xDC00 + (c.code - 0x10000) % 0x400))

/-- Every code point is written in one of these ways. -/
theorem spelled_escaped
    (c : CodePoint) :
    Spelled c (escaped c) := by
  have hletter : ∀ (letter : CodePoint) {d : CodePoint}, isInline letter = true →
      simpleEscape? letter = some d → c = d → Spelled c [.scalar '\\', letter] := by
    rintro letter d hin hread rfl
    exact .letter hin hread
  unfold escaped
  split
  · exact hletter (.scalar '"') (by decide) rfl ‹_›
  split
  · exact hletter (.scalar '\\') (by decide) rfl ‹_›
  split
  · exact hletter (.scalar 'n') (by decide) rfl ‹_›
  split
  · exact hletter (.scalar 'r') (by decide) rfl ‹_›
  split
  · exact hletter (.scalar 't') (by decide) rfl ‹_›
  split
  · exact hletter (.scalar 'b') (by decide) rfl ‹_›
  split
  · exact hletter (.scalar 'f') (by decide) rfl ‹_›
  split
  · exact .self ((CodePoint.printsFrom_iff _ _).mpr ‹_›) ‹_› ‹_›
  split
  · exact .unit ‹_›
  · exact .pair (Nat.le_of_not_lt ‹_›)

/-- What is written for a code point opens with the escape of a low surrogate only if it
is one. -/
theorem isLow_of_unit?
    {c : CodePoint} {t rest after : Text} {n : Nat} (h : Spelled c t)
    (hunit : unit? (t ++ rest) = some (n, after)) (hlow : 0xDC00 ≤ n) (hhigh : n < 0xE000) :
    c.isLow = true := by
  cases h with
  | letter hletter hread =>
      have hu := simpleEscape?_ne_u hread
      rw [List.cons_append, List.cons_append, unit?] at hunit
      · cases hunit
      · intro a b c d after heq
        cases heq
        exact hu rfl
  | self hin hquote hslash =>
      rw [List.cons_append, unit?] at hunit
      · cases hunit
      · intro a b c d after heq
        cases heq
        exact hslash rfl
  | unit hcode =>
      rw [unit?_escapeUnit hcode] at hunit
      cases hunit
      simp [CodePoint.isLow, hlow, hhigh]
  | pair hcode =>
      have hlt := c.code_lt
      rw [List.append_assoc, unit?_escapeUnit (by omega)] at hunit
      cases hunit
      omega

theorem pair?_eq_some
    {high low : Nat} {c : CodePoint} (hhigh : 0xD800 ≤ high ∧ high < 0xDC00)
    (hlow : 0xDC00 ≤ low ∧ low < 0xE000)
    (hcode : 0x10000 + (high - 0xD800) * 0x400 + (low - 0xDC00) = c.code) :
    pair? high low = some c := by
  unfold pair?
  rw [if_pos ⟨hhigh.1, hhigh.2, hlow⟩, hcode, CodePoint.ofCode_code]

/-- The two halves of a code point beyond four digits make it again. -/
theorem pair?_halves
    {c : CodePoint} (h : 0x10000 ≤ c.code) :
    pair? (0xD800 + (c.code - 0x10000) / 0x400) (0xDC00 + (c.code - 0x10000) % 0x400) =
      some c := by
  have hlt := c.code_lt
  exact pair?_eq_some (by omega) (by omega) (by omega)

/-- Two escapes that make a pair are read as one code point. -/
theorem stringBody_pair
    {high low : Nat} {c : CodePoint} (hhigh : high < 0x10000) (hlow : low < 0x10000)
    (h : pair? high low = some c) (rest : Text) :
    stringBody (escapeUnit high ++ (escapeUnit low ++ rest)) =
      consRead c (stringBody rest) := by
  rw [stringBody_escapeUnit hhigh, unit?_escapeUnit hlow]
  simp only [Option.bind_some, h, Option.map_some]

/-- What is written for a code point is read as that code point, unless it is a high
surrogate and the escape of a low one follows. -/
theorem stringBody_spelled
    {c : CodePoint} {t rest : Text} (h : Spelled c t)
    (hrest : c.isHigh = true → ∀ n after, unit? rest = some (n, after) →
      ¬ (0xDC00 ≤ n ∧ n < 0xE000)) :
    stringBody (t ++ rest) = consRead c (stringBody rest) := by
  cases h with
  | letter hletter hread =>
      exact stringBody_letter hread rest
  | self hin hquote hslash =>
      exact stringBody_self hin hquote hslash rest
  | unit hcode =>
      have hnone : ((unit? rest).bind fun r => (pair? c.code r.1).map fun d => (d, r.2)) =
          none := by
        cases hunit : unit? rest with
        | none =>
            rfl
        | some r =>
            have hpair : pair? c.code r.1 = none := by
              unfold pair?
              rw [if_neg]
              intro hall
              exact hrest (by simp [CodePoint.isHigh, hall.1, hall.2.1]) r.1 r.2 hunit
                hall.2.2
            simp [hpair]
      rw [stringBody_escapeUnit hcode, hnone, CodePoint.ofCode_code]
  | pair hcode =>
      have hlt := c.code_lt
      rw [List.append_assoc]
      exact stringBody_pair (by omega) (by omega) (pair?_halves hcode) rest

theorem inline_spelled
    {c : CodePoint} {t : Text} (h : Spelled c t) :
    Inline t := by
  have hdigit : ∀ n : Nat, isInline (.scalar (Nat.digitChar (n % 16))) = true := by
    have hall : ∀ d < 16, isInline (.scalar (Nat.digitChar d)) = true := by
      decide
    exact fun n => hall _ (Nat.mod_lt n (by decide))
  have hopening : Inline "\\u" := by
    decide
  have hunit : ∀ n, Inline (escapeUnit n) := by
    intro n
    simp [escapeUnit, hopening, Text.hex, hdigit]
  have hslash : isInline (.scalar '\\') = true := by
    decide
  cases h with
  | letter hletter hread =>
      simp [hslash, hletter]
  | self hin hquote hslash =>
      simp [hin]
  | unit hcode =>
      exact hunit _
  | pair hcode =>
      exact (Text.printsFrom_append _ _).mpr ⟨hunit _, hunit _⟩

/-! ## Texts in quotes -/

/-- The text between two quotes is read back, and what stands behind the closing quote is
left. -/
theorem stringBody_escaped
    {t : Text} (h : Text.unpaired t = true) (rest : Text) :
    stringBody (t.flatMap escaped ++ .scalar '"' :: rest) = some (t, rest) := by
  -- A high surrogate is read alone because no escape of a low one can follow it.
  induction t with
  | nil =>
      rfl
  | cons c t ih =>
      have hbehind : Text.unpaired t = true ∧ (c.isHigh = true → ∀ n after,
          unit? (t.flatMap escaped ++ .scalar '"' :: rest) = some (n, after) →
            ¬ (0xDC00 ≤ n ∧ n < 0xE000)) := by
        cases t with
        | nil =>
            refine ⟨rfl, ?_⟩
            rintro - n after ⟨⟩
        | cons d t =>
            simp only [Text.unpaired, Bool.and_eq_true, Bool.not_eq_true',
              Bool.and_eq_false_imp] at h
            refine ⟨h.2, fun hhigh n after hunit hrange => ?_⟩
            rw [List.flatMap_cons, List.append_assoc] at hunit
            have hlow := isLow_of_unit? (spelled_escaped d) hunit hrange.1 hrange.2
            rw [h.1 hhigh] at hlow
            cases hlow
      rw [List.flatMap_cons, List.append_assoc,
        stringBody_spelled (spelled_escaped c) hbehind.2, ih hbehind.1]
      rfl

/-- A text in quotes has printing code points of ASCII only. -/
theorem inline_string
    (t : Text) :
    Inline (string t) := by
  have hquote : isInline (.scalar '"') = true := by
    decide
  have hbody : Inline (t.flatMap escaped) := by
    intro c hc
    obtain ⟨d, -, hd⟩ := List.mem_flatMap.mp hc
    exact inline_spelled (spelled_escaped d) c hd
  simp [string, hquote, hbody]

end Json
end Datalink
