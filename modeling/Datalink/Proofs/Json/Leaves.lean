import Datalink.Proofs.Json.Strings
import Datalink.Proofs.Numeral.Reading

/-!
# Reading values without parts in JSON

Input: a word, a number or a text in JSON in front of the end of the text, or in front of a
code point that stands behind values in lists and mappings.

Results: words, integers that are short enough, texts without surrogates that would be read
as a pair, and floating-point numbers that are read back alone are read back from what they
are written as, whatever stands behind them.  What they are written as is printing ASCII
and does not open with a blank.
-/

namespace Datalink
namespace Json

/-- Whether a code point stands behind values in a list or a mapping. -/
def isCloser (c : CodePoint) : Bool :=
  c == .scalar ',' || c == .scalar ']' || c == .scalar '\x7d'

/-- Whether a text can stand behind a value: it is empty, or what is around the value goes
on. -/
def Closes (rest : Text) : Prop := ∀ c ∈ rest.head?, isCloser c = true

theorem closes_nil :
    Closes [] := by
  simp [Closes]

theorem closes_cons
    {c : CodePoint} (h : isCloser c = true) (rest : Text) :
    Closes (c :: rest) := by
  simpa [Closes] using h

theorem isCloser_iff
    (c : CodePoint) :
    isCloser c = true ↔ c = .scalar ',' ∨ c = .scalar ']' ∨ c = .scalar '\x7d' := by
  simp [isCloser, or_assoc]

/-- What stands behind a value is no piece of a number. -/
theorem Closes.ends
    {rest : Text} (h : Closes rest) :
    Numeral.Ends rest := by
  intro c hc
  rcases (isCloser_iff c).mp (h c hc) with rfl | rfl | rfl <;> decide

/-! ## Words and numbers -/

section Append

variable {rest : Text} (hrest : Closes rest)

include hrest

/-- A word without closers is found in front of a closer if and only if it is found in
front of the end. -/
theorem dropOpening?_append_closes
    {word : Text} (hword : ∀ c ∈ word, isCloser c = false) (t : Text) :
    Text.dropOpening? word (t ++ rest) = (Text.dropOpening? word t).map (· ++ rest) := by
  induction word generalizing t with
  | nil =>
      rfl
  | cons o word ih =>
      cases t with
      | nil =>
          cases rest with
          | nil =>
              rfl
          | cons c rest =>
              have hne : o ≠ c := by
                rintro rfl
                have hcloser := hrest o rfl
                rw [hword o List.mem_cons_self] at hcloser
                cases hcloser
              simp [Text.dropOpening?, hne]
      | cons c t =>
          have hrec := ih (fun d hd => hword d (List.mem_cons_of_mem o hd)) t
          by_cases hc : o = c
          · simp [Text.dropOpening?, hc, hrec]
          · simp [Text.dropOpening?, hc]

theorem word?_append
    {ws : List (Text × Value)} (hwords : ∀ w ∈ ws, ∀ c ∈ w.1, isCloser c = false)
    (t : Text) :
    word? (t ++ rest) ws = (word? t ws).map (Prod.map id (· ++ rest)) := by
  induction ws with
  | nil =>
      rfl
  | cons w ws ih =>
      obtain ⟨word, v⟩ := w
      have hrec := ih fun w hw => hwords w (List.mem_cons_of_mem _ hw)
      rw [word?, word?, dropOpening?_append_closes hrest (hwords _ List.mem_cons_self), hrec]
      cases Text.dropOpening? word t <;> rfl

/-- A word or a number is read in front of a closer as it is read in front of the end. -/
theorem leafAt_append
    (t : Text) :
    leafAt (t ++ rest) = (leafAt t).map (Prod.map id (· ++ rest)) := by
  have hwords : ∀ w ∈ words, ∀ c ∈ w.1, isCloser c = false := by
    simp only [words, List.forall_mem_cons]
    decide
  rw [leafAt, leafAt, word?_append hrest hwords, Numeral.read?_append hrest.ends]
  cases word? t words with
  | some result =>
      rfl
  | none =>
      cases Numeral.read? t with
      | none =>
          rfl
      | some result =>
          obtain ⟨written, after⟩ := result
          simp only [Option.map_none, Option.map_some, Prod.map, id]
          split
          · rfl
          · split
            · rfl
            · split <;> rfl

end Append

/-- What opens neither a text, a list nor a mapping is a word or a number. -/
theorem valueAt_leaf
    {c : CodePoint} (hquote : c ≠ .scalar '"') (hlist : c ≠ .scalar '[')
    (hmapping : c ≠ .scalar '\x7b') (room fuel : Nat) (t : Text) :
    valueAt room (fuel + 1) (c :: t) = leafAt (c :: t) := by
  rw [valueAt]
  · intro rest h
    cases h
    exact hquote rfl
  · intro rest h
    cases h
    exact hlist rfl
  · intro rest h
    cases h
    exact hmapping rfl

/-- A code point that a written value may open with. -/
def Opener (c : CodePoint) : Prop := isSpace c = false ∧ isCloser c = false

/-- Whether a text opens as a written value may. -/
def Opens (t : Text) : Prop := ∃ c t', t = c :: t' ∧ Opener c

/-- A word or a number opens with a code point that opens nothing else. -/
theorem opener_of_leafAt
    {t rest : Text} {v : Value} (h : leafAt t = .ok (v, rest)) :
    ∃ c t', t = c :: t' ∧ Opener c ∧ c ≠ .scalar '"' ∧ c ≠ .scalar '[' ∧
      c ≠ .scalar '\x7b' := by
  cases t with
  | nil =>
      cases h
  | cons c t =>
      have hno : ∀ d, leafAt (d :: t) = .error .jsonMalformed → c ≠ d := by
        rintro d hd rfl
        rw [hd] at h
        cases h
      refine ⟨c, t, rfl, ⟨?_, ?_⟩, hno _ rfl, hno _ rfl, hno _ rfl⟩
      · have hblank := hno (.scalar ' ') rfl
        have htab := hno (.scalar '\t') rfl
        have hfeed := hno (.scalar '\n') rfl
        have hreturn := hno (.scalar '\r') rfl
        simp [isSpace, hblank, htab, hfeed, hreturn]
      · have hcomma := hno (.scalar ',') rfl
        have hlist := hno (.scalar ']') rfl
        have hmapping := hno (.scalar '\x7d') rfl
        simp [isCloser, hcomma, hlist, hmapping]

/-! ## Values -/

/-- A text is read as a value, whatever stands behind it, with some room for lists and
mappings and with as much fuel as the text has code points twice. -/
structure Spelling (room : Nat) (t : Text) (v : Value) : Prop where
  opens : Opens t
  inline : Inline t
  reads : ∀ fuel rest, 2 * t.length ≤ fuel → Closes rest →
    valueAt room fuel (t ++ rest) = .ok (v, rest)

theorem skipSpace_opener
    {c : CodePoint} (h : Opener c) (t : Text) :
    skipSpace (c :: t) = c :: t := by
  simp [skipSpace, h.1]

theorem Spelling.skipSpace_append
    {room : Nat} {t : Text} {v : Value} (h : Spelling room t v) (rest : Text) :
    skipSpace (t ++ rest) = t ++ rest := by
  obtain ⟨c, t', rfl, hc⟩ := h.opens
  exact skipSpace_opener hc _

/-- A word or a number that is read alone is read in front of a closer. -/
theorem spelling_of_leafAt
    {t : Text} {v : Value} (hvisible : Numeral.Visible t) (h : leafAt t = .ok (v, []))
    (room : Nat) :
    Spelling room t v := by
  obtain ⟨c, t', rfl, hopener, hquote, hlist, hmapping⟩ := opener_of_leafAt h
  refine ⟨⟨c, t', rfl, hopener⟩, hvisible.of_le (by decide), fun fuel rest hfuel hrest => ?_⟩
  cases fuel with
  | zero =>
      simp at hfuel
  | succ fuel =>
      rw [List.cons_append, valueAt_leaf hquote hlist hmapping, ← List.cons_append,
        leafAt_append hrest, h]
      rfl

theorem spelling_text
    {t : Text} (h : Text.unpaired t = true) (room : Nat) :
    Spelling room (string t) (.text t) := by
  refine ⟨⟨_, _, rfl, by decide, by decide⟩, inline_string t, fun fuel rest hfuel hrest => ?_⟩
  cases fuel with
  | zero =>
      simp [string] at hfuel
  | succ fuel =>
      have hbody : string t ++ rest =
          .scalar '"' :: (t.flatMap escaped ++ .scalar '"' :: rest) := by
        simp [string]
      rw [hbody, valueAt, stringBody_escaped h]

/-! ## Integers -/

theorem isDigit_of_natural_eq_cons
    {n : Nat} {d : CodePoint} {digits : Text} (h : Numeral.natural n = d :: digits) :
    d.isDigit = true :=
  Numeral.isDigit_of_mem_natural (by rw [h]; exact List.mem_cons_self)

theorem word?_eq_none
    {t : Text} {ws : List (Text × Value)}
    (h : ∀ w ∈ ws, Text.dropOpening? w.1 t = none) :
    word? t ws = none := by
  induction ws with
  | nil =>
      rfl
  | cons w ws ih =>
      simp only [word?, h w List.mem_cons_self]
      exact ih fun w hw => h w (List.mem_cons_of_mem _ hw)

/-- A text of digits, with a minus sign or without one, is none of the words. -/
theorem word?_digits
    {d : CodePoint} (h : d.isDigit = true) (digits : Text) :
    word? (d :: digits) words = none ∧ word? (.scalar '-' :: d :: digits) words = none := by
  have hother : ∀ c : CodePoint, c.isDigit = false → ∀ word,
      Text.dropOpening? (c :: word) (d :: digits) = none := by
    intro c hc word
    have hne : c ≠ d := by
      rintro rfl
      rw [h] at hc
      cases hc
    simp [Text.dropOpening?, hne]
  constructor
  · refine word?_eq_none ?_
    simp only [words, List.forall_mem_cons]
    exact ⟨hother (.scalar 'n') rfl _, hother (.scalar 't') rfl _,
      hother (.scalar 'f') rfl _, hother (.scalar 'N') rfl _, hother (.scalar 'I') rfl _,
      hother (.scalar '-') rfl _, by simp⟩
  · refine word?_eq_none ?_
    simp only [words, List.forall_mem_cons]
    -- Only the last word goes on behind a minus sign.
    exact ⟨rfl, rfl, rfl, rfl, rfl, hother (.scalar 'I') rfl _, by simp⟩

theorem word?_integer
    (n : Int) :
    word? (Numeral.integer n) words = none := by
  cases n with
  | ofNat n =>
      cases hn : Numeral.natural n with
      | nil =>
          exact absurd hn (Numeral.natural_ne_nil n)
      | cons d digits =>
          rw [Numeral.integer, hn]
          exact (word?_digits (isDigit_of_natural_eq_cons hn) digits).1
  | negSucc n =>
      cases hn : Numeral.natural (n + 1) with
      | nil =>
          exact absurd hn (Numeral.natural_ne_nil _)
      | cons d digits =>
          rw [Numeral.integer, hn]
          exact (word?_digits (isDigit_of_natural_eq_cons hn) digits).2

/-- No zero stands in front of the digits of a number. -/
theorem zeroInFront_natural
    (n : Nat) :
    zeroInFront (Numeral.natural n) = false := by
  by_cases hn : n = 0
  · subst hn
    rfl
  · have hhead := Numeral.head?_natural_ne_zero (Nat.pos_of_ne_zero hn)
    unfold zeroInFront
    split
    · rename_i heq
      rw [heq] at hhead
      exact absurd rfl hhead
    · rfl

/-- An integer that is short enough to be written is read back. -/
theorem leafAt_integer
    {n : Int} (h : Numeral.writable n = true) :
    leafAt (Numeral.integer n) = .ok (.int n, []) := by
  have hlength : ¬ Numeral.digitLimit < (Numeral.natural n.natAbs).length := by
    have hlt : n.natAbs < Nat.pow 10 Numeral.digitLimit := of_decide_eq_true h
    exact Nat.not_lt.mpr (Numeral.length_natural_le (by decide) hlt)
  have hint : (Numeral.Written.mk (decide (n < 0)) (Numeral.natural n.natAbs) none none).toInt? =
      some n := by
    simp only [Numeral.Written.toInt?, Numeral.ofDigits_natural, Option.some.injEq,
      decide_eq_true_eq]
    split <;> omega
  rw [leafAt, word?_integer, Numeral.read?_integer]
  simp [zeroInFront_natural, hint, hlength]

/-! ## Floating-point numbers -/

theorem dropOpening?_suffix
    {word t rest : Text} (h : Text.dropOpening? word t = some rest) :
    rest <:+ t := by
  induction word generalizing t with
  | nil =>
      cases h
      exact List.suffix_rfl
  | cons o word ih =>
      cases t with
      | nil =>
          cases h
      | cons c t =>
          rw [Text.dropOpening?] at h
          split at h
          · exact (ih h).trans (List.suffix_cons c t)
          · cases h

theorem word?_suffix
    {t rest : Text} {v : Value} {ws : List (Text × Value)}
    (h : word? t ws = some (v, rest)) :
    rest <:+ t := by
  induction ws with
  | nil =>
      cases h
  | cons w ws ih =>
      rw [word?] at h
      split at h
      · rename_i hdrop
        cases h
        exact dropOpening?_suffix hdrop
      · exact ih h

/-- What is left behind a word or a number is an end of the text that it was read from. -/
theorem leafAt_suffix
    {t rest : Text} {v : Value} (h : leafAt t = .ok (v, rest)) :
    rest <:+ t := by
  unfold leafAt at h
  split at h
  · rename_i result hword
    cases h
    exact word?_suffix hword
  · split at h
    · cases h
    · rename_i written after hread
      have hafter := Numeral.read?_suffix hread
      split at h
      · cases h
      · split at h
        · cases h
          exact hafter
        · split at h
          · cases h
          · cases h
            exact hafter

/-- A floating-point number is read where words and numbers are. -/
theorem leafAt_of_valueAt
    {room fuel : Nat} {t rest : Text} {x : Float}
    (h : valueAt room fuel t = .ok (.real x, rest)) :
    leafAt t = .ok (.real x, rest) := by
  cases fuel with
  | zero =>
      cases h
  | succ fuel =>
      unfold valueAt at h
      split at h
      · split at h <;> cases h
      · split at h
        · cases h
        · cases h
        · split at h <;> cases h
      · split at h
        · cases h
        · cases h
        · split at h <;> cases h
      · exact h

theorem skipSpace_visible
    {t : Text} (h : Numeral.Visible t) :
    skipSpace t = t := by
  cases t with
  | nil =>
      rfl
  | cons c t =>
      have hc : isSpace c = false := by
        have hvisible := h c List.mem_cons_self
        by_cases hspace : isSpace c = true
        · simp only [isSpace, Bool.or_eq_true, beq_iff_eq] at hspace
          rcases hspace with ((rfl | rfl) | rfl) | rfl <;> cases hvisible
        · exact Bool.eq_false_iff.mpr hspace
      simp [skipSpace, hc]

/-- A visible document that is a floating-point number is a number up to its end. -/
theorem leafAt_of_decode
    {t : Text} {x : Float} (hvisible : Numeral.Visible t) (h : decode t = .ok (.real x)) :
    leafAt t = .ok (.real x, []) := by
  unfold decode at h
  rw [skipSpace_visible hvisible] at h
  split at h
  · cases h
  · rename_i v rest hvalue
    split at h
    · rename_i hempty
      cases h
      have hleaf := leafAt_of_valueAt hvalue
      have hrest := hvisible.of_subset (leafAt_suffix hleaf).subset
      rw [skipSpace_visible hrest, List.isEmpty_iff] at hempty
      rw [hleaf, hempty]
    · cases h

theorem visible_realLayout
    (x : Float) :
    Numeral.Visible (realLayout.render x) :=
  Numeral.visible_render (by decide) (by decide) x

/-- Whether what was read is a floating-point number. -/
def isReal (x : Float) : Except Fault Value → Bool
  | .ok (.real y) => y = x
  | _ => false

theorem isReal_iff
    (x : Float) (r : Except Fault Value) :
    isReal x r = true ↔ r = .ok (.real x) := by
  constructor
  · intro h
    unfold isReal at h
    split at h
    · rw [of_decide_eq_true h]
    · cases h
  · rintro rfl
    simp [isReal]

instance (x : Float) (r : Except Fault Value) : Decidable (r = .ok (.real x)) :=
  decidable_of_iff _ (isReal_iff x r)

/-! ## Values without parts -/

/-- A value without parts that is read back.  An integer is to be short enough to be
written, as every integer of 64 bits is, and of a floating-point number it is asked that its
text alone is read as that number. -/
inductive Leaf : Value → Prop
  | null :
      Leaf .null
  | bool
      (b : Bool) :
      Leaf (.bool b)
  | int
      {n : Int}
      (h : Numeral.writable n = true) :
      Leaf (.int n)
  | real
      {x : Float}
      (h : decode (realLayout.render x) = .ok (.real x)) :
      Leaf (.real x)
  | text
      {t : Text}
      (h : Text.unpaired t = true) :
      Leaf (.text t)

/-- A value without parts is written as a text that is read as it. -/
theorem Leaf.spelling
    {v : Value} (h : Leaf v) (room : Nat) :
    ∃ t, encode v = .ok t ∧ Spelling room t v := by
  cases h with
  | null =>
      exact ⟨"null", rfl, spelling_of_leafAt (by decide) rfl room⟩
  | bool b =>
      cases b with
      | false =>
          exact ⟨"false", rfl, spelling_of_leafAt (by decide) rfl room⟩
      | true =>
          exact ⟨"true", rfl, spelling_of_leafAt (by decide) rfl room⟩
  | @int n h =>
      refine ⟨Numeral.integer n, ?_, ?_⟩
      · simp [encode, leaf, wholeNumber, h]
      · exact spelling_of_leafAt (Numeral.visible_integer n) (leafAt_integer h) room
  | @real x h =>
      refine ⟨realLayout.render x, by simp [encode, leaf], ?_⟩
      exact spelling_of_leafAt (visible_realLayout x)
        (leafAt_of_decode (visible_realLayout x) h) room
  | @text t h =>
      exact ⟨string t, by simp [encode, leaf], spelling_text h room⟩

end Json
end Datalink
