/-!
# Texts as lists of code points

Input: texts as callers and files hand them over.  A text is a list of Unicode
code points, and a code point may be a lone surrogate, which no encoding accepts.

Results: a code point is determined by its number.  Cutting a text into parts at a
separator loses nothing, because joining the parts gives the text back.
-/

namespace Datalink

/-- A code point: a Unicode scalar value, or one of the 2048 surrogates, given by
its distance from the first of them. -/
inductive CodePoint where
  | scalar (c : Char)
  | surrogate (offset : Fin 2048)
deriving DecidableEq, Inhabited

namespace CodePoint

/-- The number of a code point. -/
def code : CodePoint → Nat
  | scalar c => c.toNat
  | surrogate s => 0xD800 + s.val

/-- The code point of a number; a number beyond the last code point gives the
null character. -/
def ofCode (n : Nat) : CodePoint :=
  if h : 0xD800 ≤ n ∧ n < 0xE000 then
    surrogate ⟨n - 0xD800, by omega⟩
  else
    scalar (Char.ofNat n)

/-- A code point is determined by its number. -/
@[simp] theorem ofCode_code
    (c : CodePoint) :
    ofCode c.code = c := by
  cases c with
  | scalar c =>
      have h : ¬ (0xD800 ≤ c.toNat ∧ c.toNat < 0xE000) := by
        rcases c.valid with h | h
        · have : c.toNat < 0xD800 := h
          omega
        · have : 0xDFFF < c.toNat := h.1
          omega
      simp [ofCode, code, h]
  | surrogate s =>
      have h : 0xD800 ≤ 0xD800 + s.val ∧ 0xD800 + s.val < 0xE000 := by
        omega
      simp [ofCode, code, h]

theorem code_injective
    {c d : CodePoint} (h : c.code = d.code) :
    c = d := by
  rw [← ofCode_code c, ← ofCode_code d, h]

/-- Whether a code point is a surrogate. -/
def isSurrogate : CodePoint → Bool
  | scalar _ => false
  | surrogate _ => true

/-- Whether a code point is one of the ten ASCII digits. -/
def isDigit : CodePoint → Bool
  | scalar c => c.isDigit
  | surrogate _ => false

/-- The lower-case form of an ASCII letter; every other code point stays. -/
def toLower : CodePoint → CodePoint
  | scalar c => scalar c.toLower
  | surrogate s => surrogate s

instance : Coe Char CodePoint := ⟨scalar⟩

instance : LT CodePoint := ⟨fun a b => a.code < b.code⟩

instance : DecidableRel (α := CodePoint) (· < ·) :=
  fun a b => inferInstanceAs (Decidable (a.code < b.code))

end CodePoint

/-- A text is a list of code points. -/
abbrev Text := List CodePoint

namespace Text

/-- The text of a string, which has scalar values only. -/
def ofString (s : String) : Text := s.toList.map CodePoint.scalar

instance : Coe String Text := ⟨ofString⟩

/-- The parts between the separators; there is always one part more than there
are separators. -/
def splitAt (sep : CodePoint) : Text → List Text
  | [] => [[]]
  | c :: rest =>
      if c = sep then
        [] :: splitAt sep rest
      else
        match splitAt sep rest with
        | [] => [[c]]
        | part :: parts => (c :: part) :: parts

/-- The parts with the separator text between neighbours. -/
def join (sep : Text) : List Text → Text
  | [] => []
  | [part] => part
  | part :: next :: parts => part ++ sep ++ join sep (next :: parts)

/-- The text before the first separator and, if there is a separator, the text
after it. -/
def cut (sep : CodePoint) : Text → Text × Option Text
  | [] => ([], none)
  | c :: rest =>
      if c = sep then
        ([], some rest)
      else
        let (before, after) := cut sep rest
        (c :: before, after)

/-- Every occurrence of one code point replaced by a text. -/
def replace (t : Text) (target : CodePoint) (replacement : Text) : Text :=
  t.flatMap fun c => if c = target then replacement else [c]

/-- The rest of a text after an opening it must have. -/
def dropOpening? : Text → Text → Option Text
  | [], rest => some rest
  | _ :: _, [] => none
  | o :: opening, c :: rest =>
      if o = c then dropOpening? opening rest else none

/-- A text without some code points at its start, and then without the occurrences of
another text. -/
def removeFrom (unwanted : Text) : Nat → Text → Text
  | _, [] => []
  | skipped + 1, _ :: rest => removeFrom unwanted skipped rest
  | 0, c :: rest =>
      if (dropOpening? unwanted (c :: rest)).isSome then
        removeFrom unwanted (unwanted.length - 1) rest
      else
        c :: removeFrom unwanted 0 rest

/-- A text without the occurrences of another, which is not empty. -/
def remove (unwanted t : Text) : Text := removeFrom unwanted 0 t

/-- Whether a text ends with another. -/
def endsWith (t ending : Text) : Bool :=
  (dropOpening? ending.reverse t.reverse).isSome

/-- ASCII letters in lower case. -/
def toLower (t : Text) : Text := t.map CodePoint.toLower

/-- The order of texts by code point, the way sorted listings use it. -/
def le : Text → Text → Bool
  | [], _ => true
  | _ :: _, [] => false
  | a :: s, b :: t =>
      if a.code < b.code then true
      else if b.code < a.code then false
      else le s t

/-- An opening that a text was given is taken off. -/
@[simp] theorem dropOpening?_append
    (opening rest : Text) :
    dropOpening? opening (opening ++ rest) = some rest := by
  induction opening with
  | nil =>
      rfl
  | cons o opening ih =>
      simp [dropOpening?, ih]

theorem replace_cons_self
    (target : CodePoint) (replacement t : Text) :
    replace (target :: t) target replacement = replacement ++ replace t target replacement := by
  simp [replace]

theorem replace_cons_of_ne
    {c target : CodePoint} (h : c ≠ target) (replacement t : Text) :
    replace (c :: t) target replacement = c :: replace t target replacement := by
  simp [replace, h]

/-- Joined parts are the first part, and every other one behind a separator. -/
theorem join_cons
    (sep part : Text) (parts : List Text) :
    join sep (part :: parts) = part ++ parts.flatMap fun p => sep ++ p := by
  induction parts generalizing part with
  | nil =>
      simp [join]
  | cons next parts ih =>
      rw [join, ih, List.flatMap_cons, List.append_assoc, List.append_assoc]

theorem splitAt_ne_nil
    (sep : CodePoint) (t : Text) :
    splitAt sep t ≠ [] := by
  cases t with
  | nil =>
      simp [splitAt]
  | cons c rest =>
      unfold splitAt
      split
      · simp
      · split <;> simp

/-- Cutting at the separators loses nothing. -/
theorem join_splitAt
    (sep : CodePoint) (t : Text) :
    join [sep] (splitAt sep t) = t := by
  induction t with
  | nil =>
      rfl
  | cons c rest ih =>
      cases hs : splitAt sep rest with
      | nil =>
          exact absurd hs (splitAt_ne_nil sep rest)
      | cons part parts =>
          rw [hs] at ih
          by_cases hc : c = sep
          · simp [splitAt, hc, hs, join, ih]
          · cases parts with
            | nil =>
                simp_all [splitAt, join]
            | cons next parts =>
                simp_all [splitAt, join]

end Text

end Datalink
