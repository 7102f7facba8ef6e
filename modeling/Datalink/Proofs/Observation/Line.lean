import Datalink.Journal
import Datalink.Proofs.Numeral.Reading
import Datalink.Proofs.Text.Lines

/-!
# The line of an observation

An observation is shown as a line: its name, its time, its statement, its parameters and how
it ended.  Numbers are visible ASCII, and what stands in quotes is escaped, so that neither
the time nor a parameter without a name of its own holds a line end.

Results: the line of an observation in a journal, and that a line end in it comes from the
name, from the statement, from the error of an operation that failed, or from the name of a
member of an enumeration among the parameters.
-/

namespace Datalink

/-! ## Numbers -/

namespace Numeral

theorem visible_digit
    {d : Nat} (h : d < 10) :
    CodePoint.printsFrom 0x21 (digit d) = true := by
  have hall : ∀ d < 10, CodePoint.printsFrom 0x21 (digit d) = true := by
    decide
  exact hall d h

@[simp] theorem visible_padded
    (width n : Nat) :
    Visible (padded width n) := by
  induction width generalizing n with
  | zero =>
      exact Text.printsFrom_nil
  | succ width ih =>
      simp [padded, ih, visible_digit (Nat.mod_lt n (by decide))]

@[simp] theorem visible_sign
    (negative : Bool) :
    Visible (Layout.sign negative) := by
  cases negative <;> decide

theorem visible_point :
    Visible "." := by
  decide

@[simp] theorem visible_fixedQuotient
    (places num den : Nat) :
    Visible (fixedQuotient places num den) := by
  simp [fixedQuotient, visible_point]

theorem visible_fixed
    (places : Nat) (x : Float) :
    Visible (fixed places x) := by
  have hnan : Visible "nan" := by
    decide
  have hinf : Visible "inf" := by
    decide
  unfold fixed
  split
  · exact hnan
  · simp [hinf]
  · simp

end Numeral

namespace Value

theorem visible_pointed
    {digits : Text} (h : Numeral.Visible digits) (point : Int) :
    Numeral.Visible (pointed digits point) := by
  have hfront : Numeral.Visible "0." := by
    decide
  have htake : Numeral.Visible (digits.take point.toNat) :=
    h.of_subset (List.take_subset _ _)
  have hdrop : Numeral.Visible (digits.drop point.toNat) :=
    h.of_subset (List.drop_subset _ _)
  unfold pointed
  split
  · simp [hfront, h]
  · split
    · simp [h]
    · simp [Numeral.visible_point, htake, hdrop]

theorem visible_scaledText
    (d : Scaled) :
    Numeral.Visible (scaledText d) := by
  have hnan : ∀ signaling : Bool,
      Numeral.Visible (if signaling then "sNaN" else "NaN" : Text) := by
    decide
  have hinf : Numeral.Visible "Infinity" := by
    decide
  have hmark : Numeral.Visible "E" := by
    decide
  have hsign : ∀ e : Int, Numeral.Visible (if e < 0 then "-" else "+" : Text) := by
    intro e
    split <;> decide
  cases d with
  | notANumber negative signaling payload =>
      simp only [scaledText, Text.printsFrom_append, Numeral.visible_sign, hnan, true_and]
      split <;> simp
  | infinite negative =>
      simp [scaledText, hinf]
  | finite negative coefficient exponent =>
      simp only [scaledText, Text.printsFrom_append, Numeral.visible_sign, true_and]
      split
      · exact visible_pointed (Numeral.visible_natural _) _
      · simp only [Text.printsFrom_append, visible_pointed (Numeral.visible_natural _), hmark,
          hsign, Numeral.visible_natural, and_self]

theorem visible_scaledFixed
    (places : Nat) (d : Scaled) :
    Numeral.Visible (scaledFixed places d) := by
  unfold scaledFixed
  split
  · simp only [Text.printsFrom_append, Numeral.visible_sign, true_and]
    split
    · simp
    · split
      · simp [Numeral.visible_point]
      · simp
  · exact visible_scaledText d

end Value

/-- The time of an observation is visible, whatever it was given as. -/
theorem visible_millisecondsText
    {v : Value} {t : Text} (h : millisecondsText v = .ok t) :
    Numeral.Visible t := by
  have hpattern : Numeral.Visible millisecondsPattern := by
    decide
  unfold millisecondsText at h
  split at h
  · cases h
    exact Numeral.visible_fixed _ _
  · split at h
    · cases h
      exact Numeral.visible_fixed _ _
    · cases h
  · cases h
    exact Numeral.visible_fixed _ _
  · unfold decimalMilliseconds at h
    split at h
    · cases h
    · split at h
      · cases h
      · cases h
        exact Value.visible_scaledFixed _ _
  · cases h
    exact hpattern
  · cases h
    exact hpattern
  · cases h
    exact hpattern
  · cases h
  · cases h
  · cases h

/-! ## Texts in quotes -/

namespace Text

theorem visible_hex
    (width n : Nat) :
    PrintsFrom 0x21 (hex width n) := by
  have hall : ∀ d < 16, CodePoint.printsFrom 0x21 (.scalar (Nat.digitChar d)) = true := by
    decide
  induction width generalizing n with
  | zero =>
      exact printsFrom_nil
  | succ width ih =>
      simp [hex, ih, hall _ (Nat.mod_lt n (by decide))]

theorem visible_escapeByCode
    (n : Nat) :
    PrintsFrom 0x21 (escapeByCode n) := by
  have hopenings : PrintsFrom 0x21 "\\x" ∧ PrintsFrom 0x21 "\\u" ∧ PrintsFrom 0x21 "\\U" := by
    decide
  unfold escapeByCode
  split
  · simp [hopenings, visible_hex]
  · split <;> simp [hopenings, visible_hex]

theorem unbroken_quotedPoint
    {quote : Char} (hquote : CodePoint.isLineBreak (.scalar quote) = false) (c : CodePoint) :
    Unbroken (quotedPoint quote c) := by
  have hslash : CodePoint.isLineBreak (.scalar '\\') = false := by
    decide
  have hescapes : Unbroken "\\n" ∧ Unbroken "\\r" ∧ Unbroken "\\t" := by
    decide
  unfold quotedPoint
  split
  · rename_i hc
    rcases hc with rfl | rfl
    · simp [hslash, hquote]
    · simp [hslash]
  · split
    · exact hescapes.1
    · split
      · exact hescapes.2.1
      · split
        · exact hescapes.2.2
        · split
          · rename_i hprints
            simp [CodePoint.not_break_of_isPrinting hprints]
          · exact (visible_escapeByCode _).unbroken (by decide)

/-- The printed form of a text holds no line end, whatever the text holds. -/
theorem unbroken_quoted
    (t : Text) :
    Unbroken t.quoted := by
  have hquote : CodePoint.isLineBreak (.scalar t.quoteFor) = false := by
    unfold quoteFor
    split <;> decide
  have hbody : Unbroken (t.flatMap (quotedPoint t.quoteFor)) := by
    intro c hc
    obtain ⟨d, -, hd⟩ := List.mem_flatMap.mp hc
    exact unbroken_quotedPoint hquote d c hd
  simp [quoted, hquote, hbody]

end Text

/-! ## The line -/

namespace Value

/-- Whether a value is a member of an enumeration of integers or texts.  A journal holds it
as it is, and its printed form shows its name. -/
def isNamed : Value → Bool
  | member .integer .. => true
  | member .textual .. => true
  | _ => false

theorem unbroken_print_list
    (vs : List Value) :
    Text.Unbroken (print (.list vs)) ↔ ∀ v ∈ vs, Text.Unbroken v.print := by
  have hitems : printItems vs = vs.map print := by
    induction vs with
    | nil =>
        rfl
    | cons v vs ih =>
        rw [printItems, ih, List.map_cons]
  have hbrackets : Text.Unbroken "[" ∧ Text.Unbroken "]" := by
    decide
  have hcomma : Text.Unbroken ", " := by
    decide
  simp [print, commaSeparated, hbrackets, Text.unbroken_join hcomma, hitems]

theorem words_eq_ok
    {v : Value} {t : Text} (h : v.words = .ok t) :
    t = v.display := by
  unfold words at h
  split at h
  · exact (Except.ok.inj h).symm
  · cases h

end Value

namespace Observation

/-- A parameter in a journal is printed without a line end, unless its name is shown. -/
theorem unbroken_print_journalParam
    {v : Value} (h : v.isNamed = false) :
    Text.Unbroken (journalParam v).print := by
  cases v with
  | null =>
      decide
  | bool b =>
      cases b <;> decide
  | int n =>
      exact (Numeral.visible_integer n).unbroken (by decide)
  | real x =>
      exact (Numeral.visible_render (by decide) (by decide) x).unbroken (by decide)
  | member form enumeration name v =>
      cases form with
      | plain =>
          exact Text.unbroken_quoted _
      | integer =>
          cases h
      | textual =>
          cases h
  | _ =>
      exact Text.unbroken_quoted _

/-- An observation holds no line end where its line in a journal shows it. -/
structure Unbroken (o : Observation) : Prop where
  name : o.name.display.Unbroken
  sql : o.sql.display.Unbroken
  /-- Other parameters than members of enumerations are shown without line ends. -/
  members : ∀ v ∈ o.params, v.isNamed = true → (journalParam v).print.Unbroken
  /-- The error of an operation that succeeded is not shown. -/
  error : o.success.truthy = false → o.error.display.Unbroken

/-- How an operation ended, as its line says it. -/
def ending (success error : Value) : Text :=
  if success.truthy then "ok" else "failed: " ++ error.display

theorem outcomeText_eq_ok
    {success error : Value} {t : Text} (h : outcomeText success error = .ok t) :
    t = ending success error := by
  unfold outcomeText at h
  unfold ending
  split at h
  · rename_i hsuccess
    rw [if_pos hsuccess]
    exact (Except.ok.inj h).symm
  · rename_i hsuccess
    rw [if_neg hsuccess]
    split at h
    · cases h
    · rename_i hwords
      rw [← Value.words_eq_ok hwords]
      exact (Except.ok.inj h).symm

theorem operationLine_eq_ok
    {name sql params elapsed success error : Value} {t : Text}
    (h : operationLine name sql params elapsed success error = .ok t) :
    ∃ time, Numeral.Visible time ∧
      t = name.display ++ " [" ++ time ++ " ms] " ++ sql.display ++ " | " ++ params.display ++
        " -> " ++ ending success error := by
  unfold operationLine at h
  obtain ⟨ended, hended, h⟩ := Fault.exists_of_bind_eq_ok h
  obtain ⟨nameText, hname, h⟩ := Fault.exists_of_bind_eq_ok h
  obtain ⟨time, htime, h⟩ := Fault.exists_of_bind_eq_ok h
  obtain ⟨sqlText, hsql, h⟩ := Fault.exists_of_bind_eq_ok h
  obtain ⟨paramsText, hparams, h⟩ := Fault.exists_of_bind_eq_ok h
  refine ⟨time, visible_millisecondsText htime, ?_⟩
  rw [← outcomeText_eq_ok hended, ← Value.words_eq_ok hname, ← Value.words_eq_ok hsql,
    ← Value.words_eq_ok hparams]
  exact (Except.ok.inj h).symm

/-- The fields of an observation are found under their names. -/
theorem fieldValue_fields
    (o : Observation) :
    Journal.fieldValue o.fields "name" = o.name ∧
      Journal.fieldValue o.fields "sql" = o.sql ∧
      Journal.fieldValue o.fields "params" = .list (o.params.map journalParam) ∧
      Journal.fieldOr o.fields "elapsed_ms" (.int 0) = o.elapsed ∧
      Journal.fieldValue o.fields "success" = o.success ∧
      Journal.fieldValue o.fields "error" = o.error := by
  simp [Journal.fieldValue, Journal.fieldOr, Keyed.get?, fields, Text.ofString]

theorem unbroken_ending
    (success error : Value) :
    (ending success error).Unbroken ↔ (success.truthy = false → error.display.Unbroken) := by
  have hok : Text.Unbroken "ok" := by
    decide
  have hfailed : Text.Unbroken "failed: " := by
    decide
  unfold ending
  cases success.truthy with
  | false =>
      simp [hfailed]
  | true =>
      simp [hok]

theorem unbroken_display_params
    (o : Observation) :
    (Value.display (.list (o.params.map journalParam))).Unbroken ↔
      ∀ v ∈ o.params, v.isNamed = true → (journalParam v).print.Unbroken := by
  have hdisplay : Value.display (.list (o.params.map journalParam)) =
      Value.print (.list (o.params.map journalParam)) := by
    rfl
  rw [hdisplay, Value.unbroken_print_list, List.forall_mem_map]
  refine forall₂_congr fun v _ => ⟨fun h _ => h, fun h => ?_⟩
  cases hnamed : v.isNamed with
  | false =>
      exact unbroken_print_journalParam hnamed
  | true =>
      exact h hnamed

/-- What is written for an observation is one text with a line feed behind it, and the text
holds a line end exactly if the observation holds one where its line shows it. -/
theorem exists_of_plainLine_fields
    {o : Observation} {line : Text} (h : Journal.plainLine o.fields = .ok line) :
    ∃ t : Text, line = t.terminated ∧ (t.Unbroken ↔ o.Unbroken) := by
  obtain ⟨hname, hsql, hparams, helapsed, hsuccess, herror⟩ := fieldValue_fields o
  rw [Journal.plainLine, hname, hsql, hparams, helapsed, hsuccess, herror] at h
  split at h
  · cases h
  · rename_i t hline
    refine ⟨t, (Except.ok.inj h).symm, ?_⟩
    obtain ⟨time, htime, rfl⟩ := operationLine_eq_ok hline
    have hmarks : Text.Unbroken " [" ∧ Text.Unbroken " ms] " ∧ Text.Unbroken " | " ∧
        Text.Unbroken " -> " := by
      decide
    simp only [Text.unbroken_append, hmarks, htime.unbroken (by decide : 0x20 ≤ 0x21),
      unbroken_display_params, unbroken_ending, and_true]
    constructor
    · rintro ⟨⟨⟨hname, hsql⟩, hmembers⟩, herror⟩
      exact ⟨hname, hsql, hmembers, herror⟩
    · intro ho
      exact ⟨⟨⟨ho.name, ho.sql⟩, ho.members⟩, ho.error⟩

end Observation

end Datalink
