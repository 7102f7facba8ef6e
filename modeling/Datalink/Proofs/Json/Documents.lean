import Datalink.Proofs.Json.Leaves

/-!
# Reading documents in JSON

Input: a list or a mapping in JSON, with items and entries that are read back.

Results: a value with different texts for the keys of its mappings, nested no deeper than
the reader goes, is read back from what it is written as, whatever stands behind it, if
this holds of the values without parts in it.  A document is printing ASCII and does not
open with a blank.  Whatever is written is printing ASCII, also if it is not read back.
-/

namespace Datalink
namespace Json

/-! ## Lists -/

/-- A text is read as the items of a list up to the closing bracket. -/
structure ItemsSpelling (room : Nat) (t : Text) (vs : List Value) : Prop where
  opens : Opens t
  inline : Inline t
  reads : ∀ fuel rest, 2 * t.length + 1 ≤ fuel →
    itemsAt room fuel (t ++ .scalar ']' :: rest) = .ok (vs, rest)

/-- A blank behind a comma or a colon is skipped. -/
theorem skipSpace_blank
    (t : Text) :
    skipSpace (.scalar ' ' :: t) = skipSpace t := by
  rfl

theorem skipSpace_closer
    {c : CodePoint} (h : isCloser c = true) (t : Text) :
    skipSpace (c :: t) = c :: t := by
  rcases (isCloser_iff c).mp h with rfl | rfl | rfl <;> rfl

theorem inline_separator :
    Inline ", " := by
  decide

theorem ItemsSpelling.single
    {room : Nat} {t : Text} {v : Value} (h : Spelling room t v) :
    ItemsSpelling room t [v] := by
  refine ⟨h.opens, h.inline, fun fuel rest hfuel => ?_⟩
  cases fuel with
  | zero =>
      omega
  | succ fuel =>
      rw [itemsAt, h.reads fuel _ (by omega) (closes_cons rfl rest)]
      rfl

theorem ItemsSpelling.cons
    {room : Nat} {t ts : Text} {v : Value} {vs : List Value} (h : Spelling room t v)
    (hs : ItemsSpelling room ts vs) :
    ItemsSpelling room (t ++ (", " ++ ts)) (v :: vs) := by
  obtain ⟨c, t', ht, hc⟩ := h.opens
  obtain ⟨d, ts', hts, hd⟩ := hs.opens
  refine ⟨⟨c, t' ++ (", " ++ ts), by rw [ht]; rfl, hc⟩, ?_, fun fuel rest hfuel => ?_⟩
  · simp [h.inline, hs.inline, inline_separator]
  · cases fuel with
    | zero =>
        omega
    | succ fuel =>
        have hlength : (t ++ (", " ++ ts) : Text).length = t.length + (ts.length + 2) := by
          simp [Text.ofString]
        have hsplit : t ++ (", " ++ ts) ++ .scalar ']' :: rest =
            t ++ .scalar ',' :: .scalar ' ' :: (ts ++ .scalar ']' :: rest) := by
          simp [Text.ofString]
        have hskip : skipSpace (ts ++ .scalar ']' :: rest) = ts ++ .scalar ']' :: rest := by
          rw [hts]
          exact skipSpace_opener hd _
        rw [hsplit, itemsAt, h.reads fuel _ (by omega) (closes_cons rfl _)]
        simp only [skipSpace_closer (c := .scalar ',') rfl, skipSpace_blank, hskip,
          hs.reads fuel rest (by omega)]

/-- Values that are read back are written with commas between them, and read as the items
of a list. -/
theorem exists_itemsSpelling
    {room : Nat} {vs : List Value} (hne : vs ≠ [])
    (h : ∀ v ∈ vs, ∃ t, encode v = .ok t ∧ Spelling room t v) :
    ∃ ts, encodeItems vs = .ok ts ∧ ItemsSpelling room (Text.join ", " ts) vs := by
  induction vs with
  | nil =>
      exact absurd rfl hne
  | cons v vs ih =>
      obtain ⟨t, henc, hspell⟩ := h v List.mem_cons_self
      by_cases hvs : vs = []
      · subst hvs
        exact ⟨[t], by simp [encodeItems, henc], .single hspell⟩
      · obtain ⟨ts, hencs, hspells⟩ := ih hvs fun u hu => h u (List.mem_cons_of_mem v hu)
        refine ⟨t :: ts, by simp [encodeItems, henc, hencs], ?_⟩
        cases ts with
        | nil =>
            obtain ⟨_, _, hnil, -⟩ := hspells.opens
            cases hnil
        | cons next ts =>
            rw [Text.join, List.append_assoc]
            exact .cons hspell hspells

theorem inline_brackets :
    Inline "[" ∧ Inline "]" ∧ Inline "\x7b" ∧ Inline "\x7d" := by
  decide

theorem spelling_emptyList
    (room : Nat) :
    Spelling (room + 1) "[]" (.list []) := by
  refine ⟨⟨_, _, rfl, by decide, by decide⟩, by decide, fun fuel rest hfuel _ => ?_⟩
  cases fuel with
  | zero =>
      simp [Text.ofString] at hfuel
  | succ fuel =>
      rfl

/-- A list that is not empty is read as its items. -/
theorem valueAt_list
    {c : CodePoint} {t : Text} (h : Opener c) (room fuel : Nat) :
    valueAt (room + 1) (fuel + 1) (.scalar '[' :: c :: t) =
      match itemsAt room fuel (c :: t) with
      | .error f => .error f
      | .ok (items, rest) => .ok (.list items, rest) := by
  have hclosed : c ≠ .scalar ']' := by
    rintro rfl
    cases h.2
  rw [valueAt.eq_def]
  simp only [skipSpace_opener h]
  split
  · rename_i hroom
    cases hroom
  · rename_i hopen hroom
    cases hopen
    exact absurd rfl hclosed
  · rename_i hroom hopen
    cases hroom
    rfl

theorem ItemsSpelling.spelling
    {room : Nat} {t : Text} {vs : List Value} (h : ItemsSpelling room t vs) :
    Spelling (room + 1) ("[" ++ t ++ "]") (.list vs) := by
  refine ⟨⟨_, _, rfl, by decide, by decide⟩, ?_, fun fuel rest hfuel _ => ?_⟩
  · simp [h.inline, inline_brackets]
  · cases fuel with
    | zero =>
        simp [Text.ofString] at hfuel
    | succ fuel =>
        obtain ⟨c, t', ht, hopener⟩ := h.opens
        have hlength : 2 * t.length + 1 ≤ fuel := by
          simp [Text.ofString] at hfuel
          omega
        have hsplit : ("[" ++ t ++ "]" : Text) ++ rest =
            .scalar '[' :: (t ++ .scalar ']' :: rest) := by
          simp [Text.ofString]
        have hreads := h.reads fuel rest hlength
        rw [ht] at hreads
        rw [hsplit, ht, List.cons_append, valueAt_list hopener, ← List.cons_append, hreads]

/-! ## Mappings -/

/-- A text is read as the entries of a mapping up to the closing bracket. -/
structure EntriesSpelling (room : Nat) (t : Text) (es : List (Text × Value)) : Prop where
  opens : ∃ t', t = .scalar '"' :: t'
  inline : Inline t
  reads : ∀ fuel rest, 2 * t.length + 1 ≤ fuel →
    entriesAt room fuel (t ++ .scalar '\x7d' :: rest) = .ok (es, rest)

/-- A key with its value as they are written. -/
def fieldText (k t : Text) : Text := string k ++ ": " ++ t

theorem length_fieldText
    (k t : Text) :
    t.length + 1 ≤ (fieldText k t).length := by
  simp [fieldText, string, Text.ofString]
  omega

theorem inline_fieldText
    (k : Text) {t : Text} (h : Inline t) :
    Inline (fieldText k t) := by
  have hcolon : Inline ": " := by
    decide
  simp [fieldText, inline_string, hcolon, h]

theorem fieldText_append
    (k t rest : Text) :
    fieldText k t ++ rest = .scalar '"' :: (k.flatMap escaped ++
      .scalar '"' :: .scalar ':' :: .scalar ' ' :: (t ++ rest)) := by
  simp [fieldText, string, Text.ofString]

theorem skipSpace_colon
    (t : Text) :
    skipSpace (.scalar ':' :: t) = .scalar ':' :: t := by
  rfl

section Fields

variable {room fuel : Nat} {k t : Text} {v : Value}
variable (hk : Text.unpaired k = true) (h : Spelling room t v) (hfuel : 2 * t.length ≤ fuel)

include hk h hfuel

/-- The last entry is read up to the closing bracket. -/
theorem entriesAt_last
    (rest : Text) :
    entriesAt room (fuel + 1) (fieldText k t ++ .scalar '\x7d' :: rest) =
      .ok ([(k, v)], rest) := by
  have hread := h.reads fuel (.scalar '\x7d' :: rest) hfuel (closes_cons rfl rest)
  rw [fieldText_append, entriesAt, stringBody_escaped hk]
  simp only [skipSpace_colon, skipSpace_blank, h.skipSpace_append, hread,
    skipSpace_closer (c := .scalar '\x7d') rfl]

/-- Any other entry is read in front of those behind the comma. -/
theorem entriesAt_next
    {es : List (Text × Value)} {rest after : Text}
    (hrest : entriesAt room fuel (skipSpace rest) = .ok (es, after)) :
    entriesAt room (fuel + 1) (fieldText k t ++ .scalar ',' :: rest) =
      .ok ((k, v) :: es, after) := by
  have hread := h.reads fuel (.scalar ',' :: rest) hfuel (closes_cons rfl rest)
  rw [fieldText_append, entriesAt, stringBody_escaped hk]
  simp only [skipSpace_colon, skipSpace_blank, h.skipSpace_append, hread,
    skipSpace_closer (c := .scalar ',') rfl, hrest]

end Fields

theorem EntriesSpelling.single
    {room : Nat} {k t : Text} {v : Value} (hk : Text.unpaired k = true)
    (h : Spelling room t v) :
    EntriesSpelling room (fieldText k t) [(k, v)] := by
  refine ⟨⟨_, rfl⟩, inline_fieldText k h.inline, fun fuel rest hfuel => ?_⟩
  have hlength := length_fieldText k t
  cases fuel with
  | zero =>
      omega
  | succ fuel =>
      exact entriesAt_last hk h (by omega) rest

theorem EntriesSpelling.cons
    {room : Nat} {k t ts : Text} {v : Value} {es : List (Text × Value)}
    (hk : Text.unpaired k = true) (h : Spelling room t v) (hs : EntriesSpelling room ts es) :
    EntriesSpelling room (fieldText k t ++ (", " ++ ts)) ((k, v) :: es) := by
  obtain ⟨ts', hts⟩ := hs.opens
  refine ⟨⟨_, rfl⟩, ?_, fun fuel rest hfuel => ?_⟩
  · simp [inline_fieldText k h.inline, hs.inline, inline_separator]
  · have hlength := length_fieldText k t
    have hwhole : (fieldText k t ++ (", " ++ ts) : Text).length =
        (fieldText k t).length + (ts.length + 2) := by
      simp [Text.ofString]
    cases fuel with
    | zero =>
        omega
    | succ fuel =>
        have hsplit : fieldText k t ++ (", " ++ ts) ++ .scalar '\x7d' :: rest =
            fieldText k t ++
              .scalar ',' :: .scalar ' ' :: (ts ++ .scalar '\x7d' :: rest) := by
          simp [Text.ofString]
        have hskip : skipSpace (ts ++ .scalar '\x7d' :: rest) =
            ts ++ .scalar '\x7d' :: rest := by
          rw [hts]
          rfl
        rw [hsplit]
        refine entriesAt_next hk h (by omega) ?_
        rw [skipSpace_blank, hskip]
        exact hs.reads fuel rest (by omega)

/-- Entries with texts for keys as the entries of a value. -/
def fieldsOf (es : List (Text × Value)) : List (Value × Value) :=
  es.map fun e => (.text e.1, e.2)

/-- Entries whose values are read back are written with commas between them, and read as
the entries of a mapping. -/
theorem exists_entriesSpelling
    {room : Nat} {es : List (Text × Value)} (hne : es ≠ [])
    (hkeys : ∀ e ∈ es, Text.unpaired e.1 = true)
    (h : ∀ e ∈ es, ∃ t, encode e.2 = .ok t ∧ Spelling room t e.2) :
    ∃ ts, encodeEntries (fieldsOf es) = .ok ts ∧
      EntriesSpelling room (Text.join ", " ts) es := by
  induction es with
  | nil =>
      exact absurd rfl hne
  | cons e es ih =>
      obtain ⟨k, v⟩ := e
      have hk := hkeys (k, v) List.mem_cons_self
      obtain ⟨t, henc, hspell⟩ := h (k, v) List.mem_cons_self
      have hkey : key (.text k) = .ok (string k) := rfl
      by_cases hes : es = []
      · subst hes
        refine ⟨[fieldText k t], ?_, .single hk hspell⟩
        simp [fieldsOf, encodeEntries, hkey, henc, fieldText]
      · obtain ⟨ts, hencs, hspells⟩ := ih hes
          (fun e he => hkeys e (List.mem_cons_of_mem _ he))
          (fun e he => h e (List.mem_cons_of_mem _ he))
        simp only [fieldsOf] at hencs
        refine ⟨fieldText k t :: ts, ?_, ?_⟩
        · simp [fieldsOf, encodeEntries, hkey, henc, hencs, fieldText]
        · cases ts with
          | nil =>
              obtain ⟨_, hnil⟩ := hspells.opens
              cases hnil
          | cons next ts =>
              rw [Text.join, List.append_assoc]
              exact .cons hk hspell hspells

theorem mapping_of_nodup
    {es : List (Text × Value)} (h : (es.map Prod.fst).Nodup) :
    mapping es = .mapping (fieldsOf es) := by
  rw [mapping, Assoc.ofList_of_nodup h, fieldsOf]

theorem spelling_emptyMapping
    (room : Nat) :
    Spelling (room + 1) "\x7b\x7d" (.mapping []) := by
  refine ⟨⟨_, _, rfl, by decide, by decide⟩, by decide, fun fuel rest hfuel _ => ?_⟩
  cases fuel with
  | zero =>
      simp [Text.ofString] at hfuel
  | succ fuel =>
      rfl

/-- A mapping that is not empty is read as its entries. -/
theorem valueAt_mapping
    (room fuel : Nat) (t : Text) :
    valueAt (room + 1) (fuel + 1) (.scalar '\x7b' :: .scalar '"' :: t) =
      match entriesAt room fuel (.scalar '"' :: t) with
      | .error f => .error f
      | .ok (entries, rest) => .ok (mapping entries, rest) := by
  rfl

theorem EntriesSpelling.spelling
    {room : Nat} {t : Text} {es : List (Text × Value)} (h : EntriesSpelling room t es)
    (hkeys : (es.map Prod.fst).Nodup) :
    Spelling (room + 1) ("\x7b" ++ t ++ "\x7d") (.mapping (fieldsOf es)) := by
  refine ⟨⟨_, _, rfl, by decide, by decide⟩, ?_, fun fuel rest hfuel _ => ?_⟩
  · simp [h.inline, inline_brackets]
  · cases fuel with
    | zero =>
        simp [Text.ofString] at hfuel
    | succ fuel =>
        obtain ⟨t', ht⟩ := h.opens
        have hlength : 2 * t.length + 1 ≤ fuel := by
          simp [Text.ofString] at hfuel
          omega
        have hsplit : ("\x7b" ++ t ++ "\x7d" : Text) ++ rest =
            .scalar '\x7b' :: (t ++ .scalar '\x7d' :: rest) := by
          simp [Text.ofString]
        have hreads := h.reads fuel rest hlength
        rw [ht] at hreads
        rw [hsplit, ht, List.cons_append, valueAt_mapping, ← List.cons_append, hreads]
        simp only [mapping_of_nodup hkeys]

/-! ## Documents -/

/-- A value that is read back where so many lists and mappings may still be nested. -/
inductive Readable : Nat → Value → Prop
  | leaf
      {room : Nat} {v : Value}
      (h : Leaf v) :
      Readable room v
  | list
      {room : Nat} {vs : List Value}
      (h : ∀ v ∈ vs, Readable room v) :
      Readable (room + 1) (.list vs)
  | mapping
      {room : Nat} {es : List (Text × Value)}
      (hdistinct : (es.map Prod.fst).Nodup)
      (hkeys : ∀ e ∈ es, Text.unpaired e.1 = true)
      (h : ∀ e ∈ es, Readable room e.2) :
      Readable (room + 1) (.mapping (fieldsOf es))

/-- A readable value is written as a text that is read as it. -/
theorem Readable.spelling
    {room : Nat} {v : Value} (h : Readable room v) :
    ∃ t, encode v = .ok t ∧ Spelling room t v := by
  induction h with
  | @leaf room v h =>
      exact h.spelling room
  | @list room vs h ih =>
      by_cases hvs : vs = []
      · subst hvs
        exact ⟨"[]", rfl, spelling_emptyList room⟩
      · obtain ⟨ts, henc, hspell⟩ := exists_itemsSpelling hvs ih
        exact ⟨_, by simp [encode, henc], hspell.spelling⟩
  | @mapping room es hdistinct hkeys h ih =>
      by_cases hes : es = []
      · subst hes
        exact ⟨"\x7b\x7d", rfl, spelling_emptyMapping room⟩
      · obtain ⟨ts, henc, hspell⟩ := exists_entriesSpelling hes hkeys ih
        exact ⟨_, by simp [encode, henc], hspell.spelling hdistinct⟩

/-- A readable value is written as a document that is read as it. -/
theorem Readable.decode_encode
    {v : Value} (h : Readable nestingLimit v) :
    ∃ t, encode v = .ok t ∧ decode t = .ok v ∧ Inline t ∧ Opens t := by
  obtain ⟨t, henc, hspell⟩ := h.spelling
  refine ⟨t, henc, ?_, hspell.inline, hspell.opens⟩
  have hskip := hspell.skipSpace_append []
  have hreads := hspell.reads (2 * t.length + 2) [] (by omega) closes_nil
  rw [List.append_nil] at hskip hreads
  unfold decode
  rw [hskip, hreads]
  rfl

/-! ## What is written -/

theorem inline_leaf
    {v : Value} {t : Text} (h : leaf v = .ok t) :
    Inline t := by
  have hwords : Inline "null" ∧ Inline "true" ∧ Inline "false" := by
    decide
  cases v with
  | null =>
      cases h
      exact hwords.1
  | bool b =>
      cases h
      cases b with
      | false =>
          exact hwords.2.2
      | true =>
          exact hwords.2.1
  | int n =>
      simp only [leaf, wholeNumber] at h
      split at h
      · cases h
        exact (Numeral.visible_integer n).of_le (by decide)
      · cases h
  | real x =>
      cases h
      exact (visible_realLayout x).of_le (by decide)
  | text t =>
      cases h
      exact inline_string t
  | _ =>
      cases h

theorem inline_key
    {v : Value} {t : Text} (h : key v = .ok t) :
    Inline t := by
  unfold key at h
  split at h
  · cases h
    exact inline_string _
  · split at h
    · cases h
    · cases h
    · cases h
      exact inline_string _

theorem inline_join
    {ts : List Text} (h : ∀ t ∈ ts, Inline t) :
    Inline (Text.join ", " ts) := by
  induction ts with
  | nil =>
      exact Text.printsFrom_nil
  | cons t ts ih =>
      have hrest := ih fun u hu => h u (List.mem_cons_of_mem t hu)
      cases ts with
      | nil =>
          exact h t List.mem_cons_self
      | cons u ts =>
          simp [Text.join, h t List.mem_cons_self, inline_separator, hrest]

mutual

/-- What a value is written as is printing ASCII, whatever texts are in the value. -/
theorem inline_encode
    {v : Value} {t : Text} (h : encode v = .ok t) :
    Inline t := by
  cases v with
  | list items | tuple items =>
      rw [encode] at h
      split at h
      · cases h
      · rename_i hitems
        cases h
        simp [inline_brackets, inline_join (inline_encodeItems hitems)]
  | mapping entries =>
      rw [encode] at h
      split at h
      · cases h
      · rename_i hentries
        cases h
        simp [inline_brackets, inline_join (inline_encodeEntries hentries)]
  | member form enumeration name v =>
      cases form with
      | plain =>
          cases h
      | integer =>
          exact inline_encode (v := v) h
      | textual =>
          exact inline_encode (v := v) h
  | int n =>
      have hleaf : leaf (.int n) = .ok t := by
        simpa only [encode] using h
      exact inline_leaf hleaf
  | _ =>
      exact inline_leaf h

theorem inline_encodeItems
    {vs : List Value} {ts : List Text} (h : encodeItems vs = .ok ts) :
    ∀ t ∈ ts, Inline t := by
  cases vs with
  | nil =>
      cases h
      simp
  | cons v vs =>
      rw [encodeItems] at h
      split at h
      · cases h
      · rename_i hv
        split at h
        · cases h
        · rename_i hvs
          cases h
          exact List.forall_mem_cons.mpr ⟨inline_encode hv, inline_encodeItems hvs⟩

theorem inline_encodeEntries
    {es : List (Value × Value)} {ts : List Text} (h : encodeEntries es = .ok ts) :
    ∀ t ∈ ts, Inline t := by
  cases es with
  | nil =>
      cases h
      simp
  | cons e es =>
      obtain ⟨k, v⟩ := e
      rw [encodeEntries] at h
      split at h
      · cases h
      · rename_i hk
        split at h
        · cases h
        · rename_i hv
          split at h
          · cases h
          · rename_i hes
            cases h
            have hcolon : Inline ": " := by
              decide
            refine List.forall_mem_cons.mpr ⟨?_, inline_encodeEntries hes⟩
            simp [inline_key hk, hcolon, inline_encode hv]

end

end Json
end Datalink
