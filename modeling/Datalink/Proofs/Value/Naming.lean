import Datalink.Value.Comparison

/-!
# Values that are names

A value is a name if it is a text, or a member of an enumeration that is a text besides.
Names are told apart by their texts, whatever else they may be compared with.

Results: a name is the same as a value if and only if that value is a name with the same
text.  Comparing with a name is never refused, and a name can be a key.  In a mapping what
was put under a name is found under every name with its text and under no other name, and of
several things that were put under one text the last is found.
-/

namespace Datalink

namespace Value

/-- The text of a name. -/
def text? (v : Value) : Option Text :=
  match v.face with
  | text t => some t
  | _ => none

theorem text?_eq_some_iff
    (v : Value) (t : Text) :
    v.text? = some t ↔ v.face = text t := by
  unfold text?
  cases v.face <;> simp

theorem sameLeaf_text_iff
    (t : Text) (v : Value) :
    sameLeaf (text t) v = true ↔ v = text t := by
  cases v with
  | text s =>
      simpa [sameLeaf, quantity?] using eq_comm
  | _ =>
      simp [sameLeaf, quantity?]

section Names

variable {v : Value} {t : Text} (h : v.text? = some t)
include h

theorem same_iff_of_text?
    (w : Value) :
    v.same w = true ↔ w.text? = some t := by
  rw [text?_eq_some_iff] at h ⊢
  induction v using face.induct with
  | case1 enumeration name v ih =>
      rw [same]
      exact ih h
  | case2 enumeration name v ih =>
      rw [same]
      exact ih h
  | case3 v hinteger htextual =>
      rw [face] at h
      · subst h
        simpa [same] using sameLeaf_text_iff t w.face
      all_goals assumption

theorem not_refuses_of_text?
    (w : Value) :
    v.refuses w = false := by
  rw [text?_eq_some_iff] at h
  induction v using face.induct with
  | case1 enumeration name v ih =>
      rw [refuses]
      exact ih h
  | case2 enumeration name v ih =>
      simp [refuses, refusesLeaf, quantity?]
  | case3 v hinteger htextual =>
      rw [face] at h
      · subst h
        simp [refuses, refusesLeaf, quantity?]
      all_goals assumption

theorem equals_of_text?
    (w : Value) :
    v.equals w = .ok (v.same w) := by
  simp [equals, not_refuses_of_text? h w]

theorem same_comm_of_text?
    {w : Value} {s : Text} (hw : w.text? = some s) :
    w.same v = v.same w := by
  rw [Bool.eq_iff_iff, same_iff_of_text? hw, same_iff_of_text? h, hw, h, eq_comm]

theorem keyFault?_of_text? :
    v.keyFault? = none := by
  rw [text?_eq_some_iff] at h
  cases v with
  | text s =>
      rfl
  | member form enumeration name v =>
      rfl
  | _ =>
      cases h

theorem checkKey_of_text? :
    v.checkKey = .ok () := by
  rw [checkKey, keyFault?_of_text? h]

/-- A name is looked for by its text. -/
theorem position?_of_text?
    {ws : List Value} (hws : ∀ w ∈ ws, w.text?.isSome = true) :
    v.position? ws = .ok (ws.findIdx? v.same) := by
  induction ws with
  | nil =>
      rfl
  | cons w ws ih =>
      obtain ⟨hw, hws⟩ := List.forall_mem_cons.mp hws
      obtain ⟨s, hs⟩ := Option.isSome_iff_exists.mp hw
      rw [position?, equals_of_text? hs, same_comm_of_text? h hs, ih hws, List.findIdx?_cons]
      cases v.same w <;> rfl

end Names

theorem keyFaultIn?_of_names
    {ws : List Value} (hws : ∀ w ∈ ws, w.text?.isSome = true) :
    keyFaultIn? ws = none := by
  induction ws with
  | nil =>
      rfl
  | cons w ws ih =>
      obtain ⟨hw, hws⟩ := List.forall_mem_cons.mp hws
      obtain ⟨s, hs⟩ := Option.isSome_iff_exists.mp hw
      rw [keyFaultIn?, keyFault?_of_text? hs]
      exact ih hws

end Value

namespace Keyed

variable {α : Type}

/-- A name finds what its text finds. -/
theorem get?_of_text?
    {name : Value} {t : Text} (h : name.text? = some t) (m : Keyed α) :
    get? name m = get? (.text t) m := by
  induction m with
  | nil =>
      rfl
  | cons e rest ih =>
      have hsame : name.same e.1 = (Value.text t).same e.1 := by
        rw [Bool.eq_iff_iff, Value.same_iff_of_text? h, Value.same_iff_of_text? rfl]
      rw [get?, get?, hsame, ih]

/-- What is found under a name behind putting something under another: that, if the names
have one text, and otherwise what was found before. -/
theorem get?_put_of_text?
    {name key : Value} {s t : Text} (hname : name.text? = some s) (hkey : key.text? = some t)
    (a : α) (m : Keyed α) :
    get? name (put key a m) = if s = t then some a else get? name m := by
  have hfirst : name.same key = true ↔ s = t := by
    rw [Value.same_iff_of_text? hname, hkey, Option.some.injEq, eq_comm]
  induction m with
  | nil =>
      simp [put, get?, hfirst]
  | cons e rest ih =>
      by_cases he : key.same e.1 = true
      · -- The key finds its place at a name with its own text.
        have hsame : name.same e.1 = true ↔ s = t := by
          rw [Value.same_iff_of_text? hname, (Value.same_iff_of_text? hkey _).mp he,
            Option.some.injEq, eq_comm]
        rw [put, if_pos he, get?, get?]
        by_cases hst : s = t <;> simp [hsame, hst]
      · rw [put, if_neg he, get?, get?, ih]
        by_cases hst : s = t
        · have hother : ¬ name.same e.1 = true := by
            rw [Value.same_iff_of_text? hname, hst, ← Value.same_iff_of_text? hkey]
            exact he
          simp [hst, hother]
        · simp [hst]

/-- Entries under names are put one after the other, and the last one under a name is what is
found under it. -/
theorem get?_ofList_of_names
    {name : Value} {t : Text} (hname : name.text? = some t) {entries : List (Value × α)}
    (h : ∀ e ∈ entries, e.1.text?.isSome = true) :
    get? name (ofList entries) =
      ((entries.filter fun e => name.same e.1).map Prod.snd).getLast? := by
  suffices hfold : ∀ m : Keyed α,
      get? name (entries.foldl (fun m e => put e.1 e.2 m) m) =
        ((entries.filter fun e => name.same e.1).map Prod.snd).getLast?.or (get? name m) by
    simpa [ofList, get?] using hfold []
  induction entries with
  | nil =>
      intro m
      rfl
  | cons e entries ih =>
      intro m
      obtain ⟨he, hentries⟩ := List.forall_mem_cons.mp h
      obtain ⟨s, hs⟩ := Option.isSome_iff_exists.mp he
      have hsame : name.same e.1 = true ↔ t = s := by
        rw [Value.same_iff_of_text? hname, hs, Option.some.injEq, eq_comm]
      rw [List.foldl_cons, ih hentries, get?_put_of_text? hname hs, List.filter_cons]
      by_cases hts : t = s
      · rw [if_pos hts, if_pos (hsame.mpr hts), List.map_cons, List.getLast?_cons]
        cases ((entries.filter fun e => name.same e.1).map Prod.snd).getLast? <;> rfl
      · rw [if_neg hts, if_neg (mt hsame.mp hts)]

/-- Entries under names can be put into a mapping. -/
theorem collect_of_names
    {entries : List (Value × α)} (h : ∀ e ∈ entries, e.1.text?.isSome = true) :
    collect entries = .ok (ofList entries) := by
  rw [collect, Value.keyFaultIn?_of_names]
  intro key hkey
  obtain ⟨e, he, rfl⟩ := List.mem_map.mp hkey
  exact h e he

end Keyed

end Datalink
