/-!
# Ordered mappings

A mapping is a list of keys with their values, in the order in which the keys were
first put.  A value put under a key that is there takes the old value's place.

Results: `put` changes what is under its own key and under no other, and a key that
is new comes last, so that entries with keys that are all different stay as they are.
-/

namespace Datalink

/-- Keys with their values, in order. -/
abbrev Assoc (κ ν : Type) := List (κ × ν)

namespace Assoc

variable {κ ν : Type} [DecidableEq κ]

/-- The value under a key. -/
def get? (key : κ) : Assoc κ ν → Option ν
  | [] => none
  | (k, v) :: rest => if k = key then some v else get? key rest

/-- A value put under a key. -/
def put (key : κ) (value : ν) : Assoc κ ν → Assoc κ ν
  | [] => [(key, value)]
  | (k, v) :: rest =>
      if k = key then (k, value) :: rest else (k, v) :: put key value rest

/-- The key taken out. -/
def erase (key : κ) : Assoc κ ν → Assoc κ ν
  | [] => []
  | (k, v) :: rest => if k = key then erase key rest else (k, v) :: erase key rest

/-- The mapping of a list of entries, put one after the other. -/
def ofList (entries : List (κ × ν)) : Assoc κ ν :=
  entries.foldl (fun m e => m.put e.1 e.2) []

/-- The keys in order. -/
def keys (m : Assoc κ ν) : List κ := m.map Prod.fst

@[simp] theorem get?_put_self
    (key : κ) (value : ν) (m : Assoc κ ν) :
    get? key (put key value m) = some value := by
  induction m with
  | nil =>
      simp [put, get?]
  | cons e rest ih =>
      by_cases h : e.1 = key <;> simp [put, get?, h, ih]

@[simp] theorem get?_put_ne
    {key other : κ} (h : other ≠ key)
    (value : ν) (m : Assoc κ ν) :
    get? other (put key value m) = get? other m := by
  induction m with
  | nil =>
      simp [put, get?, h.symm]
  | cons e rest ih =>
      obtain ⟨k, v⟩ := e
      by_cases hk : k = key
      · simp [put, get?, hk, h.symm]
      · simp [put, get?, hk, ih]

/-- A value under a new key comes last. -/
theorem put_of_not_mem
    {key : κ} {m : Assoc κ ν} (h : key ∉ m.keys) (value : ν) :
    put key value m = m ++ [(key, value)] := by
  induction m with
  | nil =>
      rfl
  | cons e rest ih =>
      obtain ⟨k, v⟩ := e
      have hne : k ≠ key := fun hk => h (by simp [keys, hk])
      have hrest : key ∉ keys rest := fun hmem => h (List.mem_cons_of_mem k hmem)
      simp [put, hne, ih hrest]

theorem foldl_put_of_nodup
    {m : Assoc κ ν} {entries : List (κ × ν)} (h : (keys (m ++ entries)).Nodup) :
    entries.foldl (fun m e => m.put e.1 e.2) m = m ++ entries := by
  induction entries generalizing m with
  | nil =>
      simp
  | cons e entries ih =>
      have hnew : e.1 ∉ m.keys := by
        intro hmem
        simp only [keys, List.map_append, List.map_cons, List.nodup_append] at h
        exact h.2.2 e.1 hmem e.1 List.mem_cons_self rfl
      rw [List.foldl_cons, put_of_not_mem hnew, ih (by simpa using h), List.append_assoc]
      rfl

/-- Entries with keys that are all different are a mapping as they are. -/
theorem ofList_of_nodup
    {entries : List (κ × ν)} (h : (entries.map Prod.fst).Nodup) :
    ofList entries = entries :=
  foldl_put_of_nodup (m := []) (by simpa [keys] using h)

end Assoc
end Datalink
