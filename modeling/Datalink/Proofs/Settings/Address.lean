import Datalink.Proofs.Text.Cutting
import Datalink.Settings
import Mathlib.Data.List.Induction
import Mathlib.Data.List.TakeWhile
import Mathlib.Data.Nat.Digits.Defs
import Mathlib.Tactic.IntervalCases

/-!
# Addresses

An address is a path with an optional `file:` in front and optional segments behind a
question mark.  It is described here without a reader: by what stands before and behind
separators, by the first segment about which there is a complaint, and by the last segment
under a key.

Results: a number is read from exactly the texts that consist of ASCII digits, unless it is
overlong, and one segment is read as it is described.
-/

namespace Datalink

namespace CodePoint

/-- The ASCII digits are the ten code points that are known by heart. -/
theorem isDigit_iff_mem
    (c : CodePoint) :
    c.isDigit = true ↔ c ∈ ("0123456789" : Text) := by
  constructor
  · intro h
    cases c with
    | scalar c =>
        simp only [isDigit, Char.isDigit, Bool.and_eq_true, decide_eq_true_eq] at h
        have hlow : 48 ≤ c.toNat := h.1
        have hhigh : c.toNat ≤ 57 := h.2
        have hcode : CodePoint.scalar c = ofCode c.toNat := (ofCode_code (.scalar c)).symm
        rw [hcode]
        generalize c.toNat = n at hlow hhigh
        interval_cases n <;> decide
    | surrogate s =>
        cases h
  · have hall : ∀ d ∈ ("0123456789" : Text), d.isDigit = true := by
      decide
    exact hall c

end CodePoint

namespace Numeral

/-- A text of digits denotes the number with these digits in base ten. -/
theorem ofDigits_eq
    (t : Text) :
    ofDigits t = Nat.ofDigits 10 (t.reverse.map fun c => c.code - 48) := by
  induction t using List.reverseRecOn with
  | nil =>
      rfl
  | append_singleton t c ih =>
      rw [ofDigits, List.foldl_append] at *
      simp [ih, Nat.ofDigits_cons]
      omega

end Numeral

/-- Settings given by some segments, and by others before them. -/
def Settings.Given.over (new old : Settings.Given) : Settings.Given where
  databaseName := new.databaseName.or old.databaseName
  connectionLimit := new.connectionLimit.or old.connectionLimit
  cacheSize := new.cacheSize.or old.cacheSize

theorem Settings.Given.over_none
    (new : Settings.Given) :
    new.over ⟨none, none, none⟩ = new := by
  simp [Settings.Given.over]

theorem Settings.Given.over_assoc
    (a b c : Settings.Given) :
    (a.over b).over c = a.over (b.over c) := by
  simp [Settings.Given.over, Option.or_assoc]

namespace Address

/-- The address behind a `file:` at its start. -/
def body (address : Text) : Text :=
  if ("file:" : Text) <+: address then address.drop 5 else address

/-- What stands before the first question mark. -/
def path (address : Text) : Text := (body address).takeWhile (· ≠ .scalar '?')

/-- What stands between the ampersands behind the first question mark, but for empty
texts. -/
def segments (address : Text) : List Text :=
  ((((body address).dropWhile (· ≠ .scalar '?')).drop 1).splitOn (.scalar '&')).filter (· ≠ [])

/-- What stands before the first equality sign of a segment. -/
def key (segment : Text) : Text := segment.takeWhile (· ≠ .scalar '=')

/-- What stands behind the first equality sign of a segment. -/
def value (segment : Text) : Text := (segment.dropWhile (· ≠ .scalar '=')).drop 1

def limitKey : Text := "connection_limit"

def cacheKey : Text := "statement_cache_size"

def nameKey : Text := "db_name"

/-- The number that a run of ASCII digits denotes.  Another text, and the empty one, denotes
no number. -/
def number? (t : Text) : Option Nat :=
  if t ≠ [] ∧ ∀ c ∈ t, c ∈ ("0123456789" : Text) then
    some (Nat.ofDigits 10 (t.reverse.map fun c => c.code - 48))
  else
    none

/-- What is wrong with a segment. -/
def complaint? (segment : Text) : Option OptionProblem :=
  if .scalar '=' ∉ segment then
    some (.notAPair segment)
  else if key segment = limitKey ∧ (number? (value segment)).any (1 ≤ ·) = false then
    some (.badLimit (value segment))
  else if key segment = cacheKey ∧ number? (value segment) = none then
    some (.badCacheSize (value segment))
  else
    none

/-- Whether a segment asks for a number that has too many digits to be read. -/
def Overlong (segment : Text) : Prop :=
  (key segment = limitKey ∨ key segment = cacheKey) ∧
    (number? (value segment)).isSome = true ∧ Numeral.digitLimit < (value segment).length

instance (segment : Text) : Decidable (Overlong segment) :=
  inferInstanceAs (Decidable (_ ∧ _ ∧ _))

/-- The fault that a segment leads to. -/
def fault? (segment : Text) : Option Fault :=
  if Overlong segment then some .digitLimit else (complaint? segment).map .options

/-- Whether a segment is one of those that are discarded. -/
def IsForeign (segment : Text) : Prop :=
  key segment ≠ limitKey ∧ key segment ≠ cacheKey ∧ key segment ≠ nameKey

instance (segment : Text) : Decidable (IsForeign segment) :=
  inferInstanceAs (Decidable (_ ∧ _ ∧ _))

/-- The value of the last segment under a key. -/
def last? (name : Text) (segments : List Text) : Option Text :=
  (segments.filter (key · = name)).getLast?.map value

/-- What segments give. -/
def given (segments : List Text) : Settings.Given where
  databaseName := last? nameKey segments
  connectionLimit := (last? limitKey segments).bind number?
  cacheSize := (last? cacheKey segments).bind number?

theorem isDigits_eq
    (t : Text) :
    Numeral.isDigits t = true ↔ t ≠ [] ∧ ∀ c ∈ t, c ∈ ("0123456789" : Text) := by
  simp only [Numeral.isDigits, Bool.and_eq_true, Bool.not_eq_true', List.isEmpty_eq_false_iff,
    List.all_eq_true, CodePoint.isDigit_iff_mem]

/-- A number is read from the texts that denote one, unless they are too long. -/
theorem number_eq
    (t : Text) (problem : OptionProblem) :
    Settings.number t problem =
      match number? t with
      | none => .error (Settings.refuse problem)
      | some n => if Numeral.digitLimit < t.length then .error .digitLimit else .ok n := by
  unfold Settings.number number?
  by_cases ht : t ≠ [] ∧ ∀ c ∈ t, c ∈ ("0123456789" : Text)
  · rw [if_pos ht, if_neg (by rw [(isDigits_eq t).mpr ht]; simp), Numeral.ofDigits_eq]
  · rw [if_neg ht, if_pos]
    exact Bool.eq_false_iff.mpr fun h => ht ((isDigits_eq t).mp h)

theorem last?_singleton
    (name segment : Text) :
    last? name [segment] = if key segment = name then some (value segment) else none := by
  by_cases h : key segment = name <;> simp [last?, h]

theorem last?_cons
    (name segment : Text) (rest : List Text) :
    last? name (segment :: rest) = (last? name rest).or (last? name [segment]) := by
  by_cases h : key segment = name
  · simp only [last?, List.filter_cons, h, decide_true, if_true, List.getLast?_cons]
    cases (rest.filter (key · = name)).getLast? <;> simp
  · simp [last?, h]

theorem keys_ne :
    limitKey ≠ cacheKey ∧ limitKey ≠ nameKey ∧ cacheKey ≠ nameKey := by
  decide

theorem given_singleton
    (segment : Text) :
    given [segment] =
      ⟨if key segment = nameKey then some (value segment) else none,
        if key segment = limitKey then number? (value segment) else none,
        if key segment = cacheKey then number? (value segment) else none⟩ := by
  simp only [given, last?_singleton]
  congr 1 <;> split <;> rfl

section Segments

variable (g : Settings.Given) {segment : Text} (hpair : .scalar '=' ∈ segment)

theorem setting_of_not_pair
    (hpair : .scalar '=' ∉ segment) :
    Settings.setting g segment = .error (.options (.notAPair segment)) := by
  simp only [Settings.setting, Text.cut_eq, hpair, if_false]
  rfl

include hpair

theorem setting_of_pair :
    Settings.setting g segment =
      if key segment = limitKey then
        match Settings.number (value segment) (.badLimit (value segment)) with
        | .error f => .error f
        | .ok 0 => .error (Settings.refuse (.badLimit (value segment)))
        | .ok n => .ok (.gives { g with connectionLimit := some n })
      else if key segment = cacheKey then
        match Settings.number (value segment) (.badCacheSize (value segment)) with
        | .error f => .error f
        | .ok n => .ok (.gives { g with cacheSize := some n })
      else if key segment = nameKey then
        .ok (.gives { g with databaseName := some (value segment) })
      else
        .ok (.discarded (key segment)) := by
  simp only [Settings.setting, Text.cut_eq, hpair, if_true]
  rfl

theorem setting_of_limit
    (hkey : key segment = limitKey) :
    Settings.setting g segment =
      match fault? segment with
      | some f => .error f
      | none => .ok (.gives ((given [segment]).over g)) := by
  obtain ⟨hcache, hname, -⟩ := keys_ne
  rw [setting_of_pair g hpair, if_pos hkey, number_eq, given_singleton]
  cases hnumber : number? (value segment) with
  | none =>
      simp [fault?, Overlong, complaint?, hpair, hkey, hnumber, Settings.refuse,
        OptionProblem.wordable]
  | some n =>
      by_cases hlong : Numeral.digitLimit < (value segment).length
      · simp [fault?, Overlong, hkey, hnumber, hlong]
      · cases n with
        | zero =>
            simp [fault?, Overlong, complaint?, hpair, hkey, hnumber, hlong, Settings.refuse,
              OptionProblem.wordable]
        | succ n =>
            simp [fault?, Overlong, complaint?, hpair, hkey, hnumber, hlong, hcache, hname,
              Settings.Given.over]

theorem setting_of_cache
    (hkey : key segment = cacheKey) :
    Settings.setting g segment =
      match fault? segment with
      | some f => .error f
      | none => .ok (.gives ((given [segment]).over g)) := by
  obtain ⟨hlimit, -, hname⟩ := keys_ne
  rw [setting_of_pair g hpair, if_neg (by rw [hkey]; exact hlimit.symm), if_pos hkey, number_eq,
    given_singleton]
  cases hnumber : number? (value segment) with
  | none =>
      simp [fault?, Overlong, complaint?, hpair, hkey, hnumber, hlimit.symm, Settings.refuse,
        OptionProblem.wordable]
  | some n =>
      by_cases hlong : Numeral.digitLimit < (value segment).length
      · simp [fault?, Overlong, hkey, hnumber, hlong]
      · simp [fault?, Overlong, complaint?, hpair, hkey, hnumber, hlong, hlimit.symm, hname,
          Settings.Given.over]

end Segments

/-- One segment is read as it is described. -/
theorem setting_eq
    (g : Settings.Given) (segment : Text) :
    Settings.setting g segment =
      match fault? segment with
      | some f => .error f
      | none =>
          .ok (if IsForeign segment then .discarded (key segment)
            else .gives ((given [segment]).over g)) := by
  by_cases hpair : .scalar '=' ∈ segment
  · by_cases hlimit : key segment = limitKey
    · rw [setting_of_limit g hpair hlimit, if_neg fun h => h.1 hlimit]
    · by_cases hcache : key segment = cacheKey
      · rw [setting_of_cache g hpair hcache, if_neg fun h => h.2.1 hcache]
      · have hfault : fault? segment = none := by
          simp [fault?, Overlong, complaint?, hpair, hlimit, hcache]
        rw [setting_of_pair g hpair, if_neg hlimit, if_neg hcache, hfault, given_singleton]
        by_cases hname : key segment = nameKey
        · obtain ⟨-, hlimit, hcache⟩ := keys_ne
          simp [hname, hlimit.symm, hcache.symm, IsForeign, Settings.Given.over]
        · simp [hlimit, hcache, hname, IsForeign]
  · have hvalue : value segment = [] := by
      have hall : segment.dropWhile (· ≠ .scalar '=') = [] := by
        rw [List.dropWhile_eq_nil_iff]
        intro c hc
        simpa using fun h : c = .scalar '=' => hpair (h ▸ hc)
      rw [value, hall, List.drop_nil]
    have hfault : fault? segment = some (.options (.notAPair segment)) := by
      simp [fault?, Overlong, complaint?, hpair, hvalue, number?]
    rw [setting_of_not_pair g hpair, hfault]

theorem complaint?_eq_none_iff
    (segment : Text) :
    complaint? segment = none ↔
      .scalar '=' ∈ segment ∧
        (key segment = limitKey → (number? (value segment)).any (1 ≤ ·) = true) ∧
          (key segment = cacheKey → number? (value segment) ≠ none) := by
  unfold complaint?
  split_ifs <;> simp_all

theorem fault?_eq_none_iff
    (segment : Text) :
    fault? segment = none ↔ ¬ Overlong segment ∧ complaint? segment = none := by
  by_cases h : Overlong segment <;> simp [fault?, h]

theorem mem_of_last?
    {name : Text} {segments : List Text} {v : Text} (h : last? name segments = some v) :
    ∃ segment ∈ segments, key segment = name ∧ value segment = v := by
  obtain ⟨segment, hlast, hvalue⟩ := Option.map_eq_some_iff.mp h
  obtain ⟨hmem, hkey⟩ := List.mem_filter.mp (List.mem_of_getLast? hlast)
  exact ⟨segment, hmem, by simpa using hkey, hvalue⟩

section Segments

variable {segments : List Text} (h : segments.findSome? fault? = none)

include h

/-- A limit about which there is no complaint is a positive number. -/
theorem limit_of_last?
    {v : Text} (hlast : last? limitKey segments = some v) :
    ∃ n, number? v = some n ∧ 1 ≤ n := by
  obtain ⟨segment, hmem, hkey, rfl⟩ := mem_of_last? hlast
  have hfault := List.findSome?_eq_none_iff.mp h segment hmem
  obtain ⟨-, hlimit, -⟩ := (complaint?_eq_none_iff _).mp ((fault?_eq_none_iff _).mp hfault).2
  simpa [Option.any_eq_true] using hlimit hkey

theorem cacheSize_of_last?
    {v : Text} (hlast : last? cacheKey segments = some v) :
    ∃ n, number? v = some n := by
  obtain ⟨segment, hmem, hkey, rfl⟩ := mem_of_last? hlast
  have hfault := List.findSome?_eq_none_iff.mp h segment hmem
  obtain ⟨-, -, hcache⟩ := (complaint?_eq_none_iff _).mp ((fault?_eq_none_iff _).mp hfault).2
  exact Option.ne_none_iff_exists'.mp (hcache hkey)

/-- What segments give is what the later ones give, over what the first one gives. -/
theorem given_cons
    (segment : Text) :
    given (segment :: segments) = (given segments).over (given [segment]) := by
  -- A last value that denotes no number would give nothing, and hide an earlier one.
  simp only [given, last?_cons _ segment segments, Settings.Given.over]
  congr 1
  · cases hlast : last? limitKey segments with
    | none =>
        rfl
    | some v =>
        obtain ⟨n, hn, -⟩ := limit_of_last? h hlast
        simp [hn]
  · cases hlast : last? cacheKey segments with
    | none =>
        rfl
    | some v =>
        obtain ⟨n, hn⟩ := cacheSize_of_last? h hlast
        simp [hn]

end Segments

end Address

end Datalink
