import Datalink.Proofs.Settings.Address

/-!
# Reading an address

The settings of an address are described as a whole: by its path, by the first segment that
leads to a fault, and by the last segment under each of the known keys.  The counts of
cores are positive or unknown.

Results: `read_eq` says that reading an address gives the settings that are described, or
the fault, and the lines about the segments that were discarded before it.  From that
follow what is read from an address without overlong numbers, `read_eq_of_short`, and how
reading can end at all, `usable_or_refused`.
-/

namespace Datalink

namespace Surroundings

/-- Whether the counts of cores are positive or unknown. -/
def Counted (s : Surroundings) : Prop :=
  (∀ n ∈ s.physicalCores, 0 < n) ∧ ∀ n ∈ s.logicalCores, 0 < n

instance (s : Surroundings) : Decidable s.Counted :=
  inferInstanceAs (Decidable (_ ∧ _))

theorem known_of_pos
    {count : Option Int} (h : ∀ n ∈ count, 0 < n) :
    known count = count := by
  cases count with
  | none =>
      rfl
  | some n =>
      have hn := h n rfl
      unfold known
      split
      · rename_i hzero
        obtain rfl := Option.some.inj hzero
        omega
      · rfl

theorem defaultLimit_of_counted
    {s : Surroundings} (h : s.Counted) :
    s.defaultLimit = 2 * (s.physicalCores.or s.logicalCores).getD 1 + 1 ∧
      1 ≤ s.defaultLimit := by
  obtain ⟨hphysical, hlogical⟩ := h
  unfold defaultLimit cores
  rw [known_of_pos hphysical, known_of_pos hlogical]
  cases hp : s.physicalCores with
  | some n =>
      have hn := hphysical n hp
      simp only [Option.orElse_some, Option.some_or, Option.getD_some]
      omega
  | none =>
      cases hl : s.logicalCores with
      | some n =>
          have hn := hlogical n hl
          simp only [Option.orElse_none, Option.none_or, Option.getD_some]
          omega
      | none =>
          simp

end Surroundings

namespace Address

/-- Whether a path cannot be used: it is empty, it holds a surrogate, or it is a
directory. -/
def Refused (s : Surroundings) (path : Text) : Prop :=
  path = [] ∨ (∃ c ∈ path, c.isSurrogate = true) ∨ s.isDirectory path = true

instance (s : Surroundings) (path : Text) : Decidable (Refused s path) :=
  inferInstanceAs (Decidable (_ ∨ _ ∨ _))

/-- The keys of the segments that are discarded. -/
def foreignKeys (segments : List Text) : List Text :=
  (segments.filter (IsForeign ·)).map key

/-- The settings on a path that segments stand for.  What they do not give is nothing, twice
the number of cores and one more, and 128. -/
def settings (s : Surroundings) (path : Text) (segments : List Text) : Settings where
  path := .text path
  databaseName := .optionalText (last? nameKey segments)
  connectionLimit := .int (((last? limitKey segments).bind number?).elim
    (2 * (s.physicalCores.or s.logicalCores).getD 1 + 1) fun n => n)
  cacheSize := .int (((last? cacheKey segments).bind number?).elim 128 fun n => n)

/-- The lines about discarded segments, and the settings that an address stands for, if
segments lead to given faults. -/
def reading (faultOf : Text → Option Fault) (s : Surroundings) (address : Text) :
    List Text × Except Fault Settings :=
  if Refused s (path address) then
    ([], .error (.address (.text (path address))))
  else
    let before := (segments address).takeWhile fun segment => (faultOf segment).isNone
    ((foreignKeys before).map fun key => "Discarding connection string param: " ++ key,
      match (segments address).findSome? faultOf with
      | some f => .error f
      | none => .ok (settings s (path address) (segments address)))

theorem checkPath_text
    (s : Surroundings) (path : Text) :
    Settings.checkPath s (.text path) =
      if Refused s path then .error (.address (.text path)) else .ok () := by
  have hencodable : path.encodable = false ↔ ∃ c ∈ path, c.isSurrogate = true := by
    simp [Text.encodable]
  unfold Settings.checkPath Refused
  cases path with
  | nil =>
      rfl
  | cons c rest =>
      simp only [Value.truthy, Value.face, List.isEmpty_cons, Bool.not_false, if_true,
        Value.asEncodable_text, hencodable, reduceCtorEq, false_or]

/-- The path of an address and its segments, some of which may be empty. -/
theorem parts_eq
    (address : Text) :
    (Settings.parts address).1 = path address ∧
      (Settings.parts address).2.filter (· ≠ []) = segments address := by
  have hbody : (Text.dropOpening? "file:" address).getD address = body address :=
    Text.getD_dropOpening? "file:" address
  simp only [Settings.parts, hbody, Text.cut_eq, Text.splitAt_eq_splitOn]
  refine ⟨rfl, ?_⟩
  unfold segments
  split
  · rfl
  · rename_i hmark
    have hall : (body address).dropWhile (· ≠ .scalar '?') = [] := by
      rw [List.dropWhile_eq_nil_iff]
      intro c hc
      simpa using fun h : c = .scalar '?' => hmark (h ▸ hc)
    rw [hall]
    rfl

theorem foreignKeys_cons
    (segment : Text) (rest : List Text) :
    foreignKeys (segment :: rest) =
      if IsForeign segment then key segment :: foreignKeys rest else foreignKeys rest := by
  by_cases h : IsForeign segment <;> simp [foreignKeys, h]

theorem given_of_foreign
    {segment : Text} (h : IsForeign segment) :
    given [segment] = ⟨none, none, none⟩ := by
  obtain ⟨hlimit, hcache, hname⟩ := h
  rw [given_singleton, if_neg hlimit, if_neg hcache, if_neg hname]

/-- Reading goes on to the first segment that leads to a fault. -/
theorem collect_eq
    (g : Settings.Given) (parts : List Text) :
    Settings.collect g parts =
      let kept := parts.filter (· ≠ [])
      (foreignKeys (kept.takeWhile fun segment => (fault? segment).isNone),
        match kept.findSome? fault? with
        | some f => .error f
        | none => .ok ((given kept).over g)) := by
  -- What was given by earlier segments ends up under what the later ones give, so that `g`
  -- has to be any.
  induction parts generalizing g with
  | nil =>
      rfl
  | cons segment parts ih =>
      by_cases hempty : segment = []
      · simp only [Settings.collect, hempty, if_true, ih]
        rfl
      · have hkept : (segment :: parts).filter (· ≠ []) = segment :: parts.filter (· ≠ []) :=
          List.filter_cons_of_pos (by simpa using hempty)
        rw [hkept]
        generalize parts.filter (· ≠ []) = kept at ih
        simp only [Settings.collect, if_neg hempty, setting_eq, List.takeWhile_cons,
          List.findSome?_cons]
        cases hfault : fault? segment with
        | some f =>
            rfl
        | none =>
            simp only [Option.isNone_none, if_true]
            by_cases hforeign : IsForeign segment
            · simp only [if_pos hforeign, ih, foreignKeys_cons]
              cases hrest : kept.findSome? fault? with
              | some f =>
                  rfl
              | none =>
                  rw [given_cons hrest, Settings.Given.over_assoc, given_of_foreign hforeign]
                  rfl
            · simp only [if_neg hforeign, ih, foreignKeys_cons]
              cases hrest : kept.findSome? fault? with
              | some f =>
                  rfl
              | none =>
                  rw [given_cons hrest, Settings.Given.over_assoc]

theorem one_le_of_given
    {segments : List Text} (h : segments.findSome? fault? = none) :
    ∀ n ∈ (given segments).connectionLimit, 1 ≤ n := by
  intro n hn
  obtain ⟨v, hlast, hv⟩ := Option.bind_eq_some_iff.mp hn
  obtain ⟨m, hm, hone⟩ := limit_of_last? h hlast
  obtain rfl : m = n := Option.some.inj (hm.symm.trans hv)
  exact hone

theorem cacheSize_nonneg
    (size : Option Nat) :
    0 ≤ size.elim (128 : Int) fun n => n := by
  cases size with
  | none =>
      decide
  | some n =>
      simp only [Option.elim_some]
      omega

section Counted

variable {s : Surroundings} (hs : s.Counted)

include hs

theorem one_le_limit
    {limit : Option Nat} (hlimit : ∀ n ∈ limit, 1 ≤ n) :
    1 ≤ limit.elim (2 * (s.physicalCores.or s.logicalCores).getD 1 + 1) fun n => n := by
  cases limit with
  | none =>
      obtain ⟨hdefault, hone⟩ := Surroundings.defaultLimit_of_counted hs
      rw [← hdefault]
      exact hone
  | some n =>
      have hn := hlimit n rfl
      simp only [Option.elim_some]
      omega

/-- What segments without a fault give is accepted on a path that is not refused. -/
theorem ofGiven_given
    {path : Text} (hpath : ¬ Refused s path) {segments : List Text}
    (h : segments.findSome? fault? = none) :
    Settings.ofGiven s (.text path) (given segments) = .ok (settings s path segments) := by
  obtain ⟨hdefault, -⟩ := Surroundings.defaultLimit_of_counted hs
  have hlimit : ∀ limit : Option Nat,
      Settings.limitOr s (Settings.optionalNumber limit .null) =
        .int (limit.elim (2 * (s.physicalCores.or s.logicalCores).getD 1 + 1) fun n => n) := by
    intro limit
    cases limit with
    | none =>
        simp only [Settings.optionalNumber, Settings.limitOr, hdefault, Option.elim_none]
    | some n =>
        rfl
  have hsize : ∀ size : Option Nat,
      Settings.optionalNumber size Settings.defaultCacheSize =
        .int (size.elim 128 fun n => n) := by
    intro size
    cases size <;> rfl
  have hone := one_le_limit hs (one_le_of_given h)
  have hzero := cacheSize_nonneg (given segments).cacheSize
  simp only [Settings.ofGiven, Settings.make, checkPath_text, if_neg hpath, hlimit, hsize,
    Settings.checkBound_int, if_neg (Int.not_lt.mpr hone), if_neg (Int.not_lt.mpr hzero)]
  rfl

end Counted

/-- Reading an address gives the settings that it stands for, or the first fault, and the
lines about the segments that were discarded before. -/
theorem read_eq
    {s : Surroundings} (hs : s.Counted) (address : Text) :
    ((Settings.read s (.text address)).1.map Settings.discardNote,
        (Settings.read s (.text address)).2) =
      reading fault? s address := by
  obtain ⟨hpath, hsegments⟩ := parts_eq address
  have hparse : Settings.parse s address =
      Settings.ofParts s (.text (path address)) (Settings.parts address).2 :=
    hpath ▸ rfl
  rw [Settings.read_text, hparse, reading]
  unfold Settings.ofParts
  rw [checkPath_text]
  by_cases hrefused : Refused s (path address)
  · rw [if_pos hrefused, if_pos hrefused]
    rfl
  · rw [if_neg hrefused, if_neg hrefused]
    simp only [collect_eq, hsegments]
    cases hfault : (segments address).findSome? fault? with
    | some f =>
        rfl
    | none =>
        simp only [Settings.Given.over_none, ofGiven_given hs hrefused hfault]
        rfl

section Faults

variable {f g : Text → Option Fault}

/-- How far segments are gone through depends on the faults they lead to alone. -/
theorem scan_congr
    {list : List Text} (h : ∀ segment ∈ list, f segment = g segment) :
    (list.takeWhile fun segment => (f segment).isNone) =
        (list.takeWhile fun segment => (g segment).isNone) ∧
      list.findSome? f = list.findSome? g := by
  induction list with
  | nil =>
      exact ⟨rfl, rfl⟩
  | cons segment rest ih =>
      obtain ⟨hkept, hfault⟩ := ih fun x hx => h x (List.mem_cons_of_mem _ hx)
      simp only [List.takeWhile_cons, List.findSome?_cons, h segment List.mem_cons_self, hkept,
        hfault, and_self]

theorem reading_congr
    {address : Text} (h : ∀ segment ∈ segments address, f segment = g segment)
    (s : Surroundings) :
    reading f s address = reading g s address := by
  obtain ⟨hkept, hfault⟩ := scan_congr h
  simp only [reading, hkept, hfault]

end Faults

/-- An address without overlong numbers stands for the settings, or the complaint, that its
segments lead to. -/
theorem read_eq_of_short
    {s : Surroundings} (hs : s.Counted) {address : Text}
    (hshort : ∀ segment ∈ segments address, ¬ Overlong segment) :
    ((Settings.read s (.text address)).1.map Settings.discardNote,
        (Settings.read s (.text address)).2) =
      reading (fun segment => (complaint? segment).map .options) s address := by
  have hfault : ∀ segment ∈ segments address,
      fault? segment = (complaint? segment).map .options := by
    intro segment hmem
    rw [fault?, if_neg (hshort segment hmem)]
  rw [read_eq hs, reading_congr hfault]

/-- Of two limits the later one counts, and a name may hold equality signs. -/
theorem read_eq_of_short_repeated :
    let s : Surroundings := ⟨fun _ => false, none, some 4⟩
    let address : Text := "file:a.db?connection_limit=3&x=1&&connection_limit=07&db_name=a=b"
    s.Counted ∧ (∀ segment ∈ segments address, ¬ Overlong segment) ∧
      ((Settings.read s (.text address)).1.map Settings.discardNote,
          (Settings.read s (.text address)).2) =
        ([("Discarding connection string param: x" : Text)],
          Except.ok ⟨.text "a.db", .text "a=b", .int 7, .int 128⟩) := by
  intro s address
  have hs : s.Counted := by
    decide
  have hshort : ∀ segment ∈ segments address, ¬ Overlong segment := by
    decide +kernel
  exact ⟨hs, hshort, (read_eq_of_short hs hshort).trans rfl⟩

/-- Whether settings can be used: the path is accepted, the limit is positive and the cache
size is not negative. -/
def Usable (s : Surroundings) (settings : Settings) : Prop :=
  (∃ path, settings.path = .text path ∧ ¬ Refused s path) ∧
    (∃ limit, settings.connectionLimit = .int limit ∧ 1 ≤ limit) ∧
      ∃ size, settings.cacheSize = .int size ∧ 0 ≤ size

theorem usable_settings
    {s : Surroundings} (hs : s.Counted) {path : Text} (hpath : ¬ Refused s path)
    {segments : List Text} (h : segments.findSome? fault? = none) :
    Usable s (settings s path segments) :=
  ⟨⟨path, rfl, hpath⟩, ⟨_, rfl, one_le_limit hs (one_le_of_given h)⟩,
    ⟨_, rfl, cacheSize_nonneg (given segments).cacheSize⟩⟩

theorem fault_cases
    {segment : Text} {f : Fault} (h : fault? segment = some f) :
    f = .digitLimit ∨ ∃ problem, f = .options problem := by
  unfold fault? at h
  split at h
  · exact .inl (Option.some.inj h).symm
  · obtain ⟨problem, -, rfl⟩ := Option.map_eq_some_iff.mp h
    exact .inr ⟨problem, rfl⟩

/-- The first segment that leads to a fault asks for an overlong number. -/
theorem digitLimit_iff
    (segments : List Text) :
    segments.findSome? fault? = some .digitLimit ↔
      ∃ front segment back, segments = front ++ segment :: back ∧
        (∀ other ∈ front, fault? other = none) ∧ Overlong segment := by
  have hfault : ∀ segment, fault? segment = some .digitLimit ↔ Overlong segment := by
    intro segment
    unfold fault?
    by_cases h : Overlong segment
    · simp [h]
    · cases complaint? segment <;> simp [h]
  simp only [List.findSome?_eq_some_iff, hfault, and_comm]

/-- Reading ends with settings that can be used, with a complaint about the path, or with
one about a segment, unless the first segment that leads to a fault asks for an overlong
number. -/
theorem usable_or_refused
    {s : Surroundings} (hs : s.Counted) (address : Text) :
    (∀ settings, (Settings.read s (.text address)).2 = .ok settings → Usable s settings) ∧
      (∀ f, (Settings.read s (.text address)).2 = .error f →
        f.kind = "DatabaseUrlIsInvalid" ∨ f.kind = "InvalidConnectionArguments" ∨
          f = .digitLimit) ∧
      ((Settings.read s (.text address)).2 = .error .digitLimit ↔
        ¬ Refused s (path address) ∧
          ∃ front segment back, segments address = front ++ segment :: back ∧
            (∀ other ∈ front, fault? other = none) ∧ Overlong segment) := by
  have hread := congrArg Prod.snd (read_eq hs address)
  simp only [reading] at hread
  rw [hread, ← digitLimit_iff]
  by_cases hrefused : Refused s (path address)
  · rw [if_pos hrefused]
    refine ⟨?_, ?_, ?_⟩
    · intro settings h
      cases h
    · intro f h
      cases h
      exact .inl rfl
    · simp [hrefused]
  · rw [if_neg hrefused]
    cases hfault : (segments address).findSome? fault? with
    | none =>
        refine ⟨?_, ?_, ?_⟩
        · intro settings h
          cases h
          exact usable_settings hs hrefused hfault
        · intro f h
          cases h
        · simp
    | some f =>
        refine ⟨?_, ?_, ?_⟩
        · intro settings h
          cases h
        · intro f' h
          cases h
          obtain ⟨segment, -, hsegment⟩ := List.exists_of_findSome?_eq_some hfault
          obtain rfl | ⟨problem, rfl⟩ := fault_cases hsegment
          · exact .inr (.inr rfl)
          · exact .inr (.inl rfl)
        · simp [hrefused]

/-- An address whose path is a directory. -/
theorem usable_or_refused_directory :
    let s : Surroundings := ⟨fun path => path = "data", some 2, some 4⟩
    s.Counted ∧
      ∃ f, (Settings.read s (.text "data?x")).2 = .error f ∧
        (f.kind = "DatabaseUrlIsInvalid" ∨ f.kind = "InvalidConnectionArguments" ∨
          f = .digitLimit) := by
  intro s
  have hs : s.Counted := by
    decide
  have hread : (Settings.read s (.text "data?x")).2 = .error (.address (.text "data")) := by
    rfl
  obtain ⟨-, hkind, -⟩ := usable_or_refused hs "data?x"
  exact ⟨hs, _, hread, hkind _ hread⟩

section Digits

variable {digits : Text} (hdigits : ∀ c ∈ digits, c ∈ ("0123456789" : Text))
  (hlong : Numeral.digitLimit < digits.length)

include hdigits

theorem segments_limit :
    segments ("dev.db?connection_limit=" ++ digits) = [limitKey ++ .scalar '=' :: digits] := by
  have hquery : segments ("dev.db?connection_limit=" ++ digits) =
      ((limitKey ++ .scalar '=' :: digits).splitOn (.scalar '&')).filter (· ≠ []) := by
    rfl
  have hkey : ∀ c ∈ limitKey, (c == .scalar '&') = false := by
    decide
  have hdigit : ∀ c ∈ ("0123456789" : Text), (c == .scalar '&') = false := by
    decide
  have hmark : ∀ c ∈ limitKey ++ .scalar '=' :: digits, (c == .scalar '&') = false := by
    intro c hc
    rcases List.mem_append.mp hc with hc | hc
    · exact hkey c hc
    · rcases List.mem_cons.mp hc with rfl | hc
      · decide
      · exact hdigit c (hdigits c hc)
  rw [hquery, List.splitOn, List.splitOnP_eq_singleton hmark]
  rfl

include hlong

theorem overlong_limit :
    Overlong (limitKey ++ .scalar '=' :: digits) := by
  have hkey : key (limitKey ++ .scalar '=' :: digits) = limitKey := by
    rfl
  have hvalue : value (limitKey ++ .scalar '=' :: digits) = digits := by
    rfl
  have hne : digits ≠ [] := by
    rintro rfl
    exact absurd hlong (by decide)
  refine ⟨.inl hkey, ?_, ?_⟩
  · rw [hvalue, number?, if_pos ⟨hne, hdigits⟩]
    rfl
  · rw [hvalue]
    exact hlong

/-- A limit of too many digits is not even complained about. -/
theorem read_overlong_limit
    {s : Surroundings} (hs : s.Counted) (hpath : ¬ Refused s "dev.db") :
    (Settings.read s (.text ("dev.db?connection_limit=" ++ digits))).2 = .error .digitLimit := by
  have hread := congrArg Prod.snd (read_eq hs ("dev.db?connection_limit=" ++ digits))
  have haccepted : ¬ Refused s (path ("dev.db?connection_limit=" ++ digits)) :=
    hpath
  have hfault : fault? (limitKey ++ .scalar '=' :: digits) = some .digitLimit :=
    if_pos (overlong_limit hdigits hlong)
  simp only [reading, if_neg haccepted, segments_limit hdigits, List.findSome?_cons,
    hfault] at hread
  exact hread

end Digits

/-- A limit of 4301 digits is neither accepted nor complained about. -/
theorem neither_usable_nor_refused_overlong :
    ¬ ∀ (s : Surroundings) (address : Text), s.Counted →
        (∃ settings, (Settings.read s (.text address)).2 = .ok settings ∧ Usable s settings) ∨
          ∃ f, (Settings.read s (.text address)).2 = .error f ∧
            (f.kind = "DatabaseUrlIsInvalid" ∨ f.kind = "InvalidConnectionArguments") := by
  intro h
  let s : Surroundings := ⟨fun _ => false, none, none⟩
  let ones : Text := List.replicate 4301 (.scalar '1')
  have hs : s.Counted := by
    decide
  have hdigits : ∀ c ∈ ones, c ∈ ("0123456789" : Text) := by
    intro c hc
    rw [List.eq_of_mem_replicate hc]
    decide
  have hlong : Numeral.digitLimit < ones.length := by
    rw [List.length_replicate]
    decide
  have hread := read_overlong_limit hdigits hlong hs (by decide)
  obtain ⟨settings, hok, -⟩ | ⟨f, herror, hkind⟩ :=
    h s ("dev.db?connection_limit=" ++ ones) hs
  · rw [hread] at hok
    cases hok
  · rw [hread] at herror
    obtain rfl := Except.error.inj herror
    rcases hkind with hkind | hkind
    · exact absurd hkind (by decide)
    · exact absurd hkind (by decide)

end Address

end Datalink
