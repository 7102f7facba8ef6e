import Datalink.Parameter
import Datalink.Value.Comparison

/-!
# Dates and times in order

Input: dates, times of day without an offset, and the two together, and the texts that they
are bound to.  Texts stand in the order of their code points.

A date is valid if its year has that month, and the month that day.  Days are counted from
the first day of the first year, and microseconds from its midnight.

Results: numbers written with one width stand in the order of the numbers, and texts of one
length in front of others decide before these.  So the texts of valid dates, of times of day
and of both stand in the order of time, and two of them are equal if and only if what they
are texts of is the same.
-/

namespace Datalink

/-! ## The order of texts -/

namespace CodePoint

theorem lt_irrefl
    (c : CodePoint) :
    ¬ c < c :=
  Nat.lt_irrefl c.code

theorem lt_or_eq_or_lt
    (c d : CodePoint) :
    c < d ∨ c = d ∨ d < c := by
  rcases Nat.lt_trichotomy c.code d.code with h | h | h
  · exact .inl h
  · exact .inr (.inl (code_injective h))
  · exact .inr (.inr h)

end CodePoint

namespace Text

theorem lt_irrefl
    (t : Text) :
    ¬ t < t := by
  induction t with
  | nil =>
      exact List.not_lt_nil []
  | cons c t ih =>
      simp [List.cons_lt_cons_iff, c.lt_irrefl, ih]

theorem lt_or_eq_or_lt
    (s t : Text) :
    s < t ∨ s = t ∨ t < s := by
  induction s generalizing t with
  | nil =>
      cases t with
      | nil =>
          exact .inr (.inl rfl)
      | cons d t =>
          exact .inl (List.nil_lt_cons d t)
  | cons c s ih =>
      cases t with
      | nil =>
          exact .inr (.inr (List.nil_lt_cons c s))
      | cons d t =>
          rcases c.lt_or_eq_or_lt d with h | rfl | h
          · exact .inl (List.cons_lt_cons_iff.mpr (.inl h))
          · rcases ih t with h | rfl | h
            · exact .inl (List.cons_lt_cons_iff.mpr (.inr ⟨rfl, h⟩))
            · exact .inr (.inl rfl)
            · exact .inr (.inr (List.cons_lt_cons_iff.mpr (.inr ⟨rfl, h⟩)))
          · exact .inr (.inr (List.cons_lt_cons_iff.mpr (.inl h)))

/-- Of texts that begin with texts of one length these decide first. -/
theorem append_lt_append_iff
    {s s' : Text} (h : s.length = s'.length) (t t' : Text) :
    s ++ t < s' ++ t' ↔ s < s' ∨ s = s' ∧ t < t' := by
  induction s generalizing s' with
  | nil =>
      cases s' with
      | nil =>
          simp
      | cons d s' =>
          cases h
  | cons c s ih =>
      cases s' with
      | nil =>
          cases h
      | cons d s' =>
          have hrest := ih (Nat.succ.inj h)
          simp only [List.cons_append, List.cons_lt_cons_iff, hrest, List.cons.injEq]
          grind

/-- Whether texts stand in the order of some numbers. -/
def Orders {α : Type} (text : α → Text) (number : α → Nat) : Prop :=
  ∀ a b, text a < text b ↔ number a < number b

namespace Orders

variable {α : Type} {f g : α → Text} {m n : α → Nat}

theorem eq_iff
    (h : Orders f m) (a b : α) :
    f a = f b ↔ m a = m b := by
  constructor
  · intro heq
    have hab := mt (h a b).mpr (heq ▸ lt_irrefl _)
    have hba := mt (h b a).mpr (heq ▸ lt_irrefl _)
    omega
  · intro heq
    rcases lt_or_eq_or_lt (f a) (f b) with hlt | heq' | hlt
    · have := (h a b).mp hlt
      omega
    · exact heq'
    · have := (h b a).mp hlt
      omega

/-- What all texts begin with decides nothing. -/
theorem behind
    (h : Orders f m) (opening : Text) :
    Orders (fun a => opening ++ f a) m := by
  intro a b
  rw [append_lt_append_iff rfl, ← h a b]
  simp [lt_irrefl]

/-- Texts of one length in front of others count for more than all of these. -/
theorem append
    (h : Orders f m) (hlength : ∀ a b, (f a).length = (f b).length) (hbehind : Orders g n)
    (bound : Nat) (hbound : ∀ a, n a < bound) :
    Orders (fun a => f a ++ g a) fun a => m a * bound + n a := by
  intro a b
  rw [append_lt_append_iff (hlength a b), h a b, h.eq_iff a b, hbehind a b]
  dsimp only
  have ha := hbound a
  have hb := hbound b
  have hless : ∀ {i j : Nat}, i < j → i * bound + bound ≤ j * bound := fun hij => by
    rw [← Nat.succ_mul]
    exact Nat.mul_le_mul_right bound hij
  rcases Nat.lt_trichotomy (m a) (m b) with hm | hm | hm
  · have := hless hm
    omega
  · rw [hm]
    omega
  · have := hless hm
    omega

end Orders

end Text

namespace Numeral

open Text (Orders)

theorem digit_lt_digit_iff
    {i j : Nat} (hi : i < 10) (hj : j < 10) :
    ([digit i] : Text) < [digit j] ↔ i < j := by
  have hall : ∀ i < 10, ∀ j < 10, (digit i).code < (digit j).code ↔ i < j := by
    decide
  rw [← hall i hi j hj, List.cons_lt_cons_iff]
  simp
  exact Iff.rfl

/-- Numbers written with one width stand in the order of the numbers. -/
theorem orders_padded
    {α : Type} (width : Nat) {number : α → Nat} (h : ∀ a, number a < Nat.pow 10 width) :
    Orders (fun a => padded width (number a)) number := by
  induction width generalizing number with
  | zero =>
      intro a b
      have ha := h a
      have hb := h b
      simp only [Nat.pow_eq, Nat.pow_zero] at ha hb
      simp only [padded, Text.lt_irrefl, false_iff]
      omega
  | succ width ih =>
      have hfront : ∀ a, number a / 10 < Nat.pow 10 width := fun a => by
        have := h a
        rw [Nat.pow_eq, Nat.pow_succ, ← Nat.pow_eq] at this
        omega
      have hlast : Orders (fun a => [digit (number a % 10)]) fun a => number a % 10 :=
        fun a b => digit_lt_digit_iff (Nat.mod_lt _ (by decide)) (Nat.mod_lt _ (by decide))
      have hboth := (ih hfront).append (by simp) hlast 10 fun a => by omega
      simp only [Nat.div_add_mod'] at hboth
      exact hboth

/-- A number of one width in front of texts counts for more than all of these. -/
theorem orders_field
    {α : Type} (width : Nat) (field : α → Nat) (h : ∀ a, field a < Nat.pow 10 width)
    {g : α → Text} {n : α → Nat} (hbehind : Orders g n) (bound : Nat)
    (hbound : ∀ a, n a < bound) :
    Orders (fun a => padded width (field a) ++ g a) fun a => field a * bound + n a :=
  (orders_padded width h).append (by simp) hbehind bound hbound

end Numeral

namespace Calendar

open Text (Orders)
open Numeral (orders_padded orders_field)

/-! ## The order of the fields -/

/-- The fields of a date as one number, in which the year counts most. -/
def Date.fields (d : Date) : Nat := d.year.val * 416 + (d.month.val * 32 + d.day.val)

/-- The microseconds since midnight. -/
def Clock.ticks (t : Clock) : Nat := 1000000 * t.seconds + t.microsecond.val

/-- The microseconds of a day. -/
def ticksOfDay : Nat := 24 * 60 * 60 * 1000000

theorem ticks_lt
    (t : Clock) :
    t.ticks < ticksOfDay := by
  unfold Clock.ticks Clock.seconds ticksOfDay
  omega

theorem length_date
    (d : Date) :
    d.text.length = 10 := by
  have hdash : ("-" : Text).length = 1 := rfl
  simp [Date.text, hdash]

theorem orders_date :
    Orders Date.text Date.fields := by
  have hday : Orders (fun d : Date => Numeral.padded 2 d.day) fun d => d.day :=
    orders_padded 2 fun d => Nat.lt_trans d.day.isLt (by decide)
  have hmonth := orders_field 2 (fun d : Date => d.month)
    (fun d => Nat.lt_trans d.month.isLt (by decide)) (hday.behind "-") 32 fun d => d.day.isLt
  have hyear := orders_field 4 (fun d : Date => d.year) (fun d => d.year.isLt)
    (hmonth.behind "-") 416 fun d => by omega
  have htext : Date.text = fun d => Numeral.padded 4 d.year ++
      ("-" ++ (Numeral.padded 2 d.month ++ ("-" ++ Numeral.padded 2 d.day))) := by
    funext d
    simp only [Date.text, List.append_assoc]
  rw [htext]
  exact hyear

/-- A fraction of a second comes behind the whole second, which is written without one. -/
theorem orders_fraction :
    Orders (fun t : Clock => fractionText t.microsecond) fun t => t.microsecond := by
  have hdigits : Orders (fun t : Clock => Numeral.padded 6 t.microsecond) fun t => t.microsecond :=
    orders_padded 6 fun t => t.microsecond.isLt
  intro s t
  by_cases hs : s.microsecond.val = 0
  · by_cases ht : t.microsecond.val = 0
    · simp [fractionText, hs, ht]
    · simp [fractionText, hs, ht, List.nil_lt_cons]
      omega
  · by_cases ht : t.microsecond.val = 0
    · simp [fractionText, hs, ht]
    · simpa [fractionText, hs, ht] using hdigits.behind [.scalar '.'] s t

theorem orders_clock :
    Orders Clock.text Clock.ticks := by
  have hsecond := orders_field 2 (fun t : Clock => t.second)
    (fun t => Nat.lt_trans t.second.isLt (by decide)) orders_fraction 1000000
    fun t => t.microsecond.isLt
  have hminute := orders_field 2 (fun t : Clock => t.minute)
    (fun t => Nat.lt_trans t.minute.isLt (by decide)) (hsecond.behind ":") 60000000
    fun t => by omega
  have hhour := orders_field 2 (fun t : Clock => t.hour)
    (fun t => Nat.lt_trans t.hour.isLt (by decide)) (hminute.behind ":") 3600000000
    fun t => by omega
  have htext : Clock.text = fun t => Numeral.padded 2 t.hour ++
      (":" ++ (Numeral.padded 2 t.minute ++
        (":" ++ (Numeral.padded 2 t.second ++ fractionText t.microsecond)))) := by
    funext t
    simp only [Clock.text, List.append_assoc]
  have hticks : Clock.ticks = fun t : Clock => t.hour.val * 3600000000 +
      (t.minute.val * 60000000 + (t.second.val * 1000000 + t.microsecond.val)) := by
    funext t
    unfold Clock.ticks Clock.seconds
    omega
  rw [htext, hticks]
  exact hhour

theorem orders_time :
    Orders (fun t => timeText t none) Clock.ticks := by
  intro s t
  simp only [timeText, offsetText, List.append_nil]
  exact orders_clock s t

theorem orders_moment :
    Orders (fun m : Date × Clock => momentText m.1 m.2 none)
      fun m => m.1.fields * ticksOfDay + m.2.ticks := by
  have hdate : Orders (fun m : Date × Clock => m.1.text) fun m => m.1.fields :=
    fun m n => orders_date m.1 n.1
  have htime : Orders (fun m : Date × Clock => timeText m.2 none) fun m => m.2.ticks :=
    fun m n => orders_time m.2 n.2
  have hboth := hdate.append (fun m n => by rw [length_date, length_date]) (htime.behind "T")
    ticksOfDay fun m => ticks_lt m.2
  intro m n
  simp only [momentText, List.append_assoc]
  exact hboth m n

theorem fields_eq_iff
    (d e : Date) :
    d.fields = e.fields ↔ d = e := by
  refine ⟨fun h => ?_, fun h => h ▸ rfl⟩
  obtain ⟨y, m, n⟩ := d
  obtain ⟨y', m', n'⟩ := e
  simp only [Date.fields] at h
  simp only [Date.mk.injEq, Fin.ext_iff]
  omega

theorem ticks_eq_iff
    (s t : Clock) :
    s.ticks = t.ticks ↔ s = t := by
  refine ⟨fun h => ?_, fun h => h ▸ rfl⟩
  obtain ⟨hour, minute, second, fraction⟩ := s
  obtain ⟨hour', minute', second', fraction'⟩ := t
  simp only [Clock.ticks, Clock.seconds] at h
  simp only [Clock.mk.injEq, Fin.ext_iff]
  omega

/-! ## The order of the days -/

/-- Whether the year of a date has its month, and the month its day. -/
structure Date.Valid (d : Date) : Prop where
  year : 1 ≤ d.year.val
  month : 1 ≤ d.month.val
  day : 1 ≤ d.day.val ∧ d.day.val ≤ daysIn d.year d.month

/-- The days before a year. -/
def daysBefore (year : Nat) : Nat :=
  365 * (year - 1) + (year - 1) / 4 - (year - 1) / 100 + (year - 1) / 400

/-- The days of a year before a month. -/
def daysBeforeIn (year month : Nat) : Nat :=
  (List.range' 1 (month - 1)).foldl (fun days month => days + daysIn year month) 0

theorem dayNumber_eq
    (d : Date) :
    d.dayNumber = daysBefore d.year + daysBeforeIn d.year d.month + d.day := by
  rfl

theorem daysBeforeIn_succ
    (year : Nat) {month : Nat} (h : 1 ≤ month) :
    daysBeforeIn year (month + 1) = daysBeforeIn year month + daysIn year month := by
  obtain ⟨m, rfl⟩ := Nat.exists_eq_add_of_le' h
  simp [daysBeforeIn, List.range'_1_concat, Nat.add_comm]

/-- A month is over before a later one begins. -/
theorem daysBeforeIn_add_le
    (year : Nat) {month later : Nat} (h : 1 ≤ month) (hlater : month < later) :
    daysBeforeIn year month + daysIn year month ≤ daysBeforeIn year later := by
  induction hlater with
  | refl =>
      exact Nat.le_of_eq (daysBeforeIn_succ year h).symm
  | step hle ih =>
      rw [daysBeforeIn_succ year (Nat.le_trans h (Nat.le_of_lt hle))]
      exact Nat.le_add_right_of_le ih

/-- The year has its leap day if it has one. -/
theorem daysBeforeIn_end
    (year : Nat) :
    daysBeforeIn year 13 = if isLeap year then 366 else 365 := by
  cases h : isLeap year <;> simp [daysBeforeIn, List.range', daysIn, h]

/-- A year is over when the next one begins. -/
theorem daysBefore_succ
    {year : Nat} (h : 1 ≤ year) :
    daysBefore (year + 1) = daysBefore year + daysBeforeIn year 13 := by
  obtain ⟨n, rfl⟩ := Nat.exists_eq_add_of_le' h
  have hmore : ∀ k, (n + 1) / k = n / k + if (n + 1) % k = 0 then 1 else 0 := fun k => by
    rw [Nat.succ_div]
    simp only [Nat.dvd_iff_mod_eq_zero]
  have hcentury : (n + 1) % 100 = 0 → (n + 1) % 4 = 0 := by
    omega
  have hcycle : (n + 1) % 400 = 0 → (n + 1) % 100 = 0 := by
    omega
  have hfew : n / 100 ≤ n / 4 := Nat.div_le_div_left (by decide) (by decide)
  rw [daysBeforeIn_end]
  simp only [daysBefore, isLeap, Nat.add_one_sub_one, hmore 4, hmore 100, hmore 400]
  -- Every fourth year is a leap year, but of those that end a century only every fourth.
  by_cases h400 : (n + 1) % 400 = 0
  · have h100 := hcycle h400
    simp [h400, h100, hcentury h100]
    omega
  · by_cases h100 : (n + 1) % 100 = 0
    · simp [h400, h100, hcentury h100]
      omega
    · by_cases h4 : (n + 1) % 4 = 0
      · simp [h400, h100, h4]
        omega
      · simp [h400, h100, h4]
        omega

theorem daysBefore_add_le
    {year later : Nat} (h : 1 ≤ year) (hlater : year < later) :
    daysBefore year + daysBeforeIn year 13 ≤ daysBefore later := by
  induction hlater with
  | refl =>
      exact Nat.le_of_eq (daysBefore_succ h).symm
  | step hle ih =>
      rw [daysBefore_succ (Nat.le_trans h (Nat.le_of_lt hle))]
      exact Nat.le_add_right_of_le ih

/-- The number of a valid day is greater than that of one whose fields come first. -/
theorem dayNumber_lt_of_fields_lt
    {d e : Date} (hd : d.Valid) (he : e.Valid) (h : d.fields < e.fields) :
    d.dayNumber < e.dayNumber := by
  have hmonth := daysBeforeIn_add_le d.year hd.month d.month.isLt
  have hday := hd.day
  have hday' := he.day
  rw [dayNumber_eq, dayNumber_eq]
  unfold Date.fields at h
  rcases Nat.lt_trichotomy d.year.val e.year.val with hy | hy | hy
  · have hyear := daysBefore_add_le hd.year hy
    omega
  · rw [← hy]
    rcases Nat.lt_trichotomy d.month.val e.month.val with hm | hm | hm
    · have hlater := daysBeforeIn_add_le d.year hd.month hm
      omega
    · rw [← hm]
      omega
    · omega
  · omega

theorem dayNumber_lt_iff
    {d e : Date} (hd : d.Valid) (he : e.Valid) :
    d.dayNumber < e.dayNumber ↔ d.fields < e.fields := by
  refine ⟨fun h => ?_, dayNumber_lt_of_fields_lt hd he⟩
  rcases Nat.lt_trichotomy d.fields e.fields with hlt | heq | hgt
  · exact hlt
  · rw [(fields_eq_iff d e).mp heq] at h
    omega
  · have := dayNumber_lt_of_fields_lt he hd hgt
    omega

/-- The microseconds from the first midnight to a time of a day. -/
def instant (d : Date) (t : Clock) : Nat := d.dayNumber * ticksOfDay + t.ticks

theorem instant_lt_iff
    {d e : Date} (hd : d.Valid) (he : e.Valid) (s t : Clock) :
    instant d s < instant e t ↔
      d.fields * ticksOfDay + s.ticks < e.fields * ticksOfDay + t.ticks := by
  have hs := ticks_lt s
  have ht := ticks_lt t
  have hlt := dayNumber_lt_iff hd he
  have hgt := dayNumber_lt_iff he hd
  unfold instant ticksOfDay at *
  omega

/-! ## Bound values -/

theorem equals_date
    (d e : Date) :
    (Value.date d).equals (.date e) = .ok (d == e) := by
  simp [Value.equals, Value.refuses, Value.refusesLeaf, Value.same, Value.face, Value.sameLeaf,
    Value.quantity?]

theorem equals_time
    (s t : Clock) :
    (Value.time s none).equals (.time t none) = .ok (s == t) := by
  simp [Value.equals, Value.refuses, Value.refusesLeaf, Value.same, Value.face, Value.sameLeaf,
    Value.quantity?, sameTime]

theorem equals_moment
    (d e : Date) (s t : Clock) :
    (Value.moment d s none).equals (.moment e t none) = .ok (d == e && s == t) := by
  simp [Value.equals, Value.refuses, Value.refusesLeaf, Value.same, Value.face, Value.sameLeaf,
    Value.quantity?, sameMoment]

/-- Whether two values that stand at some points in time are bound to texts in that order,
which are equal if and only if the values are, and then they stand at one point in time. -/
def BoundInOrder (a b : Value) (i j : Nat) : Prop :=
  ∃ s t : Text, Parameter.bind a = .ok (.text s) ∧ Parameter.bind b = .ok (.text t) ∧
    (i < j ↔ s < t) ∧ (a.equals b = .ok true ↔ s = t) ∧ (i = j ↔ s = t)

theorem boundInOrder_of_orders
    {α : Type} {text : α → Text} {number : α → Nat} (h : Orders text number) {x y : α}
    {a b : Value} (ha : Parameter.bind a = .ok (.text (text x)))
    (hb : Parameter.bind b = .ok (.text (text y)))
    (hequals : a.equals b = .ok true ↔ number x = number y)
    {i j : Nat} (hlt : i < j ↔ number x < number y) (hgt : j < i ↔ number y < number x) :
    BoundInOrder a b i j := by
  refine ⟨_, _, ha, hb, ?_, ?_, ?_⟩
  · rw [h x y, hlt]
  · rw [h.eq_iff, hequals]
  · rw [h.eq_iff]
    omega

/-- Two valid dates, two times of day without an offset, and two of both are bound to texts
that stand in the order of time.  The texts are equal if and only if the values are. -/
theorem bound_in_order_of_time :
    (∀ d e : Date, d.Valid → e.Valid →
      BoundInOrder (.date d) (.date e) d.dayNumber e.dayNumber) ∧
    (∀ s t : Clock, BoundInOrder (.time s none) (.time t none) s.ticks t.ticks) ∧
    ∀ (d e : Date) (s t : Clock), d.Valid → e.Valid →
      BoundInOrder (.moment d s none) (.moment e t none) (instant d s) (instant e t) := by
  refine ⟨fun d e hd he => ?_, fun s t => ?_, fun d e s t hd he => ?_⟩
  · refine boundInOrder_of_orders orders_date (x := d) (y := e) rfl rfl ?_
      (dayNumber_lt_iff hd he) (dayNumber_lt_iff he hd)
    rw [equals_date, fields_eq_iff]
    simp
  · refine boundInOrder_of_orders orders_time (x := s) (y := t) rfl rfl ?_ Iff.rfl Iff.rfl
    rw [equals_time, ticks_eq_iff]
    simp
  · refine boundInOrder_of_orders orders_moment (x := (d, s)) (y := (e, t)) rfl rfl ?_
      (instant_lt_iff hd he s t) (instant_lt_iff he hd t s)
    have hs := ticks_lt s
    have ht := ticks_lt t
    have hdate := fields_eq_iff d e
    have htime := ticks_eq_iff s t
    rw [equals_moment]
    simp only [Except.ok.injEq, Bool.and_eq_true, beq_iff_eq, ← hdate, ← htime]
    unfold ticksOfDay at *
    omega

/-- The last second of a leap day and its last microsecond come before the day behind it, and
a whole second before its own fractions. -/
theorem bound_in_order_of_leapDay :
    let leapDay : Date := ⟨2024, 2, 29⟩
    let next : Date := ⟨2024, 3, 1⟩
    let second : Clock := ⟨23, 59, 59, 0⟩
    let fraction : Clock := ⟨23, 59, 59, 999999⟩
    leapDay.Valid ∧ next.Valid ∧ leapDay.dayNumber + 1 = next.dayNumber ∧
      (momentText leapDay second none : Text) < momentText leapDay fraction none ∧
      (momentText leapDay fraction none : Text) < momentText next ⟨0, 0, 0, 0⟩ none := by
  intro leapDay next second fraction
  have hleap : leapDay.Valid := ⟨by decide, by decide, by decide⟩
  have hnext : next.Valid := ⟨by decide, by decide, by decide⟩
  obtain ⟨-, -, hmoment⟩ := bound_in_order_of_time
  obtain ⟨s, t, hs, ht, hlt, -⟩ := hmoment leapDay leapDay second fraction hleap hleap
  obtain ⟨s', t', hs', ht', hlt', -⟩ := hmoment leapDay next fraction ⟨0, 0, 0, 0⟩ hleap hnext
  cases hs
  cases ht
  cases hs'
  cases ht'
  exact ⟨hleap, hnext, by decide, hlt.mp (by decide), hlt'.mp (by decide)⟩

end Calendar
end Datalink
