import Datalink.Numeral.Natural

/-!
# Dates and times of day

Dates, times of day and the two together, with an optional distance from
universal time, and their text: four digits for the year, two for every other
field, and six for the microseconds, which are left out when they are zero.
Their printed form is the call that makes them, with plain numbers.
-/

namespace Datalink
namespace Calendar

/-- A day of the calendar. -/
structure Date where
  year : Fin 10000
  month : Fin 13
  day : Fin 32
deriving DecidableEq, Inhabited

/-- A time of day. -/
structure Clock where
  hour : Fin 24
  minute : Fin 60
  second : Fin 60
  microsecond : Fin 1000000
deriving DecidableEq, Inhabited

/-- Seconds east of universal time; none for local time of an unknown place. -/
abbrev Offset := Option Int

/-- The date in text. -/
def Date.text (d : Date) : Text :=
  Numeral.padded 4 d.year ++ "-" ++ Numeral.padded 2 d.month ++ "-" ++
    Numeral.padded 2 d.day

/-- The fraction of a second in text. -/
def fractionText (microsecond : Nat) : Text :=
  if microsecond = 0 then [] else .scalar '.' :: Numeral.padded 6 microsecond

/-- The time of day in text. -/
def Clock.text (t : Clock) : Text :=
  Numeral.padded 2 t.hour ++ ":" ++ Numeral.padded 2 t.minute ++ ":" ++
    Numeral.padded 2 t.second ++ fractionText t.microsecond

/-- An offset in text; its seconds are written only if there are any. -/
def offsetText : Offset → Text
  | none => []
  | some off =>
      let sign : CodePoint := if off < 0 then .scalar '-' else .scalar '+'
      let seconds := off.natAbs
      let rest : Text :=
        if seconds % 60 = 0 then [] else .scalar ':' :: Numeral.padded 2 (seconds % 60)
      sign :: (Numeral.padded 2 (seconds / 3600) ++ ":" ++
        Numeral.padded 2 (seconds / 60 % 60) ++ rest)

/-- The text of a time of day at an offset. -/
def timeText (t : Clock) (off : Offset) : Text := t.text ++ offsetText off

/-- The text of a date with a time of day at an offset. -/
def momentText (d : Date) (t : Clock) (off : Offset) : Text :=
  d.text ++ "T" ++ timeText t off

/-- A call in text. -/
def callText (function : Text) (arguments : List Text) : Text :=
  function ++ "(" ++ Text.join ", " arguments ++ ")"

/-- The numbers of a date. -/
def Date.numbers (d : Date) : List Nat := [d.year, d.month, d.day]

/-- The numbers of a time of day.  A second is left out if it is zero and no microsecond
comes behind it. -/
def Clock.numbers (t : Clock) : List Nat :=
  if t.microsecond.val ≠ 0 then [t.hour, t.minute, t.second, t.microsecond]
  else if t.second.val ≠ 0 then [t.hour, t.minute, t.second]
  else [t.hour, t.minute]

/-- The call that makes a stretch of time: whole days, which may be negative, and the
seconds beyond them.  What is zero is left out. -/
def stretchText (seconds : Int) : Text :=
  let days := seconds / 86400
  let rest := seconds % 86400
  callText "datetime.timedelta" <|
    if seconds = 0 then ["0"]
    else
      (if days = 0 then [] else ["days=" ++ Numeral.integer days]) ++
        (if rest = 0 then [] else ["seconds=" ++ Numeral.integer rest])

/-- The argument for an offset, if there is one. -/
def zoneArguments : Offset → List Text
  | none => []
  | some off =>
      let zone : Text :=
        if off = 0 then "datetime.timezone.utc"
        else callText "datetime.timezone" [stretchText off]
      ["tzinfo=" ++ zone]

/-- The printed form of a date. -/
def Date.print (d : Date) : Text :=
  callText "datetime.date" (d.numbers.map Numeral.natural)

/-- The printed form of a time of day at an offset. -/
def timePrint (t : Clock) (off : Offset) : Text :=
  callText "datetime.time" (t.numbers.map Numeral.natural ++ zoneArguments off)

/-- The printed form of a date with a time of day at an offset. -/
def momentPrint (d : Date) (t : Clock) (off : Offset) : Text :=
  callText "datetime.datetime"
    ((d.numbers ++ t.numbers).map Numeral.natural ++ zoneArguments off)

/-- Whether a year has a leap day. -/
def isLeap (year : Nat) : Bool :=
  year % 4 == 0 && (year % 100 != 0 || year % 400 == 0)

/-- The length of a month. -/
def daysIn (year month : Nat) : Nat :=
  if month = 2 then
    if isLeap year then 29 else 28
  else if month = 4 ∨ month = 6 ∨ month = 9 ∨ month = 11 then
    30
  else
    31

/-- The number of a day, counted from the first day of the first year. -/
def Date.dayNumber (d : Date) : Nat :=
  let years := d.year.val - 1
  let before := (List.range' 1 (d.month.val - 1)).foldl
    (fun days month => days + daysIn d.year.val month) 0
  365 * years + years / 4 - years / 100 + years / 400 + before + d.day.val

/-- The seconds since midnight. -/
def Clock.seconds (t : Clock) : Nat :=
  3600 * t.hour.val + 60 * t.minute.val + t.second.val

/-- Whether two times of day are the same.  Local times and times at an offset
are never the same; times at offsets are compared in universal time. -/
def sameTime : Clock × Offset → Clock × Offset → Bool
  | (s, none), (t, none) => s == t
  | (s, some p), (t, some q) =>
      s.seconds - p == t.seconds - q && s.microsecond == t.microsecond
  | _, _ => false

/-- Whether two moments are the same, by the rule for times of day. -/
def sameMoment : Date × Clock × Offset → Date × Clock × Offset → Bool
  | (d, s, none), (e, t, none) => d == e && s == t
  | (d, s, some p), (e, t, some q) =>
      (86400 * d.dayNumber + s.seconds : Int) - p ==
          (86400 * e.dayNumber + t.seconds : Int) - q &&
        s.microsecond == t.microsecond
  | _, _ => false

end Calendar
end Datalink
