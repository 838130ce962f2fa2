/-!
# Calendar dates and times of day

Days of the proleptic Gregorian calendar between the years -262143 and 262142, times of day with
nanoseconds, and moments made of both. A leap second is the 59th second with a billion nanoseconds
or more.
-/

namespace EntityGraph.Time

/-! ## Dates -/

def isLeapYear (year : Int) : Bool := year % 4 = 0 && (year % 100 != 0 || year % 400 = 0)

def daysIn (year : Int) (month : Nat) : Nat :=
  match month with
  | 2 => if isLeapYear year then 29 else 28
  | 4 | 6 | 9 | 11 => 30
  | _ => 31

def minYear : Int := -262143

def maxYear : Int := 262142

structure Date where
  year : Int
  month : Nat
  day : Nat
  year_mem : minYear ≤ year ∧ year ≤ maxYear
  month_mem : 1 ≤ month ∧ month ≤ 12
  day_mem : 1 ≤ day ∧ day ≤ daysIn year month
  deriving DecidableEq, Repr

namespace Date

/-- The date of a year, month and day, if there is one. -/
def of? (year : Int) (month day : Nat) : Option Date :=
  if hy : minYear ≤ year ∧ year ≤ maxYear then
    if hm : 1 ≤ month ∧ month ≤ 12 then
      if hd : 1 ≤ day ∧ day ≤ daysIn year month then some ⟨year, month, day, hy, hm, hd⟩ else none
    else none
  else none

/-- 1970-01-01. -/
def epoch : Date := ⟨1970, 1, 1, by decide, by decide, by decide⟩

def next? (d : Date) : Option Date :=
  if d.day < daysIn d.year d.month then of? d.year d.month (d.day + 1)
  else if d.month < 12 then of? d.year (d.month + 1) 1
  else of? (d.year + 1) 1 1

def previous? (d : Date) : Option Date :=
  if 1 < d.day then of? d.year d.month (d.day - 1)
  else if 1 < d.month then of? d.year (d.month - 1) (daysIn d.year (d.month - 1))
  else of? (d.year - 1) 12 31

/-- The date a number of days after 1970-01-01. Years are counted from March, so that the leap day
ends a year, in eras of 400 years. -/
def ofDays? (days : Int) : Option Date :=
  let z := days + 719468
  let era := z.fdiv 146097
  let day := (z - era * 146097).toNat
  let year := (day - day / 1460 + day / 36524 - day / 146096) / 365
  let rest := day - (365 * year + year / 4 - year / 100)
  let fromMarch := (5 * rest + 2) / 153
  let dayOfMonth := rest - (153 * fromMarch + 2) / 5 + 1
  let month := if fromMarch < 10 then fromMarch + 3 else fromMarch - 9
  of? (year + era * 400 + if month ≤ 2 then 1 else 0) month dayOfMonth

end Date

/-! ## Times of day -/

def billion : Nat := 1000000000

structure TimeOfDay where
  hour : Nat
  minute : Nat
  second : Nat
  nano : Nat
  hour_lt : hour < 24
  minute_lt : minute < 60
  second_lt : second < 60
  nano_lt : nano < 2 * billion
  leap : billion ≤ nano → second = 59
  deriving DecidableEq, Repr

namespace TimeOfDay

def midnight : TimeOfDay := ⟨0, 0, 0, 0, by decide, by decide, by decide, by decide, by decide⟩

/-- The time of clock readings; a reading of 60 seconds is a leap second. -/
def of? (hour minute second nano : Nat) : Option TimeOfDay :=
  let (second, nano) := if second = 60 then (59, nano + billion) else (second, nano)
  if hh : hour < 24 then
    if hm : minute < 60 then
      if hs : second < 60 then
        if hn : nano < 2 * billion then
          if hl : billion ≤ nano → second = 59 then
            some ⟨hour, minute, second, nano, hh, hm, hs, hn, hl⟩
          else none
        else none
      else none
    else none
  else none

/-- Seconds since midnight, a leap second counted with the one before. -/
def seconds (t : TimeOfDay) : Nat := t.hour * 3600 + t.minute * 60 + t.second

/-- The time a number of minutes later on the clock face; a leap second stays one. -/
def addMinutes (t : TimeOfDay) (minutes : Nat) : TimeOfDay :=
  let total := t.hour * 60 + t.minute + minutes
  { t with
    hour := total / 60 % 24
    minute := total % 60
    hour_lt := Nat.mod_lt _ (by decide)
    minute_lt := Nat.mod_lt _ (by decide) }

end TimeOfDay

/-! ## Moments -/

/-- A date with a time of day. -/
structure Moment where
  date : Date
  time : TimeOfDay
  deriving DecidableEq, Repr

namespace Moment

def epoch : Moment := ⟨Date.epoch, TimeOfDay.midnight⟩

/-- The moment a number of seconds after the epoch, if it is in the calendar. -/
def ofTimestamp? (seconds : Int) : Option Moment := do
  let date ← Date.ofDays? (seconds.fdiv 86400)
  let rest := (seconds.fmod 86400).toNat
  let time ← TimeOfDay.of? (rest / 3600) (rest / 60 % 60) (rest % 60) 0
  pure ⟨date, time⟩

/-- The same instant on a clock that is `minutes` behind; less than a day. -/
def behind? (m : Moment) (minutes : Int) : Option Moment := do
  let now := (m.time.hour * 60 + m.time.minute : Int) - minutes
  let date ←
    if now < 0 then m.date.previous? else if 1440 ≤ now then m.date.next? else some m.date
  pure ⟨date, m.time.addMinutes (1440 - minutes.fmod 1440).toNat⟩

end Moment

end EntityGraph.Time
