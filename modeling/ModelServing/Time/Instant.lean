/-!
# Instants

A moment of universal time by its calendar fields: a `Date` of the Gregorian calendar, carried back before its
introduction, and a time of day to the nanosecond. A leap second is the second 60 of its minute. Fields are always in
range, so two instants are the same moment exactly if they are equal.

* `Date.next` and `Date.prev` step by a day;
* `Instant.earlier` goes back by some minutes, less than a day, which is how a local time with an offset becomes
  universal;
* `Instant.tick` is the next moment that can be told apart, `Instant.seconds` the start of the second.
-/

namespace ModelServing

/-- Whether the year has a 29th of February. -/
def isLeap (year : Int) : Bool := year % 4 == 0 && (year % 100 != 0 || year % 400 == 0)

/-- The number of days of a month. -/
def daysIn (year : Int) (month : Nat) : Nat :=
  if month = 2 then (if isLeap year then 29 else 28)
  else if month = 4 ∨ month = 6 ∨ month = 9 ∨ month = 11 then 30
  else 31

theorem daysIn_pos (year : Int) (month : Nat) : 1 ≤ daysIn year month := by
  unfold daysIn; split <;> split <;> decide

/-- A day of the calendar. -/
structure Date where
  year : Int
  month : Nat
  day : Nat
  month_ok : 1 ≤ month ∧ month ≤ 12
  day_ok : 1 ≤ day ∧ day ≤ daysIn year month
deriving DecidableEq

namespace Date

/-- The date with these fields, if there is one. -/
def ofFields? (year : Int) (month day : Nat) : Option Date :=
  if hm : 1 ≤ month ∧ month ≤ 12 then
    if hd : 1 ≤ day ∧ day ≤ daysIn year month then some ⟨year, month, day, hm, hd⟩ else none
  else none

/-- The day after. -/
def next (d : Date) : Date :=
  if h : d.day + 1 ≤ daysIn d.year d.month then ⟨d.year, d.month, d.day + 1, d.month_ok, ⟨by omega, h⟩⟩
  else if hm : d.month + 1 ≤ 12 then ⟨d.year, d.month + 1, 1, ⟨by omega, hm⟩, ⟨by omega, daysIn_pos _ _⟩⟩
  else ⟨d.year + 1, 1, 1, by decide, ⟨by omega, daysIn_pos _ _⟩⟩

/-- The day before. -/
def prev (d : Date) : Date :=
  if h : 1 < d.day then ⟨d.year, d.month, d.day - 1, d.month_ok, ⟨by omega, by have := d.day_ok; omega⟩⟩
  else if hm : 1 < d.month then
    ⟨d.year, d.month - 1, daysIn d.year (d.month - 1), ⟨by omega, by have := d.month_ok; omega⟩,
      ⟨daysIn_pos _ _, by omega⟩⟩
  else ⟨d.year - 1, 12, daysIn (d.year - 1) 12, by decide, ⟨daysIn_pos _ _, by omega⟩⟩

end Date

/-- A moment of universal time. -/
structure Instant where
  date : Date
  hour : Nat
  minute : Nat
  second : Nat
  nanos : Nat
  hour_lt : hour < 24
  minute_lt : minute < 60
  second_le : second ≤ 60
  nanos_lt : nanos < 1000000000
deriving DecidableEq

namespace Instant

/-- The instant at the start of the year 1970. -/
def epoch : Instant :=
  ⟨⟨1970, 1, 1, by decide, by decide⟩, 0, 0, 0, 0, by decide, by decide, by decide, by decide⟩

instance : Inhabited Instant := ⟨epoch⟩

/-- The instant with these fields, if there is one. -/
def ofFields? (date : Date) (hour minute second nanos : Nat) : Option Instant :=
  if h : hour < 24 ∧ minute < 60 ∧ second ≤ 60 ∧ nanos < 1000000000 then
    some ⟨date, hour, minute, second, nanos, h.1, h.2.1, h.2.2.1, h.2.2.2⟩
  else none

/-- The instant `minutes` before `i`, for less than a day; a negative number goes forward. -/
def earlier (i : Instant) (minutes : Int) : Instant :=
  let t : Int := (i.hour * 60 + i.minute : Nat) - minutes
  let date := if t < 0 then i.date.prev else if 1440 ≤ t then i.date.next else i.date
  let ofDay := (t % 1440).toNat
  have h : ofDay < 1440 := by
    have h0 := Int.emod_nonneg t (show (1440 : Int) ≠ 0 by decide)
    have h1 := Int.emod_lt_of_pos t (show (0 : Int) < 1440 by decide)
    show (t % 1440).toNat < 1440
    omega
  { i with date := date, hour := ofDay / 60, minute := ofDay % 60, hour_lt := by omega, minute_lt := by omega }

/-- The start of the second that the instant is in. -/
def seconds (i : Instant) : Instant :=
  ⟨i.date, i.hour, i.minute, i.second, 0, i.hour_lt, i.minute_lt, i.second_le, by decide⟩

/-- The next instant, one nanosecond later. -/
def tick (i : Instant) : Instant :=
  if hn : i.nanos + 1 < 1000000000 then { i with nanos := i.nanos + 1, nanos_lt := hn }
  else if hs : i.second + 1 < 60 then
    ⟨i.date, i.hour, i.minute, i.second + 1, 0, i.hour_lt, i.minute_lt, by omega, by decide⟩
  else if hm : i.minute + 1 < 60 then
    ⟨i.date, i.hour, i.minute + 1, 0, 0, i.hour_lt, hm, by decide, by decide⟩
  else if hh : i.hour + 1 < 24 then
    ⟨i.date, i.hour + 1, 0, 0, 0, hh, by decide, by decide, by decide⟩
  else ⟨i.date.next, 0, 0, 0, 0, by decide, by decide, by decide, by decide⟩

end Instant

end ModelServing
