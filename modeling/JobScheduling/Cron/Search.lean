import JobScheduling.Calendar.Reading
import JobScheduling.Cron.Schedule

/-!
The next match of a schedule on the wall clock. The days are searched first, whole months that the schedule
does not allow being passed over, and the seconds of a day after that, the coarser field first. No zone is
involved here.
-/

namespace JobScheduling
namespace Cron
namespace Schedule

open Calendar

/-! ### Days -/

/-- Whether a day, given by its number, matches the month and both day fields. -/
def allowsDay (s : Schedule) (n : Nat) : Bool :=
  let d := Date.ofNumber n
  s.months.contains d.month && s.matchesDayFields d.day (dayOfWeek n)

/-- The first matching day from day `n` on and before day `limit`. -/
def nextDay? (s : Schedule) (limit n : Nat) : Option Nat :=
  if n < limit then
    let d := Date.ofNumber n
    if s.months.contains d.month then
      if s.matchesDayFields d.day (dayOfWeek n) then some n else s.nextDay? limit (n + 1)
    else s.nextDay? limit (n + (daysInMonth d.year d.month - d.day + 1))
  else none
termination_by limit - n

/-! ### Times of day -/

/-- The first answer of a field: the value `x` itself if it is allowed and has one within, else the next
    allowed value with the finer fields begun anew. -/
def refine (values : List Nat) (x : Nat) (within : Option Nat) (anew : Nat → Option Nat) : Option Nat :=
  (if values.contains x then within else none) <|> (values.find? (x < ·)).bind anew

/-- The least matching second of a minute. -/
def firstSecond? (s : Schedule) : Option Nat := s.seconds.head?

/-- The least matching second of an hour. -/
def firstMinute? (s : Schedule) : Option Nat :=
  s.minutes.head?.bind fun m => s.firstSecond?.map (m * 60 + ·)

/-- The least matching second of a day. -/
def firstTime? (s : Schedule) : Option Nat :=
  s.hours.head?.bind fun h => s.firstMinute?.map (h * 3600 + ·)

/-- The least matching second of a minute from second `t` of it on. -/
def secondFrom? (s : Schedule) (t : Nat) : Option Nat := s.seconds.find? (t ≤ ·)

/-- The least matching second of an hour from second `t` of it on. -/
def minuteFrom? (s : Schedule) (t : Nat) : Option Nat :=
  refine s.minutes (t / 60) ((s.secondFrom? (t % 60)).map (t / 60 * 60 + ·))
    fun m => s.firstSecond?.map (m * 60 + ·)

/-- The least matching second of a day from second `t` of it on. -/
def timeFrom? (s : Schedule) (t : Nat) : Option Nat :=
  refine s.hours (t / 3600) ((s.minuteFrom? (t % 3600)).map (t / 3600 * 3600 + ·))
    fun h => s.firstMinute?.map (h * 3600 + ·)

/-! ### Readings -/

/-- The first match from a whole second on and before day `limit`. -/
def nextReading? (s : Schedule) (limit : Nat) (start : Int) : Option Int :=
  let n := dayOf start
  let today := if n < limit ∧ s.allowsDay n then s.timeFrom? (secondOfDay start) else none
  match today with
  | some t => some (reading n t)
  | none => (s.nextDay? limit (n + 1)).bind fun d => s.firstTime?.map (reading d ·)

/-- The first match from a whole second on in a year up to `lastYear`. The calendar ends with year 9999: a
    search that would go on beyond it fails, by stepping to a day that does not exist if December is allowed,
    and by asking for a month of year 10000 if it is not. -/
def nextMatch (s : Schedule) (start : Int) (lastYear : Int) : Outcome (Option Int) :=
  if lastYear < Int.ofNat (yearOf start) then .ok none
  else
    match s.nextReading? (daysBeforeYear (min lastYear.toNat maxYear + 1)) start with
    | some r => .ok (some r)
    | none =>
      if lastYear < Int.ofNat maxYear then .ok none
      else if s.months.contains 12 then .error (.overflow "date value out of range")
      else .error (.badValue "year 10000 is out of range")

end Schedule
end Cron
end JobScheduling
