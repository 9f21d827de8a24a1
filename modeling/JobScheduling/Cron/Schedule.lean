import JobScheduling.Calendar.Date
import JobScheduling.Cron.Field

/-!
Cron schedules: the allowed values of each field. A day matches by its day of the month and its day of the
week; when both fields are restricted, either one is enough.
-/

namespace JobScheduling
namespace Cron

/-- A schedule as it was written, with the allowed values of each field in ascending order. -/
structure Schedule where
  expression : String
  seconds : List Nat
  minutes : List Nat
  hours : List Nat
  daysOfMonth : List Nat
  months : List Nat
  daysOfWeek : List Nat
  dayOfMonthRestricted : Bool
  dayOfWeekRestricted : Bool
deriving DecidableEq, Repr, Inhabited

namespace Schedule

/-- The allowed values of a field. -/
def allowed (s : Schedule) : Field → List Nat
  | .second => s.seconds
  | .minute => s.minutes
  | .hour => s.hours
  | .dayOfMonth => s.daysOfMonth
  | .month => s.months
  | .dayOfWeek => s.daysOfWeek

/-- Whether a day of the month that is a given day of the week matches. -/
def matchesDayFields (s : Schedule) (dayOfMonth dayOfWeek : Nat) : Bool :=
  if s.dayOfMonthRestricted && s.dayOfWeekRestricted then
    s.daysOfMonth.contains dayOfMonth || s.daysOfWeek.contains dayOfWeek
  else s.daysOfMonth.contains dayOfMonth && s.daysOfWeek.contains dayOfWeek

/-- Whether a day matches both day fields, the month left aside. -/
def matchesDay (s : Schedule) (d : Calendar.Date) : Bool :=
  s.matchesDayFields d.day (Calendar.dayOfWeek d.number)

end Schedule
end Cron
end JobScheduling
