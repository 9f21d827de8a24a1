/-!
The six fields of a cron schedule, each with the range of its values and the names it knows for them.
-/

namespace JobScheduling
namespace Cron

/-- A field of a schedule, from the finest to the coarsest, the two day fields around the month. -/
inductive Field where
  | second
  | minute
  | hour
  | dayOfMonth
  | month
  | dayOfWeek
deriving DecidableEq, Repr, Inhabited

namespace Field

/-- The name under which messages speak of a field. -/
def name : Field → String
  | second => "second"
  | minute => "minute"
  | hour => "hour"
  | dayOfMonth => "day_of_month"
  | month => "month"
  | dayOfWeek => "day_of_week"

/-- The least value of a field. -/
def low : Field → Nat
  | dayOfMonth | month => 1
  | _ => 0

/-- The greatest value of a field. Days of the week end with Saturday, Sunday being zero. -/
def high : Field → Nat
  | second | minute => 59
  | hour => 23
  | dayOfMonth => 31
  | month => 12
  | dayOfWeek => 6

/-- The names of the months, January first. -/
def monthNames : List String :=
  ["JAN", "FEB", "MAR", "APR", "MAY", "JUN", "JUL", "AUG", "SEP", "OCT", "NOV", "DEC"]

/-- The names of the days of the week, Sunday first. -/
def dayNames : List String := ["SUN", "MON", "TUE", "WED", "THU", "FRI", "SAT"]

/-- The names that a field knows for its values, from its least value on. -/
def names : Field → List String
  | month => monthNames
  | dayOfWeek => dayNames
  | _ => []

/-- Whether a field may be left open with a question mark. -/
def allowsOpen : Field → Bool
  | dayOfMonth | dayOfWeek => true
  | _ => false

/-- The values of a field in ascending order. -/
def range (f : Field) : List Nat := List.range' f.low (f.high - f.low + 1)

theorem mem_range {f : Field} {n : Nat} : n ∈ f.range ↔ f.low ≤ n ∧ n ≤ f.high := by
  cases f <;> simp [range, low, high, List.mem_range'_1] <;> omega

theorem low_le_high (f : Field) : f.low ≤ f.high := by cases f <;> decide

end Field
end Cron
end JobScheduling
