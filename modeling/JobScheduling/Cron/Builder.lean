import JobScheduling.Value.Access

/-!
Expressions of the common schedules: every so many minutes, and once an hour, day, week, month or year at a
given time. Each number is checked against the range of its field, so every expression built here can be read.
-/

namespace JobScheduling
namespace Cron

/-- An integer between two bounds; a truth value is no integer here. -/
def between (name : String) (low high : Nat) : Value → Outcome String
  | .int n =>
    if Int.ofNat low ≤ n ∧ n ≤ Int.ofNat high then .ok (toString n)
    else do .error (.problem (.input (.notBetween name low high (← (Value.int n).writable))))
  | v => do .error (.problem (.input (.notBetween name low high (← v.writable))))

/-- Every minute. -/
def minutely : String := "* * * * *"

/-- Every `interval` minutes, counted from the full hour. -/
def everyMinutes (interval : Value) : Outcome String := do
  .ok ("*/" ++ (← between "interval" 1 59 interval) ++ " * * * *")

/-- Once an hour. -/
def hourly (minute : Value) : Outcome String := do
  .ok ((← between "minute" 0 59 minute) ++ " * * * *")

/-- Once a day. -/
def daily (hour minute : Value) : Outcome String := do
  let m ← between "minute" 0 59 minute
  let h ← between "hour" 0 23 hour
  .ok (m ++ " " ++ h ++ " * * *")

/-- Once a week, Sunday being day zero. -/
def weekly (dayOfWeek hour minute : Value) : Outcome String := do
  let m ← between "minute" 0 59 minute
  let h ← between "hour" 0 23 hour
  let d ← between "day_of_week" 0 6 dayOfWeek
  .ok (m ++ " " ++ h ++ " * * " ++ d)

/-- Once a month. -/
def monthly (day hour minute : Value) : Outcome String := do
  let m ← between "minute" 0 59 minute
  let h ← between "hour" 0 23 hour
  let d ← between "day" 1 31 day
  .ok (m ++ " " ++ h ++ " " ++ d ++ " * *")

/-- Once a year. -/
def yearly (month day hour minute : Value) : Outcome String := do
  let m ← between "minute" 0 59 minute
  let h ← between "hour" 0 23 hour
  let d ← between "day" 1 31 day
  let mo ← between "month" 1 12 month
  .ok (m ++ " " ++ h ++ " " ++ d ++ " " ++ mo ++ " *")

/-! ### By name -/

/-- The expressions that can be built, each with its parameters and the values they have when none is given. -/
def builders : List (String × List (String × Option Value)) :=
  let minute := ("minute", some (Value.int 0))
  let hour := ("hour", some (Value.int 0))
  [("minutely", []), ("every_minutes", [("interval", none)]), ("hourly", [minute]), ("daily", [hour, minute]),
    ("weekly", [("day_of_week", some (Value.int 1)), hour, minute]),
    ("monthly", [("day", some (Value.int 1)), hour, minute]),
    ("yearly", [("month", some (Value.int 1)), ("day", some (Value.int 1)), hour, minute])]

/-- The value of each parameter, in the order of the parameters. -/
def arguments (parameters : List (String × Option Value)) (given : List (String × Value)) :
    Outcome (List Value) :=
  if given.all fun g => parameters.any fun p => p.1 == g.1 then
    parameters.mapM fun p =>
      match (given.find? fun g => g.1 == p.1).map (·.2) <|> p.2 with
      | some v => .ok v
      | none => .error (.badType ("missing argument: " ++ p.1))
  else .error (.badType "unexpected keyword argument")

/-- The expression that a builder makes of named values. -/
def build (builder : String) (given : List (String × Value)) : Outcome String := do
  match builders.find? fun b => b.1 == builder with
  | none => .error (.missingAttribute builder)
  | some b =>
    match builder, ← arguments b.2 given with
    | "every_minutes", [interval] => everyMinutes interval
    | "hourly", [minute] => hourly minute
    | "daily", [hour, minute] => daily hour minute
    | "weekly", [day, hour, minute] => weekly day hour minute
    | "monthly", [day, hour, minute] => monthly day hour minute
    | "yearly", [month, day, hour, minute] => yearly month day hour minute
    | _, _ => .ok minutely

end Cron
end JobScheduling
