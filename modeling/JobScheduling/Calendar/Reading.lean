import JobScheduling.Calendar.Date
import JobScheduling.Error.Fault

/-!
Readings, instants and lengths of time. A reading is what a calendar and a wall clock show, without a zone; an
instant is a point in time, held as its reading in UTC. Both are integers, the microseconds since the beginning
of year 1, so that their order and distance are those of the integers, and a length of time is an integer number
of microseconds too; in what follows `r` is a reading and `u` an instant. Readings and instants have to stay
within the years 1 to 9999.
-/

namespace JobScheduling

namespace Calendar

/-! ### Units -/

/-- One second. -/
def second : Int := 1000000

/-- One day. -/
def day : Int := 86400000000

/-- The first point beyond the last year. -/
def limit : Int := 315537897600000000

example : limit = Int.ofNat dayCount * day := by decide

/-- Whether a point lies within the years 1 to 9999. -/
def inRange (t : Int) : Bool := 0 ≤ t && t < limit

/-- The point itself if it lies within the years 1 to 9999. -/
def checked (t : Int) : Outcome Int :=
  if inRange t then .ok t else .error (.overflow "date value out of range")

/-- The beginning of the year 1970, from which epoch numbers count. -/
def epoch : Int := 62135596800000000

example : epoch = Int.ofNat (Date.number ⟨1970, 1, 1⟩) * day := by decide

/-! ### Parts of a reading -/

/-- The number of the day of a reading. -/
def dayOf (r : Int) : Nat := (r / day).toNat

/-- The day of a reading. -/
def dateOf (r : Int) : Date := Date.ofNumber (dayOf r)

/-- The year of a reading. -/
def yearOf (r : Int) : Nat := yearOfDay (dayOf r)

/-- The whole seconds of a reading since the beginning of its day. -/
def secondOfDay (r : Int) : Nat := (r % day / second).toNat

/-- The reading without the part of its second. -/
def wholeSecond (r : Int) : Int := r - r % second

/-- The reading at a second of a day. -/
def reading (dayNumber secondOfDay : Nat) : Int :=
  Int.ofNat dayNumber * day + Int.ofNat secondOfDay * second

/-- The reading of seven fields, from the year down to the microsecond, if there is one. -/
def ofFields? (year month day hour minute sec micro : Int) : Option Int :=
  let d : Date := ⟨year.toNat, month.toNat, day.toNat⟩
  if d.valid ∧ 0 ≤ hour ∧ hour ≤ 23 ∧ 0 ≤ minute ∧ minute ≤ 59 ∧ 0 ≤ sec ∧ sec ≤ 59 ∧ 0 ≤ micro ∧
      micro ≤ 999999 then
    some (reading d.number 0 + (hour * 3600 + minute * 60 + sec) * second + micro)
  else none

/-- The reading of seven fields given as a list. A field has to fit into 32 bits. -/
def ofFields (fields : List Int) : Outcome Int :=
  if fields.any fun n => n < -2 ^ 31 ∨ 2 ^ 31 ≤ n then .error (.overflow "integer is too large")
  else
    match fields with
    | [year, month, day, hour, minute, sec, micro] =>
      match ofFields? year month day hour minute sec micro with
      | some r => .ok r
      | none => .error (.badValue "no such reading")
    | _ => .error (.badType "a reading has seven fields")

/-- The day of three fields given as a list, from the year down. -/
def dayOfFields (fields : List Int) : Outcome Date := do
  .ok (dateOf (← ofFields (fields ++ [0, 0, 0, 0])))

/-! ### Texts -/

/-- A number in at least `width` decimal digits. -/
def padded (width n : Nat) : List Char :=
  let ds := Nat.toDigits 10 n
  List.replicate (width - ds.length) '0' ++ ds

/-- A part of a second behind a point, where there is any. -/
def microText (micro : Nat) : List Char :=
  if micro = 0 then [] else '.' :: padded 6 micro

/-- The text of a reading: `2026-01-01T12:00:00`, with six decimals if a part of a second is left. -/
def readingText (r : Int) : List Char :=
  let d := dateOf r
  let s := secondOfDay r
  padded 4 d.year ++ '-' :: padded 2 d.month ++ '-' :: padded 2 d.day ++ 'T' :: padded 2 (s / 3600) ++
    ':' :: padded 2 (s / 60 % 60) ++ ':' :: padded 2 (s % 60) ++ microText (r % second).toNat

/-- The text of an offset: `+01:00`, with seconds and decimals where there are any. -/
def offsetText (offset : Int) : List Char :=
  let a := offset.natAbs
  let s := a / 1000000
  (if offset < 0 then '-' else '+') :: padded 2 (s / 3600) ++ ':' :: padded 2 (s / 60 % 60) ++
    (if a % 60000000 = 0 then [] else ':' :: padded 2 (s % 60) ++ microText (a % 1000000))

/-- The text of an instant, as a reading in UTC. -/
def instantText (u : Int) : String := String.ofList (readingText u ++ offsetText 0)

end Calendar
end JobScheduling
