import JobScheduling.Zone.Offsets

/-!
Yearly rules of daylight saving time. A rule has a standard offset and, where summer time is kept, a second
offset with the two changes of every year, each on a day given by a formula. The changes are told in local
time; only the pair of the year in question decides, so that a change which a formula moves into another
year is not seen there.
-/

namespace JobScheduling

/-- A day of the year by formula. -/
inductive YearDay where
  /-- The `week`-th given day of the week of a month, the fifth being the last one. Sunday is zero. -/
  | ofWeek (month week dayOfWeek : Nat)
  /-- A day of the year from 1 to 365, the leap day not being counted. -/
  | withoutLeapDay (n : Nat)
  /-- A day of the year from 0 to 365, the leap day being counted. -/
  | counted (n : Nat)
deriving DecidableEq, Repr, Inhabited

/-- A change of the offset: a day and the seconds from its beginning, in the local time before the change. -/
structure Changeover where
  day : YearDay
  time : Int
deriving DecidableEq, Repr, Inhabited

/-- Summer time: its offset in seconds, its beginning and its end. -/
structure Summer where
  offset : Int
  start : Changeover
  finish : Changeover
deriving DecidableEq, Repr, Inhabited

/-- A yearly rule, its standard offset in seconds. -/
structure Rule where
  standard : Int
  summer : Option Summer
deriving DecidableEq, Repr, Inhabited

open Calendar

/-! ### Changes of a year -/

/-- The number of the day that a formula gives in a year. -/
def YearDay.number (y : Nat) : YearDay → Int
  | ofWeek month week dayOfWeek =>
    let first := daysBeforeYear y + daysBeforeMonth y month
    let ahead := (dayOfWeek + 7 - Calendar.dayOfWeek first) % 7 + 7 * (week - 1)
    Int.ofNat first + Int.ofNat (if daysInMonth y month ≤ ahead then ahead - 7 else ahead)
  | withoutLeapDay n =>
    Int.ofNat (daysBeforeYear y) + Int.ofNat n - 1 + (if 59 ≤ n ∧ isLeap y then 1 else 0)
  | counted n => Int.ofNat (daysBeforeYear y) + Int.ofNat n - 1

/-- The second of a change in a year, counted from the beginning of year 1 in local time. -/
def Changeover.second (y : Nat) (c : Changeover) : Int := c.day.number y * 86400 + c.time

/-! ### Offsets -/

/-- Whether `t` lies in the part of the year from `start` to `finish`, which may pass the end of the year. -/
def within (start finish t : Int) : Bool :=
  if start < finish then start ≤ t && t < finish else t < finish || start ≤ t

namespace Rule

/-- The offset at a second of local time in a year. In a gap the first pass has the offset before the change,
    in an overlap too. -/
def atReading (r : Rule) (fold : Bool) (y : Nat) (t : Int) : Int :=
  match r.summer with
  | none => r.standard
  | some s =>
    let more := s.offset - r.standard
    let start := s.start.second y
    let finish := s.finish.second y
    let summer :=
      if fold = decide (0 ≤ more) then within start (finish - more) t else within (start + more) finish t
    if summer then s.offset else r.standard

/-- The offset at a second of UTC in a year, and whether the reading is a second pass. -/
def atInstant (r : Rule) (y : Nat) (t : Int) : Int × Bool :=
  match r.summer with
  | none => (r.standard, false)
  | some s =>
    let more := s.offset - r.standard
    let start := s.start.second y - r.standard
    let finish := s.finish.second y - s.offset
    let again :=
      if 0 < more then finish ≤ t && t < finish + more else start ≤ t && t < start - more
    (if within start finish t then s.offset else r.standard, again)

end Rule
end JobScheduling
