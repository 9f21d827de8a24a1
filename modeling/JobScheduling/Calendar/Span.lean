import JobScheduling.Calendar.Reading

/-!
Lengths of time from named amounts, such as two days and a half hour. Each amount adds its whole part exactly;
what its fraction leaves below a microsecond is summed apart, and the total is rounded once, a half to the even
microsecond.
-/

namespace JobScheduling
namespace Calendar

/-- The units that amounts are named by, in the order in which they are added, each in microseconds. -/
def units : List (String × Int) :=
  [("microseconds", 1), ("milliseconds", 1000), ("seconds", 1000000), ("minutes", 60000000),
    ("hours", 3600000000), ("days", 86400000000), ("weeks", 604800000000)]

/-- A sum of amounts: whole microseconds and what is left below one. -/
structure Amount where
  whole : Int
  left : Binary64
deriving Repr

/-- Why a number has no whole part. -/
def wholePart (x : Binary64) : Outcome Int :=
  match x, x.truncate? with
  | _, some n => .ok n
  | .nan, none => .error (.badValue "cannot convert float NaN to integer")
  | _, none => .error (.overflow "cannot convert float infinity to integer")

/-- The sum with an amount of a unit added. -/
def Amount.add (a : Amount) (unit : Int) : Value → Outcome Amount
  | .float x => do
    let n ← wholePart x
    let fraction := x.fraction?.getD .zero
    if fraction.isZero then .ok { a with whole := a.whole + n * unit }
    else
      let rest := (Binary64.ofInt unit).mul fraction
      let m ← wholePart rest
      .ok ⟨a.whole + n * unit + m, a.left.add (rest.fraction?.getD .zero)⟩
  | v =>
    match v.integer? with
    | some n => .ok { a with whole := a.whole + n * unit }
    | none => .error (.badType ("unsupported type for timedelta component: " ++ v.typeName))

/-- The sum rounded to a whole microsecond. -/
def Amount.rounded (a : Amount) : Int :=
  match a.left.toFraction? with
  | some (num, den) =>
    let total := a.whole * Int.ofNat den + num
    let q := Int.ofNat (Binary64.divHalfEven total.natAbs den)
    if total < 0 then -q else q
  | none => a.whole

/-- The most days that a length of time may have. -/
def maxSpanDays : Int := 999999999

/-- The length of time itself if it is not too long. -/
def checkedSpan (d : Int) : Outcome Int :=
  if -maxSpanDays ≤ d / day ∧ d / day ≤ maxSpanDays then .ok d
  else .error (.overflow "days; must have magnitude <= 999999999")

/-- The length of time that named amounts add up to. -/
def span (amounts : List (String × Value)) : Outcome Int :=
  if amounts.all fun a => units.any fun u => u.1 == a.1 then do
    let named : List (Int × Value) := units.filterMap fun u =>
      (amounts.find? fun a => a.1 == u.1).map fun a => (u.2, a.2)
    let sum ← named.foldlM (fun (sum : Amount) a => sum.add a.1 a.2) { whole := 0, left := .zero }
    checkedSpan sum.rounded
  else .error (.badType "unknown amount of time")

/-! ### Epoch numbers -/

/-- The seconds beyond which an epoch number is no number of seconds at all. -/
def epochLimit : Int := 2 ^ 63

/-- The first and the last second since 1970 whose year the calendar of the system can tell: its years are
    counted from 1900 in 32 bits. -/
def systemRange : Int × Int := (-67768040609740800, 67768036191676799)

/-- The instant of an epoch number, given as seconds and the microseconds beyond them. -/
def ofEpoch (seconds micros : Int) : Outcome Int :=
  let u := epoch + seconds * second + micros
  if inRange u then .ok u
  else if seconds < systemRange.1 ∨ systemRange.2 < seconds then
    .error (.system "Value too large for defined data type")
  else .error (.badValue "year is out of range")

/-- The instant of a whole number of seconds since 1970. -/
def ofEpochSeconds (n : Int) : Outcome Int :=
  if -epochLimit ≤ n ∧ n < epochLimit then ofEpoch n 0
  else .error (.overflow "timestamp out of range")

/-- The instant of a number of seconds since 1970, rounded to the nearest microsecond and a half to the even
    one. The fraction is taken first, so that it alone is rounded. -/
def ofEpochFloat (x : Binary64) : Outcome Int :=
  match x, x.truncate?, x.fraction? with
  | _, some n, some f =>
    if -epochLimit ≤ n ∧ n < epochLimit then
      ofEpoch n ((f.mul (Binary64.ofInt second)).roundHalfEven?.getD 0)
    else .error (.overflow "timestamp out of range")
  | .nan, _, _ => .error (.badValue "Invalid value NaN (not a number)")
  | _, _, _ => .error (.overflow "timestamp out of range")

end Calendar
end JobScheduling
