import JobScheduling.Cron.Search
import JobScheduling.Value.Access
import JobScheduling.Zone.Stamp

/-!
The occurrences of a schedule in a zone. Matching is done on the wall clock: a match that the wall clock shows
is an occurrence at its first instant after the reference, and one that falls into a gap is an occurrence at the
end of the gap. A schedule that has no occurrence within the lookahead is unreachable.
-/

namespace JobScheduling
namespace Cron

open Calendar

/-- The lookahead in years where none is given. -/
def defaultLookahead : Value := .int 5

/-- The greatest whole number that is not above a number; beyond every year, the year itself does not matter. -/
def floorYear (x : Binary64) : Int :=
  match x with
  | .nan => -1
  | .infinite negative => if negative then -1 else Int.ofNat maxYear + 1
  | x =>
    match x.toFraction? with
    | some (num, den) => num / Int.ofNat den
    | none => -1

/-- The last year of a lookahead of so many years, which may be any number. -/
def lastYear (year : Nat) : Value → Outcome Int
  | .float x => .ok (floorYear ((Binary64.ofInt (Int.ofNat year)).add x))
  | v =>
    match v.integer? with
    | some n => .ok (Int.ofNat year + n)
    | none => .error (.badType ("unsupported operand type for a year: " ++ v.typeName))

/-- The instants at which a match fires: those that read it, or the end of the gap that it falls into. -/
def firings (z : Offsets) (r : Int) : Outcome (List Int) := do
  match ← z.instantsOf r with
  | [] => .ok [← z.afterGap r]
  | us => .ok us

/-- The first occurrence after an instant among the matches from `start` on. A match without an instant after
    it lies in an overlap whose second pass has gone by; the search goes on behind it. -/
def Schedule.occurrenceFrom (s : Schedule) (z : Offsets) (lookahead : Value) (after : Int) (last : Int)
    (start : Int) : Outcome Int := do
  match ← s.nextMatch start last with
  | none => do .error (.problem (.unreachable s.expression (← lookahead.writable)))
  | some r =>
    match (← firings z r).find? (after < ·) with
    | some u => .ok u
    | none =>
      let next ← checked (r + second)
      if _h : start < next ∧ next < limit then s.occurrenceFrom z lookahead after last next
      else .error (.overflow "date value out of range")
termination_by (limit - start).toNat
decreasing_by omega

/-- The first occurrence after an instant. -/
def Schedule.next (s : Schedule) (z : Offsets) (after : Int) (lookahead : Value) : Outcome Int := do
  let now ← z.readingOf after
  let start ← checked (wholeSecond now + second)
  s.occurrenceFrom z lookahead after (← lastYear (yearOf start) lookahead) start

/-- The first occurrence after a time value, in the zone of a hint. -/
def nextOccurrence (h : Host) (s : Schedule) (after : TimeValue) (hint : ZoneHint) (lookahead : Value) :
    Outcome Int := do
  let z ← h.resolve hint
  s.next z.offsets (← h.toInstant after (.zone z)) lookahead

/-! ### Sequences -/

/-- The first `count` occurrences after an instant, and the failure that ended them early, if any. -/
def Schedule.take (s : Schedule) (z : Offsets) (lookahead : Value) : Nat → Int → List Int × Option Fault
  | 0, _ => ([], none)
  | count + 1, after =>
    match s.next z after lookahead with
    | .ok u => let r := s.take z lookahead count u; (u :: r.1, r.2)
    | .error f => ([], some f)

/-- The first `count` occurrences after a time value. Nothing is looked at if none is asked for. -/
def occurrences (h : Host) (s : Schedule) (after : TimeValue) (hint : ZoneHint) (lookahead : Value)
    (count : Nat) : List Int × Option Fault :=
  if count = 0 then ([], none)
  else
    match h.resolve hint with
    | .error f => ([], some f)
    | .ok z =>
      match h.toInstant after (.zone z) with
      | .error f => ([], some f)
      | .ok u => s.take z.offsets lookahead count u

end Cron
end JobScheduling
