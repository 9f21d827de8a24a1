import JobScheduling.Calendar.Reading

/-!
What a zone is for the calendar: the offset of its wall clock from UTC, asked for a reading or for an instant.
A reading that the wall clock shows twice is told apart by its fold, `false` for the first pass. All of the
conversions between readings and instants are made from these two questions alone.
-/

namespace JobScheduling

/-- The offsets of a zone, local time less UTC. For an instant the answer also tells the fold of its reading.
    A zone may have no answer. -/
structure Offsets where
  atReading : Bool → Int → Option Int
  atInstant : Int → Option (Int × Bool)

namespace Offsets

/-- The same offset at all times. -/
def constant (offset : Int) : Offsets := ⟨fun _ _ => some offset, fun _ => some (offset, false)⟩

/-- No answer at any time. -/
def unknown : Offsets := ⟨fun _ _ => none, fun _ => none⟩

/-- An offset that is told by the reading alone. An instant is answered as if its reading in UTC were meant. -/
def ofReading (offset : Int → Int) : Offsets :=
  ⟨fun _ r => some (offset r), fun u => some (offset u, false)⟩

/-- The offset of a reading; an offset of a day or more is refused. -/
def checkedAt (z : Offsets) (fold : Bool) (r : Int) : Outcome (Option Int) :=
  match z.atReading fold r with
  | some offset =>
    if offset.natAbs < 86400000000 then .ok (some offset)
    else .error (.badValue "offset must be strictly between -24 and 24 hours")
  | none => .ok none

/-! ### Conversion -/

/-- The instant of a reading on the clock of the system, which is set to UTC. The day before has to be one of the
    calendar, because the clock is looked up around the reading. -/
def systemInstant (r : Int) : Outcome Int :=
  if Calendar.inRange (r - Calendar.day) then .ok r else .error (.badValue "year is out of range")

/-- The instant of a reading. Where the zone has no answer, the reading is one of the system's clock. -/
def toInstant (z : Offsets) (fold : Bool) (r : Int) : Outcome Int := do
  match ← z.checkedAt fold r with
  | some offset => Calendar.checked (r - offset)
  | none => systemInstant r

/-- The reading of an instant and its fold. -/
def toReading (z : Offsets) (u : Int) : Outcome (Int × Bool) :=
  match z.atInstant u with
  | some (offset, fold) => do .ok (← Calendar.checked (u + offset), fold)
  | none => .error (.badValue "the zone has no offset")

/-- The reading of an instant. -/
def readingOf (z : Offsets) (u : Int) : Outcome Int := do .ok (← z.toReading u).1

/-! ### Gaps and overlaps -/

/-- The instants whose reading is `r`, in ascending order: one as a rule, two in an overlap, none in a gap. -/
def instantsOf (z : Offsets) (r : Int) : Outcome (List Int) := do
  let a ← z.toInstant false r
  let readsA ← z.readingOf a
  let b ← z.toInstant true r
  let readsB ← z.readingOf b
  .ok (if readsA = r then
      if readsB = r ∧ a ≠ b then [min a b, max a b] else [a]
    else if readsB = r then [b] else [])

/-- The whole seconds since 1970 of an instant, its number of seconds having been rounded to binary. -/
def epochSecond (u : Int) : Int :=
  let n := u - Calendar.epoch
  if n % Calendar.second = 0 then n / Calendar.second
  else ((Binary64.ofFraction n 1000000).truncate?).getD 0

/-- The instant of a whole second since 1970 within the years 1 to 9999. -/
def ofEpochSecond (n : Int) : Outcome Int :=
  let u := Calendar.epoch + n * Calendar.second
  if Calendar.inRange u then .ok u else .error (.badValue "year is out of range")

/-- The offset in force at a whole second, as its reading tells it. -/
def offsetAtSecond (z : Offsets) (n : Int) : Outcome (Option Int) := do
  let r ← z.toReading (← ofEpochSecond n)
  z.checkedAt r.2 r.1

/-- The least second above `low` whose offset is `offset`, found by halving: `high` has it and `low` has not. -/
def bisect (z : Offsets) (offset : Option Int) (low high : Int) : Outcome Int :=
  if h : 1 < high - low then do
    let middle := (low + high) / 2
    if (← z.offsetAtSecond middle) = offset then z.bisect offset low middle
    else z.bisect offset middle high
  else .ok high
termination_by (high - low).toNat
decreasing_by all_goals omega

/-- The first instant after the gap that holds a reading: read with the offset before the gap it lies after the
    change, read with the offset after the gap it lies before, and the change is found between the two. -/
def afterGap (z : Offsets) (r : Int) : Outcome Int := do
  let a ← z.toInstant false r
  let b ← z.toInstant true r
  let low := epochSecond (min a b)
  let high := epochSecond (max a b)
  let offset ← z.offsetAtSecond high
  ofEpochSecond (← z.bisect offset low high)

end Offsets
end JobScheduling
