import JobScheduling.Calendar.Span
import JobScheduling.Zone.Resolve

/-!
Date-times as callers hand them in: a reading, perhaps with a zone and a fold. One without an offset is naive.
Two date-times that share their zone are compared by their readings, all others by their instants.
-/

namespace JobScheduling

/-- A date-time. -/
structure Stamp where
  reading : Int
  zone : Option Zone
  fold : Bool
deriving Inhabited

namespace Stamp

/-- An instant as a date-time in UTC. -/
def ofInstant (u : Int) : Stamp := ⟨u, some .utc, false⟩

/-- The offset of a date-time from UTC, where it has one. -/
def offset? (s : Stamp) : Outcome (Option Int) :=
  match s.zone with
  | some z => z.offsets.checkedAt s.fold s.reading
  | none => .ok none

/-- Whether a date-time has an offset. -/
def isAware (s : Stamp) : Outcome Bool := do .ok (← s.offset?).isSome

/-- The instant of a date-time; a naive one is read on the clock of the system. -/
def instant (s : Stamp) : Outcome Int := do
  match ← s.offset? with
  | some offset => Calendar.checked (s.reading - offset)
  | none => Offsets.systemInstant s.reading

/-- The reading in another zone. A date-time of the same zone keeps its own reading. -/
def readingIn (s : Stamp) (z : Zone) : Outcome Int := do
  if (s.zone.map fun own => own.shares z).getD false then .ok s.reading
  else z.offsets.readingOf (← s.instant)

/-- The date-time moved by a length of time, as its wall clock shows it; the first pass of an overlap is meant. -/
def plus (s : Stamp) (d : Int) : Outcome Stamp := do
  .ok { s with reading := ← Calendar.checked (s.reading + d), fold := false }

/-- The text of a date-time, with its offset where it has one. -/
def text (s : Stamp) : Outcome String := do
  let offset ← s.offset?
  .ok (String.ofList (Calendar.readingText s.reading ++ (offset.map Calendar.offsetText).getD []))

/-- Whether a date-time is not later than another one. -/
def notAfter (s t : Stamp) : Outcome Bool := do
  let shared := match s.zone, t.zone with
    | some a, some b => a.shares b
    | none, none => true
    | _, _ => false
  if shared then .ok (s.reading ≤ t.reading)
  else
    match ← s.offset?, ← t.offset? with
    | some a, some b => .ok (s.reading - a ≤ t.reading - b)
    | none, none => .ok (s.reading ≤ t.reading)
    | _, _ => .error (.badType "can't compare offset-naive and offset-aware datetimes")

end Stamp

/-! ### Time values -/

/-- What callers hand in for a time: a date-time, a length of time, or a plain value. -/
inductive TimeValue where
  | stamp (s : Stamp)
  | span (d : Int)
  | value (v : Value)
deriving Inhabited

/-- The instant that a time value means. A naive date-time is read in the zone of the hint, the first pass of
    an overlap being meant; a number counts the seconds since 1970. -/
def Host.toInstant (h : Host) (t : TimeValue) (hint : ZoneHint) : Outcome Int :=
  match t with
  | .stamp s => do
    match ← s.offset? with
    | some offset => Calendar.checked (s.reading - offset)
    | none => (← h.resolve hint).offsets.toInstant false s.reading
  | .value .null => .error (.problem (.input .noTime))
  | .value (.bool _) => .error (.problem (.input .truthValueTime))
  | .value (.int n) => Calendar.ofEpochSeconds n
  | .value (.float x) => Calendar.ofEpochFloat x
  | .value v => .error (.problem (.input (.unsupportedTime v.typeName)))
  | .span _ => .error (.problem (.input (.unsupportedTime "timedelta")))

end JobScheduling
