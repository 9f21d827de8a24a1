import JobScheduling.Value.Basic
import JobScheduling.Zone.Table

/-!
Time zones. A zone is UTC, a fixed offset, a table that is known by a key, or one of three zones that callers
bring along: one whose offset depends on the month, one that carries an identifier of its own, and one that
knows no offset at all. All but the first two have a number, which tells apart zones that were made at different
times.
-/

namespace JobScheduling

/-- The attribute under which a zone of a caller carries its identifier. -/
inductive IdAttribute where
  | key
  | zone
  | other
deriving DecidableEq, Repr, Inhabited

/-- A time zone. -/
inductive Zone where
  | utc
  /-- A fixed offset, with a name of its own or without. -/
  | fixed (offset : Int) (name : Option String)
  /-- The table that is known by a key: a region, a rule or a file. The regions of the database have the number zero. -/
  | table (number : Nat) (key : String) (t : OffsetTable)
  /-- One hour in the first five months of the year and two in the others; it has no identifier. -/
  | seasonal (number : Nat)
  /-- A constant offset, zero if none is given, and an identifier under an attribute. -/
  | keyed (number : Nat) (under : IdAttribute) (id : Value) (offset : Option Int)
  /-- No offset at any time. -/
  | unaware (number : Nat)
deriving Inhabited

namespace Zone

/-- The offset of the zone that depends on the month. -/
def seasonalOffset (r : Int) : Int :=
  if (Calendar.dateOf r).month ≤ 5 then 3600000000 else 7200000000

/-- The offsets of a zone. -/
def offsets : Zone → Offsets
  | utc => .constant 0
  | fixed offset _ => .constant offset
  | table _ _ t => t.offsets
  | seasonal _ => .ofReading seasonalOffset
  | keyed _ _ _ offset => .constant (offset.getD 0)
  | unaware _ => .unknown

/-- The offset that a zone of a caller has at all times, if it says so. -/
def constantOffset? : Zone → Option Int
  | utc => some 0
  | fixed offset _ => some offset
  | keyed _ _ _ offset => offset
  | _ => none

/-- How messages show a zone that has no identifier. -/
def shown : Zone → String
  | utc => "datetime.timezone.utc"
  | fixed .. => "datetime.timezone"
  | table _ key _ => "zoneinfo.ZoneInfo(key='" ++ key ++ "')"
  | seasonal _ => "<SeasonalZone>"
  | keyed .. => "<KeyedZone>"
  | unaware _ => "<UnawareZone>"

/-- Whether readings in two zones are compared as they stand: both are UTC, or they are one and the same zone. For
    fixed offsets it makes no difference. -/
def shares : Zone → Zone → Bool
  | utc, utc => true
  | table m a _, table n b _ => m == n && a == b
  | seasonal m, seasonal n => m == n
  | keyed m _ _ _, keyed n _ _ _ => m == n
  | unaware m, unaware n => m == n
  | _, _ => false

/-- Whether two zones count as equal: fixed zones have the same offset, all others are one and the same. -/
def same : Zone → Zone → Bool
  | utc, fixed b _ => b == 0
  | fixed a _, utc => a == 0
  | fixed a _, fixed b _ => a == b
  | a, b => a.shares b

end Zone
end JobScheduling
