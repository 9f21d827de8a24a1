import JobScheduling.Zone.Rule

/-!
Offsets of a region: the changes of the past one by one, and a yearly rule from the last of them on. A change
is an instant with the offset from then on; moved to local time it happens at the later of the two readings for
a first pass and at the earlier one for a second pass.
-/

namespace JobScheduling

/-- A change of the offset, both in seconds. -/
structure Transition where
  second : Int
  offset : Int
deriving DecidableEq, Repr, Inhabited

/-- The offsets of a region, in seconds: before the first change, at each change, and the rule after the last.
    The first change is moved to local time by the offset `initial`. -/
structure OffsetTable where
  before : Int
  initial : Int
  transitions : Array Transition
  after : Rule
deriving DecidableEq, Repr, Inhabited

/-- How many numbers of the range from `low` up to `high` come before the first that is beyond, found by
    halving; `beyond` is false up to some number and true from there on. -/
def firstBeyond (beyond : Nat → Bool) (low high : Nat) : Nat :=
  if low < high then
    let middle := (low + high) / 2
    if beyond middle then firstBeyond beyond low middle else firstBeyond beyond (middle + 1) high
  else low
termination_by high - low

namespace OffsetTable

/-- The number of changes. -/
def size (t : OffsetTable) : Nat := t.transitions.size

/-- The offset before change `i`. -/
def offsetBefore (t : OffsetTable) (i : Nat) : Int :=
  if i = 0 then t.before else ((t.transitions[i - 1]?).map (·.offset)).getD t.before

/-- The offset from change `i` on. -/
def offsetAfter (t : OffsetTable) (i : Nat) : Int := ((t.transitions[i]?).map (·.offset)).getD t.before

/-- The instant of change `i`. -/
def instantOf (t : OffsetTable) (i : Nat) : Int := ((t.transitions[i]?).map (·.second)).getD 0

/-- The local time of change `i` for a first or a second pass. -/
def localOf (t : OffsetTable) (fold : Bool) (i : Nat) : Int :=
  let a := if i = 0 then t.initial else t.offsetBefore i
  let b := t.offsetAfter i
  t.instantOf i + if fold then min a b else max a b

/-- The offset at a second of local time. -/
def atReading (t : OffsetTable) (fold : Bool) (s : Int) : Int :=
  if 0 < t.size ∧ s < t.localOf fold 0 then t.before
  else if t.size = 0 ∨ t.localOf fold (t.size - 1) < s then
    t.after.atReading fold (Calendar.yearOfDay (s / 86400).toNat) s
  else t.offsetAfter (firstBeyond (fun i => s < t.localOf fold i) 0 t.size - 1)

/-- The offset at a second of UTC, and whether its reading is a second pass. -/
def atInstant (t : OffsetTable) (s : Int) : Int × Bool :=
  if 0 < t.size ∧ s < t.instantOf 0 then (t.before, false)
  else if t.size = 0 ∨ t.instantOf (t.size - 1) < s then
    let r := t.after.atInstant (Calendar.yearOfDay (s / 86400).toNat) s
    let back := t.offsetBefore (t.size - 1) - r.1
    (r.1, r.2 || (0 < t.size && 0 < back && s < t.instantOf (t.size - 1) + back))
  else
    let i := firstBeyond (fun i => s < t.instantOf i) 0 t.size - 1
    (t.offsetAfter i, t.offsetBefore i - t.offsetAfter i > s - t.instantOf i)

/-- The offsets that a table gives, which change at whole seconds. -/
def offsets (t : OffsetTable) : Offsets :=
  ⟨fun fold r => some (t.atReading fold (r / 1000000) * 1000000),
    fun u => let r := t.atInstant (u / 1000000)
      some (r.1 * 1000000, r.2)⟩

end OffsetTable
end JobScheduling
