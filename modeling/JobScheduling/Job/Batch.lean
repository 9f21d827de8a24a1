import JobScheduling.Job.Work

/-!
Batches: one definition for each item of a collection, the item being the last argument. The items may be there
at once or come one by one from a source that may fail; in both cases the work is checked before any item is
looked at, and a batch that must not be empty is refused if it is.
-/

namespace JobScheduling

/-- The items of a batch. -/
inductive Items where
  /-- No collection at all. -/
  | none
  /-- Items that are there at once. -/
  | collection (items : List Value)
  /-- Items that come one by one; the source may fail where the next item is asked for. -/
  | lazy (items : List Value) (ending : Option Fault)
deriving Inhabited

namespace Items

/-- The items of a value. One that has none fails when its first item is asked for. -/
def ofValue (v : Value) : Items :=
  match v with
  | .null => none
  | v =>
    match v.items? with
    | some items => collection items
    | Option.none => lazy [] (some v.noItems)

/-- Items from a source that fails before the item of a number, if it has one. -/
def source (items : List Value) (failsAt : Option Nat) : Items :=
  match failsAt with
  | some n =>
    if n < items.length then lazy (items.take n) (some (.jobFailed "source failed")) else lazy items Option.none
  | Option.none => lazy items Option.none

end Items

/-- The definitions of a batch. -/
inductive Batch where
  /-- Definitions that are there at once. -/
  | eager (jobs : List JobDefinition)
  /-- Definitions that come one by one, and the failure that ends them. -/
  | lazy (jobs : List JobDefinition) (ending : Option Fault)
deriving Inhabited

namespace Batch

/-- Whether the definitions are there at once. -/
def isEager : Batch → Bool
  | eager _ => true
  | lazy .. => false

/-- All of the definitions, and the failure after them. -/
def all : Batch → List JobDefinition × Option Fault
  | eager jobs => (jobs, none)
  | lazy jobs ending => (jobs, ending)

/-- The first `count` definitions, and the failure if more were asked for than came. -/
def take (b : Batch) (count : Nat) : List JobDefinition × Option Fault :=
  (b.all.1.take count, if count ≤ b.all.1.length then none else b.all.2)

end Batch

namespace Work

/-- The definition for each item of a collection, or the failure to make any. -/
def captureEach (items : Items) (w : Work) (requireNonEmpty : Bool) : Outcome Batch := do
  match items with
  | .none => .error (.problem (.input .noWorkItems))
  | .collection items =>
    let r ← w.toTarget
    if requireNonEmpty && items.isEmpty then .error (.problem .emptyWorkItems)
    else .ok (.eager (items.map fun item => ⟨r.1, r.2 ++ [item]⟩))
  | .lazy items ending =>
    let r ← w.toTarget
    let ending := if ending.isNone && requireNonEmpty && items.isEmpty then some (.problem .emptyWorkItems) else ending
    .ok (.lazy (items.map fun item => ⟨r.1, r.2 ++ [item]⟩) ending)

end Work
end JobScheduling
