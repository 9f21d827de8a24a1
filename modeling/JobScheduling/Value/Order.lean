import JobScheduling.Error.Fault

/-!
The order of values. Numbers of all kinds are ordered by their exact value, texts and byte strings by their
characters and bytes, and lists and tuples by the first items that differ. Between other values there is no order.
-/

namespace JobScheduling
namespace Value

/-! ### Comparing -/

/-- The failure to compare values that have no order. -/
def noOrder {α : Type} (a b : Value) : Outcome α :=
  .error (.badType ("no order between '" ++ a.typeName ++ "' and '" ++ b.typeName ++ "'"))

/-- How two byte strings compare. -/
def orderBytes : List UInt8 → List UInt8 → Ordering
  | [], [] => .eq
  | [], _ => .lt
  | _, [] => .gt
  | a :: as, b :: bs => (compare a b).then (orderBytes as bs)

mutual

/-- How two values compare; a number that is none has no place in the order. -/
def order (a b : Value) : Outcome (Option Ordering) :=
  match a, b with
  | text s, text t => .ok (some (compare s t))
  | bytes s, bytes t => .ok (some (orderBytes s t))
  | list xs, list ys => orderAll xs ys
  | tuple xs, tuple ys => orderAll xs ys
  | float x, float y => .ok (x.compare? y)
  | float x, b =>
    match b.integer? with
    | some n => .ok (x.compareFraction? n 1)
    | none => noOrder (float x) b
  | a, float y =>
    match a.integer? with
    | some n => .ok ((y.compareFraction? n 1).map Ordering.swap)
    | none => noOrder a (float y)
  | a, b =>
    match a.integer?, b.integer? with
    | some m, some n => .ok (some (compare m n))
    | _, _ => noOrder a b

/-- How two lists of values compare. -/
def orderAll : List Value → List Value → Outcome (Option Ordering)
  | [], [] => .ok (some .eq)
  | [], _ => .ok (some .lt)
  | _, [] => .ok (some .gt)
  | x :: xs, y :: ys => if equals false x y then orderAll xs ys else order x y

end

/-- Whether one value comes before another. -/
def less (a b : Value) : Outcome Bool := do .ok ((← order a b) == some .lt)

/-- Whether one value comes before another or at the same place. -/
def noMore (a b : Value) : Outcome Bool := do
  let o ← order a b
  .ok (o == some .lt || o == some .eq)

/-! ### Sorting -/

/-- A value put into a sorted list, behind those that it does not come before. -/
def insertSorted (v : Value) : List Value → Outcome (List Value)
  | [] => .ok [v]
  | w :: ws => do
    if ← less v w then .ok (v :: w :: ws) else .ok (w :: (← insertSorted v ws))

/-- The values in ascending order; what is equal stays in its order. -/
def sorted (vs : List Value) : Outcome (List Value) := vs.foldlM (fun sorted v => insertSorted v sorted) []

/-- The first of the values that no other comes before in the given sense. -/
def foremost (before : Value → Value → Outcome Bool) (v : Value) : List Value → Outcome Value
  | [] => .ok v
  | w :: ws => do if ← before w v then foremost before w ws else foremost before v ws

end Value
end JobScheduling
