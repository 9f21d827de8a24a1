import JobScheduling.Function.Basic
import JobScheduling.Value.Method.Number
import JobScheduling.Value.Operation

/-!
The functions of mathematics. Those on whole numbers, the roots and the sums are exact and rounded once; those of
analysis are the ones of the machine, with a failure where they are not defined and where they exceed the range of
numbers.
-/

namespace JobScheduling
namespace Function

open Value

/-! ### Analysis -/

/-- A function of analysis, which is not defined where it gives no number, and beyond the range of numbers where it
    gives an infinite one. -/
def real (f : Binary64 → Binary64) (v : Value) : Outcome Value := do
  let x ← v.binary
  match x, f x with
  | .nan, _ => .ok (float .nan)
  | _, .nan => .error (.badValue "math domain error")
  | .finite _ _ _, .infinite _ => .error (.overflow "math range error")
  | _, y => .ok (float y)

/-- A function of analysis of the machine. -/
def analysis (f : Float → Float) : Method := of1 (real (Binary64.machine f))

/-- A logarithm; there is none of zero and of what is below it. A whole number may be as great as it likes. -/
def logarithm (f : Float → Float) (v : Value) : Outcome Binary64 := do
  let positive := match v with
    | float x => x == .nan || (!x.isZero && !x.isNegative)
    | v => v.integer?.any (0 < ·)
  if v.isNumber && !positive then .error (.badValue "math domain error")
  else
    match v.integer? with
    | some n =>
      let e := (bitLength n.toNat) - 1000
      let x := Binary64.ofInt (n / 2 ^ e)
      if e = 0 then .ok (Binary64.machine f x)
      else .ok ((Binary64.machine f x).add ((Binary64.ofInt (Int.ofNat e)).mul (Binary64.machine f (Binary64.ofInt 2))))
    | none => do .ok (Binary64.machine f (← v.binary))

/-- The number of ways to choose `k` of `n` things. -/
def choices : Nat → Nat → Nat
  | _, 0 => 1
  | n, k + 1 => choices n k * (n - k) / (k + 1)

/-- The number of ways to line up `k` of `n` things. -/
def arrangements : Nat → Nat → Nat
  | _, 0 => 1
  | n, k + 1 => arrangements n k * (n - k)

/-- A whole number that is not negative. -/
def natural (v : Value) : Outcome Nat := do
  let n ← v.index
  if n < 0 then .error (.badValue "must be a non-negative integer") else .ok n.toNat

/-- The whole numbers of the arguments brought together. -/
def gather (f : Nat → Nat → Nat) (start : Nat) (args : List Value) : Outcome Value := do
  .ok (int (Int.ofNat (← args.foldlM (fun n v => do .ok (f n (← v.index).natAbs)) start)))

/-- The exact sum of numbers, rounded once. -/
def exactSum (vs : List Value) : Outcome Value := do
  let xs ← vs.mapM Value.binary
  let parts := xs.filterMap Binary64.toFraction?
  if parts.length = xs.length then
    let r := parts.foldl (fun (sum : Int × Nat) p => (sum.1 * Int.ofNat p.2 + p.1 * Int.ofNat sum.2, sum.2 * p.2)) (0, 1)
    .ok (float (Binary64.ofFraction r.1 r.2))
  else .ok (float (xs.foldl Binary64.add Binary64.zero))

/-- Something that a floating-point number is or is not. -/
def test (p : Binary64 → Bool) : Method := of1 fun v => do .ok (bool (p (← v.binary)))

/-- The functions of mathematics. -/
def math : List (String × Method) :=
  [("floor", of1 Value.floor), ("ceil", of1 Value.ceil), ("trunc", of1 Value.truncated),
   ("sqrt", of1 (real fun x => if x.isNegative && !x.isZero then .nan else x.sqrt)),
   ("fabs", of1 (real Binary64.abs)),
   ("isqrt", of1 fun v => do .ok (int (Int.ofNat (← natural v).sqrt))),
   ("factorial", of1 fun v => do
      let n ← natural v
      .ok (int (Int.ofNat (arrangements n n)))),
   ("comb", of2 fun a b => do
      let n ← natural a
      let k ← natural b
      .ok (int (Int.ofNat (if n < k then 0 else choices n k)))),
   ("perm", fun args =>
      match args with
      | [v] | [v, null] => do
        let n ← natural v
        .ok (int (Int.ofNat (arrangements n n)))
      | [v, w] => do
        let n ← natural v
        .ok (int (Int.ofNat (arrangements n (← natural w))))
      | _ => wrongArguments),
   ("gcd", gather Nat.gcd 0), ("lcm", gather Nat.lcm 1),
   ("prod", fun args =>
      match args with
      | [v] => do (← v.items).foldlM Value.mul (int 1)
      | _ => wrongArguments),
   ("fsum", of1 fun v => do exactSum (← v.items)),
   ("copysign", of2 fun a b => do
      let x ← a.binary
      .ok (float (x.withSign (← b.binary)))),
   ("fmod", of2 fun a b => do
      let x ← a.binary
      let y ← b.binary
      match x, x.remainder y with
      | .infinite _, .nan => if y == .nan then .ok (float .nan) else .error (.badValue "math domain error")
      | .finite _ _ _, .nan => if y == .nan then .ok (float .nan) else .error (.badValue "math domain error")
      | _, r => .ok (float r)),
   ("pow", of2 fun a b => do
      let x ← a.binary
      let y ← b.binary
      match x, y, Binary64.machine2 Float.pow x y with
      | .finite _ _ _, .finite _ _ _, .nan => .error (.badValue "math domain error")
      | .finite _ _ _, .finite _ _ _, .infinite _ =>
        if x.isZero then .error (.badValue "math domain error") else .error (.overflow "math range error")
      | _, _, z => .ok (float z)),
   ("isnan", test (· == .nan)),
   ("isinf", test fun x => x != .nan && x.toFraction?.isNone),
   ("isfinite", test fun x => x.toFraction?.isSome),
   ("log", fun args =>
      match args with
      | [v] => do .ok (float (← logarithm Float.log v))
      | [v, base] => do
        let x ← logarithm Float.log v
        let y ← logarithm Float.log base
        if y.isZero then .error .divisionByZero else .ok (float (x.div y))
      | _ => wrongArguments),
   ("log2", of1 fun v => do .ok (float (← logarithm Float.log2 v))),
   ("log10", of1 fun v => do .ok (float (← logarithm Float.log10 v))),
   ("exp", analysis Float.exp), ("exp2", analysis Float.exp2), ("cbrt", analysis Float.cbrt),
   ("sin", analysis Float.sin), ("cos", analysis Float.cos), ("tan", analysis Float.tan),
   ("asin", analysis Float.asin), ("acos", analysis Float.acos), ("atan", analysis Float.atan),
   ("sinh", analysis Float.sinh), ("cosh", analysis Float.cosh), ("tanh", analysis Float.tanh),
   ("asinh", analysis Float.asinh), ("acosh", analysis Float.acosh), ("atanh", analysis Float.atanh),
   ("atan2", of2 fun a b => do
      let x ← a.binary
      .ok (float (Binary64.machine2 Float.atan2 x (← b.binary)))),
   ("degrees", of1 fun v => do .ok (float ((← v.binary).mul (Binary64.machine (fun _ => 180.0 / 3.141592653589793) .zero)))),
   ("radians", of1 fun v => do .ok (float ((← v.binary).mul (Binary64.machine (fun _ => 3.141592653589793 / 180.0) .zero))))]

end Function
end JobScheduling
