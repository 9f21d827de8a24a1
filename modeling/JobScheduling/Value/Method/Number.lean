import JobScheduling.Value.Method.Text
import JobScheduling.Value.Operation

/-!
What numbers can do: they tell the bits, bytes and fractions that they are made of.
-/

namespace JobScheduling
namespace Value

/-! ### Whole numbers -/

/-- How many binary digits a number has. -/
def bitLength (n : Nat) : Nat := if n = 0 then 0 else n.log2 + 1

/-- How many of the last binary digits of a number are ones. -/
def bitCount : Nat → Nat → Nat
  | 0, _ => 0
  | digits + 1, n => n % 2 + bitCount digits (n / 2)

/-- The last bytes of a number, the last of them first. -/
def bytesFrom : Nat → Nat → List UInt8
  | 0, _ => []
  | count + 1, n => UInt8.ofNat (n % 256) :: bytesFrom count (n / 256)

/-- The order of bytes that a call names: whether the last comes first. -/
def isLittle : Value → Outcome Bool
  | text "little" => .ok true
  | text "big" => .ok false
  | text _ => .error (.badValue "byteorder must be either 'little' or 'big'")
  | _ => wrongArguments

/-- The bytes of a number. -/
def toBytes (n : Int) (length : Int) (order : Value) : Outcome Value := do
  let little ← isLittle order
  if length < 0 then .error (.badValue "length argument must be non-negative")
  else if n < 0 ∨ 256 ^ length.toNat ≤ n.toNat then .error (.overflow "int too big to convert")
  else
    let bs := bytesFrom length.toNat n.toNat
    .ok (bytes (if little then bs else bs.reverse))

/-- The number of some bytes, the last of them first. -/
def numberOf : List UInt8 → Nat
  | [] => 0
  | b :: bs => b.toNat + 256 * numberOf bs

/-- The number that bytes give. -/
def fromBytes (v order : Value) : Outcome Value := do
  let little ← isLittle order
  let bs ← match v with
    | bytes bs => .ok bs
    | v => do
      (← v.items).mapM fun w => do
        let n ← w.index
        if 0 ≤ n ∧ n < 256 then .ok (UInt8.ofNat n.toNat)
        else .error (.badValue "bytes must be in range(0, 256)")
  .ok (int (Int.ofNat (numberOf (if little then bs else bs.reverse))))

/-- The methods of whole numbers. -/
def wholeMethods : List (String × (Int → Method)) :=
  [("bit_length", fun n args =>
      match args with
      | [] => .ok (int (Int.ofNat (bitLength n.natAbs)))
      | _ => wrongArguments),
   ("bit_count", fun n args =>
      match args with
      | [] => .ok (int (Int.ofNat (bitCount (bitLength n.natAbs) n.natAbs)))
      | _ => wrongArguments),
   ("conjugate", fun n args =>
      match args with
      | [] => .ok (int n)
      | _ => wrongArguments),
   ("as_integer_ratio", fun n args =>
      match args with
      | [] => .ok (tuple [int n, int 1])
      | _ => wrongArguments),
   ("to_bytes", fun n args =>
      match args with
      | [] => toBytes n 1 (text "big")
      | [length] => do toBytes n (← length.index) (text "big")
      | [length, order] => do toBytes n (← length.index) order
      | _ => wrongArguments)]

/-! ### Floating-point numbers -/

/-- The fraction that a number is, in least terms. -/
def ratio (x : Binary64) : Outcome Value :=
  match x, x.toFraction? with
  | _, some (num, den) =>
    let d := num.natAbs.gcd den
    .ok (tuple [int (num / Int.ofNat d), int (Int.ofNat (den / d))])
  | .nan, _ => .error (.badValue "cannot convert NaN to integer ratio")
  | _, none => .error (.overflow "cannot convert Infinity to integer ratio")

/-- A number in hexadecimal digits, its significand beginning with one digit before the point. -/
def hexText : Binary64 → String
  | .finite s m e =>
    let sign := if s then "-" else ""
    if m = 0 then sign ++ "0x0.0p+0"
    else
      let lead := m / 2 ^ 52
      let power : Int := if lead = 0 then -1022 else e + 52
      sign ++ "0x" ++ toString lead ++ "." ++ String.ofList (Text.hexDigits 13 (m % 2 ^ 52)) ++ "p" ++
        (if power < 0 then "-" else "+") ++ toString power.natAbs
  | x => x.text

/-- The methods of floating-point numbers. -/
def realMethods : List (String × (Binary64 → Method)) :=
  [("is_integer", fun x args =>
      match args with
      | [] => .ok (bool (x.fraction?.any Binary64.isZero))
      | _ => wrongArguments),
   ("as_integer_ratio", fun x args =>
      match args with
      | [] => ratio x
      | _ => wrongArguments),
   ("conjugate", fun x args =>
      match args with
      | [] => .ok (float x)
      | _ => wrongArguments),
   ("hex", fun x args =>
      match args with
      | [] => .ok (text (hexText x))
      | _ => wrongArguments)]

end Value
end JobScheduling
