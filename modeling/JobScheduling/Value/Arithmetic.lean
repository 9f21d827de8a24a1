import JobScheduling.Number.Literal
import JobScheduling.Number.Machine
import JobScheduling.Value.Order

/-!
Arithmetic of values. Two whole numbers give an exact result, and as soon as one of two numbers is a floating-point
number, so is the other. Texts, byte strings, lists and tuples are added one after the other and multiplied by
repeating them. What a value has no meaning for is a failure of type.
-/

namespace JobScheduling
namespace Value

/-! ### Numbers -/

/-- The failure of an operation on values that it has no meaning for. -/
def unsupported {α : Type} (symbol : String) : Outcome α :=
  .error (.badType ("unsupported operand types for " ++ symbol))

/-- The floating-point number that stands for a whole number. -/
def toBinary (n : Int) : Outcome Binary64 :=
  match Binary64.ofInt n with
  | .infinite _ => .error (.overflow "int too large to convert to float")
  | x => .ok x

/-- The floating-point number that stands for a number. -/
def binary (v : Value) : Outcome Binary64 :=
  match v with
  | float x => .ok x
  | v =>
    match v.integer? with
    | some n => toBinary n
    | none => .error (.badType "must be real number")

/-- Whether a value is a number. -/
def isNumber : Value → Bool
  | bool _ | int _ | float _ => true
  | _ => false

/-- An operation on two numbers: on whole ones, or on floating-point ones if one of them is. -/
def onNumbers (symbol : String) (whole : Int → Int → Outcome Value)
    (real : Binary64 → Binary64 → Outcome Value) (a b : Value) : Outcome Value :=
  match a.integer?, b.integer? with
  | some m, some n => whole m n
  | _, _ =>
    if a.isNumber && b.isNumber then do
      let x ← a.binary
      real x (← b.binary)
    else unsupported symbol

/-- An operation on whole numbers that gives a truth value for two truth values. -/
def onBits (symbol : String) (whole : Int → Int → Int) (truth : Bool → Bool → Bool) (a b : Value) :
    Outcome Value :=
  match a, b with
  | bool p, bool q => .ok (bool (truth p q))
  | a, b =>
    match a.integer?, b.integer? with
    | some m, some n => .ok (int (whole m n))
    | _, _ => unsupported symbol

/-! ### Sums and products -/

/-- The sum of two numbers, or two texts, byte strings, lists or tuples one after the other. -/
def add (a b : Value) : Outcome Value :=
  match a, b with
  | text s, text t => .ok (text (s ++ t))
  | bytes s, bytes t => .ok (bytes (s ++ t))
  | list s, list t => .ok (list (s ++ t))
  | tuple s, tuple t => .ok (tuple (s ++ t))
  | a, b => onNumbers "+" (fun m n => .ok (int (m + n))) (fun x y => .ok (float (x.add y))) a b

/-- The difference of two numbers. -/
def sub (a b : Value) : Outcome Value :=
  onNumbers "-" (fun m n => .ok (int (m - n))) (fun x y => .ok (float (x.sub y))) a b

/-- A list repeated. -/
def repeated {α : Type} (n : Int) (s : List α) : List α := (List.replicate n.toNat s).flatten

/-- A text, byte string, list or tuple repeated. -/
def repeated? (n : Int) : Value → Option Value
  | text s => some (text (String.ofList (repeated n s.toList)))
  | bytes s => some (bytes (repeated n s))
  | list s => some (list (repeated n s))
  | tuple s => some (tuple (repeated n s))
  | _ => none

/-- The product of two numbers, or a text, byte string, list or tuple so many times. -/
def mul (a b : Value) : Outcome Value :=
  match b.integer?.bind fun n => a.repeated? n, a.integer?.bind fun n => b.repeated? n with
  | some v, _ | _, some v => .ok v
  | _, _ => onNumbers "*" (fun m n => .ok (int (m * n))) (fun x y => .ok (float (x.mul y))) a b

/-- The double of a number, or a text, byte string, list or tuple twice. -/
def double (v : Value) : Outcome Value := mul v (int 2)

/-! ### Quotients -/

/-- The quotient of two numbers. -/
def div (a b : Value) : Outcome Value :=
  onNumbers "/"
    (fun m n =>
      if n = 0 then .error .divisionByZero
      else
        match Binary64.ofRatio (decide (m < 0) != decide (n < 0)) m.natAbs n.natAbs with
        | .infinite _ => .error (.overflow "integer division result too large for a float")
        | x => .ok (float x))
    (fun x y => if y.isZero then .error .divisionByZero else .ok (float (x.div y))) a b

/-- The whole quotient of two numbers, toward the lower one, and what is left. -/
def divMod (a b : Value) : Outcome (Value × Value) := do
  let r ← onNumbers "divmod()"
    (fun m n => if n = 0 then .error .divisionByZero else .ok (tuple [int (m.fdiv n), int (m.fmod n)]))
    (fun x y =>
      if y.isZero then .error .divisionByZero
      else
        let r := x.divMod y
        .ok (tuple [float r.1, float r.2])) a b
  match r with
  | tuple [q, r] => .ok (q, r)
  | _ => unsupported "divmod()"

/-- The whole quotient of two numbers, toward the lower one. -/
def floorDiv (a b : Value) : Outcome Value := do .ok (← divMod a b).1

/-- What is left by the whole quotient of two numbers. -/
def mod (a b : Value) : Outcome Value := do .ok (← divMod a b).2

/-! ### Powers -/

/-- The power of two floating-point numbers. Zero has no power below zero, a number below zero none that is not
    whole, and a power beyond the largest number is a failure. -/
def realPow (x y : Binary64) : Outcome Value :=
  if x.isZero && y.isNegative && !y.isZero then .error .divisionByZero
  else
    match x, y with
    | .finite s m _, .finite _ _ _ =>
      if s && m != 0 && (y.fraction?.any fun f => !f.isZero) then unsupported "**"
      else
        match Binary64.machine2 Float.pow x y with
        | .infinite _ => .error (.overflow "result too large")
        | z => .ok (float z)
    | x, y => .ok (float (Binary64.machine2 Float.pow x y))

/-- The power of two numbers. -/
def pow (a b : Value) : Outcome Value :=
  onNumbers "**"
    (fun m n =>
      if 0 ≤ n then .ok (int (m ^ n.toNat))
      else do
        let x ← toBinary m
        realPow x (← toBinary n))
    realPow a b

/-! ### One number -/

/-- An operation on one number. -/
def onNumber (whole : Int → Int) (real : Binary64 → Binary64) (v : Value) : Outcome Value :=
  match v with
  | float x => .ok (float (real x))
  | v =>
    match v.integer? with
    | some n => .ok (int (whole n))
    | none => unsupported "one operand"

/-- The number with the other sign. -/
def neg : Value → Outcome Value := onNumber (- ·) Binary64.neg

/-- The number without its sign. -/
def abs : Value → Outcome Value := onNumber (fun n => Int.ofNat n.natAbs) Binary64.abs

/-- The whole number that a value stands for. -/
def index (v : Value) : Outcome Int :=
  match v.integer? with
  | some n => .ok n
  | none => .error (.badType ("'" ++ v.typeName ++ "' object cannot be interpreted as an integer"))

/-- A floating-point number made whole by a rule, where it has a value. -/
def whole (rule : Binary64 → Option Int) (x : Binary64) : Outcome Value :=
  match rule x, x with
  | some n, _ => .ok (int n)
  | none, .nan => .error (.badValue "cannot convert float NaN to integer")
  | none, _ => .error (.overflow "cannot convert float infinity to integer")

/-- A whole number rounded to a multiple of a power of ten, a half to the even multiple. -/
def roundTens (n : Int) (zeros : Nat) : Int :=
  let q := Binary64.divHalfEven n.natAbs (10 ^ zeros) * 10 ^ zeros
  if n < 0 then -Int.ofNat q else Int.ofNat q

/-- A number rounded to a whole one, or to a number of decimal places. -/
def round (v : Value) (places : Option Int) : Outcome Value :=
  match v, places with
  | float x, none => whole Binary64.roundHalfEven? x
  | float x, some p => .ok (float (x.roundPlaces p))
  | v, p =>
    match v.integer? with
    | some n => .ok (int (if p.any (· < 0) then roundTens n ((p.getD 0).natAbs) else n))
    | none => .error (.badType ("type " ++ v.typeName ++ " doesn't define __round__ method"))

/-- The sum of numbers in order, from a first one on. -/
def sum (vs : List Value) (start : Value) : Outcome Value := vs.foldlM add start

end Value
end JobScheduling
