/-!
Binary floating-point numbers of 64 bits, held exactly: a finite one is a sign, a significand below `2 ^ 53`
and a power of two. Every operation computes the exact rational result and rounds it once, to the nearest
number and of two to the one with the even significand.
-/

-- Powers are those of the numbers themselves, also where numbers are known as a monoid.
attribute [default_instance 20000, instance (2000)] instPowNat

namespace JobScheduling

/-- A floating-point number. In a finite one the significand is at least `2 ^ 52` unless the exponent is the
    least one, so that each number has one form. -/
inductive Binary64 where
  | nan
  | infinite (negative : Bool)
  | finite (negative : Bool) (significand : Nat) (exponent : Int)
deriving DecidableEq, Repr, Inhabited

namespace Binary64

/-! ### Rounding -/

/-- The exponent of the least positive number. -/
def minExponent : Int := -1074

/-- The exponent of the largest numbers. -/
def maxExponent : Int := 971

/-- `num / den` rounded to a whole number, a half to the even one. -/
def divHalfEven (num den : Nat) : Nat :=
  let q := num / den
  let r := num % den
  if den < 2 * r ∨ (2 * r = den ∧ q % 2 = 1) then q + 1 else q

/-- `num / den` over `2 ^ e`, as a fraction. -/
def scaled (num den : Nat) (e : Int) : Nat × Nat :=
  if 0 ≤ e then (num, den * 2 ^ e.toNat) else (num * 2 ^ (-e).toNat, den)

/-- The number nearest to the fraction `num / den`. -/
def ofRatio (negative : Bool) (num den : Nat) : Binary64 :=
  if num = 0 then finite negative 0 minExponent
  else
    let low := max (Int.ofNat num.log2 - Int.ofNat den.log2 - 53) minExponent
    let first := scaled num den low
    let e := if first.1 / first.2 ≥ 2 ^ 53 then low + 1 else low
    let s := scaled num den e
    let m := divHalfEven s.1 s.2
    let (m, e) := if m = 2 ^ 53 then (2 ^ 52, e + 1) else (m, e)
    if maxExponent < e then infinite negative else finite negative m e

/-- The zero of positive sign. -/
def zero : Binary64 := finite false 0 minExponent

/-- The number nearest to a whole number; a number beyond the largest becomes infinite. -/
def ofInt (n : Int) : Binary64 := ofRatio (decide (n < 0)) n.natAbs 1

/-! ### Reading a number as a fraction -/

/-- The magnitude of `m * 2 ^ e` as a fraction. -/
def magnitude (m : Nat) (e : Int) : Nat × Nat :=
  if 0 ≤ e then (m * 2 ^ e.toNat, 1) else (m, 2 ^ (-e).toNat)

/-- The value of a finite number as a fraction, its denominator positive. -/
def toFraction? : Binary64 → Option (Int × Nat)
  | finite negative m e =>
    let r := magnitude m e
    some (if negative then -Int.ofNat r.1 else Int.ofNat r.1, r.2)
  | _ => none

/-- The number nearest to a fraction with a sign; an exact zero is positive. -/
def ofFraction (num : Int) (den : Nat) : Binary64 := ofRatio (decide (num < 0)) num.natAbs den

/-! ### Arithmetic -/

/-- Whether the number is written with a minus sign. -/
def isNegative : Binary64 → Bool
  | nan => false
  | infinite negative => negative
  | finite negative _ _ => negative

/-- Whether the number is a zero of either sign. -/
def isZero : Binary64 → Bool
  | finite _ m _ => m == 0
  | _ => false

/-- The sum, rounded once. Two zeros of negative sign add up to one; infinities of opposite sign have no sum. -/
def add : Binary64 → Binary64 → Binary64
  | nan, _ => nan
  | _, nan => nan
  | infinite a, infinite b => if a = b then infinite a else nan
  | infinite a, _ => infinite a
  | _, infinite b => infinite b
  | finite s m e, finite t n f =>
    let a := magnitude m e
    let b := magnitude n f
    let x : Int := if s then -Int.ofNat a.1 else Int.ofNat a.1
    let y : Int := if t then -Int.ofNat b.1 else Int.ofNat b.1
    let num := x * Int.ofNat b.2 + y * Int.ofNat a.2
    if num = 0 then finite (s && t) 0 minExponent else ofFraction num (a.2 * b.2)

/-- The product, rounded once. -/
def mul : Binary64 → Binary64 → Binary64
  | nan, _ => nan
  | _, nan => nan
  | infinite a, infinite b => infinite (a != b)
  | infinite a, finite t n _ => if n = 0 then nan else infinite (a != t)
  | finite s m _, infinite b => if m = 0 then nan else infinite (s != b)
  | finite s m e, finite t n f =>
    let a := magnitude m e
    let b := magnitude n f
    ofRatio (s != t) (a.1 * b.1) (a.2 * b.2)

/-! ### Comparison -/

/-- How a number compares with the fraction `num / den`; a number that is none has no place in the order. -/
def compareFraction? (x : Binary64) (num : Int) (den : Nat) : Option Ordering :=
  match x with
  | nan => none
  | infinite negative => some (if negative then .lt else .gt)
  | finite negative m e =>
    let r := magnitude m e
    let v : Int := if negative then -Int.ofNat r.1 else Int.ofNat r.1
    some (compare (v * Int.ofNat den) (num * Int.ofNat r.2))

/-- How two numbers compare; the two zeros are equal. -/
def compare? (x y : Binary64) : Option Ordering :=
  match x, y with
  | nan, _ => none
  | _, nan => none
  | infinite a, infinite b => some (compare b.toNat a.toNat)
  | _, infinite b => some (if b then .gt else .lt)
  | x, finite negative m e =>
    let r := magnitude m e
    x.compareFraction? (if negative then -Int.ofNat r.1 else Int.ofNat r.1) r.2

/-! ### Whole part -/

/-- The whole part of a finite number, cut toward zero. -/
def truncate? : Binary64 → Option Int
  | finite negative m e =>
    let r := magnitude m e
    let q := Int.ofNat (r.1 / r.2)
    some (if negative then -q else q)
  | _ => none

/-- What is left of a finite number beyond its whole part; it keeps the sign. -/
def fraction? : Binary64 → Option Binary64
  | finite negative m e =>
    let r := magnitude m e
    some (ofRatio negative (r.1 % r.2) r.2)
  | _ => none

/-- A finite number rounded to a whole one, a half to the even one. -/
def roundHalfEven? : Binary64 → Option Int
  | finite negative m e =>
    let r := magnitude m e
    let q := Int.ofNat (divHalfEven r.1 r.2)
    some (if negative then -q else q)
  | _ => none

end Binary64
end JobScheduling
