import JobScheduling.Number.Binary64

/-!
Numbers as the machine holds them. The machine's format is the one that the exact numbers describe, so that a number
goes there and back unchanged; roots are computed exactly, and only the functions of analysis, which no exact rule
gives, are taken from the machine.
-/

namespace JobScheduling
namespace Binary64

/-! ### Bits -/

/-- The bits of a number: its sign, its exponent, and its significand without the leading bit. -/
def toBits : Binary64 → UInt64
  | nan => 0x7FF8000000000000
  | infinite negative => UInt64.ofNat ((if negative then 2 ^ 63 else 0) + 0x7FF * 2 ^ 52)
  | finite negative m e =>
    let rest := if m < 2 ^ 52 then m else (e + 1075).toNat * 2 ^ 52 + (m - 2 ^ 52)
    UInt64.ofNat ((if negative then 2 ^ 63 else 0) + rest)

/-- The number of some bits. -/
def ofBits (bits : UInt64) : Binary64 :=
  let n := bits.toNat
  let negative := n / 2 ^ 63 == 1
  let exponent := n / 2 ^ 52 % 2 ^ 11
  let rest := n % 2 ^ 52
  if exponent = 0x7FF then (if rest = 0 then infinite negative else nan)
  else if exponent = 0 then finite negative rest minExponent
  else finite negative (2 ^ 52 + rest) (Int.ofNat exponent - 1075)

/-- A function of the machine. -/
def machine (f : Float → Float) (x : Binary64) : Binary64 := ofBits (f (Float.ofBits x.toBits)).toBits

/-- A function of two numbers of the machine. -/
def machine2 (f : Float → Float → Float) (x y : Binary64) : Binary64 :=
  ofBits (f (Float.ofBits x.toBits) (Float.ofBits y.toBits)).toBits

/-! ### Further arithmetic -/

/-- The number with the other sign. -/
def neg : Binary64 → Binary64
  | nan => nan
  | infinite negative => infinite (!negative)
  | finite negative m e => finite (!negative) m e

/-- The number without its sign. -/
def abs : Binary64 → Binary64
  | nan => nan
  | infinite _ => infinite false
  | finite _ m e => finite false m e

/-- The number with the sign of another. -/
def withSign (x y : Binary64) : Binary64 := if x.isNegative == y.isNegative then x else x.neg

/-- The difference, rounded once. -/
def sub (x y : Binary64) : Binary64 := x.add y.neg

/-- The quotient by a number other than zero, rounded once. -/
def div : Binary64 → Binary64 → Binary64
  | nan, _ => nan
  | _, nan => nan
  | infinite _, infinite _ => nan
  | infinite a, finite t _ _ => infinite (a != t)
  | finite s _ _, infinite b => finite (s != b) 0 minExponent
  | finite s m e, finite t n f =>
    let a := magnitude m e
    let b := magnitude n f
    ofRatio (s != t) (a.1 * b.2) (a.2 * b.1)

/-- What is left of a number after it was divided by another a whole number of times, with the sign of the former. -/
def remainder : Binary64 → Binary64 → Binary64
  | nan, _ => nan
  | _, nan => nan
  | infinite _, _ => nan
  | x, infinite _ => x
  | finite s m e, finite _ n f =>
    let a := magnitude m e
    let b := magnitude n f
    if n = 0 then nan else ofRatio s (a.1 * b.2 % (b.1 * a.2)) (a.2 * b.2)

/-- The greatest whole number that is not above a finite number. -/
def floor? (x : Binary64) : Option Int := x.toFraction?.map fun r => Int.fdiv r.1 (Int.ofNat r.2)

/-- The quotient of a division with a remainder that has the sign of the divisor, and that remainder. -/
def divMod (x y : Binary64) : Binary64 × Binary64 :=
  let r := x.remainder y
  let q := (x.sub r).div y
  let (q, r) :=
    if r.isZero then (q, zero.withSign y)
    else if y.isNegative != r.isNegative then (q.sub (ofInt 1), r.add y)
    else (q, r)
  if q.isZero then (zero.withSign (x.div y), r)
  else
    match q.floor? with
    | some n =>
      let floor := ofInt n
      let halfAbove := ((q.sub floor).compareFraction? 1 2) == some .gt
      (if halfAbove then floor.add (ofInt 1) else floor, r)
    | none => (q, r)

/-- The square root of a number that is not negative, rounded once: of the fraction the root is taken of so many
    places that what is cut off cannot change the rounding. -/
def sqrt : Binary64 → Binary64
  | nan => nan
  | infinite _ => infinite false
  | finite s m e =>
    if m = 0 then finite s m e
    else
      let shift : Nat := 120 + (if (e % 2 == 0) then 0 else 1)
      let n := m * 2 ^ shift
      let r := n.sqrt
      let half := Int.ediv (e - Int.ofNat shift) 2
      let places := 2 * r + (if r * r = n then 0 else 1)
      if 0 ≤ half then ofRatio false (places * 2 ^ half.toNat) 2 else ofRatio false places (2 * 2 ^ (-half).toNat)

/-- A finite number rounded to a number of decimal places, a half to the even digit. -/
def roundPlaces (x : Binary64) (places : Int) : Binary64 :=
  match x with
  | finite s m e =>
    let r := magnitude m e
    if 400 < places then x
    else if places < -400 then finite s 0 minExponent
    else if 0 ≤ places then ofRatio s (divHalfEven (r.1 * 10 ^ places.toNat) r.2) (10 ^ places.toNat)
    else ofRatio s (divHalfEven r.1 (r.2 * 10 ^ (-places).toNat) * 10 ^ (-places).toNat) 1
  | x => x

end Binary64
end JobScheduling
