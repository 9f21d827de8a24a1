import JobScheduling.Number.Binary64

/-!
The text of a floating-point number: the fewest decimal digits that read back as the number, of those the
nearest to it. The interval of the reals that round to the number is held as fractions, its ends belonging to
it when the significand is even, and each count of digits is tried with the two neighbours of the number on
that decimal grid.
-/

namespace JobScheduling
namespace Binary64

/-! ### The interval of a number -/

/-- The reals that round to one number, over the common denominator `4 * den`: `low` and `high` are the ends
    and `value` is the number itself. -/
structure Basin where
  low : Nat
  value : Nat
  high : Nat
  den : Nat
  closed : Bool
deriving DecidableEq, Repr

/-- The basin of `m * 2 ^ e`. Below a power of two the numbers lie twice as dense. -/
def basin (m : Nat) (e : Int) : Basin :=
  let unit : Nat := if 0 ≤ e then 2 ^ e.toNat else 1
  let den : Nat := if 0 ≤ e then 1 else 2 ^ (-e).toNat
  let below := if m = 2 ^ 52 ∧ minExponent < e then 1 else 2
  { low := 4 * m * unit - below * unit
    value := 4 * m * unit
    high := 4 * m * unit + 2 * unit
    den := 4 * den
    closed := m % 2 = 0 }

/-- Whether the point `num / den` lies in the basin. -/
def Basin.holds (b : Basin) (num den : Nat) : Bool :=
  let x := num * b.den
  if b.closed then b.low * den ≤ x && x ≤ b.high * den else b.low * den < x && x < b.high * den

/-! ### Decimal grids -/

/-- A decimal number `digits * 10 ^ exponent`. -/
structure Decimal where
  digits : Nat
  exponent : Int
deriving DecidableEq, Repr

/-- The decimal as a fraction. -/
def Decimal.fraction (d : Decimal) : Nat × Nat :=
  if 0 ≤ d.exponent then (d.digits * 10 ^ d.exponent.toNat, 1) else (d.digits, 10 ^ (-d.exponent).toNat)

/-- How many decimal digits a whole number has; zero has one. -/
def decimalLength (n : Nat) : Nat := (Nat.toDigits 10 n).length

/-- The exponent of the leading decimal digit of `num / den`. -/
def leadingExponent (num den : Nat) : Int :=
  if den ≤ num then Int.ofNat (decimalLength (num / den)) - 1
  else -Int.ofNat (decimalLength ((den + num - 1) / num - 1))

/-- The nearer one of the number's two neighbours on the grid of `10 ^ exponent` that lie in its basin. -/
def Basin.neighbour? (b : Basin) (exponent : Int) : Option Decimal :=
  let grid := (Decimal.mk 1 exponent).fraction
  let num := b.value * grid.2
  let den := b.den * grid.1
  let q := num / den
  let r := num % den
  let lower : Decimal := ⟨q, exponent⟩
  let upper : Decimal := ⟨q + 1, exponent⟩
  let lowerIn := b.holds lower.fraction.1 lower.fraction.2
  let upperIn := b.holds upper.fraction.1 upper.fraction.2
  if lowerIn ∧ upperIn then
    some (if 2 * r < den ∨ (2 * r = den ∧ q % 2 = 0) then lower else upper)
  else if lowerIn then some lower
  else if upperIn then some upper
  else none

/-- The first of `count` grids, from the one of `exponent` down, that has a neighbour in the basin. -/
def Basin.firstNeighbour (b : Basin) : Nat → Int → Option Decimal
  | 0, _ => none
  | count + 1, exponent =>
    match b.neighbour? exponent with
    | some d => some d
    | none => b.firstNeighbour count (exponent - 1)

/-- The shortest decimal that reads back as the positive number `m * 2 ^ e`: seventeen digits always do. -/
def shortest (m : Nat) (e : Int) : Decimal :=
  let r := magnitude m e
  ((basin m e).firstNeighbour 17 (leadingExponent r.1 r.2)).getD ⟨m, e⟩

/-! ### Layout -/

/-- The digits without the zeros at their end. -/
def significantDigits (n : Nat) : List Char :=
  ((Nat.toDigits 10 n).reverse.dropWhile (· = '0')).reverse

/-- How the text of a number is laid out: positionally when the point falls after digit `lastPoint` at most
    and no more than `leadingZeros` zeros follow it before the first digit. -/
structure Layout where
  leadingZeros : Int
  lastPoint : Int
  exponentWidth : Nat
deriving DecidableEq, Repr

/-- The layout of every float text: `0.0001` and `1e-05`, `1000000000000000.0` and `1e+16`. -/
def layout : Layout := ⟨3, 16, 2⟩

/-- The digits `ds`, the point after the first `point` of them. -/
def arrange (l : Layout) (ds : List Char) (point : Int) : List Char :=
  if -l.leadingZeros ≤ point ∧ point ≤ l.lastPoint then
    if point ≤ 0 then '0' :: '.' :: List.replicate (-point).toNat '0' ++ ds
    else if ds.length ≤ point.toNat then ds ++ List.replicate (point.toNat - ds.length) '0' ++ ['.', '0']
    else ds.take point.toNat ++ '.' :: ds.drop point.toNat
  else
    let x := point - 1
    let xs := Nat.toDigits 10 x.natAbs
    ds.take 1 ++ (if ds.length ≤ 1 then [] else '.' :: ds.drop 1) ++ 'e' :: (if x < 0 then '-' else '+')
      :: List.replicate (l.exponentWidth - xs.length) '0' ++ xs

/-- The text of a number. -/
def toChars : Binary64 → List Char
  | nan => ['n', 'a', 'n']
  | infinite negative => (if negative then ['-'] else []) ++ ['i', 'n', 'f']
  | finite negative m e =>
    (if negative then ['-'] else []) ++
      if m = 0 then ['0', '.', '0']
      else
        let d := shortest m e
        arrange layout (significantDigits d.digits) (Int.ofNat (decimalLength d.digits) + d.exponent)

/-- The text of a number. -/
def text (x : Binary64) : String := String.ofList x.toChars

end Binary64
end JobScheduling
