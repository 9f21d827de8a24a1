import JobScheduling.Number.Binary64
import JobScheduling.Text.LetterCase
import JobScheduling.Text.Trim

/-!
Reading numerals. A numeral may be surrounded by blanks, may be signed, may use the digits of any script and
may group its digits by single underscores. An integer has at most 4300 digits.
-/

namespace JobScheduling
namespace Numeral

open Text

/-- The most digits that the numeral of an integer may have, leading zeros counted. -/
def maxDigits : Nat := 4300

/-- The number that a list of digits writes. -/
def ofDigits (ds : List Nat) : Nat := ds.foldl (fun n d => 10 * n + d) 0

/-- The characters of a numeral without the underscores between two digits; an underscore elsewhere is an
    error. The flag tells whether the character before was a digit. -/
def ungroup? (afterDigit : Bool) : List Char → Option (List Char)
  | [] => some []
  | c :: s =>
    if c = '_' then
      if afterDigit && (s.head?.bind decimalDigit?).isSome then ungroup? false s else none
    else (ungroup? (decimalDigit? c).isSome s).map (c :: ·)

/-- The sign in front of a numeral and the rest; a minus gives `true`. -/
def sign : List Char → Bool × List Char
  | '-' :: s => (true, s)
  | '+' :: s => (false, s)
  | s => (false, s)

/-! ### Integers -/

/-- The integer that a text writes. -/
def int? (s : List Char) : Option Int :=
  (ungroup? false (trimWhile isNumeralBlank s)).bind fun s =>
    let r := sign s
    (r.2.mapM decimalDigit?).bind fun ds =>
      if ds.isEmpty || maxDigits < ds.length then none
      else some (if r.1 then -Int.ofNat (ofDigits ds) else Int.ofNat (ofDigits ds))

/-! ### Integers of any base -/

/-- The digit that a character writes, letters going on after nine. -/
def digitOf? (c : Char) : Option Nat :=
  match decimalDigit? c with
  | some d => some d
  | none =>
    let n := c.toNat
    if 97 ≤ n ∧ n ≤ 122 then some (n - 87) else if 65 ≤ n ∧ n ≤ 90 then some (n - 55) else none

/-- The base that a mark behind a zero stands for. -/
def markedBase? : Char → Option Nat
  | 'x' | 'X' => some 16
  | 'o' | 'O' => some 8
  | 'b' | 'B' => some 2
  | _ => none

/-- The characters of a numeral in a base without its underscores, which stand between two digits or after the mark
    of the base. -/
def digitsIn? (base : Nat) (afterDigit : Bool) : List Char → Option (List Nat)
  | [] => if afterDigit then some [] else none
  | c :: s =>
    if c = '_' then (if afterDigit && (s.head?.bind digitOf?).isSome then digitsIn? base false s else none)
    else
      match digitOf? c with
      | some d => if d < base then (digitsIn? base true s).map (d :: ·) else none
      | none => none

/-- The integer that a text writes in a base; in the base zero a mark tells the base, and without one it is ten. -/
def intIn? (base : Nat) (s : List Char) : Option Int :=
  let r := sign (trimWhile isNumeralBlank s)
  let marked : Nat × Bool × List Char :=
    match r.2 with
    | '0' :: m :: rest =>
      match markedBase? m with
      | some b => if base = 0 ∨ base = b then (b, true, rest) else (base, false, r.2)
      | none => (base, false, r.2)
    | _ => (base, false, r.2)
  let (b, mark, digits) := marked
  let afterMark := mark && digits.head? == some '_'
  (digitsIn? (if b = 0 then 10 else b) afterMark digits).bind fun ds =>
    if ds.isEmpty || (base = 0 && !mark && ds.head? == some 0 && ds.any (· != 0)) then none
    else
      let n := ds.foldl (fun n d => (if b = 0 then 10 else b) * n + d) 0
      some (if r.1 then -Int.ofNat n else Int.ofNat n)

/-! ### Floating-point numbers -/

/-- The number `digits * 10 ^ exponent`. One far outside the range of the numbers is decided by its size,
    without computing the power. -/
def decimal (negative : Bool) (digits : Nat) (exponent : Int) : Binary64 :=
  let size := exponent + Int.ofNat (Nat.toDigits 10 digits).length
  if digits = 0 ∨ size < -400 then .finite negative 0 Binary64.minExponent
  else if 400 < size then .infinite negative
  else if 0 ≤ exponent then Binary64.ofRatio negative (digits * 10 ^ exponent.toNat) 1
  else Binary64.ofRatio negative digits (10 ^ (-exponent).toNat)

/-- The digits that a text begins with, and what follows them. -/
def leadingDigits : List Char → List Nat × List Char
  | [] => ([], [])
  | c :: s =>
    match decimalDigit? c with
    | some d => ((d :: (leadingDigits s).1), (leadingDigits s).2)
    | none => ([], c :: s)

/-- The exponent that ends a numeral. -/
def exponent? : List Char → Option Int
  | [] => some 0
  | c :: s =>
    if c = 'e' ∨ c = 'E' then
      let r := sign s
      match leadingDigits r.2 with
      | ([], _) => none
      | (ds, []) => some (if r.1 then -Int.ofNat (ofDigits ds) else Int.ofNat (ofDigits ds))
      | _ => none
    else none

/-- The unsigned number that a text writes: a name of infinity or of no number, or digits with at most one
    point and one exponent. -/
def magnitude? (negative : Bool) (s : List Char) : Option Binary64 :=
  let name := lower s
  if name = "inf".toList ∨ name = "infinity".toList then some (.infinite negative)
  else if name = "nan".toList then some .nan
  else
    let whole := leadingDigits s
    let part : List Nat × List Char :=
      match whole.2 with
      | '.' :: rest => leadingDigits rest
      | rest => ([], rest)
    let ds := whole.1 ++ part.1
    if ds.isEmpty then none
    else (exponent? part.2).map fun x =>
      decimal negative (ofDigits ds) (x - Int.ofNat part.1.length)

/-- The floating-point number that a text writes. -/
def float? (s : List Char) : Option Binary64 :=
  (ungroup? false (trimWhile isNumeralBlank s)).bind fun s =>
    let r := sign s
    magnitude? r.1 r.2

end Numeral
end JobScheduling
