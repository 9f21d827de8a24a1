import JobScheduling.Text.Printable

/-!
Quoted texts and quoted byte strings, as messages and descriptions show them. A text is quoted by `'`, or by
`"` when it holds `'` and no `"`; the quote, the backslash and what is not printable are escaped.
-/

namespace JobScheduling
namespace Text

/-! ### Hexadecimal digits -/

/-- The last `width` hexadecimal digits of a number, in lower case. -/
def hexDigits : Nat → Nat → List Char
  | 0, _ => []
  | width + 1, n => hexDigits width (n / 16) ++ [Nat.digitChar (n % 16)]

/-! ### Texts -/

/-- The mark that quotes a text. -/
def quoteMark (s : List Char) : Char :=
  if s.contains '\'' && !s.contains '"' then '"' else '\''

/-- A character inside a text that `q` quotes. -/
def quoteChar (q c : Char) : List Char :=
  if c = q ∨ c = '\\' then ['\\', c]
  else if c = '\n' then ['\\', 'n']
  else if c = '\r' then ['\\', 'r']
  else if c = '\t' then ['\\', 't']
  else if isPrintable c then [c]
  else if c.toNat < 0x100 then '\\' :: 'x' :: hexDigits 2 c.toNat
  else if c.toNat < 0x10000 then '\\' :: 'u' :: hexDigits 4 c.toNat
  else '\\' :: 'U' :: hexDigits 8 c.toNat

/-- The text between its quotes. -/
def quote (s : List Char) : List Char :=
  quoteMark s :: s.flatMap (quoteChar (quoteMark s)) ++ [quoteMark s]

/-- The text between its quotes. -/
def quoted (s : String) : String := String.ofList (quote s.toList)

/-! ### Byte strings -/

/-- A byte inside a byte string that `q` quotes. -/
def quoteByte (q : Char) (b : UInt8) : List Char :=
  let c := Char.ofNat b.toNat
  if c = q ∨ c = '\\' then ['\\', c]
  else if c = '\n' then ['\\', 'n']
  else if c = '\r' then ['\\', 'r']
  else if c = '\t' then ['\\', 't']
  else if 32 ≤ b.toNat ∧ b.toNat < 127 then [c]
  else '\\' :: 'x' :: hexDigits 2 b.toNat

/-- The byte string between its quotes, marked as one by a `b`. -/
def quoteBytes (bs : List UInt8) : List Char :=
  let q := if bs.contains 39 && !bs.contains 34 then '"' else '\''
  'b' :: q :: bs.flatMap (quoteByte q) ++ [q]

end Text
end JobScheduling
