import JobScheduling.Number.Literal
import JobScheduling.Value.Method.Bytes
import JobScheduling.Value.Method.Collection
import JobScheduling.Value.Method.Number

/-!
Values made of other values: each kind of value can be made of nothing, which gives an empty one, and of values of
other kinds where there is a rule for it. Beside that, a kind may have ways of its own to make values.
-/

namespace JobScheduling
namespace Value

/-! ### Numbers -/

/-- The text of a byte string that holds ASCII only, one that is no numeral for any other. -/
def numeralOf (bs : List UInt8) : List Char := bs.map fun b => if b.toNat < 128 then Char.ofNat b.toNat else '?'

/-- The failure to read a number. -/
def noNumeral {α : Type} : Outcome α := .error (.badValue "invalid literal")

/-- A whole number. -/
def makeInt : Method
  | [] => .ok (int 0)
  | [text s] => ((Numeral.int? s.toList).map fun n => .ok (int n)).getD noNumeral
  | [bytes bs] => ((Numeral.int? (numeralOf bs)).map fun n => .ok (int n)).getD noNumeral
  | [v] => truncated v
  | [text s, base] => do
    let b ← base.index
    if b < 0 ∨ b = 1 ∨ 36 < b then .error (.badValue "int() base must be >= 2 and <= 36, or 0")
    else ((Numeral.intIn? b.toNat s.toList).map fun n => .ok (int n)).getD noNumeral
  | _ => wrongArguments

/-- A floating-point number. -/
def makeFloat : Method
  | [] => .ok (float .zero)
  | [text s] => ((Numeral.float? s.toList).map fun x => .ok (float x)).getD noNumeral
  | [bytes bs] => ((Numeral.float? (numeralOf bs)).map fun x => .ok (float x)).getD noNumeral
  | [v] => do .ok (float (← v.binary))
  | _ => wrongArguments

/-- A truth value. -/
def makeBool : Method
  | [] => .ok (bool false)
  | [v] => .ok (bool v.truthy)
  | _ => wrongArguments

/-! ### Texts and byte strings -/

/-- A text. -/
def makeText : Method
  | [] => .ok (text "")
  | [v] => do .ok (text (← v.printed))
  | bytes bs :: rest => do
    let (encoding, skip) ← encodingOf rest
    decoded bs encoding skip
  | _ => wrongArguments

/-- A byte string. -/
def makeBytes : Method
  | [] => .ok (bytes [])
  | [bytes bs] => .ok (bytes bs)
  | [text _] => .error (.badType "string argument without an encoding")
  | text s :: rest => do
    let (encoding, skip) ← encodingOf rest
    encoded s.toList encoding skip
  | [v] =>
    match v.integer? with
    | some n => if n < 0 then .error (.badValue "negative count") else .ok (bytes (List.replicate n.toNat 0))
    | none => do
      let bs ← (← v.items).mapM fun w => do
        match byte? (int (← w.index)) with
        | some b => .ok b
        | none => .error (.badValue "bytes must be in range(0, 256)")
      .ok (bytes bs)
  | _ => wrongArguments

/-- The bytes that pairs of hexadecimal digits write, with blanks between the pairs. -/
def bytesOfHex : List Char → Outcome (List UInt8)
  | [] => .ok []
  | a :: s =>
    if Text.isNumeralBlank a && a.toNat < 128 then bytesOfHex s
    else
      match s with
      | b :: rest =>
        match Numeral.digitOf? a, Numeral.digitOf? b with
        | some x, some y =>
          if x < 16 ∧ y < 16 then do .ok (UInt8.ofNat (16 * x + y) :: (← bytesOfHex rest)) else noNumeral
        | _, _ => noNumeral
      | [] => noNumeral

/-! ### Collections -/

/-- A list. -/
def makeList : Method
  | [] => .ok (list [])
  | [v] => do .ok (list (← v.items))
  | _ => wrongArguments

/-- A tuple. -/
def makeTuple : Method
  | [] => .ok (tuple [])
  | [v] => do .ok (tuple (← v.items))
  | _ => wrongArguments

/-- A dictionary. -/
def makeDict : Method
  | [] => .ok (dict [])
  | [v] => do .ok (ofEntries (← entriesOf v))
  | _ => wrongArguments

/-- A table of characters, as the numbers of those of one text with those of another, or with nothing. -/
def makeTable : Method
  | [text a, text b] => pairs a b ""
  | [text a, text b, text c] => pairs a b c
  | [dict entries] => do
    .ok (ofEntries (← entries.mapM fun e => do
      match e.1 with
      | text s =>
        match s.toList with
        | [c] => .ok (int (Int.ofNat c.toNat), e.2)
        | _ => .error (.badValue "string keys in translate table must be of length 1")
      | k => do .ok (int (← k.index), e.2)))
  | _ => wrongArguments
where
  pairs (a b c : String) : Outcome Value :=
    let number := fun (c : Char) => int (Int.ofNat c.toNat)
    if a.length = b.length then
      .ok (ofEntries ((a.toList.zip b.toList).map (fun p => (number p.1, number p.2)) ++
        c.toList.map fun c => (number c, null)))
    else .error (.badValue "the first two maketrans arguments must have equal length")

/-! ### By kind -/

/-- How values of a kind are made. -/
def makers : List (String × Method) :=
  [("int", makeInt), ("float", makeFloat), ("bool", makeBool), ("str", makeText), ("bytes", makeBytes),
   ("list", makeList), ("tuple", makeTuple), ("dict", makeDict)]

/-- The ways of a kind of its own to make values. -/
def ownMakers : List ((String × String) × Method) :=
  [(("dict", "fromkeys"), fromKeys), (("str", "maketrans"), makeTable),
   (("int", "from_bytes"), fun args =>
      match args with
      | [v] => fromBytes v (text "big")
      | [v, order] => fromBytes v order
      | _ => wrongArguments),
   (("bytes", "fromhex"), fun args =>
      match args with
      | [text s] => do .ok (bytes (← bytesOfHex s.toList))
      | _ => wrongArguments)]

end Value
end JobScheduling
