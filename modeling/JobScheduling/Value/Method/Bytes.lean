import JobScheduling.Value.Method.Text

/-!
What byte strings can do: beside what all sequences can, they change the letters of ASCII among them, are written
in hexadecimal digits, and are decoded as texts.
-/

namespace JobScheduling
namespace Value

/-! ### Bytes -/

/-- The byte of a number. -/
def byte? (v : Value) : Option UInt8 :=
  v.integer?.bind fun n => if 0 ≤ n ∧ n < 256 then some (UInt8.ofNat n.toNat) else none

/-- Byte strings as sequences of bytes. -/
def bytesKind : SequenceKind UInt8 where
  read? := fun v => match v with
    | bytes s => some s
    | _ => none
  write := bytes
  blank := fun b => (9 ≤ b.toNat && b.toNat ≤ 13) || b.toNat == 32
  space := 32
  item? := byte?

/-- Bytes as characters; those beyond ASCII become characters of no meaning. -/
def charsOf (bs : List UInt8) : List Char :=
  bs.map fun b => Char.ofNat (if b.toNat < 128 then b.toNat else b.toNat + 0xE000)

/-- The bytes that were read as characters. -/
def ofByteChars (s : List Char) : List UInt8 :=
  s.map fun c => UInt8.ofNat (if c.toNat < 128 then c.toNat else c.toNat - 0xE000)

/-- A byte string read as characters, changed, and written back. -/
def asChars (f : List Char → List Char) (bs : List UInt8) : List UInt8 := ofByteChars (f (charsOf bs))

/-- A method without arguments that changes a byte string. -/
def changingBytes (f : List Char → List Char) (bs : List UInt8) : Method
  | [] => .ok (bytes (asChars f bs))
  | _ => wrongArguments

/-- A method without arguments that tells something about a byte string; no byte beyond ASCII is of any kind. -/
def tellingBytes (p : List Char → Bool) (bs : List UInt8) : Method
  | [] => .ok (bool (p (charsOf bs)))
  | _ => wrongArguments

/-- A byte string without some bytes and with other bytes for the rest, which a table of all bytes gives. -/
def translatedBytes (table : Value) (dropped : List UInt8) (bs : List UInt8) : Outcome Value := do
  let kept := bs.filter fun b => !dropped.contains b
  match table with
  | null => .ok (bytes kept)
  | table =>
    let forms ← bytesKind.part table
    if forms.length ≠ 256 then .error (.badValue "translation table must be 256 characters long")
    else .ok (bytes (kept.filterMap fun b => forms[b.toNat]?))

/-- The character that separates groups of hexadecimal digits. -/
def separator (v : Value) : Outcome Char :=
  match v.items?, v with
  | none, _ => .error (.badType "object has no len()")
  | some [_], text s =>
    match s.toList.filter fun c => c.toNat < 128 with
    | [c] => .ok c
    | _ => .error (.badValue "sep must be ASCII.")
  | some [_], bytes bs =>
    match bs.filter fun b => b.toNat < 128 with
    | [b] => .ok (Char.ofNat b.toNat)
    | _ => .error (.badValue "sep must be ASCII.")
  | some [_], _ => .error (.badType "sep must be str or bytes.")
  | some _, _ => .error (.badValue "sep must be length 1.")

/-- Groups of so many items, counted from the front. -/
def groupsOf {α : Type} (size : Nat) : Nat → List α → List (List α)
  | 0, _ => []
  | steps + 1, s => if s.isEmpty then [] else s.take size :: groupsOf size steps (s.drop size)

/-- Bytes in hexadecimal digits, in groups with a separator between them; groups of a positive number of bytes are
    counted from the back. -/
def hexGroups (sep : Char) (size : Int) (bs : List UInt8) : List Char :=
  let digits := fun (group : List UInt8) => group.flatMap fun b => Text.hexDigits 2 b.toNat
  let groups :=
    if size = 0 then [bs]
    else if size < 0 then groupsOf size.natAbs bs.length bs
    else ((groupsOf size.natAbs bs.length bs.reverse).map List.reverse).reverse
  [sep].intercalate (groups.map digits)

/-- The lines of a byte string, which end at line feeds and carriage returns alone. -/
def byteLines (keep : Bool) (bs : List UInt8) : List Value :=
  (Text.linesFrom (fun c => c == '\n' || c == '\r') keep [] (charsOf bs)).map fun s => bytes (ofByteChars s)

/-- The methods of byte strings. -/
def bytesMethods : List (String × (List UInt8 → Method)) :=
  bytesKind.methods ++
  [("upper", changingBytes Text.upper), ("lower", changingBytes Text.lower),
   ("title", changingBytes Text.titleText), ("capitalize", changingBytes Text.capitalize),
   ("swapcase", changingBytes Text.swapCase),
   ("isalpha", tellingBytes (Text.isAll Text.isAlphabetic)),
   ("isalnum", tellingBytes (Text.isAll Text.isAlphanumeric)),
   ("isdigit", tellingBytes (Text.isAll Text.isAsciiDigit)),
   ("isspace", tellingBytes (Text.isAll Text.isNumeralBlank)),
   ("islower", tellingBytes (Text.isCasedAs Text.isLower Text.isUpper)),
   ("isupper", tellingBytes (Text.isCasedAs Text.isUpper Text.isLower)),
   ("istitle", tellingBytes (Text.isTitleFrom false false)),
   ("isascii", tellingBytes Text.isAscii),
   ("zfill", fun bs args =>
      match args with
      | [width] => do
        let n ← width.index
        .ok (bytes (asChars (Text.zeroFill n.toNat) bs))
      | _ => wrongArguments),
   ("hex", fun bs args =>
      match args with
      | [] => .ok (ofChars (bs.flatMap fun b => Text.hexDigits 2 b.toNat))
      | [sep] => do .ok (ofChars (hexGroups (← separator sep) 1 bs))
      | [sep, size] => do
        let n ← size.index
        .ok (ofChars (hexGroups (← separator sep) n bs))
      | _ => wrongArguments),
   ("translate", fun bs args =>
      match args with
      | [table] => translatedBytes table [] bs
      | [table, dropped] => do translatedBytes table (← bytesKind.part dropped) bs
      | _ => wrongArguments),
   ("expandtabs", fun bs args =>
      match args with
      | [] => .ok (bytes (asChars (Text.expandTabs 8 0) bs))
      | [width] => do .ok (bytes (asChars (Text.expandTabs (← width.index).toNat 0) bs))
      | _ => wrongArguments),
   ("splitlines", fun bs args =>
      match args with
      | [] => .ok (list (byteLines false bs))
      | [keep] => .ok (list (byteLines keep.truthy bs))
      | _ => wrongArguments),
   ("decode", fun bs args => do
      let (encoding, skip) ← encodingOf args
      decoded bs encoding skip)]

end Value
end JobScheduling
