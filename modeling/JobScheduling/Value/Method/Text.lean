import JobScheduling.Text.Identifier
import JobScheduling.Text.Printable
import JobScheduling.Value.Method.Sequence

/-!
What texts can do: beside what all sequences can, they change and tell their letters, fall into lines, are encoded
as bytes, and take values into the fields of a pattern.
-/

namespace JobScheduling
namespace Value

/-- A text as a value. -/
def ofChars (s : List Char) : Value := text (String.ofList s)

/-- Texts as sequences of characters. -/
def textKind : SequenceKind Char where
  read? := fun v => match v with
    | text s => some s.toList
    | _ => none
  write := ofChars
  blank := Text.isBlank
  space := ' '
  item? := fun _ => none

/-! ### Encodings -/

/-- The name of an encoding in its plain form. -/
def encodingName (s : String) : String :=
  String.ofList ((Text.lower s.toList).map fun c => if c = '_' then '-' else c)

/-- The bytes of a text in an encoding; with `skip`, what has no form is left out. -/
def encoded (s : List Char) (encoding : String) (skip : Bool) : Outcome Value :=
  let within := fun limit =>
    let fits := s.filter fun c => c.toNat < limit
    if skip || fits.length == s.length then .ok (bytes (fits.map fun c => UInt8.ofNat c.toNat))
    else .error .notEncoded
  match encodingName encoding with
  | "utf-8" | "utf8" => .ok (bytes (String.ofList s).toUTF8.toList)
  | "ascii" | "us-ascii" => within 128
  | "latin-1" | "latin1" | "iso-8859-1" => within 256
  | _ => .error .unknownEncoding

/-- The text of some bytes in an encoding. -/
def decoded (bs : List UInt8) (encoding : String) (skip : Bool) : Outcome Value :=
  let within := fun limit =>
    let fits := bs.filter fun b => b.toNat < limit
    if skip || fits.length == bs.length then .ok (ofChars (fits.map fun b => Char.ofNat b.toNat))
    else .error .notDecoded
  match encodingName encoding with
  | "utf-8" | "utf8" =>
    match String.fromUTF8? (ByteArray.mk bs.toArray) with
    | some s => .ok (text s)
    | none => .error .notDecoded
  | "ascii" | "us-ascii" => within 128
  | "latin-1" | "latin1" | "iso-8859-1" => within 256
  | _ => .error .unknownEncoding

/-- The encoding and the treatment of errors that a call names. -/
def encodingOf : List Value → Outcome (String × Bool)
  | [] => .ok ("utf-8", false)
  | [text e] => .ok (e, false)
  | [text e, text errors] => .ok (e, errors == "ignore")
  | _ => wrongArguments

/-! ### Patterns -/

/-- A text with values in the place of its fields. A field is empty or holds the number of a value, and a doubled
    brace stands for itself. -/
def filledFields (args : List Value) (next : Nat) : List Char → Outcome (List Char)
  | [] => .ok []
  | '\x7b' :: '\x7b' :: s => do .ok ('\x7b' :: (← filledFields args next s))
  | '\x7d' :: '\x7d' :: s => do .ok ('\x7d' :: (← filledFields args next s))
  | '\x7b' :: '\x7d' :: s =>
    match args[next]? with
    | some v => do .ok ((← v.printed).toList ++ (← filledFields args (next + 1) s))
    | none => .error .missingIndex
  | '\x7b' :: d :: '\x7d' :: s =>
    match Text.asciiDigit? d with
    | some n =>
      match args[n]? with
      | some v => do .ok ((← v.printed).toList ++ (← filledFields args next s))
      | none => .error .missingIndex
    | none => .error (.missingKey (text (String.singleton d)))
  | '\x7b' :: _ | '\x7d' :: _ => .error (.badValue "unexpected brace in format string")
  | c :: s => do .ok (c :: (← filledFields args next s))

/-- A text with other texts in the place of characters, which a table names by their numbers; what is not in the table
    stays. -/
def translated (table : Value) (s : List Char) : Outcome (List Char) := do
  let forms ← s.mapM fun c =>
    match table.item (int (Int.ofNat c.toNat)) with
    | .error (.missingKey _) | .error .missingIndex => .ok [c]
    | .error f => .error f
    | .ok null => .ok []
    | .ok (text t) => .ok t.toList
    | .ok v =>
      match v.integer? with
      | some n =>
        if 0 ≤ n ∧ n < 0x110000 then .ok [Char.ofNat n.toNat]
        else .error (.badValue "character mapping must be in range(0x110000)")
      | none => .error (.badType "character mapping must return integer, None or str")
  .ok forms.flatten

/-! ### Methods -/

/-- A method without arguments that changes a text. -/
def changing (f : List Char → List Char) (s : List Char) : Method
  | [] => .ok (ofChars (f s))
  | _ => wrongArguments

/-- A method without arguments that tells something about a text. -/
def telling (p : List Char → Bool) (s : List Char) : Method
  | [] => .ok (bool (p s))
  | _ => wrongArguments

/-- The methods of texts. -/
def textMethods : List (String × (List Char → Method)) :=
  textKind.methods ++
  [("upper", changing Text.upper), ("lower", changing Text.lowerText), ("title", changing Text.titleText),
   ("capitalize", changing Text.capitalize), ("swapcase", changing Text.swapCase),
   ("casefold", changing Text.foldCase),
   ("isalpha", telling (Text.isAll Text.isAlphabetic)), ("isalnum", telling (Text.isAll Text.isAlphanumeric)),
   ("isdecimal", telling (Text.isAll fun c => (Text.decimalDigit? c).isSome)),
   ("isdigit", telling (Text.isAll Text.isDigitLike)), ("isnumeric", telling (Text.isAll Text.isNumeral)),
   ("isspace", telling (Text.isAll Text.isBlank)), ("isprintable", telling fun s => s.all Text.isPrintable),
   ("isidentifier", telling Text.isIdentifier), ("isascii", telling Text.isAscii),
   ("islower", telling (Text.isCasedAs Text.isLower Text.isUpper)),
   ("isupper", telling (Text.isCasedAs Text.isUpper Text.isLower)),
   ("istitle", telling (Text.isTitleFrom false false)),
   ("zfill", fun s args =>
      match args with
      | [width] => do .ok (ofChars (Text.zeroFill (← width.index).toNat s))
      | _ => wrongArguments),
   ("expandtabs", fun s args =>
      match args with
      | [] => .ok (ofChars (Text.expandTabs 8 0 s))
      | [width] => do .ok (ofChars (Text.expandTabs (← width.index).toNat 0 s))
      | _ => wrongArguments),
   ("splitlines", fun s args =>
      match args with
      | [] => .ok (list ((Text.lines s).map ofChars))
      | [keep] => .ok (list ((Text.linesFrom Text.isLineEnd keep.truthy [] s).map ofChars))
      | _ => wrongArguments),
   ("encode", fun s args => do
      let (encoding, skip) ← encodingOf args
      encoded s encoding skip),
   ("format", fun s args => do .ok (ofChars (← filledFields args 0 s))),
   ("translate", fun s args =>
      match args with
      | [table] => do .ok (ofChars (← translated table s))
      | _ => wrongArguments)]

end Value
end JobScheduling
