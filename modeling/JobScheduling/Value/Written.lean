import JobScheduling.Number.Literal
import JobScheduling.Number.Shortest
import JobScheduling.Text.Quoted
import JobScheduling.Text.Trim
import JobScheduling.Value.Basic

/-!
The two written forms of a value: the notation in which descriptions and messages show it, and JSON, in which
the detail of an error is shown. The numeral of a whole number must not be longer than one that can be read.
-/

namespace JobScheduling
namespace Value

/-- A whole number in decimal digits. -/
def decimalText (n : Int) : String := toString n

/-! ### What can be written -/

mutual

/-- Whether all whole numbers within a value have numerals that can be written. -/
def isWritable : Value → Bool
  | int n => n.natAbs < 10 ^ Numeral.maxDigits
  | list vs | tuple vs => areWritable vs
  | dict es => areWritableEntries es
  | _ => true

/-- Whether all values of a list can be written. -/
def areWritable : List Value → Bool
  | [] => true
  | v :: vs => isWritable v && areWritable vs

/-- Whether all entries of a dictionary can be written. -/
def areWritableEntries : List (Value × Value) → Bool
  | [] => true
  | (k, v) :: es => isWritable k && isWritable v && areWritableEntries es

end

/-! ### Notation -/

mutual

/-- A value in the notation of descriptions: `None`, `True`, `1.0`, `'text'`, `b'bytes'`, `[1]`, `(1,)` and
    `\x7b1: 2\x7d` for a dictionary. -/
def notationChars : Value → List Char
  | null => "None".toList
  | bool b => if b then "True".toList else "False".toList
  | int n => (decimalText n).toList
  | float x => x.toChars
  | text s => Text.quote s.toList
  | bytes bs => Text.quoteBytes bs
  | list items => '[' :: Text.join [',', ' '] (notationAll items) ++ [']']
  | tuple items =>
    match notationAll items with
    | [s] => '(' :: s ++ [',', ')']
    | ss => '(' :: Text.join [',', ' '] ss ++ [')']
  | dict entries => '{' :: Text.join [',', ' '] (notationEntries entries) ++ ['}']

/-- The notation of each item. -/
def notationAll : List Value → List (List Char)
  | [] => []
  | v :: vs => notationChars v :: notationAll vs

/-- The notation of each entry. -/
def notationEntries : List (Value × Value) → List (List Char)
  | [] => []
  | (k, v) :: es => (notationChars k ++ ':' :: ' ' :: notationChars v) :: notationEntries es

end

/-- A value in the notation of descriptions. -/
def described (v : Value) : String := String.ofList (notationChars v)

/-- A value as part of a running text: a text as it is, anything else in the notation of descriptions. -/
def plain : Value → String
  | text s => s
  | v => v.described

/-! ### JSON -/

/-- A character inside a JSON string. Characters beyond ASCII are written as they are. -/
def jsonChar (c : Char) : List Char :=
  if c = '"' then ['\\', '"']
  else if c = '\\' then ['\\', '\\']
  else if c = '\n' then ['\\', 'n']
  else if c = '\r' then ['\\', 'r']
  else if c = '\t' then ['\\', 't']
  else if c.toNat = 8 then ['\\', 'b']
  else if c.toNat = 12 then ['\\', 'f']
  else if c.toNat < 32 then '\\' :: 'u' :: Text.hexDigits 4 c.toNat
  else [c]

/-- A text as a JSON string. -/
def jsonString (s : String) : List Char := '"' :: s.toList.flatMap jsonChar ++ ['"']

/-- A number as JSON, with names for the values that JSON has no numeral for. -/
def jsonFloat : Binary64 → String
  | .nan => "NaN"
  | .infinite negative => if negative then "-Infinity" else "Infinity"
  | x => x.text

/-- The text of a dictionary key in JSON; a tuple, a byte string or a compound value cannot be one. -/
def jsonKey? : Value → Option String
  | null => some "null"
  | bool b => some (if b then "true" else "false")
  | int n => if isWritable (int n) then some (decimalText n) else none
  | float x => some (jsonFloat x)
  | text s => some s
  | _ => none

mutual

/-- A value as JSON, byte strings shown as texts in the notation of descriptions; nothing if a dictionary key
    has no JSON form, or a whole number cannot be written. -/
def json? : Value → Option (List Char)
  | null => some "null".toList
  | bool b => some (if b then "true".toList else "false".toList)
  | int n => if isWritable (int n) then some (decimalText n).toList else none
  | float x => some (jsonFloat x).toList
  | text s => some (jsonString s)
  | bytes bs => some (jsonString (String.ofList (Text.quoteBytes bs)))
  | list items => (jsonAll? items).map fun ss => '[' :: Text.join [',', ' '] ss ++ [']']
  | tuple items => (jsonAll? items).map fun ss => '[' :: Text.join [',', ' '] ss ++ [']']
  | dict entries => (jsonEntries? entries).map fun ss => '{' :: Text.join [',', ' '] ss ++ ['}']

/-- The JSON of each item. -/
def jsonAll? : List Value → Option (List (List Char))
  | [] => some []
  | v :: vs => do
    let s ← json? v
    let ss ← jsonAll? vs
    pure (s :: ss)

/-- The JSON of each entry. -/
def jsonEntries? : List (Value × Value) → Option (List (List Char))
  | [] => some []
  | (k, v) :: es => do
    let key ← jsonKey? k
    let s ← json? v
    let ss ← jsonEntries? es
    pure ((jsonString key ++ ':' :: ' ' :: s) :: ss)

end

end Value
end JobScheduling
