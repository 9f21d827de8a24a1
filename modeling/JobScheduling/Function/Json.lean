import JobScheduling.Function.Basic
import JobScheduling.Value.Access

/-!
Values as JSON in ASCII alone, as the function that writes them to a text gives it.
-/

namespace JobScheduling
namespace Function

open Value

mutual

/-- Whether a value holds a byte string. -/
def holdsBytes : Value → Bool
  | bytes _ => true
  | list vs | tuple vs => anyHoldsBytes vs
  | dict es => anyEntryHoldsBytes es
  | _ => false

/-- Whether one of some values holds a byte string. -/
def anyHoldsBytes : List Value → Bool
  | [] => false
  | v :: vs => holdsBytes v || anyHoldsBytes vs

/-- Whether the value of one of some entries holds a byte string. -/
def anyEntryHoldsBytes : List (Value × Value) → Bool
  | [] => false
  | e :: es => holdsBytes e.2 || anyEntryHoldsBytes es

end

/-- A character of a JSON text in ASCII. -/
def asciiJson (c : Char) : List Char :=
  let n := c.toNat
  if n < 127 then [c]
  else if n < 0x10000 then '\\' :: 'u' :: Text.hexDigits 4 n
  else
    '\\' :: 'u' :: Text.hexDigits 4 (0xD800 + (n - 0x10000) / 0x400) ++
      '\\' :: 'u' :: Text.hexDigits 4 (0xDC00 + (n - 0x10000) % 0x400)

/-- A value as a JSON text in ASCII. -/
def jsonText (v : Value) : Outcome Value := do
  let text? := (← v.writable).json?
  match text?, holdsBytes v with
  | some s, false => .ok (ofChars (s.flatMap asciiJson))
  | _, _ => .error (.badType "not JSON serializable")

end Function
end JobScheduling
