import JobScheduling.Error.Fault

/-!
Reading plain values: what they are written as, the entry of a payload under a name, the items that a value is made
of, and the item at a place. What a value has no meaning for is a failure of type.
-/

namespace JobScheduling
namespace Value

/-! ### Texts -/

/-- The failure to write a whole number whose numeral would be too long. -/
def overlong : Fault := .badValue "Exceeds the limit for integer string conversion"

/-- A value that can be written. -/
def writable (v : Value) : Outcome Value := if v.isWritable then .ok v else .error overlong

/-- A value in the notation of descriptions, if it can be written. -/
def shown (v : Value) : Outcome String := do .ok (← v.writable).described

/-- A value as part of a running text, if it can be written. -/
def printed (v : Value) : Outcome String := do .ok (← v.writable).plain

/-! ### Entries -/

/-- The text of the failure to look up a name in a value that is no dictionary. -/
def noEntries : Value → String
  | text _ => "string indices must be integers, not 'str'"
  | bytes _ => "byte indices must be integers or slices, not str"
  | list _ => "list indices must be integers or slices, not str"
  | tuple _ => "tuple indices must be integers or slices, not str"
  | v => "'" ++ v.typeName ++ "' object is not subscriptable"

/-- The entry of a dictionary under a name. -/
def entry (v : Value) (name : String) : Outcome Value :=
  match v with
  | dict entries =>
    match lookup? (text name) entries with
    | some w => .ok w
    | none => .error (.missingKey (text name))
  | v => .error (.badType v.noEntries)

/-! ### Items -/

/-- The items of a value, where it has any: those of a list or a tuple, the keys of a dictionary, the characters of
    a text, the numbers of a byte string. -/
def items? : Value → Option (List Value)
  | list items | tuple items => some items
  | dict entries => some (entries.map (·.1))
  | text s => some (s.toList.map fun c => text (String.singleton c))
  | bytes bs => some (bs.map fun b => int (Int.ofNat b.toNat))
  | _ => none

/-- The failure to go through the items of a value that has none. -/
def noItems (v : Value) : Fault := .badType ("'" ++ v.typeName ++ "' object is not iterable")

/-- The items of a value, which has to have them. -/
def items (v : Value) : Outcome (List Value) :=
  match v.items? with
  | some vs => .ok vs
  | none => .error v.noItems

mutual

/-- Whether a value can be a key: it is no list and no dictionary, and holds none. -/
def canBeKey : Value → Bool
  | list _ | dict _ => false
  | tuple items => canBeKeys items
  | _ => true

/-- Whether all values of a list can be keys. -/
def canBeKeys : List Value → Bool
  | [] => true
  | v :: vs => canBeKey v && canBeKeys vs

end

/-- A value that is used as a key. -/
def key (v : Value) : Outcome Value :=
  if v.canBeKey then .ok v else .error (.badType ("unhashable type: '" ++ v.typeName ++ "'"))

/-- The place of an index in a list, where there is one: a negative index counts from the end. -/
def placeOfIndex? (length : Nat) (n : Int) : Option Nat :=
  let k := if n < 0 then n + Int.ofNat length else n
  if 0 ≤ k ∧ k < Int.ofNat length then some k.toNat else none

/-- The item at an index or under a key. -/
def item (v i : Value) : Outcome Value :=
  match v with
  | dict entries => do
    let k ← i.key
    match lookup? k entries with
    | some w => .ok w
    | none => .error (.missingKey k)
  | list _ | tuple _ | text _ | bytes _ =>
    match v.items?, i.integer? with
    | some vs, some n =>
      match (placeOfIndex? vs.length n).bind (vs[·]?) with
      | some w => .ok w
      | none => .error .missingIndex
    | _, _ => .error (.badType v.noEntries)
  | v => .error (.badType v.noEntries)

end Value
end JobScheduling
