import JobScheduling.Number.Binary64

/-!
Plain data: what a job may be called with and what a stored payload holds. Lists and tuples are told apart, a
dictionary keeps the order in which its keys were added, and numbers of the three kinds compare by their exact
value, so that `1`, `1.0` and `true` are one key.
-/

namespace JobScheduling

/-- A plain value. -/
inductive Value where
  | null
  | bool (b : Bool)
  | int (n : Int)
  | float (x : Binary64)
  | text (s : String)
  | bytes (bs : List UInt8)
  | list (items : List Value)
  | tuple (items : List Value)
  | dict (entries : List (Value × Value))
deriving Inhabited

namespace Value

/-! ### Kinds -/

/-- The name of a value's kind, as signatures and messages write it. -/
def typeName : Value → String
  | null => "NoneType"
  | bool _ => "bool"
  | int _ => "int"
  | float _ => "float"
  | text _ => "str"
  | bytes _ => "bytes"
  | list _ => "list"
  | tuple _ => "tuple"
  | dict _ => "dict"

/-- Whether a value counts as true: it is not null, not zero and not empty. -/
def truthy : Value → Bool
  | null => false
  | bool b => b
  | int n => n != 0
  | float x => !x.isZero
  | text s => s != ""
  | bytes bs => !bs.isEmpty
  | list items => !items.isEmpty
  | tuple items => !items.isEmpty
  | dict entries => !entries.isEmpty

/-- The whole number that an integer or a truth value stands for. -/
def integer? : Value → Option Int
  | bool b => some (if b then 1 else 0)
  | int n => some n
  | _ => none

/-! ### Equality -/

mutual

/-- Whether two values are equal. With `shared` both were made from the same parts, and then a part that is no
    number is equal to itself. -/
def equals (shared : Bool) : Value → Value → Bool
  | null, null => true
  | bool a, bool b => a == b
  | bool a, int n => (if a then 1 else 0) == n
  | int n, bool b => n == (if b then 1 else 0)
  | int m, int n => m == n
  | bool a, float x => x.compareFraction? (if a then 1 else 0) 1 == some .eq
  | float x, bool b => x.compareFraction? (if b then 1 else 0) 1 == some .eq
  | int n, float x => x.compareFraction? n 1 == some .eq
  | float x, int n => x.compareFraction? n 1 == some .eq
  | float x, float y => x.compare? y == some .eq || (shared && x == .nan && y == .nan)
  | text s, text t => s == t
  | bytes a, bytes b => a == b
  | list xs, list ys => equalsList shared xs ys
  | tuple xs, tuple ys => equalsList shared xs ys
  | dict xs, dict ys => xs.length == ys.length && entriesAmong shared xs ys
  | _, _ => false

/-- Whether two lists are equal item by item. -/
def equalsList (shared : Bool) : List Value → List Value → Bool
  | [], [] => true
  | x :: xs, y :: ys => equals shared x y && equalsList shared xs ys
  | _, _ => false

/-- Whether each entry of the first dictionary is one of the second, in any order. -/
def entriesAmong (shared : Bool) : List (Value × Value) → List (Value × Value) → Bool
  | [], _ => true
  | (k, v) :: xs, ys =>
    ys.any (fun y => equals shared k y.1 && equals shared v y.2) && entriesAmong shared xs ys

end

/-! ### Dictionaries -/

/-- The value under a key. -/
def lookup? (key : Value) (entries : List (Value × Value)) : Option Value :=
  (entries.find? fun e => equals false e.1 key).map (·.2)

/-- The dictionary with a value under a key: in the place of the key if it is there, else at the end. -/
def insert (key value : Value) : List (Value × Value) → List (Value × Value)
  | [] => [(key, value)]
  | e :: entries => if equals false e.1 key then (e.1, value) :: entries else e :: insert key value entries

/-- The dictionary that holds the given entries, added one after the other. -/
def ofEntries (entries : List (Value × Value)) : Value :=
  dict (entries.foldl (fun acc e => insert e.1 e.2 acc) [])

/-- The dictionary of named values, the names being all different. -/
def ofFields (fields : List (String × Value)) : Value :=
  dict (fields.map fun f => (text f.1, f.2))

end Value
end JobScheduling
