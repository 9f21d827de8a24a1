import JobScheduling.Text.Search
import JobScheduling.Value.Access
import JobScheduling.Value.Arithmetic

/-!
The operations behind the notations for values, known by their names: those of two values, such as sums and
comparisons, and those of one. An operation with its sides exchanged has the name with an `r` in front.
-/

namespace JobScheduling
namespace Value

/-! ### Operations of two values -/

/-- Whether a value holds another: a text a part, a byte string a part or a byte, a collection an item, a
    dictionary a key. -/
def contains (a b : Value) : Outcome Value :=
  match a, b with
  | text s, text t => .ok (bool ((Text.place? t.toList s.toList).isSome))
  | text _, _ => .error (.badType "'in <string>' requires string as left operand")
  | bytes s, bytes t => .ok (bool ((Text.place? t s).isSome))
  | dict entries, b => do .ok (bool (lookup? (← b.key) entries).isSome)
  | a, b => do .ok (bool ((← a.items).any (equals false b)))

/-- A whole number moved by a number of binary places. -/
def shifted (left : Bool) (a b : Value) : Outcome Value :=
  match a.integer?, b.integer? with
  | some m, some n =>
    if n < 0 then .error (.badValue "negative shift count")
    else .ok (int (if left then m * 2 ^ n.toNat else m.fdiv (2 ^ n.toNat)))
  | _, _ => unsupported "a shift"

/-- The bits that two whole numbers have both. -/
def bitAnd (m n : Int) : Int :=
  match m, n with
  | .ofNat a, .ofNat b => Int.ofNat (a &&& b)
  | .ofNat a, .negSucc b => Int.ofNat (a - (a &&& b))
  | .negSucc a, .ofNat b => Int.ofNat (b - (b &&& a))
  | .negSucc a, .negSucc b => .negSucc (a ||| b)

/-- The bits that either of two whole numbers has. -/
def bitOr (m n : Int) : Int := -1 - bitAnd (-1 - m) (-1 - n)

/-- The bits that one of two whole numbers has and the other has not. -/
def bitXor (m n : Int) : Int := bitOr m n - bitAnd m n

/-- The bits of either of two values; of two dictionaries, the entries of both. -/
def either (a b : Value) : Outcome Value :=
  match a, b with
  | dict xs, dict ys => .ok (dict (ys.foldl (fun es e => insert e.1 e.2 es) xs))
  | a, b => onBits "|" bitOr (· || ·) a b

/-- The operations of two values. -/
def operations : List (String × (Value → Value → Outcome Value)) :=
  [("add", add), ("sub", sub), ("mul", mul), ("truediv", div), ("floordiv", floorDiv), ("mod", mod), ("pow", pow),
   ("divmod", fun a b => do
      let r ← divMod a b
      .ok (tuple [r.1, r.2])),
   ("and", onBits "&" bitAnd (· && ·)), ("or", either), ("xor", onBits "^" bitXor (· != ·)),
   ("lshift", shifted true), ("rshift", shifted false),
   ("eq", fun a b => .ok (bool (equals false a b))), ("ne", fun a b => .ok (bool (!equals false a b))),
   ("lt", fun a b => do .ok (bool (← less a b))), ("le", fun a b => do .ok (bool (← noMore a b))),
   ("gt", fun a b => do .ok (bool (← less b a))), ("ge", fun a b => do .ok (bool (← noMore b a))),
   ("getitem", item), ("contains", contains)]

/-- The operation of a name, or the one with its sides exchanged. -/
def operation? (name : String) : Option (Value → Value → Outcome Value) :=
  match operations.lookup name with
  | some f => some f
  | none =>
    match name.toList with
    | 'r' :: rest => (operations.lookup (String.ofList rest)).map fun f a b => f b a
    | _ => none

/-! ### Operations of one value -/

/-- How many items a value has. -/
def length (v : Value) : Outcome Value :=
  match v.items? with
  | some vs => .ok (int (Int.ofNat vs.length))
  | none => .error (.badType ("object of type '" ++ v.typeName ++ "' has no len()"))

/-- The bits of a whole number exchanged. -/
def invert (v : Value) : Outcome Value :=
  match v.integer? with
  | some n => .ok (int (-1 - n))
  | none => unsupported "unary ~"

/-- The number as it is; a truth value becomes a number. -/
def pos (v : Value) : Outcome Value := onNumber id id v

/-- The whole number that a number is cut to. -/
def truncated (v : Value) : Outcome Value :=
  match v with
  | float x => whole Binary64.truncate? x
  | v => do .ok (int (← v.index))

/-- The greatest whole number that is not above a number. -/
def floor (v : Value) : Outcome Value :=
  match v with
  | float x => whole Binary64.floor? x
  | v => do .ok (int (← v.index))

/-- The least whole number that is not below a number. -/
def ceil (v : Value) : Outcome Value := do neg (← floor (← neg v))

/-- The number that stands for a number where only its value counts, in comparing and as a key. -/
def hash (v : Value) : Outcome Value :=
  let p : Nat := 2 ^ 61 - 1
  let signed := fun (negative : Bool) (n : Nat) =>
    let h : Int := if negative then -Int.ofNat (n % p) else Int.ofNat (n % p)
    Value.int (if h = -1 then -2 else h)
  match v with
  | float (.finite s m e) =>
    let places := if 0 ≤ e then e.toNat % 61 else 61 - (-e).toNat % 61
    .ok (signed s (m % p * 2 ^ places))
  | float (.infinite s) => .ok (int (if s then -314159 else 314159))
  | v =>
    match v.integer? with
    | some n => .ok (signed (decide (n < 0)) n.natAbs)
    | none => do
      let _ ← v.key
      .error (.jobFailed "not known here")

/-- The operations of one value. -/
def unaryOperations : List (String × (Value → Outcome Value)) :=
  [("neg", neg), ("pos", pos), ("abs", abs), ("invert", invert), ("len", length), ("trunc", truncated),
   ("floor", floor), ("ceil", ceil), ("hash", hash),
   ("index", fun v => do .ok (int (← v.index))), ("int", truncated),
   ("float", fun v => do .ok (float (← v.binary))), ("bool", fun v => .ok (bool v.truthy)),
   ("repr", fun v => do .ok (text (← v.shown))), ("str", fun v => do .ok (text (← v.printed)))]

end Value
end JobScheduling
