import JobScheduling.Function.Basic
import JobScheduling.Value.Method.Collection
import JobScheduling.Value.Operation

/-!
The operations behind the notations, as functions with names.
-/

namespace JobScheduling
namespace Function

open Value

/-- Operations whose function has a name of its own. -/
def renamed : List (String × String) :=
  [("and_", "and"), ("or_", "or"), ("iand", "and"), ("ixor", "xor"), ("isub", "sub"),
   ("imul", "mul"), ("itruediv", "truediv"), ("ifloordiv", "floordiv"), ("imod", "mod"), ("ipow", "pow"),
   ("ilshift", "lshift"), ("irshift", "rshift")]

/-- The operations as functions. -/
def operators : List (String × Method) :=
  (operations.filter fun o => !(["and", "or", "divmod"].contains o.1)).map (fun o => (o.1, of2 o.2)) ++
  renamed.filterMap (fun r => (operations.lookup r.2).map fun f => (r.1, of2 f)) ++
  [("iadd", of2 joinedWith),
   ("ior", of2 fun a b =>
      match a with
      | dict _ => joinedWith a b
      | a => either a b),
   ("neg", of1 Value.neg), ("pos", of1 Value.pos), ("abs", of1 Value.abs), ("invert", of1 Value.invert),
   ("inv", of1 Value.invert), ("index", of1 fun v => do .ok (int (← v.index))),
   ("not_", of1 fun v => .ok (bool !v.truthy)), ("truth", of1 fun v => .ok (bool v.truthy)),
   ("concat", of2 fun a b =>
      match a with
      | text _ | bytes _ | list _ | tuple _ => Value.add a b
      | _ => unsupported "concatenation"),
   ("countOf", of2 fun a b => do .ok (int (Int.ofNat ((← a.items).countP (equals false b))))),
   ("indexOf", of2 fun a b => do
      match (← a.items).findIdx? (equals false b) with
      | some n => .ok (int (Int.ofNat n))
      | none => .error (.badValue "sequence.index(x): x not in sequence")),
   ("length_hint", of1 Value.length)]

end Function
end JobScheduling
