import JobScheduling.Value.Method.Text

/-!
Functions of modules that are always there, so far as they take plain values and give one. Each is a method without
an object: it gives a result for the arguments of a call.
-/

namespace JobScheduling
namespace Function

open Value

/-- A function of one argument. -/
def of1 (f : Value → Outcome Value) : Method
  | [v] => f v
  | _ => wrongArguments

/-- A function of two arguments. -/
def of2 (f : Value → Value → Outcome Value) : Method
  | [v, w] => f v w
  | _ => wrongArguments

/-- A function of one text. -/
def ofText (f : List Char → Value) : Method
  | [text s] => .ok (f s.toList)
  | _ => wrongArguments

end Function
end JobScheduling
