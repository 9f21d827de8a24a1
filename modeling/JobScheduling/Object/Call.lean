import JobScheduling.Object.Member
import JobScheduling.Value.Made

/-!
Calling entities. A routine takes its arguments by position and computes its formula; a type makes an object; a
member of a plain value computes what it does to values. What cannot be called, and a call with arguments that do
not fit, is a failure of type; what is not known here is a failure of the job.
-/

namespace JobScheduling

/-! ### Formulas -/

/-- The failure of what is not known here. -/
def notKnown {α : Type} : Outcome α := .error (.jobFailed "not known here")

namespace Entity

/-- The value of an entity; one that is no value gives the text that shows it. -/
def asValue : Entity → Outcome Value
  | data v => .ok v
  | e => do .ok (.text (← e.shown))

end Entity

/-- What a formula gives for some arguments. -/
def Formula.eval (args : List Entity) : Formula → Outcome Value
  | unknown => notKnown
  | constant v => .ok v
  | argument n => (args[n]?.map Entity.asValue).getD wrongArguments
  | field n name => do (← (args[n]?.map (·.member name)).getD wrongArguments).asValue
  | arguments => do .ok (.list (← args.mapM Entity.asValue))
  | pair a b => do
    let v ← a.eval args
    .ok (.list [v, ← b.eval args])
  | sum a b => do
    let v ← a.eval args
    v.add (← b.eval args)
  | double a => do (← a.eval args).double
  | store => .ok .null
  | failure text => .error (.jobFailed text)
  | computed f => do f (← args.mapM Entity.asValue)

namespace Routine

/-- The arguments of a call together with those that were left out. -/
def complete (r : Routine) (args : List Entity) : Outcome (List Entity) :=
  let most := r.parameters.length
  let least := most - r.defaults.length
  if args.length < least ∨ (most < args.length ∧ !r.isOpen) then wrongArguments
  else .ok (args ++ (r.defaults.drop (args.length - least)).map .data)

/-- The result of a routine. -/
def run (r : Routine) (args : List Entity) : Outcome Entity := do
  .ok (.data (← r.formula.eval (← r.complete args)))

end Routine

/-! ### Objects -/

namespace DefinedType

/-- The failure to make an object whose type has a way of its own to begin, which gives something. -/
def notBegun {α : Type} : Outcome α := .error (.badType "__init__() should return None")

/-- An object of a type. The arguments become its fields if the type says so; else there must be none. -/
def make (t : DefinedType) (args : List Value) : Outcome Entity :=
  if t.hasOwn "__new__" then notBegun
  else
    match t.own? "__init__" with
    | some (.routine .objects r) =>
      match r.formula with
      | .store => do
        let all ← r.complete (.object t [] :: args.map .data)
        .ok (.object t (r.parameters.tail.zip (← all.tail.mapM Entity.asValue)))
      | _ => notBegun
    | some _ => notBegun
    | none => if args.isEmpty then .ok (.object t []) else wrongArguments

end DefinedType

namespace Entity

/-! ### Members of values -/

/-- The name between the double underscores around the name of an operation. -/
def innerName? (name : String) : Option String :=
  let s := name.toList
  if ['_', '_'].isPrefixOf s && ['_', '_'].isSuffixOf s && 4 < s.length then
    some (String.ofList ((s.drop 2).take (s.length - 4)))
  else none

/-- The methods of a value that have names of words. -/
def methodOf? (v : Value) (name : String) : Option Value.Method :=
  match v with
  | .text s => (Value.textMethods.lookup name).map (· s.toList)
  | .bytes bs => (Value.bytesMethods.lookup name).map (· bs)
  | .list vs => (Value.listMethods.lookup name).map (· vs)
  | .tuple vs => (Value.tupleMethods.lookup name).map (· vs)
  | .dict es => (Value.dictMethods.lookup name).map (· es)
  | .float x => (Value.realMethods.lookup name).map (· x)
  | v => v.integer?.bind fun n => (Value.wholeMethods.lookup name).map (· n)

/-- What an operation of a value gives. -/
def operate (v : Value) (name : String) (args : List Value) : Outcome Entity :=
  match name, args with
  | "round", [] => do .ok (data (← v.round none))
  | "round", [places] => do .ok (data (← v.round (some (← places.index))))
  | "format", [.text ""] => do .ok (ofText (← v.printed))
  | "format", [.text _] => notKnown
  | "getstate", [] => .ok (data .null)
  | "iter", [] | "reversed", [] => .ok (sole "iterator")
  | "init", args => do .ok (data (← v.remade args))
  | "getnewargs", [] => .ok (data v.madeFrom)
  | "iadd", [w] | "ior", [w] => do .ok (data (← v.joinedWith w))
  | "imul", [w] => do .ok (data (← v.mul w))
  | name, args =>
    match (Value.changes.lookup name).map (fun f => f v args), args with
    | some r, _ => do
      r
      .ok (data .null)
    | none, [] => ((Value.unaryOperations.lookup name).map fun f => do .ok (data (← f v))).getD wrongArguments
    | none, [w] => ((Value.operation? name).map fun f => do .ok (data (← f v w))).getD wrongArguments
    | none, _ => wrongArguments

/-- What a member that every entity has gives, if it is one. -/
def common? (self : Entity) (name : String) (args : List Value) : Option (Outcome Entity) :=
  match name, args with
  | "__getattribute__", [.text field] => some (self.member field)
  | "__setattr__", [.text field, _] =>
    some (match self with
      | object .. | routine _ | module .. => .ok (data .null)
      | self => self.noMember field)
  | "__delattr__", [.text field] => some (do
      match self with
      | object _ fields => if fields.any fun f => f.1 == field then .ok (data .null) else self.noMember field
      | self => self.noMember field)
  | "__getattribute__", _ | "__setattr__", _ | "__delattr__", _ => some wrongArguments
  | "__init_subclass__", [] => some (.ok (data .null))
  | "__subclasshook__", [_] => some (.ok (sole "NotImplementedType"))
  | "__dir__", [] => some (.ok (sole "list"))
  | "__sizeof__", [] => some (.ok (sole "int"))
  | "__reduce__", [] | "__reduce_ex__", [_] => some (.ok (sole "tuple"))
  | _, _ => none

/-- What a member gives for an entity that is no plain value. -/
def respond (self : Entity) (name : String) (args : List Value) : Outcome Entity :=
  match name, args with
  | "__repr__", [] | "__str__", [] | "__format__", [.text ""] => do .ok (ofText (← self.shown))
  | "__hash__", [] => .ok (sole "int")
  | "__init__", [] => .ok (data .null)
  | "__eq__", [_] | "__ne__", [_] | "__lt__", [_] | "__le__", [_] | "__gt__", [_] | "__ge__", [_] =>
    .ok (sole "NotImplementedType")
  | "__getstate__", [] =>
    match self with
    | object _ fields => .ok (data (if fields.isEmpty then .null else .ofFields fields))
    | _ => .ok (data .null)
  | "mro", [] => .ok (sole "list")
  | "__subclasses__", [] =>
    match self with
    | type (.defined _) => .ok (data (.list []))
    | _ => notKnown
  | "__instancecheck__", [v] =>
    match self with
    | type t => .ok (data (.bool ((data v).typeOf.inherits t)))
    | _ => wrongArguments
  | "__prepare__", _ => .ok (data (.dict []))
  | _, _ => wrongArguments

/-- What a member of a basic type gives for the entity that it was reached through. -/
def perform (self : Entity) (owner name : String) (args : List Value) : Outcome Entity :=
  match self.common? name args with
  | some r => r
  | none =>
    match self with
    | data v =>
      match name, methodOf? v name, innerName? name with
      | _, some run, _ => do .ok (data (← run args))
      | "keys", _, _ | "values", _, _ | "items", _, _ =>
        if args.isEmpty then .ok (sole ("dict_" ++ name)) else wrongArguments
      | _, none, some inner => operate v inner args
      | _, none, none => notKnown
    | type t =>
      match Value.ownMakers.lookup (owner, name) with
      | some make => do .ok (data (← make args))
      | none => (type t).respond name args
    | self => self.respond name args

/-! ### Calls -/

/-- What a basic type makes of some arguments. -/
def make (name : String) (args : List Value) : Outcome Entity :=
  match Value.makers.lookup name with
  | some make => do .ok (data (← make args))
  | none =>
    match name, args with
    | "type", [v] => .ok (type (data v).typeOf)
    | "type", _ | "NoneType", _ :: _ | "object", _ :: _ => wrongArguments
    | "NoneType", [] => .ok (data .null)
    | name, _ => .ok (sole name)

/-- What calling an entity gives. -/
def call (e : Entity) (args : List Value) : Outcome Entity :=
  match e with
  | type (.basic name) => make name args
  | type (.defined t) => t.make args
  | object t fields =>
    match t.own? "__call__" with
    | some (.routine .objects r) => r.run (object t fields :: args.map data)
    | some (.routine .type r) => r.run (type (.defined t) :: args.map data)
    | some (.routine .neither r) => r.run (args.map data)
    | _ => .error (.badType "object is not callable")
  | routine r => r.run (args.map data)
  | method self r => r.run (self :: args.map data)
  | function _ _ run => do .ok (data (← run args))
  | descriptor sort owner name =>
    match args with
    | v :: rest =>
      let fits := (sort = .slot || sort = .method) && (data v).typeOf.inherits (.basic owner)
      if fits then (data v).perform owner name rest else wrongArguments
    | [] => wrongArguments
  | bound self sort owner name =>
    if sort = .slot && name = "__call__" then self.call args else self.perform owner name args
  | applied e before named => if named.isEmpty then e.call (before ++ args) else notKnown
  | _ => .error (.badType "object is not callable")

end Entity
end JobScheduling
