import JobScheduling.Object.BasicType
import JobScheduling.Value.Access

/-!
What jobs are made of: plain values, types, objects, functions, methods and modules. A type is one that is always
there, or it is defined by its own members; a function that belongs to a defined type or to a module computes its
result by a formula. An entity is shown the way messages show it.
-/

namespace JobScheduling

/-! ### Routines -/

/-- What a routine computes from its arguments. -/
inductive Formula where
  /-- Nothing that is known here. -/
  | unknown
  /-- A value that is always the same. -/
  | constant (v : Value)
  /-- The argument of a number. -/
  | argument (n : Nat)
  /-- A field of the argument of a number. -/
  | field (n : Nat) (name : String)
  /-- All arguments, as a list. -/
  | arguments
  /-- Two results, as a list. -/
  | pair (a b : Formula)
  /-- A sum. -/
  | sum (a b : Formula)
  /-- A result twice. -/
  | double (a : Formula)
  /-- Nothing, but the arguments become fields of the object that the routine belongs to. -/
  | store
  /-- The failure of the job. -/
  | failure (text : String)
  /-- What a function gives for the values of the arguments. -/
  | computed (f : List Value → Outcome Value)
deriving Inhabited

/-- A routine that was defined: where it is found, and what it does. The last of its parameters may be left out
    where there are values for them, and further arguments are taken if they are open. -/
structure Routine where
  module : Option String
  qualname : String
  name : String
  parameters : List String := []
  defaults : List Value := []
  isOpen : Bool := true
  formula : Formula := .unknown
deriving Inhabited

/-! ### Types -/

/-- How a routine belongs to its type. -/
inductive Belonging where
  /-- It is a method of the objects. -/
  | objects
  /-- It is a method of the type itself. -/
  | type
  /-- It is only kept under the type. -/
  | neither
deriving DecidableEq, Repr, Inhabited

/-- What is kept under a defined type: a routine, a value, a nested type, or something of which only the type is
    known. -/
inductive OwnMember (τ : Type) where
  | routine (b : Belonging) (r : Routine)
  | value (v : Value)
  | nested (t : τ)
  | sole (typeName : String)

/-- A type that is defined by its own members, beside those of a basic type that it inherits from. -/
structure DefinedType where
  module : Option String
  qualname : String
  members : List (String × OwnMember DefinedType)
  base : String := "object"
deriving Inhabited

/-- A type. -/
inductive ObjectType where
  /-- One that is always there. -/
  | basic (name : String)
  /-- One that is defined by its own members. -/
  | defined (t : DefinedType)
deriving Inhabited

/-- The last part of a qualified name. -/
def lastName (qualname : String) : String :=
  String.ofList (((Text.pieces '.' qualname.toList).getLast?).getD [])

namespace DefinedType

/-- The own member of a name; of two members of one name the later counts. -/
def own? (t : DefinedType) (name : String) : Option (OwnMember DefinedType) :=
  (t.members.reverse.find? fun m => m.1 == name).map (·.2)

/-- Whether a type has a member of a name of its own. -/
def hasOwn (t : DefinedType) (name : String) : Bool := (t.own? name).isSome

/-- How a routine belongs to its type if it is a method by its definition: some names never stand for methods of the
    objects. -/
def belonging (name : String) : Belonging :=
  match name with
  | "__new__" => .neither
  | "__init_subclass__" | "__class_getitem__" => .type
  | _ => .objects

/-- The type whose methods, methods of the type itself and values have the given names. The name of the slots is
    reserved: what it stands for would have to list them. -/
def ofNames (module : Option String) (qualname : String) (methods typeMethods : List String)
    (values : List (String × Value)) : Outcome DefinedType :=
  let routine := fun (b : Belonging) (name : String) =>
    (name, OwnMember.routine b { module, qualname := qualname ++ "." ++ name, name })
  let members := methods.map (fun name => routine (belonging name) name) ++ typeMethods.map (routine .type) ++
    values.map fun v => (v.1, .value v.2)
  if members.any fun m => m.1 == "__slots__" then .error (.badType "object is not iterable")
  else .ok { module, qualname, members }

end DefinedType

namespace ObjectType

/-- The qualified name of a type. -/
def qualname : ObjectType → String
  | basic name => name
  | defined t => t.qualname

/-- The name of a type where its module is left out. -/
def shortName : ObjectType → String
  | basic name => if name = "partial" then "functools.partial" else name
  | defined t => lastName t.qualname

/-- The module of a type. -/
def module : ObjectType → Option String
  | basic name => some (BasicType.module name)
  | defined t => t.module

/-- Where a type is found, as messages show it; nothing stands before the types of the language itself. -/
def place (t : ObjectType) : String :=
  match t.module with
  | some m => if m = "builtins" then t.shortName else m ++ "." ++ t.qualname
  | none => t.shortName

/-- A type as a message shows it. -/
def shown (t : ObjectType) : String := "<class '" ++ t.place ++ "'>"

/-- An object of a type as a message shows it, unless the type says otherwise. -/
def shownObject (t : ObjectType) : String := "<" ++ t.place ++ " object at 0x0>"

/-- Whether two types are one. -/
def same (s t : ObjectType) : Bool := s.qualname == t.qualname && s.module == t.module

end ObjectType

/-! ### Entities -/

/-- What jobs are made of. -/
inductive Entity where
  /-- A plain value. -/
  | data (v : Value)
  /-- Some entities, one after the other. -/
  | group (items : List Entity)
  /-- A type. -/
  | type (t : ObjectType)
  /-- An object of a defined type, with its fields. -/
  | object (t : DefinedType) (fields : List (String × Value))
  /-- A routine. -/
  | routine (r : Routine)
  /-- A routine together with the entity that is its first argument. -/
  | method (self : Entity) (r : Routine)
  /-- A function of a module that is always there, with what it gives for the arguments of a call. -/
  | function (module name : String) (run : List Value → Outcome Value)
  /-- A member of a basic type by itself. -/
  | descriptor (sort : MemberSort) (owner name : String)
  /-- A member of a basic type together with the entity that it was reached through. -/
  | bound (self : Entity) (sort : MemberSort) (owner name : String)
  /-- A module with its members. -/
  | module (name : String) (members : List (String × Entity))
  /-- An entity with arguments that were applied to it beforehand, some of them by name. -/
  | applied (e : Entity) (args : List Value) (named : List (String × Value))
  /-- The code of a routine. -/
  | code (r : Routine)
  /-- Something of which only the type is known. -/
  | sole (typeName : String)

instance : Inhabited Entity := ⟨.data .null⟩

namespace Entity

/-- The type of an entity. -/
def typeOf : Entity → ObjectType
  | data v => .basic v.typeName
  | group _ => .basic "tuple"
  | type _ => .basic "type"
  | object t _ => .defined t
  | routine _ => .basic "function"
  | method .. => .basic "method"
  | function .. => .basic "builtin_function_or_method"
  | descriptor .slot _ _ => .basic "wrapper_descriptor"
  | descriptor .typeMethod _ _ => .basic "classmethod_descriptor"
  | descriptor .field _ _ => .basic "getset_descriptor"
  | descriptor .part _ _ => .basic "member_descriptor"
  | descriptor .. => .basic "method_descriptor"
  | bound _ .slot _ _ => .basic "method-wrapper"
  | bound .. => .basic "builtin_function_or_method"
  | module .. => .basic "module"
  | applied .. => .basic "partial"
  | code _ => .basic "code"
  | sole name => .basic name

/-- The failure of showing an object whose type has a way of its own to do so, which gives no text. -/
def notShown {α : Type} : Outcome α := .error (.badType "__repr__ returned non-string")

mutual

/-- An entity as a message shows it. -/
def shown : Entity → Outcome String
  | data v => v.shown
  | group items => do
    match ← shownAll items with
    | [s] => .ok ("(" ++ s ++ ",)")
    | ss => .ok ("(" ++ ", ".intercalate ss ++ ")")
  | type t => .ok t.shown
  | object t _ => if t.hasOwn "__repr__" then notShown else .ok (ObjectType.defined t).shownObject
  | routine r => .ok ("<function " ++ r.qualname ++ " at 0x0>")
  | method self r => do .ok ("<bound method " ++ r.qualname ++ " of " ++ (← self.shown) ++ ">")
  | function _ name _ => .ok ("<built-in function " ++ name ++ ">")
  | descriptor sort owner name =>
    let kind := match sort with
      | .slot => "slot wrapper"
      | .field => "attribute"
      | .part => "member"
      | _ => "method"
    .ok ("<" ++ kind ++ " '" ++ name ++ "' of '" ++ owner ++ "' objects>")
  | bound self sort _ name =>
    let kind := if sort = .slot then "method-wrapper '" ++ name ++ "'" else "built-in method " ++ name
    .ok ("<" ++ kind ++ " of " ++ self.typeOf.shortName ++ " object at 0x0>")
  | module name _ => .ok ("<module '" ++ name ++ "'>")
  | applied e args named => do
    let placed ← args.mapM Value.shown
    let byName ← named.mapM fun n => do .ok (n.1 ++ "=" ++ (← n.2.shown))
    .ok ("functools.partial(" ++ ", ".intercalate ((← e.shown) :: placed ++ byName) ++ ")")
  | code r => .ok ("<code object " ++ r.name ++ " at 0x0>")
  | sole name => .ok (ObjectType.basic name).shownObject

/-- Each entity as a message shows it. -/
def shownAll : List Entity → Outcome (List String)
  | [] => .ok []
  | e :: es => do
    let s ← e.shown
    .ok (s :: (← shownAll es))

end

/-- Whether an entity can be called. -/
def callable : Entity → Bool
  | data _ | group _ | module .. | code _ | sole _ => false
  | descriptor sort _ _ => sort != .field && sort != .part
  | object t _ => t.hasOwn "__call__"
  | _ => true

end Entity
end JobScheduling
