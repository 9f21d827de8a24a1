import JobScheduling.Object.Basic

/-!
Members of entities. A name is looked up in levels, and the first level that has it decides: computed values of the
type come first, then what the entity itself holds, then all else of the type. For a type its own line of bases
counts as what it holds, and the type of types comes around it. What is found is tied to the entity through which
it was reached, if it is a method.
-/

namespace JobScheduling

/-! ### Members of types -/

/-- A member of a type. -/
inductive Member where
  /-- A member of a basic type. -/
  | basic (sort : MemberSort) (owner name : String)
  /-- A member of a defined type. -/
  | own (m : OwnMember DefinedType)

namespace Member

/-- Whether a member computes its value, and so comes before what an entity holds. -/
def isComputed : Member → Bool
  | basic sort _ _ => sort = .field || sort = .part
  | own _ => false

end Member

namespace ObjectType

/-- The type and those that it inherits from, the nearest first. -/
def lineage : ObjectType → List ObjectType
  | basic name => (BasicType.lineage name).map basic
  | defined d => defined d :: (BasicType.lineage d.base).map basic

/-- A member of a type that is not inherited. -/
def own? (t : ObjectType) (name : String) : Option Member :=
  match t with
  | basic typeName =>
    match (BasicType.find? typeName).bind (·.sort? name) with
    | some sort => some (.basic sort typeName name)
    | none =>
      if name = "__doc__" then some (.own (.sole "str"))
      else if name = "__module__" && typeName = "partial" then
        some (.own (.value (.text (BasicType.module typeName))))
      else none
  | defined d =>
    match d.own? name with
    | some m => some (.own m)
    | none =>
      match name with
      | "__module__" => some (.own (.value ((d.module.map Value.text).getD .null)))
      | "__doc__" => some (.own (.value .null))
      | "__dict__" | "__weakref__" => some (.basic .field (lastName d.qualname) name)
      | "__hash__" => if d.hasOwn "__eq__" then some (.own (.value .null)) else none
      | _ => none

/-- The member of a name, the nearest one of the line of bases. -/
def find? (t : ObjectType) (name : String) : Option Member := t.lineage.findSome? (·.own? name)

/-- Whether one type inherits from another, or is the same. -/
def inherits (s t : ObjectType) : Bool := s.lineage.any fun u => u.same t

/-- A member as it is reached through the type itself. -/
def reach (t : ObjectType) : Member → Entity
  | .basic .null _ _ => .data .null
  | .basic .typeMethod owner name => .bound (.type t) .typeMethod owner name
  | .basic .function owner name => .bound (.type (basic owner)) .function owner name
  | .basic sort owner name => .descriptor sort owner name
  | .own (.routine .type r) => .method (.type t) r
  | .own (.routine _ r) => .routine r
  | .own (.value v) => .data v
  | .own (.nested d) => .type (defined d)
  | .own (.sole name) => .sole name

end ObjectType

/-! ### Computed values -/

namespace Entity

/-- A text as an entity. -/
def ofText (s : String) : Entity := .data (.text s)

/-- A whole number as an entity. -/
def ofNat (n : Nat) : Entity := .data (.int (Int.ofNat n))

/-- What a type tells about itself. -/
def typeField? (t : ObjectType) (name : String) : Option Entity :=
  let bases := (t.lineage.drop 1).take 1
  match name, t with
  | "__name__", _ => some (ofText (lastName t.qualname))
  | "__qualname__", _ => some (ofText t.qualname)
  | "__bases__", _ => some (.group (bases.map .type))
  | "__base__", _ => some ((bases.head?.map .type).getD (.data .null))
  | "__mro__", _ => some (.group (t.lineage.map .type))
  | "__dict__", _ => some (.sole "mappingproxy")
  | "__doc__", _ | "__module__", .defined _ => (t.own? name).map t.reach
  | "__module__", .basic typeName => some (ofText (BasicType.module typeName))
  | "__annotations__", .defined _ => some (.data (.dict []))
  | "__text_signature__", .defined _ => some (.data .null)
  | "__basicsize__", .defined _ => some (ofNat 24)
  | "__itemsize__", .defined _ => some (ofNat 0)
  | "__flags__", .defined _ => some (ofNat 22032)
  | "__dictoffset__", .defined _ => some (.data (.int (-48)))
  | "__weakrefoffset__", .defined _ => some (ofNat 16)
  | "__text_signature__", _ => some (.sole "str")
  | "__basicsize__", _ | "__itemsize__", _ | "__flags__", _ | "__dictoffset__", _ | "__weakrefoffset__", _ =>
    some (.sole "int")
  | _, _ => none

/-- What a routine tells about itself. -/
def routineField? (r : Routine) (name : String) : Option Entity :=
  match name with
  | "__name__" => some (ofText r.name)
  | "__qualname__" => some (ofText r.qualname)
  | "__module__" => some (.data ((r.module.map Value.text).getD .null))
  | "__code__" => some (.code r)
  | "__defaults__" => some (.data (if r.defaults.isEmpty then .null else .tuple r.defaults))
  | "__doc__" | "__kwdefaults__" | "__closure__" => some (.data .null)
  | "__dict__" | "__annotations__" => some (.data (.dict []))
  | "__globals__" | "__builtins__" => some (.sole "dict")
  | _ => none

/-- What the code of a routine tells about itself. -/
def codeField? (r : Routine) (name : String) : Option Entity :=
  match name with
  | "co_argcount" => some (ofNat r.parameters.length)
  | "co_posonlyargcount" | "co_kwonlyargcount" => some (ofNat 0)
  | "co_nlocals" => some (ofNat (r.parameters.length + if r.isOpen then 1 else 0))
  | "co_flags" => some (ofNat (if r.isOpen then 7 else 3))
  | "co_name" => some (ofText r.name)
  | "co_qualname" => some (ofText r.qualname)
  | "co_cellvars" | "co_freevars" => some (.group [])
  | "co_varnames" | "co_names" | "co_consts" => some (.sole "tuple")
  | "co_code" | "co_linetable" | "co_lnotab" | "co_exceptiontable" => some (.sole "bytes")
  | "co_filename" => some (.sole "str")
  | _ => some (.sole "int")

/-- The name of what is reached through an entity: it stands behind the name of its type, or behind the name of the
    entity if that is a type. -/
def nameBehind (self : Entity) (name : String) : String :=
  match self with
  | type t => t.qualname ++ "." ++ name
  | self => self.typeOf.qualname ++ "." ++ name

/-- What a member that was reached through an entity tells about itself. -/
def boundField? (self : Entity) (sort : MemberSort) (owner name field : String) : Option Entity :=
  match field with
  | "__self__" => some self
  | "__name__" => some (ofText name)
  | "__qualname__" => some (ofText (if sort = .slot then owner ++ "." ++ name else self.nameBehind name))
  | "__objclass__" => if sort = .slot then some (type (.basic owner)) else none
  | "__module__" => if sort = .slot then none else some (.data .null)
  | "__doc__" | "__text_signature__" => some (.sole "str")
  | _ => none

/-- The parts of a number. -/
def numberField? (v : Value) (name : String) : Option Entity :=
  match v, name with
  | .float x, "real" => some (.data (.float x))
  | .float _, "imag" => some (.data (.float (Binary64.ofFraction 0 1)))
  | v, "real" | v, "numerator" => v.integer?.map fun n => .data (.int n)
  | v, "imag" => v.integer?.map fun _ => ofNat 0
  | v, "denominator" => v.integer?.map fun _ => ofNat 1
  | _, _ => none

/-- The computed value of a name. -/
def field? (e : Entity) (name : String) : Option Entity :=
  if name = "__class__" then some (.type e.typeOf)
  else
    match e with
    | data v => numberField? v name
    | type t => typeField? t name
    | object _ fields =>
      match name with
      | "__dict__" => some (.data (.ofFields fields))
      | "__weakref__" => some (.data .null)
      | _ => none
    | routine r => routineField? r name
    | method self r =>
      match name with
      | "__self__" => some self
      | "__func__" => some (routine r)
      | "__doc__" => some (.data .null)
      | _ => none
    | function place own _ =>
      match name with
      | "__name__" | "__qualname__" => some (ofText own)
      | "__module__" => some (ofText place)
      | "__self__" => some (.module place [])
      | _ => some (.sole "str")
    | descriptor _ owner own =>
      match name with
      | "__name__" => some (ofText own)
      | "__qualname__" => some (ofText (owner ++ "." ++ own))
      | "__objclass__" => some (type (.basic owner))
      | _ => some (.sole "str")
    | bound self sort owner own => boundField? self sort owner own name
    | module _ _ => if name = "__dict__" then some (.sole "dict") else some (.data (.dict []))
    | applied e args named =>
      match name with
      | "func" => some e
      | "args" => some (.data (.tuple args))
      | "keywords" => some (.data (.ofFields named))
      | _ => some (.data (.dict []))
    | code r => codeField? r name
    | group _ | sole _ => none

/-! ### Lookup -/

/-- A member of the type of an entity as it is reached through the entity. -/
def reach (e : Entity) : Member → Option Entity
  | .basic .null _ _ => some (.data .null)
  | .basic .slot owner name => some (.bound e .slot owner name)
  | .basic .method owner name => some (.bound e .method owner name)
  | .basic .typeMethod owner name => some (.bound (.type e.typeOf) .typeMethod owner name)
  | .basic .function owner name => some (.bound (.type (.basic owner)) .function owner name)
  | .basic _ _ name => e.field? name
  | .own (.routine .objects r) => some (.method e r)
  | .own (.routine .type r) => some (.method (.type e.typeOf) r)
  | .own (.routine .neither r) => some (.routine r)
  | .own (.value v) => some (.data v)
  | .own (.nested d) => some (.type (.defined d))
  | .own (.sole name) => some (.sole name)

/-- What an entity itself holds under a name. -/
def held? (e : Entity) (name : String) : Option Entity :=
  match e with
  | object _ fields => (fields.find? fun f => f.1 == name).map fun f => .data f.2
  | module own members =>
    if name = "__name__" then some (ofText own) else (members.find? fun m => m.1 == name).map (·.2)
  | type t => (t.find? name).map t.reach
  | _ => none

/-- The member of a name, in the order of the levels. -/
def levels? (e : Entity) (name : String) : Option Entity :=
  let found := e.typeOf.find? name
  if found.any Member.isComputed then found.bind e.reach else e.held? name <|> found.bind e.reach

/-- The member of a name. A method that has none of the name passes on to its routine. -/
def member? (e : Entity) (name : String) : Option Entity :=
  match e with
  | method _ r => e.levels? name <|> (routine r).levels? name
  | e => e.levels? name

/-- The failure to find a member. -/
def noMember {α : Type} (e : Entity) (name : String) : Outcome α :=
  .error (.missingAttribute ("'" ++ lastName e.typeOf.qualname ++ "' object has no attribute '" ++ name ++ "'"))

/-- The failure to read a member. Modules and types are told by their own names, and a method passes on to its
    routine. -/
def notFound {α : Type} (e : Entity) (name : String) : Outcome α :=
  match e with
  | module own _ => .error (.missingAttribute ("module '" ++ own ++ "' has no attribute '" ++ name ++ "'"))
  | type t => .error (.missingAttribute ("type object '" ++ t.shortName ++ "' has no attribute '" ++ name ++ "'"))
  | method _ r => (routine r).noMember name
  | e => e.noMember name

/-- The member of a name, which has to be there. -/
def member (e : Entity) (name : String) : Outcome Entity :=
  match e.member? name with
  | some m => .ok m
  | none => e.notFound name

/-- The name of an entity, or the entity itself if it is a whole number or a text. -/
def summary (e : Entity) : Value :=
  match e with
  | data (.int n) => .int n
  | data (.bool b) => .bool b
  | data (.text s) => .text s
  | e =>
    match e.member? "__qualname__" with
    | some (data v) => v
    | _ => .text (lastName e.typeOf.qualname)

end Entity
end JobScheduling
