import JobScheduling.Catalogue.Basic
import JobScheduling.Object.Call

/-!
Outlines of modules: what is known of a module whose inside is not modelled, in words. A word is a name, or a name
and the qualified name of what it stands for with an equals sign between them. A few functions of such a module
may be known by what they compute; calling any other is a failure of the job.
-/

namespace JobScheduling

/-- What is known of a module: its routines; its functions, which may belong to another module `home`; its types
    with their methods, their properties and the values kept under them; its values; and the names of which only
    the type is known. -/
structure Outline where
  name : String
  routines : List String := []
  home : String := ""
  functions : List String := []
  types : List String := []
  records : List String := []
  methods : List (String × List String) := []
  properties : List (String × String) := []
  kept : List (String × List (String × Value)) := []
  values : List (String × Value) := []
  others : List (String × String) := []
deriving Inhabited

namespace Outline

/-! ### Words -/

/-- The words of some lines. -/
def words (lines : List String) : List String := lines.flatMap fun s => (Text.words s.toList).map String.ofList

/-- The name that a word gives, and the qualified name of what it stands for. -/
def naming (word : String) : String × String :=
  match Text.cut '=' word.toList with
  | (_, none) => (word, word)
  | (name, some qualname) => (String.ofList name, String.ofList qualname)

/-! ### Types -/

/-- A routine of which only the name is known, unless it is known what it computes. -/
def routine (module qualname : String) (run : Option Value.Method) : Routine :=
  { module := some module, qualname, name := lastName qualname
    formula := (run.map Formula.computed).getD .unknown }

/-- The methods that every record has: its fields are compared, and they stay as they are. -/
def recordMethods : List String := ["__init__", "__repr__", "__eq__", "__hash__", "__setattr__", "__delattr__"]

/-- The own members of a type. -/
def ownMembers (runs : List (String × Value.Method)) (o : Outline) (typeName : String) :
    List (String × OwnMember DefinedType) :=
  let methods := words ((o.methods.lookup typeName).getD []) ++
    if (words o.records).contains typeName then recordMethods else []
  let own := methods.map fun name =>
    let qualname := typeName ++ "." ++ name
    (name, OwnMember.routine .neither (routine o.name qualname (runs.lookup qualname)))
  let properties := words (o.properties.lookup typeName).toList
  own ++ properties.map (fun name => (name, OwnMember.sole "property")) ++
    ((o.kept.lookup typeName).getD []).map fun v => (v.1, OwnMember.value v.2)

/-- A type of a module, which may have inherited members beside its own. -/
def typeOf (runs : List (String × Value.Method)) (inherited : List (String × OwnMember DefinedType))
    (o : Outline) (qualname : String) : ObjectType :=
  if (BasicType.find? qualname).isSome then .basic qualname
  else .defined { module := some o.name, qualname, members := inherited ++ o.ownMembers runs qualname }

/-! ### Modules -/

/-- The members of a module. -/
def members (runs : List (String × Value.Method)) (inherited : String → List (String × OwnMember DefinedType))
    (o : Outline) : List (String × Entity) :=
  let home := if o.home = "" then o.name else o.home
  (words o.functions).map (fun name => (name, .function home name ((runs.lookup name).getD fun _ => notKnown))) ++
  (words o.routines).map (fun word =>
    let (name, qualname) := naming word
    (name, .routine (routine o.name qualname (runs.lookup name)))) ++
  (words o.types).map (fun word =>
    let (name, qualname) := naming word
    (name, .type (o.typeOf runs (inherited qualname) qualname))) ++
  o.values.map (fun v => (v.1, .data v.2)) ++ o.others.map fun v => (v.1, .sole v.2)

/-- The module of an outline, with further members behind its own. -/
def toModule (runs : List (String × Value.Method)) (further : List (String × Entity)) (o : Outline) :
    String × Entity :=
  (o.name, .module o.name (o.members runs (fun _ => []) ++ further))

end Outline
end JobScheduling
