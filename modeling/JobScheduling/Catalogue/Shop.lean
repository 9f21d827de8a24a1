import JobScheduling.Catalogue.Library
import JobScheduling.Catalogue.Standard

/-!
A catalogue to run jobs with: the module `shop`, which has a function or a service of every sort that can be
captured, beside the modules that are always there and those of the library itself.
-/

namespace JobScheduling
namespace Shop

/-! ### Routines -/

/-- A routine of the shop. -/
def routine (qualname : String) (parameters : List String) (formula : Formula) : Routine :=
  { module := some "shop", qualname, name := lastName qualname, parameters, isOpen := false, formula }

/-- A routine of the shop as a member of a module. -/
def function (qualname : String) (parameters : List String) (formula : Formula) : String × Entity :=
  (qualname, .routine (routine qualname parameters formula))

/-- A routine of the shop as a member of a type. -/
def member (b : Belonging) (qualname : String) (parameters : List String) (formula : Formula) :
    String × OwnMember DefinedType :=
  (lastName qualname, .routine b (routine qualname parameters formula))

/-- A function that takes all arguments and gives them back. -/
def echo : Routine := { routine "echo" [] .arguments with isOpen := true }

/-! ### Services -/

/-- A counter, which adds to its start. -/
def counter : DefinedType where
  module := some "shop"
  qualname := "Counter"
  members :=
    [("__init__", .routine .objects
        { routine "Counter.__init__" ["self", "start"] .store with defaults := [.int 0] }),
      member .objects "Counter.bump" ["self", "by"] (.sum (.field 0 "start") (.argument 1)),
      member .objects "Counter.__call__" ["self", "v"] (.pair (.field 0 "start") (.argument 1))]

/-- A service that gives back what it is asked for. -/
def inner : DefinedType where
  module := some "shop"
  qualname := "Outer.Inner"
  members := [member .objects "Outer.Inner.run" ["self", "v"] (.argument 1)]

/-- A service with a nested service, a function and a method of the type itself. -/
def outer : DefinedType where
  module := some "shop"
  qualname := "Outer"
  members :=
    [("Inner", .nested inner), member .neither "Outer.twice" ["v"] (.double (.argument 0)),
      member .type "Outer.name" ["cls"] (.constant (.text "Outer"))]

/-- A service that cannot be made without an argument. -/
def needsArgument : DefinedType where
  module := some "shop"
  qualname := "NeedsArgument"
  members :=
    [member .objects "NeedsArgument.__init__" ["self", "value"] .store,
      member .objects "NeedsArgument.run" ["self"] (.field 0 "value")]

/-! ### The shop -/

/-- The module of the shop. -/
def shop : Entity := .module "shop" (
  [("CONSTANT", .data (.int 7)), function "add" ["a", "b"] (.sum (.argument 0) (.argument 1)),
    ("echo", .routine echo), function "fail" [] (.failure "shop failed")] ++
  [counter, outer, needsArgument].map (fun t => (t.qualname, .type (.defined t))) ++
  ["__doc__", "__loader__", "__package__", "__spec__"].map fun name => (name, .data .null))

/-- All modules that can be imported. -/
def catalogue : Catalogue := ("shop", shop) :: Standard.modules ++ Library.modules

end Shop
end JobScheduling
