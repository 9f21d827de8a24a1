import JobScheduling.Job.Definition
import JobScheduling.Object.Member

/-!
Units of work and how they are captured. A function is captured by its own path, a method by the path of its
service and its name, and arguments that were applied beforehand come before those of the call. Nothing that
cannot be found again by its name is captured: no nested function, no anonymous one, none without a module.
-/

namespace JobScheduling

/-- A unit of work. -/
inductive Work where
  /-- A target that was built beforehand. -/
  | target (t : JobTarget)
  /-- Anything else: what can be called is captured by its name. -/
  | entity (e : Entity)
deriving Inhabited

/-! ### Paths -/

/-- Whether `part` occurs in `s`. -/
def occurs (part s : List Char) : Bool :=
  match s with
  | [] => part.isEmpty
  | c :: rest => part.isPrefixOf (c :: rest) || occurs part rest

/-- Whether a name leads to something that can be found again: it is no anonymous and no nested one. -/
def isImportable (qualname : String) : Bool :=
  qualname != "" && !occurs "<lambda>".toList qualname.toList && !occurs "<locals>".toList qualname.toList

namespace Entity

/-- The path of an entity: the module that it names, and its qualified name. -/
def importablePath (e : Entity) : Outcome String := do
  let refused := do .error (.problem (.target (.notImportable (← e.shown))))
  match e.member? "__module__", e.member? "__qualname__" with
  | some (data m), some (data (.text qualname)) =>
    if m.truthy && isImportable qualname then do .ok ((← m.printed) ++ ":" ++ qualname) else refused
  | _, _ => refused

/-- Whether an entity has a member of a name that can be called. -/
def hasMethod (e : Entity) (name : String) : Bool := (e.member? name).any callable

/-- Whether an entity is a function or a type, which is captured by its own path. -/
def isNamed : Entity → Bool
  | routine _ | type _ | function .. => true
  | bound _ sort _ _ => sort != .slot
  | _ => false

end Entity

/-! ### Capture -/

namespace ObjectType

/-- The target that makes a service of a type and calls its method. -/
def serviceMethod (t : ObjectType) : Value → Outcome JobTarget
  | .text name =>
    if (Entity.type t).hasMethod name then do
      JobTarget.ofMethod (.text (← (Entity.type t).importablePath)) (.text name)
    else .error (.problem (.target (.noMethod t.qualname (Value.text name).described)))
  | _ => .error (.badType "attribute name must be string")

end ObjectType

namespace Entity

/-- The target that an entity stands for, and the arguments that were applied to it. -/
def toTarget : Entity → Outcome (JobTarget × List Value)
  | applied e args named =>
    if named.isEmpty then do
      let r ← toTarget e
      .ok (r.1, r.2 ++ args)
    else .error (.problem (.target .keywordArguments))
  | method (type t) r => do
    .ok (← JobTarget.ofFunction (.text ((← (type t).importablePath) ++ "." ++ r.name)), [])
  | method self r => do .ok (← self.typeOf.serviceMethod (.text r.name), [])
  | e =>
    if e.isNamed then do .ok (← JobTarget.ofFunction (.text (← e.importablePath)), [])
    else if e.callable then do .ok (← e.typeOf.serviceMethod (.text "__call__"), [])
    else do .error (.problem (.target (.notCallable (← e.shown))))

end Entity

namespace Work

/-- A work as a message shows it. -/
def shown : Work → Outcome String
  | target t => .ok t.shown
  | entity e => e.shown

/-- A work with arguments applied to it; only what can be called takes any. To apply further arguments adds them
    to those that were applied before. -/
def apply (w : Work) (args : List Value) (named : List (String × Value)) : Outcome Work :=
  match w with
  | entity (.applied e before namedBefore) =>
    let kept := namedBefore.map fun n => ((named.find? fun m => m.1 == n.1).getD n)
    let added := named.filter fun n => !(namedBefore.any fun m => m.1 == n.1)
    .ok (entity (.applied e (before ++ args) (kept ++ added)))
  | entity e =>
    if e.callable then .ok (entity (.applied e args named))
    else .error (.badType "the first argument must be callable")
  | target _ => .error (.badType "the first argument must be callable")

/-- The target that makes a service and calls its method, the service being given by its type. -/
def serviceMethod (w : Work) (method : Value) : Outcome JobTarget :=
  match w with
  | entity (.type t) => t.serviceMethod method
  | w => do .error (.problem (.target (.notService (← w.shown))))

/-- The target that a work stands for, and the arguments that were applied to it, the innermost first. -/
def toTarget : Work → Outcome (JobTarget × List Value)
  | target t => .ok (t, [])
  | entity e => e.toTarget

/-- The definition that calls a work with arguments. -/
def capture (w : Work) (args : List Value) : Outcome JobDefinition := do
  let r ← w.toTarget
  .ok ⟨r.1, r.2 ++ args⟩

end Work
end JobScheduling
