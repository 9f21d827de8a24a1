import JobScheduling.Text.Identifier
import JobScheduling.Text.Trim
import JobScheduling.Value.Access

/-!
Targets of jobs: what is called when a job runs, named by text alone. A target is a function at an importable
path, or a method of a service that is made when the job runs. A path is written `module:name`, with something
on both sides of the first colon.
-/

namespace JobScheduling

/-- What is called when a job runs. -/
inductive JobTarget where
  /-- The function at a path. -/
  | static (path : String)
  /-- A method of the service at a path. -/
  | service (path method : String)
deriving DecidableEq, Repr, Inhabited

namespace JobTarget

/-! ### Paths and methods -/

/-- The module and the name that a path is made of. -/
def splitPath (path : String) : String × String :=
  let r := Text.cut ':' path.toList
  (String.ofList r.1, String.ofList (r.2.getD []))

/-- Whether a text is a path: its first colon has something on both sides. -/
def isPath (path : String) : Bool :=
  match Text.cut ':' path.toList with
  | (m, some n) => !m.isEmpty && !n.isEmpty
  | _ => false

/-- Whether a target has a path and, if it is one of a service, a method that is an identifier. -/
def valid : JobTarget → Bool
  | static path => isPath path
  | service path method => isPath path && Text.isIdentifier method.toList

/-- The path that a value writes. -/
def pathOf : Value → Outcome String
  | .text s => if isPath s then .ok s else .error (.problem (.target (.path (Value.text s).described)))
  | v => do .error (.problem (.target (.path (← v.shown))))

/-- The method name that a value writes. -/
def methodOf (v : Value) : Outcome String :=
  if !v.truthy then do .error (.problem (.target (.method (← v.shown))))
  else
    match v with
    | .text s =>
      if Text.isIdentifier s.toList then .ok s else .error (.problem (.target (.method v.described)))
    | v => .error (.missingAttribute ("'" ++ v.typeName ++ "' object has no attribute 'isidentifier'"))

/-- The target that calls the function at a path. -/
def ofFunction (path : Value) : Outcome JobTarget := do .ok (.static (← pathOf path))

/-- The target that calls a method of the service at a path. -/
def ofMethod (path method : Value) : Outcome JobTarget := do
  let path ← pathOf path
  .ok (.service path (← methodOf method))

/-! ### Texts and payloads -/

/-- The name of a target: its path, and its method behind a point. -/
def describe : JobTarget → String
  | static path => path
  | service path method => path ++ "." ++ method

/-- A target as a message shows it. -/
def shown : JobTarget → String
  | static path => "StaticInvocation(function_path=" ++ Text.quoted path ++ ")"
  | service path method =>
    "ServiceInvocation(service_path=" ++ Text.quoted path ++ ", method=" ++ Text.quoted method ++ ")"

/-- The payload of a target. -/
def toValue : JobTarget → Value
  | static path => .ofFields [("kind", .text "static"), ("function", .text path)]
  | service path method => .ofFields [("kind", .text "service"), ("service", .text path), ("method", .text method)]

/-- Whether a failure to read the parts of a target makes its payload malformed: an entry is missing, the payload is no
    dictionary, or a part is refused. -/
def isMalformation : Fault → Bool
  | .missingKey _ | .badType _ | .problem (.target _) => true
  | _ => false

/-- What a failure to read the parts of a target means for its payload: it is malformed, and shown as a whole if it can
    be written, or the failure stands for itself. -/
def malformed {α : Type} (payload : Value) (f : Fault) : Outcome α :=
  if isMalformation f then do .error (.problem (.payload (.malformedTarget (← payload.shown)) (some f)))
  else .error f

/-- The target that a payload is one of, before its failures are explained; the kind if it is unknown. -/
def parts (payload : Value) : Outcome (Except Value JobTarget) := do
  let kind ← payload.entry "kind"
  if kind.equals false (.text "static") then .ok (.ok (← ofFunction (← payload.entry "function")))
  else if kind.equals false (.text "service") then
    let path ← payload.entry "service"
    .ok (.ok (← ofMethod path (← payload.entry "method")))
  else .ok (.error kind)

/-- The target of a payload. -/
def ofValue (payload : Value) : Outcome JobTarget :=
  match parts payload with
  | .ok (.ok t) => .ok t
  | .ok (.error kind) => do .error (.problem (.payload (.unknownKind (← kind.shown)) none))
  | .error f => malformed payload f

end JobTarget
end JobScheduling
