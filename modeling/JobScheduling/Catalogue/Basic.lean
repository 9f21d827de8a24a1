import JobScheduling.Job.Target
import JobScheduling.Object.Member

/-!
What paths lead to. A catalogue holds the modules that can be imported; from a module a path goes on through named
members.
-/

namespace JobScheduling

/-- The modules that can be imported, by their names. -/
abbrev Catalogue : Type := List (String × Entity)

namespace Catalogue

/-- The module of a name. A name that begins with a point is relative, and the empty one is none at all. -/
def importModule (c : Catalogue) (name : String) : Outcome Entity :=
  if name = "" then .error (.badValue "Empty module name")
  else if name.toList.head? = some '.' then
    .error (.badType ("the 'package' argument is required to perform a relative import for " ++ Text.quoted name))
  else
    match c.find? fun m => m.1 == name with
    | some m => .ok m.2
    | none => .error (.noModule ("No module named " ++ Text.quoted name))

/-- The error that a path cannot be imported. -/
def cannotImport (path : String) (cause : Fault) : Fault :=
  .problem (.payload (.cannotImport path) (some cause))

/-- Whether a failure is that a module cannot be imported, or that a member is not there. -/
def isAbsence : Fault → Bool
  | .noModule _ | .notImportable _ | .missingAttribute _ => true
  | _ => false

/-- What a failure on the way along a path means for its import: what is not there is the cause why the path cannot be
    imported, and any other failure stands for itself. -/
def importFailure (path : String) (f : Fault) : Fault := if isAbsence f then cannotImport path f else f

/-- What a path leads to, where modules and members are found in given ways: the module before the first colon, and then
    the member of each name in turn. -/
def importThrough {α : Type} (module : String → Outcome α) (member : α → String → Outcome α) (path : String) :
    Outcome α :=
  let (moduleName, qualname) := JobTarget.splitPath path
  let names := (Text.pieces '.' qualname.toList).map String.ofList
  let found := do names.foldlM member (← module moduleName)
  match found with
  | .ok e => .ok e
  | .error f => .error (importFailure path f)

/-- What a path leads to among the modules of a catalogue. -/
def importPath (c : Catalogue) (path : String) : Outcome Entity := importThrough c.importModule Entity.member path

/-- What a value leads to as a path; only a text is one. -/
def importValue (c : Catalogue) (v : Value) : Outcome Entity :=
  match v with
  | .text path => c.importPath path
  | .bytes _ => .error (.badType "a bytes-like object is required")
  | v => .error (.missingAttribute ("'" ++ v.typeName ++ "' object has no attribute 'partition'"))

end Catalogue
end JobScheduling
