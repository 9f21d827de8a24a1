import JobScheduling.Value.Access

/-!
Error reports: an error as it is handed to a log or to another program. A report is made from the parts that its
kind asks for, some of them by position and the others by name, and tells its code, its message, its detail and
how its cause is shown.
-/

namespace JobScheduling

namespace ErrorKind

/-- The kind of a name. -/
def ofName? (name : String) : Option ErrorKind := all.find? fun k => k.name == name

/-- The parts of a report that may be given by position, with the value of those that may be left out. -/
def parameters : ErrorKind → List (String × Option Value)
  | scheduleExpression => [("expression", none), ("reason", none)]
  | scheduleUnreachable => [("expression", none), ("lookahead_years", none)]
  | emptyWorkItems => [("message", some (.text Problem.emptyWorkItems.message))]
  | notInitialized => [("message", some (.text Problem.notInitialized.message))]
  | alreadyInitialized => [("message", some (.text Problem.alreadyInitialized.message))]
  | missingSetting => [("setting_name", none)]
  | invalidSetting => [("setting_name", none), ("value", none), ("reason", none)]
  | _ => [("message", none)]

/-- The parts of a report that are given by name only. -/
def keywords : ErrorKind → List String
  | scheduleExpression => ["field", "code", "cause"]
  | scheduleUnreachable => ["code", "cause"]
  | notInitialized | alreadyInitialized | missingSetting | invalidSetting => []
  | serialization => ["payload_type", "code", "detail", "cause"]
  | _ => ["code", "detail", "cause"]

/-- The parts that a report shows as its own, apart from its message, code, detail and cause. -/
def attributes : ErrorKind → List String
  | scheduleExpression => ["expression", "reason", "field"]
  | scheduleUnreachable => ["expression", "lookahead_years"]
  | serialization => ["payload_type"]
  | missingSetting => ["setting_name"]
  | invalidSetting => ["setting_name", "value", "reason"]
  | _ => []

end ErrorKind

/-! ### Parts by position and by name -/

/-- The failure that the parts of a report do not fit its kind. -/
def unfit {α : Type} : Outcome α := .error (.badType "the parts do not fit the kind of error")

/-- The values given by position under their names; there may not be more of them than names. -/
def byPosition : List (String × Option Value) → List Value → Outcome (List (String × Value))
  | _, [] => .ok []
  | [], _ :: _ => unfit
  | p :: ps, v :: vs => do .ok ((p.1, v) :: (← byPosition ps vs))

/-- The value of a part, the one of its default if it was not given. -/
def partOrDefault (given : List (String × Value)) (p : String × Option Value) : Outcome (String × Value) :=
  match (given.find? fun g => g.1 == p.1).map (·.2), p.2 with
  | some v, _ | none, some v => .ok (p.1, v)
  | none, none => unfit

/-- The values of all parts of a report, those that were not given having their defaults. -/
def ErrorKind.parts (k : ErrorKind) (args : List Value) (named : List (String × Value)) :
    Outcome (List (String × Value)) := do
  let placed ← byPosition k.parameters args
  let known := k.parameters.map (·.1) ++ k.keywords
  if named.any fun g => !known.contains g.1 || placed.any fun p => p.1 == g.1 then unfit
  else (k.parameters ++ k.keywords.map fun name => (name, some Value.null)).mapM (partOrDefault (placed ++ named))

/-! ### Reports -/

/-- An error as it is handed on. -/
structure ErrorReport where
  kind : ErrorKind
  code : Value
  message : Value
  detail : Value
  /-- How the cause is shown, if there is one. -/
  cause : Option String
  attributes : List (String × Value)
deriving Inhabited

namespace ErrorReport

/-- The message of a report with the given parts, which have to be written into it. -/
def messageOf (k : ErrorKind) (part : String → Value) : Outcome Value :=
  match k with
  | .scheduleExpression => do
    .ok (.text ("Invalid cron expression " ++ (← (part "expression").shown) ++ ": " ++ (← (part "reason").printed)))
  | .scheduleUnreachable => do
    .ok (.text ("Cron expression " ++ (← (part "expression").shown) ++ " has no occurrence within " ++
      (← (part "lookahead_years").printed) ++ " years"))
  | .missingSetting => do .ok (.text ("Required setting " ++ (← (part "setting_name").shown) ++ " is missing"))
  | .invalidSetting => do
    .ok (.text ("Setting " ++ (← (part "setting_name").shown) ++ "=" ++ (← (part "value").shown) ++ " is invalid: " ++
      (← (part "reason").printed)))
  | _ => .ok (part "message")

/-- The detail of a report with the given parts. -/
def detailOf (k : ErrorKind) (part : String → Value) : Value :=
  match k with
  | .scheduleExpression =>
    .ofFields (("expression", part "expression") ::
      (match part "field" with
        | .null => []
        | field => [("field", field)]))
  | .scheduleUnreachable =>
    .ofFields [("expression", part "expression"), ("lookahead_years", part "lookahead_years")]
  | .missingSetting => .ofFields [("setting", part "setting_name")]
  | .invalidSetting => .ofFields [("setting", part "setting_name"), ("reason", part "reason")]
  | _ => if (part "detail").truthy then part "detail" else .dict []

/-- A report of a kind from its parts, with a cause that is shown as `cause`. -/
def make (k : ErrorKind) (args : List Value) (named : List (String × Value)) (cause : Option String) :
    Outcome ErrorReport := do
  if cause.isSome && !k.keywords.contains "cause" then unfit
  let parts ← k.parts args named
  let part := fun name => ((parts.find? fun p => p.1 == name).map (·.2)).getD .null
  let message ← messageOf k part
  match part "cause" with
  | .null =>
    .ok
      { kind := k
        code := if (part "code").truthy then part "code" else .text k.code
        message
        detail := detailOf k part
        cause
        attributes := k.attributes.map fun name => (name, part name) }
  | _ => .error (.badType "exception cause must be None or derive from BaseException")

/-- The text of a report: its message, and its detail where there is any. -/
def text (r : ErrorReport) : Outcome String :=
  match r.detail.truthy, r.message with
  | false, .text s => .ok s
  | false, v => .error (.badType ("__str__ returned non-string (type " ++ v.typeName ++ ")"))
  | true, v => do
    match (← r.detail.writable).json? with
    | some s => .ok ((← v.printed) ++ " " ++ String.ofList s)
    | none => .error (.badType "keys must be str, int, float, bool or None")

/-- A report as another one shows it. -/
def shown (r : ErrorReport) : Outcome String := do
  .ok (r.kind.name ++ "(code=" ++ (← r.code.shown) ++ ", message=" ++ (← r.message.shown) ++ ")")

/-- A report as plain data. -/
def toValue (r : ErrorReport) : Value :=
  .ofFields ([("code", r.code), ("message", r.message), ("detail", r.detail)] ++
    (r.cause.map fun c => ("cause", Value.text c)).toList)

end ErrorReport

/-- How a failure of a kind that is not of this library is shown, with the values that it holds. -/
def shownFailure (name : String) (args : List Value) : Outcome String := do
  .ok (name ++ "(" ++ ", ".intercalate (← args.mapM Value.shown) ++ ")")

end JobScheduling
