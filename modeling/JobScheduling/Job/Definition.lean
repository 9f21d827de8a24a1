import JobScheduling.Job.Target
import JobScheduling.Zone.Stamp

/-!
Job definitions: a target with the arguments captured for it, all of it plain data. A definition has a payload,
from which it can be read again, and a signature, which tells the target and the kinds of the arguments but not
their values.
-/

namespace JobScheduling

/-- What to run. -/
structure JobDefinition where
  target : JobTarget
  args : List Value
deriving Inhabited

namespace JobDefinition

/-- The first captured argument, null if there is none. -/
def parameter (d : JobDefinition) : Value := d.args.head?.getD .null

/-- The target with the kinds of the arguments; the same for all calls from one place. -/
def signature (d : JobDefinition) : String :=
  d.target.describe ++ "(" ++ ",".intercalate (d.args.map Value.typeName) ++ ")"

/-- The call that a definition stands for, if its arguments can be written. -/
def describe (d : JobDefinition) : Outcome String := do
  .ok (d.target.describe ++ "(" ++ ", ".intercalate (← d.args.mapM Value.shown) ++ ")")

/-- The payload of a definition. -/
def toValue (d : JobDefinition) : Value :=
  .ofFields [("target", d.target.toValue), ("args", .list d.args)]

/-- The arguments of a payload, which may be left out. -/
def argsOf (entries : List (Value × Value)) : Outcome (List Value) :=
  match Value.lookup? (.text "args") entries with
  | none => .ok []
  | some (.list args) | some (.tuple args) => .ok args
  | some _ => .error (.problem (.payload .argumentsNotList none))

/-- The definition of a payload. -/
def ofValue (payload : Value) : Outcome JobDefinition :=
  match payload with
  | .dict entries =>
    match Value.lookup? (.text "target") entries with
    | some target => do
      let args ← argsOf entries
      .ok ⟨← JobTarget.ofValue target, args⟩
    | none => do .error (.problem (.payload (.malformedDefinition (← payload.shown)) none))
  | v => do .error (.problem (.payload (.malformedDefinition (← v.shown)) none))

/-- Whether two definitions are equal, their arguments compared as values. -/
def equals (shared : Bool) (a b : JobDefinition) : Bool :=
  a.target == b.target && Value.equalsList shared a.args b.args

end JobDefinition

/-! ### Scheduled jobs -/

/-- A definition with the earliest time at which it may run. -/
structure ScheduledJob where
  definition : JobDefinition
  runAt : Stamp
deriving Inhabited

namespace ScheduledJob

/-- A definition at a time, which has to have an offset. -/
def make (d : JobDefinition) (t : TimeValue) : Outcome ScheduledJob :=
  match t with
  | .stamp s => do
    if ← s.isAware then .ok ⟨d, s⟩ else .error (.problem (.input .runNeedsZone))
  | _ => .error (.missingAttribute "'tzinfo'")

/-- Whether a job may run at a time. -/
def isDue (j : ScheduledJob) : TimeValue → Outcome Bool
  | .stamp now => j.runAt.notAfter now
  | _ => .error (.badType "'<=' not supported")

/-- The payload of a scheduled job. -/
def toValue (j : ScheduledJob) : Outcome Value := do
  .ok (.ofFields [("definition", j.definition.toValue), ("run_at", .text (← j.runAt.text))])

end ScheduledJob

/-! ### Identifiers -/

/-- The identifier that a storage gives a job; it is not blank. -/
structure JobId where
  value : Value
deriving Inhabited

namespace JobId

/-- The identifier that a value writes. -/
def make (v : Value) : Outcome JobId :=
  if !v.truthy then .error (.problem (.input .emptyJobId))
  else
    match v with
    | .text s =>
      if Text.allBlank s.toList then .error (.problem (.input .emptyJobId)) else .ok ⟨v⟩
    | .bytes bs =>
      if bs.all fun b => (9 ≤ b.toNat && b.toNat ≤ 13) || b.toNat == 32 then
        .error (.problem (.input .emptyJobId))
      else .ok ⟨v⟩
    | v => .error (.missingAttribute ("'" ++ v.typeName ++ "' object has no attribute 'strip'"))

/-- The text of an identifier, which only a text has. -/
def text (id : JobId) : Outcome String :=
  match id.value with
  | .text s => .ok s
  | v => .error (.badType ("__str__ returned non-string (type " ++ v.typeName ++ ")"))

/-- An identifier as a message shows it. -/
def shown (id : JobId) : Outcome String := do .ok ("JobId(value=" ++ (← id.value.shown) ++ ")")

/-- The identifier of the `n`-th job. -/
def ofNumber (n : Nat) : String :=
  "00000000-0000-7000-8000-" ++ String.ofList (Text.hexDigits 12 n)

end JobId
end JobScheduling
