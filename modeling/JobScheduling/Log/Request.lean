import JobScheduling.Log.Record

/-!
What is asked of a logger, by the name of a method. Most methods log an event at their level. Of the others some
do nothing that a log shows, one sets the threshold of the logger itself, and the rest is refused.
-/

namespace JobScheduling

/-- A request to a logger: the method, its first argument, its named arguments and the contexts around it. -/
structure LogRequest where
  method : String
  event : Value
  values : Fields
  contexts : List Fields
deriving Inhabited

/-- The thresholds in force: that of the whole log, and that of one logger, which counts unless it is zero. -/
structure Thresholds where
  all : Int
  own : Int := 0
deriving DecidableEq, Repr, Inhabited

namespace Thresholds

/-- The threshold for calls to the logger. -/
def effective (t : Thresholds) : Int := if t.own = 0 then t.all else t.own

/-- The thresholds after the logger was given one by a value: a rank, or the exact name of one. -/
def setOwn (t : Thresholds) (l : Logger) (v : Value) : Outcome Thresholds := do
  let rank ← match v with
    | .text s =>
      match rankNames.lookup s with
      | some rank => .ok rank
      | none => .error (.badValue ("Unknown level: " ++ Text.quoted s))
    | v =>
      match v.integer? with
      | some rank => .ok rank
      | none => do .error (.badType ("Level not an integer or a valid string: " ++ (← v.shown)))
  .ok (if l.name = "root" then { t with all := rank } else { t with own := rank })

end Thresholds

namespace Logger

/-! ### Names of methods -/

/-- The methods of a logger that take other arguments than an event. -/
def otherwiseCalled : List String :=
  ["bind", "new", "makeRecord", "hasHandlers", "getEffectiveLevel", "name", "level", "parent", "propagate", "handlers",
    "disabled", "_context", "_logger", "_processors"]

/-- The methods that look for the parts of a record in their argument. -/
def takesRecord : List String := ["handle", "callHandlers"]

/-- The methods that do nothing which a log shows. -/
def silent : List String := ["findCaller", "addHandler", "removeHandler"]

/-- The methods that only prepare an event to be logged later. -/
def deferred : List String :=
  ["adebug", "ainfo", "awarning", "aerror", "acritical", "afatal", "aexception", "alog"]

/-- The names that the values of a call cannot have. -/
def reserved : List String := ["event", "self", "method_name"]

/-! ### Answers -/

/-- The failure of arguments that a method does not take. -/
def wrongArguments {α : Type} : Outcome α := .error (.badType "wrong arguments")

/-- The call at a level, if it can be made: no value has a reserved name, and none passes for a record. -/
def call (l : Logger) (level : Level) (r : LogRequest) : Outcome LogCall :=
  let c : LogCall := ⟨level, r.event, r.values, r.contexts⟩
  match (l.given c).lookup "_record" with
  | none | some .null => .ok c
  | some v => .error (.missingAttribute ("'" ++ v.typeName ++ "' object has no attribute 'name'"))

/-- The call at the level of a rank, which is given in place of the event. -/
def callAtRank (l : Logger) (r : LogRequest) : Outcome LogCall :=
  if r.values.any fun f => ["level", "self", "method_name"].contains f.1 then wrongArguments
  else
    let inner := { r with
      event := (r.values.lookup "event").getD .null
      values := r.values.filter fun f => f.1 != "event" }
    match r.event with
    | .list _ | .dict _ => wrongArguments
    | rank =>
      if rank.equals false (.int 0) then do
        let _ ← l.call .debug inner
        .error (.missingAttribute "no method for rank 0")
      else
        match [Level.debug, .info, .warning, .error, .critical].find? fun n => rank.equals false (.int n.rank) with
        | some level => l.call level inner
        | none => .error (.missingKey rank)

/-- The answer to a request: the thresholds from then on, and the call that it is, if it is one. -/
def answer (l : Logger) (t : Thresholds) (r : LogRequest) : Outcome (Thresholds × Option LogCall) :=
  match Level.ofName? r.method with
  | some level =>
    if r.values.any fun f => reserved.contains f.1 then wrongArguments
    else do .ok (t, some (← l.call level r))
  | none =>
    if r.method = "log" then do .ok (t, some (← l.callAtRank r))
    else if otherwiseCalled.contains r.method then wrongArguments
    else if deferred.contains r.method then .ok (t, none)
    else if !(["setLevel", "unbind", "try_unbind", "isEnabledFor", "getChild"] ++ takesRecord ++ silent).contains r.method then
      .error (.missingAttribute ("'BoundLogger' object has no attribute '" ++ r.method ++ "'"))
    else if !r.values.isEmpty then wrongArguments
    else if takesRecord.contains r.method then .error (.missingAttribute "no attribute 'levelno'")
    else
      match r.method, r.event with
      | "setLevel", v => do .ok (← t.setOwn l v, none)
      | "unbind", v =>
        if !v.canBeKey then wrongArguments
        else if l.bound.any fun f => (Value.text f.1).equals false v then .ok (t, none)
        else .error (.missingKey v)
      | "try_unbind", v => if v.canBeKey then .ok (t, none) else wrongArguments
      | "isEnabledFor", .bool _ | "isEnabledFor", .int _ | "isEnabledFor", .float _ => .ok (t, none)
      | "isEnabledFor", _ => wrongArguments
      | "getChild", .text _ => .ok (t, none)
      | "getChild", _ => wrongArguments
      | _, _ => .ok (t, none)

/-- The calls among requests that the thresholds let through. -/
def answerAll (l : Logger) (t : Thresholds) : List LogRequest → Outcome (List LogCall)
  | [] => .ok []
  | r :: rest => do
    let (t, c) ← l.answer t r
    let others ← l.answerAll t rest
    .ok ((c.filter fun c => t.effective ≤ c.level.rank).toList ++ others)

/-- The calls that a logger of a name lets through. The logger is made when the first value is bound to it or the
    first request comes. Two names cannot be bound. -/
def session (all : Int) (name : Value) (bound : Fields) (requests : List LogRequest) :
    Outcome (Logger × List LogCall) :=
  if bound.any fun f => f.1 == "name" || f.1 == "self" then wrongArguments
  else if bound.isEmpty && requests.isEmpty then .ok (⟨"", []⟩, [])
  else do
    let l ← make name bound
    .ok (l, ← l.answerAll ⟨all, 0⟩ requests)

end Logger
end JobScheduling
