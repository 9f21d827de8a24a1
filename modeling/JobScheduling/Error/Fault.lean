import JobScheduling.Cron.Field
import JobScheduling.Error.Kind
import JobScheduling.Value.Written

/-!
What can go wrong. A *problem* is an error of this library, held as its cause; its kind, message and detail are
computed from that. A *fault* is a problem or one of the general failures of the values, files and jobs that
the library deals with. An operation that may fail has an `Outcome`.
-/

namespace JobScheduling

/-! ### Causes -/

/-- Why a cron expression cannot be read. -/
inductive ExpressionFlaw where
  | notText
  | unknownAlias (written : String)
  | fieldCount (count : Nat)
  | emptyElement
  | stepNotPositive (written : String)
  | misplacedOpen
  | descendingRange (written : String)
  | outOfRange (field : Cron.Field) (value : Nat)
  | unrecognized (written : String)

/-- Why an input is refused. -/
inductive InputFlaw where
  | noTime
  | truthValueTime
  | unsupportedTime (typeName : String)
  | unknownZone (written : String)
  | unsupportedZone (typeName : String)
  | anonymousZone (shown : String)
  | clockNeedsZone
  | emptyJobId
  | runNeedsZone
  | emptyRecurringId
  | noWorkItems
  | notBetween (name : String) (low high : Nat) (value : Value)

/-- Why a unit of work cannot be captured. -/
inductive TargetFlaw where
  | path (shown : String)
  | method (shown : String)
  | notImportable (shown : String)
  | notService (shown : String)
  | noMethod (service shownMethod : String)
  | keywordArguments
  | notCallable (shown : String)

/-- Why a stored payload cannot be used. -/
inductive PayloadFlaw where
  | cannotImport (path : String)
  | malformedTarget (shown : String)
  | unknownKind (shown : String)
  | malformedDefinition (shown : String)
  | argumentsNotList

mutual

/-- An error of this library. -/
inductive Problem where
  | expression (written : String) (flaw : ExpressionFlaw) (field : Option Cron.Field)
  | unreachable (written : String) (lookahead : Value)
  | input (flaw : InputFlaw)
  | target (flaw : TargetFlaw)
  | emptyWorkItems
  | payload (flaw : PayloadFlaw) (cause : Option Fault)
  | recurringPayload (cause : Fault)
  | notInitialized
  | alreadyInitialized
  | missingSetting (name : String)
  | invalidSetting (name : String) (value : Value) (reason : String) (cause : Option Fault)
  | loading (settings : String) (cause : Fault)

/-- A failure of an operation. -/
inductive Fault where
  | problem (p : Problem)
  | badValue (text : String)
  | badType (text : String)
  | missingKey (key : Value)
  | missingAttribute (text : String)
  | overflow (text : String)
  | jobFailed (text : String)
  | disconnected (text : String)
  | timedOut (text : String)
  | cutShort (needed : Nat)
  | noModule (text : String)
  | notImportable (text : String)
  | assertion (text : String)
  | system (text : String)
  | divisionByZero
  | missingIndex
  | notEncoded
  | notDecoded
  | unknownEncoding
  | dispatching
  | notDispatching
  /-- Nothing that anybody is told of: the operation never ends. -/
  | endless

end

instance : Inhabited Fault := ⟨.badValue ""⟩

/-- The result of an operation that may fail. -/
abbrev Outcome (α : Type) : Type := Except Fault α

/-- The failure of a call with arguments that do not fit. -/
def wrongArguments {α : Type} : Outcome α := .error (.badType "wrong arguments")

/-! ### Messages -/

/-- The reason that a message about a cron expression gives. -/
def ExpressionFlaw.reason : ExpressionFlaw → String
  | notText => "expression must be a string"
  | unknownAlias written => "unrecognized alias " ++ Text.quoted written
  | fieldCount count => "expected 5 or 6 fields, got " ++ toString count
  | emptyElement => "empty list element"
  | stepNotPositive written => "step must be positive, got " ++ Text.quoted written
  | misplacedOpen => "'?' is only allowed alone in day fields"
  | descendingRange written => "descending range " ++ Text.quoted written
  | outOfRange field value =>
    field.name ++ " value " ++ toString value ++ " outside " ++ toString field.low ++ "-" ++ toString field.high
  | unrecognized written => "unrecognized value " ++ Text.quoted written

/-- The message about a refused input. -/
def InputFlaw.message : InputFlaw → String
  | noTime => "A time value is required"
  | truthValueTime => "Booleans are not time values"
  | unsupportedTime typeName => "Unsupported time value of type " ++ typeName
  | unknownZone written => "Unknown time zone " ++ Text.quoted written
  | unsupportedZone typeName => "Unsupported zone hint of type " ++ typeName
  | anonymousZone shown => "Time zone " ++ shown ++ " has no portable identifier"
  | clockNeedsZone => "FrozenClock requires a timezone-aware datetime"
  | emptyJobId => "JobId must not be empty"
  | runNeedsZone => "ScheduledJob.run_at must be timezone-aware"
  | emptyRecurringId => "Recurring job id must be a non-empty string"
  | noWorkItems => "A work item collection is required"
  | notBetween name low high value =>
    name ++ " must be an integer in " ++ toString low ++ "-" ++ toString high ++ ", got " ++ value.described

/-- The message about a unit of work that cannot be captured. -/
def TargetFlaw.message : TargetFlaw → String
  | path shown => "Expected a 'module:qualname' path, got " ++ shown
  | method shown => "Invalid method name " ++ shown
  | notImportable shown => shown ++ " cannot be imported by name; use a module-level function or a method"
  | notService shown => "Expected a service type, got " ++ shown
  | noMethod service shownMethod => service ++ " has no method " ++ shownMethod
  | keywordArguments => "functools.partial keyword arguments cannot be captured"
  | notCallable shown => "Cannot capture " ++ shown ++ ": expected a callable or a job target"

/-- The message about a payload that cannot be used. -/
def PayloadFlaw.message : PayloadFlaw → String
  | cannotImport path => "Cannot import job target " ++ Text.quoted path
  | malformedTarget shown => "Malformed job target " ++ shown
  | unknownKind shown => "Unknown job target kind " ++ shown
  | malformedDefinition shown => "Malformed job definition " ++ shown
  | argumentsNotList => "Job arguments must be a list"

/-- The kind of payload that a flaw was found in. -/
def PayloadFlaw.payloadType : PayloadFlaw → String
  | cannotImport _ | malformedTarget _ | unknownKind _ => "job_target"
  | malformedDefinition _ | argumentsNotList => "job_definition"

/-- A message followed by its detail as JSON, where there is any. -/
def withDetail (message : String) (detail : List (String × Value)) : String :=
  if detail.isEmpty then message
  else message ++ " " ++ String.ofList ((Value.ofFields detail).json?.getD [])

/-- The structured context of an error. -/
def Problem.detail : Problem → List (String × Value)
  | expression written _ field =>
    ("expression", .text written) :: (field.map fun f => ("field", Value.text f.name)).toList
  | unreachable written lookahead => [("expression", .text written), ("lookahead_years", lookahead)]
  | missingSetting name => [("setting", .text name)]
  | invalidSetting name _ reason _ => [("setting", .text name), ("reason", .text reason)]
  | _ => []

mutual

/-- The message of an error, without its detail. -/
def Problem.message : Problem → String
  | .expression written flaw _ => "Invalid cron expression " ++ Text.quoted written ++ ": " ++ flaw.reason
  | .unreachable written lookahead =>
    "Cron expression " ++ Text.quoted written ++ " has no occurrence within " ++ lookahead.plain ++ " years"
  | .input flaw => flaw.message
  | .target flaw => flaw.message
  | .emptyWorkItems => "At least one work item is required"
  | .payload flaw _ => flaw.message
  | .recurringPayload cause => "Malformed recurring job payload: " ++ cause.text
  | .notInitialized => "The job scheduler has not been initialized. " ++
      "Call mp_jobs.background.configure() during application startup."
  | .alreadyInitialized => "A job scheduler is already bound; call unbind() first"
  | .missingSetting name => "Required setting " ++ Text.quoted name ++ " is missing"
  | .invalidSetting name value reason _ =>
    "Setting " ++ Text.quoted name ++ "=" ++ value.described ++ " is invalid: " ++ reason
  | .loading settings cause => "Failed to load " ++ settings ++ ": " ++ cause.text

/-- The text of a failure: for an error of this library the message and its detail. -/
def Fault.text : Fault → String
  | .problem p => withDetail p.message p.detail
  | .missingKey key => key.described
  | .cutShort needed => "unpack requires a buffer of " ++ toString needed ++ " bytes"
  | .badValue text | .badType text | .missingAttribute text | .overflow text | .jobFailed text
  | .disconnected text | .timedOut text | .noModule text | .notImportable text | .assertion text
  | .system text => text
  | .divisionByZero => "division by zero"
  | .missingIndex => "index out of range"
  | .notEncoded => "the text has no form in the encoding"
  | .notDecoded => "the bytes are no text of the encoding"
  | .unknownEncoding => "unknown encoding"
  | .dispatching => "Scheduler is already running"
  | .notDispatching => "Scheduler is not running"
  | .endless => ""

end

/-! ### Kinds -/

/-- The kind of an error. -/
def Problem.kind : Problem → ErrorKind
  | expression .. => .scheduleExpression
  | unreachable .. => .scheduleUnreachable
  | input _ => .validation
  | target _ => .jobTarget
  | emptyWorkItems => .emptyWorkItems
  | payload .. | recurringPayload _ => .serialization
  | notInitialized => .notInitialized
  | alreadyInitialized => .alreadyInitialized
  | missingSetting _ => .missingSetting
  | invalidSetting .. => .invalidSetting
  | loading .. => .configuration

/-- The failure that led to an error. -/
def Problem.cause? : Problem → Option Fault
  | payload _ cause | invalidSetting _ _ _ cause => cause
  | recurringPayload cause | loading _ cause => some cause
  | _ => none

/-- The kind of payload that an error is about. -/
def Problem.payloadType? : Problem → Option String
  | payload flaw _ => some flaw.payloadType
  | recurringPayload _ => some "recurring_job"
  | _ => none

/-- The name under which a failure is reported. -/
def Fault.name : Fault → String
  | problem p => p.kind.name
  | badValue _ => "ValueError"
  | badType _ => "TypeError"
  | missingKey _ => "KeyError"
  | missingAttribute _ => "AttributeError"
  | overflow _ => "OverflowError"
  | jobFailed _ => "RuntimeError"
  | disconnected _ => "ConnectionError"
  | timedOut _ => "TimeoutError"
  | cutShort _ => "struct.error"
  | noModule _ => "ModuleNotFoundError"
  | notImportable _ => "ImportError"
  | assertion _ => "AssertionError"
  | system _ => "OSError"
  | divisionByZero => "ZeroDivisionError"
  | missingIndex => "IndexError"
  | notEncoded => "UnicodeEncodeError"
  | notDecoded => "UnicodeDecodeError"
  | unknownEncoding => "LookupError"
  | dispatching => "SchedulerAlreadyRunningError"
  | notDispatching => "SchedulerNotRunningError"
  | endless => ""

/-- Whether a failure is an error about settings. -/
def Fault.isConfiguration : Fault → Bool
  | problem p => p.kind.lineage.contains .configuration
  | _ => false

/-- Whether a failure is an error about a refused input. -/
def Fault.isValidation : Fault → Bool
  | problem p => p.kind.lineage.contains .validation
  | _ => false

end JobScheduling
