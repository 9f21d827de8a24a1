/-!
The kinds of error of this library, each a special case of another up to the root. A kind has a name under
which it is reported and a code for machines.
-/

namespace JobScheduling

/-- A kind of error. -/
inductive ErrorKind where
  | root
  | domain
  | validation
  | scheduleExpression
  | scheduleUnreachable
  | jobTarget
  | emptyWorkItems
  | application
  | notInitialized
  | alreadyInitialized
  | infrastructure
  | serialization
  | configuration
  | missingSetting
  | invalidSetting
deriving DecidableEq, Repr, Inhabited

namespace ErrorKind

/-- All kinds of error. -/
def all : List ErrorKind :=
  [root, domain, validation, scheduleExpression, scheduleUnreachable, jobTarget, emptyWorkItems, application,
    notInitialized, alreadyInitialized, infrastructure, serialization, configuration, missingSetting,
    invalidSetting]

/-- The name under which an error of a kind is reported. -/
def name : ErrorKind → String
  | root => "BaseError"
  | domain => "DomainError"
  | validation => "ValidationError"
  | scheduleExpression => "InvalidScheduleExpression"
  | scheduleUnreachable => "ScheduleUnreachable"
  | jobTarget => "InvalidJobTarget"
  | emptyWorkItems => "EmptyWorkItemCollection"
  | application => "ApplicationError"
  | notInitialized => "SchedulerNotInitialized"
  | alreadyInitialized => "SchedulerAlreadyInitialized"
  | infrastructure => "InfrastructureError"
  | serialization => "SerializationError"
  | configuration => "ConfigError"
  | missingSetting => "MissingRequiredSettingError"
  | invalidSetting => "InvalidSettingValueError"

/-- The code that an error of a kind has unless it is given another one. -/
def code : ErrorKind → String
  | root => "jobs_error"
  | domain => "domain_error"
  | validation => "validation_error"
  | scheduleExpression => "invalid_schedule_expression"
  | scheduleUnreachable => "schedule_unreachable"
  | jobTarget => "invalid_job_target"
  | emptyWorkItems => "empty_work_item_collection"
  | application => "application_error"
  | notInitialized => "scheduler_not_initialized"
  | alreadyInitialized => "scheduler_already_initialized"
  | infrastructure => "infrastructure_error"
  | serialization => "serialization_error"
  | configuration => "config_error"
  | missingSetting => "missing_required_setting"
  | invalidSetting => "invalid_setting_value"

/-- The kind of which a kind is a special case. -/
def parent? : ErrorKind → Option ErrorKind
  | root => none
  | domain => some root
  | validation => some domain
  | scheduleExpression => some validation
  | scheduleUnreachable => some domain
  | jobTarget => some validation
  | emptyWorkItems => some domain
  | application => some root
  | notInitialized => some application
  | alreadyInitialized => some application
  | infrastructure => some root
  | serialization => some infrastructure
  | configuration => some application
  | missingSetting => some configuration
  | invalidSetting => some configuration

/-- How many steps lead from a kind to the root. -/
def depth : ErrorKind → Nat
  | root => 0
  | domain | application | infrastructure => 1
  | validation | scheduleUnreachable | emptyWorkItems | notInitialized | alreadyInitialized | serialization
  | configuration => 2
  | scheduleExpression | jobTarget | missingSetting | invalidSetting => 3

/-- A kind and at most `steps` of those of which it is a special case, the nearest first. -/
def walk : Nat → ErrorKind → List ErrorKind
  | 0, k => [k]
  | steps + 1, k => k :: (k.parent?.map (walk steps)).getD []

/-- The kind and those of which it is a special case, up to the root. -/
def lineage (k : ErrorKind) : List ErrorKind := walk k.depth k

end ErrorKind
end JobScheduling
