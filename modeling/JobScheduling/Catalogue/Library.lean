import JobScheduling.Catalogue.Outline
import JobScheduling.Cron.Builder
import JobScheduling.Error.Kind
import JobScheduling.Storage.Dispatcher

/-!
The library itself as modules that can be imported, in outline: each part with what it defines, and each group of
parts with the names that it shows of them. Of what is defined the builders of cron expressions can be called.
-/

namespace JobScheduling
namespace Library

/-! ### Outlines -/

/-- The name of the whole. -/
def root : String := "mp_jobs"

/-- The full name of a part. -/
def fullName (name : String) : String := if name = "" then root else root ++ "." ++ name

/-- The parts and the groups of parts, in outline. -/
def outlines : List Outline :=
  [{ name := "", values := [("__version__", .text "0.1.0")] },
   { name := "adapters" },
   { name := "adapters.apscheduler" },
   { name := "adapters.apscheduler.storage", routines := ["use_resolver perform"],
     types := ["APSchedulerJobStorage"],
     methods := [("APSchedulerJobStorage",
       ["__init__ persist persist_recurring remove_recurring start shutdown"])],
     properties := [("APSchedulerJobStorage", "running")],
     values := [("RECURRING_PREFIX", .text "recurring:"),
                ("PERFORM_REF", .text DispatchedJob.function)],
     others := [("log", "BoundLoggerLazyProxy")] },
   { name := "adapters.apscheduler.trigger", types := ["CronScheduleTrigger"],
     methods := [("CronScheduleTrigger", ["__init__ get_next_fire_time __getstate__ __setstate__ __str__",
                                          "__repr__"])],
     others := [("log", "BoundLoggerLazyProxy")] },
   { name := "application" },
   { name := "application.cron" },
   { name := "application.cron.builder", types := ["Cron"],
     methods := [("Cron", ["minutely every_minutes hourly daily weekly monthly yearly"])] },
   { name := "application.cron.engine", routines := ["next_occurrence occurrences"],
     values := [("DEFAULT_LOOKAHEAD_YEARS", .int 5)] },
   { name := "application.cron.expression", routines := ["parse"], types := ["CronSchedule"],
     records := ["CronSchedule"],
     methods := [("CronSchedule", ["matches_day __str__"])],
     kept := [("CronSchedule", [("day_of_month_restricted", .bool false),
                                ("day_of_week_restricted", .bool false)])] },
   { name := "application.jobs" },
   { name := "application.jobs.capture", routines := ["service_method to_target capture capture_for_each"],
     others := [("Work", "_UnionGenericAlias")] },
   { name := "application.jobs.definition", routines := ["import_path target_from_dict"],
     types := ["ServiceResolver DefaultServiceResolver StaticInvocation ServiceInvocation JobDefinition",
               "ScheduledJob"],
     records := ["StaticInvocation ServiceInvocation JobDefinition ScheduledJob"],
     methods := [("ServiceResolver", ["resolve"]),
                 ("DefaultServiceResolver", ["resolve"]),
                 ("StaticInvocation", ["__post_init__ describe load to_dict"]),
                 ("ServiceInvocation", ["__post_init__ describe load to_dict"]),
                 ("JobDefinition", ["describe load to_dict from_dict"]),
                 ("ScheduledJob", ["__post_init__ is_due to_dict"])],
     properties := [("JobDefinition", "parameter signature")],
     kept := [("StaticInvocation", [("kind", .text "static")]),
              ("ServiceInvocation", [("kind", .text "service")])],
     others := [("T", "TypeVar"), ("JobTarget", "_UnionGenericAlias")] },
   { name := "application.recurring" },
   { name := "application.recurring.definition", types := ["RecurringJobDefinition"],
     records := ["RecurringJobDefinition"],
     methods := [("RecurringJobDefinition", ["next_run to_dict from_dict"])],
     properties := [("RecurringJobDefinition", "cron zone_id")] },
   { name := "application.recurring.registry", routines := ["derive_recurring_id"],
     types := ["RecurringJobRegistry"],
     methods := [("RecurringJobRegistry", ["__init__ schedule_recurringly delete_recurringly get ids",
                                           "definitions next_runs __contains__ __len__"])],
     others := [("log", "BoundLoggerLazyProxy")] },
   { name := "application.scheduler" },
   { name := "application.scheduler.facade",
     routines := ["configure bind unbind is_configured current enqueue enqueue_for_each schedule",
                  "schedule_recurringly delete_recurringly"],
     types := ["SchedulerBinding"],
     methods := [("SchedulerBinding", ["__init__ bind unbind get"])],
     properties := [("SchedulerBinding", "is_bound")],
     others := [("log", "BoundLoggerLazyProxy")] },
   { name := "application.scheduler.in_memory", types := ["InMemoryJobStorage"],
     methods := [("InMemoryJobStorage", ["__init__ persist persist_recurring remove_recurring get",
                                         "scheduled_jobs recurring_jobs due clear"])] },
   { name := "application.scheduler.scheduler", types := ["JobScheduler"],
     methods := [("JobScheduler", ["__init__ enqueue enqueue_for_each schedule schedule_recurringly",
                                   "delete_recurringly"])],
     properties := [("JobScheduler", "storage registry settings")],
     others := [("log", "BoundLoggerLazyProxy")] },
   { name := "application.scheduler.storage", types := ["JobStorage"],
     methods := [("JobStorage", ["persist persist_recurring remove_recurring"])] },
   { name := "background" },
   { name := "config" },
   { name := "config.errors" },
   { name := "config.loaders", types := ["SettingsLoader EnvSettingsLoader DotenvSettingsLoader"],
     methods := [("SettingsLoader", ["load"]),
                 ("EnvSettingsLoader", ["__init__ load"]),
                 ("DotenvSettingsLoader", ["__init__ load"])],
     others := [("T", "TypeVar")] },
   { name := "config.settings", types := ["Settings JobSchedulerSettings"],
     methods := [("Settings", ["__post_init__ __init__ __repr__ __eq__"]),
                 ("JobSchedulerSettings", ["__init__ __repr__ __eq__"])],
     properties := [("JobSchedulerSettings", "zone")],
     kept := [("Settings", [("__hash__", .null)]),
              ("JobSchedulerSettings", [("default_zone", .text ""), ("cron_lookahead_years", .int 5),
                                        ("log_level", .text "INFO"), ("log_json", .bool true),
                                        ("__hash__", .null)])] },
   { name := "kernel" },
   { name := "kernel.errors" },
   { name := "kernel.errors.application" },
   { name := "kernel.errors.base" },
   { name := "kernel.errors.domain" },
   { name := "kernel.errors.infrastructure" },
   { name := "kernel.time" },
   { name := "kernel.time.clock", routines := ["utc_now"], types := ["Clock SystemClock FrozenClock"],
     methods := [("Clock", ["now"]),
                 ("SystemClock", ["now"]),
                 ("FrozenClock", ["__init__ now advance set"])] },
   { name := "kernel.time.normalizer",
     routines := ["local_zone resolve_zone zone_id to_utc_instant to_local wall_clock_instants",
                  "first_instant_after_gap"],
     others := [("TimeValue", "_UnionGenericAlias"), ("ZoneHint", "_UnionGenericAlias")] },
   { name := "kernel.types" },
   { name := "kernel.types.ids", types := ["_StrId JobId"], records := ["_StrId JobId"],
     methods := [("_StrId", ["__post_init__ __str__"]),
                 ("JobId", ["generate"])] },
   { name := "observability" },
   { name := "observability.logging" },
   { name := "observability.logging.factory", types := ["JsonLoggerFactory"],
     methods := [("JsonLoggerFactory", ["configure"])] },
   { name := "observability.logging.processors", routines := ["get_logger bound_job_context"] },
   { name := "testing" },
   { name := "testing.fakes", routines := ["FakeClock"], types := ["FailingJobStorage"],
     methods := [("FailingJobStorage", ["__init__ persist persist_recurring remove_recurring"])] }]

/-- The names that a group shows of its parts. -/
def shown : List (String × List String) :=
  [("adapters.apscheduler",
     ["PERFORM_REF RECURRING_PREFIX APSchedulerJobStorage perform use_resolver CronScheduleTrigger"]),
   ("application",
     ["Cron CronSchedule next_occurrence occurrences parse JobDefinition ScheduledJob ServiceInvocation",
      "StaticInvocation capture capture_for_each service_method RecurringJobDefinition RecurringJobRegistry",
      "InMemoryJobStorage JobScheduler JobStorage"]),
   ("application.cron", ["Cron DEFAULT_LOOKAHEAD_YEARS next_occurrence occurrences CronSchedule parse"]),
   ("application.jobs",
     ["Work capture capture_for_each service_method to_target DefaultServiceResolver JobDefinition JobTarget",
      "ScheduledJob ServiceInvocation ServiceResolver StaticInvocation import_path target_from_dict"]),
   ("application.recurring", ["RecurringJobDefinition RecurringJobRegistry derive_recurring_id"]),
   ("application.scheduler", ["InMemoryJobStorage JobScheduler JobStorage"]),
   ("background",
     ["SchedulerBinding bind configure current delete_recurringly enqueue enqueue_for_each is_configured",
      "schedule schedule_recurringly unbind"]),
   ("config",
     ["ConfigError InvalidSettingValueError MissingRequiredSettingError DotenvSettingsLoader EnvSettingsLoader",
      "SettingsLoader JobSchedulerSettings Settings"]),
   ("kernel",
     ["ApplicationError BaseError DomainError EmptyWorkItemCollection InfrastructureError InvalidJobTarget",
      "InvalidScheduleExpression ScheduleUnreachable SchedulerAlreadyInitialized SchedulerNotInitialized",
      "SerializationError ValidationError JobId"]),
   ("kernel.errors",
     ["ApplicationError SchedulerAlreadyInitialized SchedulerNotInitialized BaseError DomainError",
      "EmptyWorkItemCollection InvalidJobTarget InvalidScheduleExpression ScheduleUnreachable ValidationError",
      "InfrastructureError SerializationError"]),
   ("kernel.time",
     ["Clock FrozenClock SystemClock utc_now TimeValue ZoneHint first_instant_after_gap local_zone resolve_zone",
      "to_local to_utc_instant wall_clock_instants zone_id"]),
   ("kernel.types", ["JobId"]),
   ("observability", ["JsonLoggerFactory bound_job_context get_logger"]),
   ("observability.logging", ["JsonLoggerFactory bound_job_context get_logger"]),
   ("testing", ["FailingJobStorage FakeClock"])]

/-- Types that take over the members of another. -/
def bases : List (String × String) :=
  [("FailingJobStorage", "InMemoryJobStorage"), ("JobSchedulerSettings", "Settings"), ("JobId", "_StrId"),
    ("EnvSettingsLoader", "SettingsLoader"), ("DotenvSettingsLoader", "SettingsLoader")]

/-! ### Functions -/

/-- The result of a builder of cron expressions for arguments in the order of its parameters. -/
def buildCron (name : String) (parameters : List (String × Option Value)) (args : List Value) : Outcome Value :=
  if parameters.length < args.length then wrongArguments
  else do .ok (.text (← Cron.build name ((parameters.map (·.1)).zip args)))

/-- The functions that are known by what they compute. -/
def computed : List (String × Value.Method) :=
  Cron.builders.map fun b => ("Cron." ++ b.1, buildCron b.1 b.2)

/-! ### Errors -/

/-- The kinds of error that are made in a way of their own. -/
def madeSpecially : List ErrorKind :=
  [.root, .scheduleExpression, .scheduleUnreachable, .emptyWorkItems, .notInitialized, .alreadyInitialized,
    .serialization, .missingSetting, .invalidSetting]

/-- The part that defines a kind of error. -/
def errorPart (k : ErrorKind) : String :=
  if k.lineage.contains .configuration then "config.errors"
  else if k.lineage.contains .application then "kernel.errors.application"
  else if k.lineage.contains .infrastructure then "kernel.errors.infrastructure"
  else if k.lineage.contains .domain then "kernel.errors.domain"
  else "kernel.errors.base"

/-- A kind of error as a type. -/
def errorType (k : ErrorKind) : DefinedType :=
  let routine := fun (owner : ErrorKind) (name : String) =>
    let r := Outline.routine (fullName (errorPart owner)) (owner.name ++ "." ++ name) none
    (name, OwnMember.routine .objects r)
  let maker := (k.lineage.find? madeSpecially.contains).getD .root
  { module := some (fullName (errorPart k)), qualname := k.name, base := "Exception"
    members := ("default_code", .value (.text k.code)) :: routine maker "__init__" ::
      ["__str__", "__repr__", "to_dict"].map (routine .root) }

/-- The kinds of error that a part defines. -/
def errorsOf (name : String) : List (String × Entity) :=
  (ErrorKind.all.filter fun k => fullName (errorPart k) == name).map fun k =>
    (k.name, .type (.defined (errorType k)))

/-! ### Modules -/

/-- The parts under their full names. -/
def parts : List Outline := outlines.map fun o => { o with name := fullName o.name }

/-- The members that a type takes over. -/
def inherited (typeName : String) : List (String × OwnMember DefinedType) :=
  match bases.lookup typeName with
  | some base => parts.flatMap fun o => o.ownMembers computed base
  | none => []

/-- The names that each part defines. -/
def definitions : List (String × List (String × Entity)) :=
  parts.map fun o => (o.name, o.members computed inherited ++ errorsOf o.name)

/-- What a name stands for in the part that defines it. -/
def definition? (name : String) : Option (String × Entity) :=
  (definitions.findSome? fun d => d.2.lookup name).map fun e => (name, e)

/-- A part with what it defines and shows, and the parts that belong to it, as deep as `depth` goes. -/
def module : Nat → String → Entity
  | 0, name => .module name []
  | depth + 1, name =>
    let own := (definitions.lookup name).getD []
    let group := shown.find? fun s => fullName s.1 == name
    let others := (Outline.words ((group.map (·.2)).getD [])).filterMap definition?
    let inner := parts.filterMap fun p =>
      let last := lastName p.name
      if p.name = name ++ "." ++ last then some (last, module depth p.name) else none
    .module name (own ++ others ++ inner)

/-- The library as modules that can be imported. -/
def modules : Catalogue := parts.map fun p => (p.name, module parts.length p.name)

end Library
end JobScheduling
