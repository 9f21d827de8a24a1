import JobScheduling.Calendar.Span
import JobScheduling.Catalogue.Shop
import JobScheduling.Cron.Builder
import JobScheduling.Cron.Occurrence
import JobScheduling.Cron.Parser
import JobScheduling.Error.Fault
import JobScheduling.Error.Report
import JobScheduling.Job.Batch
import JobScheduling.Job.Run
import JobScheduling.Log.Console
import JobScheduling.Log.Record
import JobScheduling.Log.Request
import JobScheduling.Number.Literal
import JobScheduling.Number.Shortest
import JobScheduling.Proofs.Catalogue.Import
import JobScheduling.Proofs.Cron.Overlong
import JobScheduling.Proofs.Cron.Reordered
import JobScheduling.Proofs.Cron.Spacing
import JobScheduling.Proofs.Cron.Walk
import JobScheduling.Proofs.Job.Deferred
import JobScheduling.Proofs.Job.Due
import JobScheduling.Proofs.Job.Marked
import JobScheduling.Proofs.Job.Normalized
import JobScheduling.Proofs.Job.OnDemand
import JobScheduling.Proofs.Job.Payload
import JobScheduling.Proofs.Recurring.Restored
import JobScheduling.Proofs.Recurring.Signature
import JobScheduling.Proofs.Recurring.Unreachable
import JobScheduling.Proofs.Recurring.Usage
import JobScheduling.Proofs.Scheduler.Binding
import JobScheduling.Proofs.Scheduler.HandedTrigger
import JobScheduling.Proofs.Settings.Typed
import JobScheduling.Proofs.Storage.Due
import JobScheduling.Proofs.Zone.Identifier
import JobScheduling.Proofs.Zone.LocalTime
import JobScheduling.Proofs.Zone.Unreadable
import JobScheduling.Recurring.Definition
import JobScheduling.Recurring.Registry
import JobScheduling.Scheduler.Basic
import JobScheduling.Scheduler.Clock
import JobScheduling.Scheduler.Facade
import JobScheduling.Text.Identifier
import JobScheduling.Text.LetterCase
import JobScheduling.Text.Lines
import JobScheduling.Text.Printable
import JobScheduling.Text.Quoted
import JobScheduling.Text.Trim
import JobScheduling.Value.Written
import JobScheduling.Zone.Region
import JobScheduling.Zone.Stamp
