import JobScheduling.Proofs.Cron.Kept
import JobScheduling.Proofs.Cron.Occurrence
import JobScheduling.Proofs.Job.Restored
import JobScheduling.Proofs.Zone.Kept
import JobScheduling.Recurring.Definition
import JobScheduling.Recurring.Trigger

/-! Recurring jobs and triggers that are stored and read again. What is stored names the schedule by the text that it
    keeps and the zone by its identifier; both are read as they were, also on another machine that has the same files,
    and no occurrence depends on the machine. But a zone of a rule or of a file is the same one again only as long as
    the machine keeps it. -/

namespace JobScheduling

variable {h g : Host}

/-! ### Occurrences on two machines -/

theorem Host.toInstant_zone (h g : Host) (t : TimeValue) {y z : Zone} (hyz : y.offsets = z.offsets) :
    g.toInstant t (.zone y) = h.toInstant t (.zone z) := by
  cases t with
  | stamp s =>
    simp only [Host.toInstant, Host.resolve, Outcome.ok_bind, hyz]
  | span d => rfl
  | value v => cases v <;> rfl

theorem Cron.nextOccurrence_zone (h g : Host) (s : Schedule) (after : TimeValue) {y z : Zone}
    (hyz : y.offsets = z.offsets) (lookahead : Value) :
    nextOccurrence g s after (.zone y) lookahead = nextOccurrence h s after (.zone z) lookahead := by
  have hinstant := Host.toInstant_zone h g after hyz
  simp only [nextOccurrence, resolve_zone, Outcome.ok_bind, hinstant, hyz]

/-! ### Summer time by a rule -/

/-- The summer time of central Europe, from the last Sunday of March to that of October. -/
def everySummer : Rule := ⟨3600, some ⟨7200, ⟨.ofWeek 3 5 0, 7200⟩, ⟨.ofWeek 10 5 0, 10800⟩⟩⟩

/-- How it is written. -/
def summerRule : String := "CET-1CEST,M3.5.0,M10.5.0/3"

/-- What writes a rule and is no other name means the zone of the rule. -/
theorem found_summerRule : (default : Host).found summerRule = .ok (some (.kept .rule (.ofRule everySummer))) := by
  have hutc : Text.upper summerRule.toList ≠ ['U', 'T', 'C'] := by decide +kernel
  have hoffset : utcOffset? summerRule.toList = none := by decide +kernel
  have hregion : (default : Host).region? summerRule = .ok none := by rfl
  have hfile : (default : Host).file? summerRule.toList = none := by decide +kernel
  have hrule : Rule.ofKey? summerRule.toList = some everySummer := by decide +kernel
  simp only [Host.found, if_neg hutc, hoffset, hregion, hfile, hrule]
  rfl

/-! ### Recurring jobs -/

namespace RecurringJob

variable {r : RecurringJob} {written name : String}

theorem equals_of_zone {q : RecurringJob} (hid : q.id = r.id) (hjob : q.job = r.job) (hschedule : q.schedule = r.schedule) :
    q.equals true r = q.zone.same r.zone := by
  simp only [equals, hid, hjob, hschedule, Value.equals_self, JobDefinition.equals_self, beq_self_eq_true, Bool.true_and]

theorem ofValue_fields {id : Value} {job : JobDefinition} {schedule : Cron.Schedule} {zoneName : String} {z : Zone}
    (hschedule : Cron.parse schedule.expression = .ok schedule) (hzone : g.resolve (.text zoneName) = .ok z)
    (htarget : job.target.Accepted) :
    ofValue g (.ofFields [("id", id), ("job", job.toValue), ("cron", .text schedule.expression),
      ("zone", .text zoneName)]) = .ok ⟨id, job, schedule, z⟩ := by
  have hparts : parts g (.ofFields [("id", id), ("job", job.toValue), ("cron", .text schedule.expression),
      ("zone", .text zoneName)]) = (JobDefinition.ofValue job.toValue >>= fun job =>
        Cron.parse schedule.expression >>= fun schedule => g.resolve (.text zoneName) >>= fun z =>
          .ok ⟨id, job, schedule, z⟩) := rfl
  rw [ofValue, hparts, JobDefinition.ofValue_toValue htarget, hschedule, hzone]
  rfl

/-- The first of every month by the rule of summer time. -/
def monthlyCount : RecurringJob where
  id := .text "monthly"
  job := ⟨.service "shop:Counter" "add", [.int 5, .float .nan]⟩
  schedule := ⟨"@Monthly", [0], [0], [0], [1], List.range' 1 12, List.range' 0 7, true, false⟩
  zone := .table 1 summerRule (.ofRule everySummer)

/-- As many other rules as there is room for. -/
def otherRules : List String :=
  (List.range 64).map fun i => String.ofList ['Z', Char.ofNat (65 + i / 8), Char.ofNat (65 + i % 8), '0']

theorem displaced_otherRules : (default : Host).Displaced summerRule otherRules := by
  have hplace : (default : Host).place? summerRule = some .rule := by simp only [Host.place?, found_summerRule]
  have hrules : ∀ rule ∈ otherRules, (default : Host).place? rule = some .rule := by decide +kernel
  have hcard : ((default : Host).ofPlace .rule otherRules).card = 64 := by
    unfold Host.ofPlace
    rw [List.filter_eq_self.mpr fun rule hrule => decide_eq_true (hrules rule hrule),
      List.toFinset_card_of_nodup (by decide +kernel)]
    rfl
  exact ⟨.rule, otherRules, hplace, List.infix_refl _, by decide +kernel, hcard.ge⟩

end RecurringJob

/-! ### Triggers -/

namespace CronTrigger

variable {t : CronTrigger} {written name : String}

theorem nextTime_of_unnumbered {q : CronTrigger} (hschedule : q.schedule = t.schedule)
    (hlookahead : q.lookahead = t.lookahead) (hzone : q.zone.unnumbered = t.zone.unnumbered) {id : String}
    (hidentifier : ∀ g : Host, g.zoneId t.zone = .ok id) (previous now : TimeValue) :
    q.nextTime g previous now = t.nextTime h previous now := by
  have hsearch : q.search g previous now = t.search h previous now := by
    simp only [search, hschedule, hlookahead, Cron.nextOccurrence_zone h g _ _ (Zone.offsets_of_unnumbered hzone)]
  simp only [nextTime, hsearch, hschedule, Zone.zoneId_of_unnumbered hzone, hidentifier]

theorem ofValue_fields {schedule : Cron.Schedule} {zoneName : String} {z : Zone} {lookahead : Value}
    (hschedule : Cron.parse schedule.expression = .ok schedule) (hzone : g.resolve (.text zoneName) = .ok z) :
    ofValue g (.ofFields [("version", .int stateVersion), ("expression", .text schedule.expression),
      ("zone", .text zoneName), ("lookahead_years", lookahead)]) = .ok ⟨schedule, z, lookahead⟩ := by
  have hsteps : ofValue g (.ofFields [("version", .int stateVersion), ("expression", .text schedule.expression),
      ("zone", .text zoneName), ("lookahead_years", lookahead)]) = (Cron.parse schedule.expression >>= fun schedule =>
        g.resolve (.text zoneName) >>= fun z => .ok ⟨schedule, z, lookahead⟩) := rfl
  rw [hsteps, hschedule, hzone]
  rfl

/-- A trigger of an expression, in a zone that is named, has a state, and the trigger that is made from it wherever the
    files are the same has its text and gives its answers, however often and for whatever times both are asked. -/
theorem ofValue_toValue_answers (hschedule : Cron.parse written = .ok t.schedule) (hname : name ≠ "")
    (hzone : h.resolve (.text name) = .ok t.zone) (hfiles : g.SameFiles h) :
    ∃ state restored text, t.toValue h = .ok state ∧ ofValue g state = .ok restored ∧
      t.text h = .ok text ∧ restored.text g = .ok text ∧
      ∀ calls : List (TimeValue × TimeValue),
        calls.map (fun c => restored.nextTime g c.1 c.2) = calls.map (fun c => t.nextTime h c.1 c.2) := by
  obtain ⟨id, hid, -, hidentifier, hagain⟩ := Host.exists_identifier_of_resolve hname hzone
  obtain ⟨again, hresolved, hunnumbered⟩ := hagain g hfiles
  have hstate : t.toValue h = .ok (.ofFields [("version", .int stateVersion),
      ("expression", .text t.schedule.expression), ("zone", .text id), ("lookahead_years", t.lookahead)]) := by
    rw [toValue, hidentifier h]
    rfl
  have htext {q : CronTrigger} (g : Host) (hsame : q.schedule = t.schedule)
      (hzone : q.zone.unnumbered = t.zone.unnumbered) :
      q.text g = .ok ("cron[" ++ t.schedule.expression ++ ", zone=" ++ id ++ "]") := by
    rw [text, Zone.zoneId_of_unnumbered hzone, hidentifier g, hsame]
    rfl
  refine ⟨_, ⟨t.schedule, again, t.lookahead⟩, _, hstate, ofValue_fields (Cron.parse_expression hschedule) hresolved,
    htext h rfl rfl, htext g rfl hunnumbered, fun calls => List.map_congr_left fun c _ => ?_⟩
  exact nextTime_of_unnumbered (q := ⟨t.schedule, again, t.lookahead⟩) (t := t) rfl rfl hunnumbered hidentifier c.1 c.2

/-- Every workday at nine by the rule of summer time. -/
def workdays : CronTrigger where
  schedule := ⟨"0 9 * * mon-fri", [0], [0], [9], List.range' 1 31, List.range' 1 12, List.range' 1 5, false, true⟩
  zone := .table 1 summerRule (.ofRule everySummer)
  lookahead := .int 5

/-- A zone that is known by the rule itself. -/
theorem ofValue_toValue_answers_workdays : ∃ state restored text, workdays.toValue default = .ok state ∧
    ofValue default state = .ok restored ∧ workdays.text default = .ok text ∧ restored.text default = .ok text ∧
    ∀ calls : List (TimeValue × TimeValue),
      calls.map (fun c => restored.nextTime default c.1 c.2) = calls.map (fun c => workdays.nextTime default c.1 c.2) := by
  have hparse : Cron.parse "0 9 * * mon-fri " = .ok workdays.schedule := by rfl
  have hname : summerRule ≠ "" := by decide
  exact ofValue_toValue_answers hparse hname (Host.resolve_of_found hname found_summerRule) .rfl

end CronTrigger
end JobScheduling
