import Mathlib
import JobScheduling.Proofs.Recurring.Registration
import JobScheduling.Proofs.Recurring.Roster

/-! A registry in the hands of several callers. A call first looks at its arguments, and any number of calls may do so
    at the same time; then it has the registry to itself while it writes to the storage and to the roster. Whatever is
    written in whatever order, and whichever writes the storage refuses, roster and storage agree, and under an
    identifier stands what the last write for it that the storage took has left there. -/

namespace JobScheduling
namespace BackedRegistry

open Activity

/-! ### Calls -/

/-- A call that has accepted its arguments. -/
inductive Call where
  | registration (id : String) (job : RecurringJob)
  | removal (id : Value)

namespace Call

/-- What a call asks of the storage. -/
def write : Call → Activity JobStorage Unit
  | registration id job => JobStorage.persistRecurring id job
  | removal id => JobStorage.removeRecurring id

/-- What a call does while it has the registry to itself: it writes to the storage, then to the roster. It finds out
    whether there was a job under its identifier. -/
def turn : Call → Activity BackedRegistry Bool
  | registration id job => do
    throughSink (write (registration id job))
    let b ← state
    put (b.withRoster (b.roster.insert id job))
    return b.roster.contains id
  | removal id => do
    throughSink (write (removal id))
    let b ← state
    let (removed, roster) ← Activity.of (b.roster.pop id)
    put (b.withRoster roster)
    return removed.isSome

/-- The roster after a call. -/
def apply : Call → Roster → Outcome Roster
  | registration id job, r => .ok (r.insert id job)
  | removal id, r => do .ok (← r.pop id).2

/-- Whether a call is for an identifier. -/
def isFor (id : String) : Call → Bool
  | registration id' _ => id' == id
  | removal (.text id') => id' == id
  | removal _ => false

/-- The job that a call leaves under its identifier. -/
def job? : Call → Option RecurringJob
  | registration _ job => some job
  | removal _ => none

end Call

/-- A registration is its preparation, its turn, and what is logged of it. -/
theorem schedule_eq (h : Host) (now : Int) (job : JobDefinition) (cron given : Value) (zone : ZoneHint) :
    schedule h now job cron given zone = do
      let (id, recurring, run) ← Activity.of (prepare h now (← state).registry job cron given zone)
      let replaced ← (Call.registration id recurring).turn
      let call ← Activity.of job.describe
      let zoneId ← Activity.of (h.zoneId recurring.zone)
      log .info "recurring_job.registered"
        [("job", .text call), ("cron", .text recurring.schedule.expression), ("zone", .text zoneId),
          ("next_run", .text (Calendar.instantText run)), ("replaced", .bool replaced), ("recurring_id", .text id)]
      return id := by
  simp only [schedule, Call.turn, Call.write, bind_assoc, pure_bind]

theorem delete_eq (id : Value) : delete id = ((Call.removal id).turn >>= fun existed =>
    log .info "recurring_job.deleted" [("recurring_id", id), ("existed", .bool existed)]) := by
  simp only [delete, Call.turn, Call.write, bind_assoc, pure_bind]

section Whole
variable {p : Progress BackedRegistry}

/-- A registration with arguments that are accepted leads as far as its turn does. -/
theorem perform_schedule_eq_turn {h : Host} {now : Int} {job : JobDefinition} {cron given : Value} {zone : ZoneHint}
    {id : String} {r : RecurringJob} {run : Int}
    (hprepare : prepare h now p.state.registry job cron given zone = .ok (id, r, run)) :
    ((schedule h now job cron given zone).perform p).2.state = ((Call.registration id r).turn.perform p).2.state := by
  simp only [schedule_eq, perform_bind, perform_state, perform_of, hprepare]
  cases ((Call.registration id r).turn.perform p).1 with
  | error f => rfl
  | ok _ =>
    cases job.describe with
    | error f => rfl
    | ok _ => cases h.zoneId r.zone <;> rfl

theorem perform_delete_eq_turn (id : Value) :
    ((delete id).perform p).2.state = ((Call.removal id).turn.perform p).2.state := by
  simp only [delete_eq, perform_bind]
  cases ((Call.removal id).turn.perform p).1 <;> rfl

end Whole

/-! ### Turns -/

section Turn
variable {p : Progress BackedRegistry} {m : MemoryStorage} (hsink : p.state.sink = some (.memory m)) (c : Call)
include hsink

/-- A storage that takes writes changes as the roster would. -/
theorem perform_write_kept (hm : m.refusal = none) : (throughSink c.write).perform p =
    match c.apply m.recurring with
    | .ok r => (.ok (), { p with state := { p.state with sink := some (.memory { m with recurring := r }) } })
    | .error f => (.error f, p) := by
  obtain ⟨⟨registry, _⟩, n, events⟩ := p
  subst hsink
  cases c with
  | registration id job => exact perform_throughSink_kept rfl hm id job
  | removal id =>
    simp only [throughSink, Call.write, Call.apply, JobStorage.removeRecurring, JobStorage.split,
      MemoryStorage.removeRecurring, perform_bind, perform_state, perform_within, perform_guardWrite, perform_put,
      perform_of, hm]
    cases m.recurring.pop id <;> rfl

theorem perform_write_refused {f : Fault} (hm : m.refusal = some f) : ∃ refused, (throughSink c.write).perform p =
    (.error f, { p with state := { p.state with sink := some (.memory { m with refused }) } }) := by
  obtain ⟨⟨registry, _⟩, n, events⟩ := p
  subst hsink
  cases c with
  | registration id job => exact ⟨_, perform_throughSink_refused rfl hm id job⟩
  | removal id =>
    refine ⟨m.refused ++ ["remove_recurring"], ?_⟩
    simp only [throughSink, Call.write, JobStorage.removeRecurring, JobStorage.split, MemoryStorage.removeRecurring,
      perform_bind, perform_state, perform_within, perform_guardWrite, hm]

/-- A turn whose write the storage takes changes the roster as it changes the storage. -/
theorem perform_turn_of_ok (hstored : m.recurring = p.state.roster)
    (hwrite : ((throughSink c.write).perform p).1 = .ok ()) : ∃ r, c.apply p.state.roster = .ok r ∧
      (c.turn.perform p).2.state =
        ⟨{ p.state.registry with roster := r }, some (.memory { m with recurring := r })⟩ := by
  rcases Option.eq_none_or_eq_some m.refusal with hm | ⟨f, hm⟩
  · have hkept := perform_write_kept hsink c hm
    rw [hstored] at hkept
    cases hr : c.apply p.state.roster with
    | error f =>
      rw [hkept, hr] at hwrite
      cases hwrite
    | ok r =>
      rw [hr] at hkept
      refine ⟨r, rfl, ?_⟩
      cases c with
      | registration id job =>
        cases hr
        simp only [Call.turn, perform_bind, perform_state, hkept, perform_put, perform_pure]
        rfl
      | removal id =>
        obtain ⟨popped, hpopped, h⟩ := Outcome.bind_eq_ok.mp hr
        cases h
        simp only [Call.turn, perform_bind, perform_state, hkept, perform_put, perform_pure, perform_of, roster] at hpopped ⊢
        rw [hpopped]
        rfl
  · obtain ⟨_, hrefused⟩ := perform_write_refused hsink c hm
    rw [hrefused] at hwrite
    cases hwrite

/-- A turn whose write fails leaves both as they are. -/
theorem perform_turn_of_error {f : Fault} (hwrite : ((throughSink c.write).perform p).1 = .error f) :
    ∃ refused, (c.turn.perform p).2.state =
      { p.state with sink := some (.memory { m with refused }) } := by
  have hturn : (c.turn.perform p).2 = ((throughSink c.write).perform p).2 := by
    cases c <;> simp only [Call.turn, perform_bind, hwrite]
  rw [hturn]
  rcases Option.eq_none_or_eq_some m.refusal with hm | ⟨f', hm⟩
  · have hkept := perform_write_kept hsink c hm
    cases hr : c.apply m.recurring with
    | error f' =>
      rw [hkept, hr]
      exact ⟨m.refused, hsink ▸ rfl⟩
    | ok r =>
      rw [hkept, hr] at hwrite
      cases hwrite
  · obtain ⟨refused, hrefused⟩ := perform_write_refused hsink c hm
    exact ⟨refused, congrArg (·.2.state) hrefused⟩

end Turn

/-! ### Rosters after a call -/

namespace Call

variable {c : Call} {r r' : Roster}

theorem find?_of_apply (h : c.apply r = .ok r') (id : String) :
    r'.find? id = if c.isFor id then c.job? else r.find? id := by
  cases c with
  | registration id' job =>
    cases h
    simp only [Roster.find?_insert, isFor, job?, beq_iff_eq]
  | removal given =>
    obtain ⟨⟨removed, _⟩, hpopped, h⟩ := Outcome.bind_eq_ok.mp h
    cases h
    rcases Roster.pop_eq_ok hpopped with ⟨rfl, hnone⟩ | ⟨name, rfl, rfl⟩
    · cases given with
      | text name =>
        simp only [isFor, job?, beq_iff_eq]
        split
        · rename_i heq
          rw [← heq, hnone name rfl]
        · rfl
      | _ => rfl
    · simp only [Roster.find?_erase, isFor, job?, beq_iff_eq]

theorem mem_of_apply (h : c.apply r = .ok r') {e : String × RecurringJob} (he : e ∈ r'.entries) :
    c = registration e.1 e.2 ∨ e ∈ r.entries := by
  cases c with
  | registration id' job =>
    cases h
    rcases Roster.mem_insertEntry he with rfl | he
    · exact Or.inl rfl
    · exact Or.inr he
  | removal given =>
    obtain ⟨⟨removed, _⟩, hpopped, h⟩ := Outcome.bind_eq_ok.mp h
    cases h
    rcases Roster.pop_eq_ok hpopped with ⟨rfl, -⟩ | ⟨name, -, rfl⟩
    · exact Or.inr he
    · exact Or.inr (List.mem_filter.mp he).1

theorem ascending_of_apply (h : c.apply r = .ok r') (hr : r.Ascending) : r'.Ascending := by
  cases c with
  | registration id' job =>
    cases h
    exact hr.insert id' job
  | removal given =>
    obtain ⟨⟨removed, _⟩, hpopped, h⟩ := Outcome.bind_eq_ok.mp h
    cases h
    rcases Roster.pop_eq_ok hpopped with ⟨rfl, -⟩ | ⟨name, -, rfl⟩
    · exact hr
    · exact hr.erase name

end Call

/-! ### Usage -/

/-- A job is known by a text that is not blank, under which it is kept. -/
def Keyed (id : String) (r : RecurringJob) : Prop := Text.allBlank id.toList = false ∧ r.id = .text id

theorem keyed_of_prepare {h : Host} {now : Int} {registry : RecurringRegistry} {job : JobDefinition}
    {cron given : Value} {zone : ZoneHint} {id : String} {r : RecurringJob} {run : Int}
    (hprepare : prepare h now registry job cron given zone = .ok (id, r, run)) : Keyed id r := by
  obtain ⟨⟨hid, hkey⟩, -⟩ := prepare_eq_ok hprepare
  refine ⟨?_, hkey⟩
  unfold identifierOf at hid
  split at hid
  · split at hid
    · cases hid
    · rename_i hblank
      cases hid
      exact Bool.eq_false_iff.mpr hblank
  · cases hid

/-- A registry in use: the calls that have yet to take their turn, and those whose write the storage took, the latest
    first. -/
structure Usage where
  registry : BackedRegistry
  begun : List Call := []
  taken : List Call := []

/-- What may happen next. A registration whose arguments are not accepted ends with nothing done. -/
inductive Step : Usage → Usage → Prop
  /-- The storage begins to refuse writes, or ceases to. -/
  | refusal {u : Usage} {m : MemoryStorage} (hsink : u.registry.sink = some (.memory m)) (f : Option Fault) :
    Step u { u with registry := ⟨u.registry.registry, some (.memory { m with refusal := f })⟩ }
  /-- A registration has its arguments accepted. -/
  | registration {u : Usage} {h : Host} {now : Int} {job : JobDefinition} {cron given : Value} {zone : ZoneHint}
      {id : String} {r : RecurringJob} {run : Int}
      (hprepare : prepare h now u.registry.registry job cron given zone = .ok (id, r, run)) :
    Step u { u with begun := .registration id r :: u.begun }
  /-- A removal begins. -/
  | removal {u : Usage} (id : Value) : Step u { u with begun := .removal id :: u.begun }
  /-- One of the calls takes its turn, and the storage takes its write. -/
  | taken {b : BackedRegistry} {after taken : List Call} {c : Call} (before : List Call) (n : Nat) (events : List Event)
      (hwrite : ((throughSink c.write).perform ⟨b, n, events⟩).1 = .ok ()) :
    Step ⟨b, before ++ c :: after, taken⟩ ⟨(c.turn.perform ⟨b, n, events⟩).2.state, before ++ after, c :: taken⟩
  /-- One of the calls takes its turn, and its write fails. -/
  | failed {b : BackedRegistry} {after taken : List Call} {c : Call} {f : Fault} (before : List Call) (n : Nat)
      (events : List Event) (hwrite : ((throughSink c.write).perform ⟨b, n, events⟩).1 = .error f) :
    Step ⟨b, before ++ c :: after, taken⟩ ⟨(c.turn.perform ⟨b, n, events⟩).2.state, before ++ after, taken⟩

open Relation (ReflTransGen)

theorem turn_reachable (u : Usage) (n : Nat) (events : List Event) (c : Call) : ∃ taken,
    Step { u with begun := c :: u.begun } ⟨(c.turn.perform ⟨u.registry, n, events⟩).2.state, u.begun, taken⟩ := by
  cases hwrite : ((throughSink c.write).perform ⟨u.registry, n, events⟩).1 with
  | ok _ => exact ⟨_, Step.taken [] n events hwrite⟩
  | error f => exact ⟨_, Step.failed [] n events hwrite⟩

section Whole
variable {u : Usage} {n : Nat} {events : List Event}

/-- A registration that no other call comes in between of is one of the ways to go on. -/
theorem schedule_reachable (h : Host) (now : Int) (job : JobDefinition) (cron given : Value) (zone : ZoneHint) :
    ∃ taken, ReflTransGen Step u
      ⟨((schedule h now job cron given zone).perform ⟨u.registry, n, events⟩).2.state, u.begun, taken⟩ := by
  cases hprepare : prepare h now u.registry.registry job cron given zone with
  | error f =>
    rw [perform_schedule_of_error (p := ⟨u.registry, n, events⟩) hprepare]
    exact ⟨u.taken, .refl⟩
  | ok prepared =>
    obtain ⟨id, r, run⟩ := prepared
    rw [perform_schedule_eq_turn (p := ⟨u.registry, n, events⟩) hprepare]
    obtain ⟨taken, hturn⟩ := turn_reachable u n events (.registration id r)
    exact ⟨taken, .tail (.single (.registration hprepare)) hturn⟩

theorem delete_reachable (id : Value) : ∃ taken, ReflTransGen Step u
    ⟨((delete id).perform ⟨u.registry, n, events⟩).2.state, u.begun, taken⟩ := by
  rw [perform_delete_eq_turn (p := ⟨u.registry, n, events⟩)]
  obtain ⟨taken, hturn⟩ := turn_reachable u n events (.removal id)
  exact ⟨taken, .tail (.single (.removal id)) hturn⟩

end Whole

/-! ### Agreement -/

/-- Roster and storage agree, jobs are kept under their identifiers in ascending order, and under each stands what the
    last write that was taken has left there. -/
structure Consistent (u : Usage) : Prop where
  stored : ∃ m, u.registry.sink = some (.memory m) ∧ m.recurring = u.registry.roster
  begun : ∀ id r, Call.registration id r ∈ u.begun → Keyed id r
  keyed : ∀ e ∈ u.registry.roster.entries, Keyed e.1 e.2
  last : ∀ id, u.registry.roster.find? id = (u.taken.find? (Call.isFor id)).bind Call.job?
  ascending : u.registry.roster.Ascending

theorem Step.consistent {u v : Usage} (hstep : Step u v) (hu : Consistent u) : Consistent v := by
  obtain ⟨⟨m, hsink, hstored⟩, hbegun, hkeyed, hlast, hascending⟩ := hu
  cases hstep with
  | refusal hsink' f =>
    cases hsink.symm.trans hsink'
    exact ⟨⟨_, rfl, hstored⟩, hbegun, hkeyed, hlast, hascending⟩
  | registration hprepare =>
    refine ⟨⟨m, hsink, hstored⟩, fun id r hmem => ?_, hkeyed, hlast, hascending⟩
    rcases List.mem_cons.mp hmem with heq | hmem
    · cases heq
      exact keyed_of_prepare hprepare
    · exact hbegun id r hmem
  | removal id =>
    refine ⟨⟨m, hsink, hstored⟩, fun id' r hmem => ?_, hkeyed, hlast, hascending⟩
    rcases List.mem_cons.mp hmem with heq | hmem
    · cases heq
    · exact hbegun id' r hmem
  | @taken b after taken c before n events hwrite =>
    obtain ⟨r, hr, hstate⟩ := perform_turn_of_ok (p := ⟨b, n, events⟩) hsink c hstored hwrite
    rw [hstate]
    refine ⟨⟨_, rfl, rfl⟩, fun id job hmem => hbegun id job ?_, fun e he => ?_, fun id => ?_,
      Call.ascending_of_apply hr hascending⟩
    · exact (List.Sublist.append_left (List.sublist_cons_self c after) before).subset hmem
    · rcases Call.mem_of_apply hr he with rfl | he
      · exact hbegun _ _ (List.mem_append_right _ List.mem_cons_self)
      · exact hkeyed e he
    · -- The call that was taken is now the last one for its identifier, and for no other.
      refine (Call.find?_of_apply hr id).trans ?_
      rw [List.find?_cons]
      cases c.isFor id with
      | true => rfl
      | false => exact hlast id
  | @failed b after taken c f before n events hwrite =>
    obtain ⟨refused, hstate⟩ := perform_turn_of_error (p := ⟨b, n, events⟩) hsink c hwrite
    rw [hstate]
    refine ⟨⟨_, rfl, hstored⟩, fun id job hmem => hbegun id job ?_, hkeyed, hlast, hascending⟩
    exact (List.Sublist.append_left (List.sublist_cons_self c after) before).subset hmem

theorem Consistent.of_run {u v : Usage} (hu : Consistent u) (hrun : ReflTransGen Step u v) : Consistent v := by
  induction hrun with
  | refl => exact hu
  | tail _ hstep ih => exact hstep.consistent ih

theorem consistent_of_empty {b : BackedRegistry} {m : MemoryStorage} (hsink : b.sink = some (.memory m))
    (hroster : b.roster = {}) (hrecurring : m.recurring = {}) : Consistent ⟨b, [], []⟩ where
  stored := ⟨m, hsink, hrecurring.trans hroster.symm⟩
  begun := fun _ _ h => absurd h List.not_mem_nil
  keyed := fun _ h => absurd (hroster ▸ h) List.not_mem_nil
  last := fun _ => hroster ▸ rfl
  ascending := hroster ▸ List.Pairwise.nil

/-- However an empty registry over an empty storage in memory is used, and whichever writes the storage refuses: the
    roster is the one in the storage; every job is kept under its identifier, a text that is not blank; under an
    identifier stands what the last write for it that the storage took has left there; and the identifiers are in
    ascending order, the jobs in the same. -/
theorem roster_of_usage {b : BackedRegistry} {m : MemoryStorage} (hsink : b.sink = some (.memory m))
    (hroster : b.roster = {}) (hrecurring : m.recurring = {}) {u : Usage} (hrun : ReflTransGen Step ⟨b, [], []⟩ u) :
    u.registry.stored? = some u.registry.roster ∧
      (∀ e ∈ u.registry.roster.entries, Text.allBlank e.1.toList = false ∧ e.2.id = .text e.1) ∧
      (∀ id, u.registry.roster.find? id = (u.taken.find? (Call.isFor id)).bind Call.job?) ∧
      u.registry.roster.ids.Pairwise (· < ·) ∧
      u.registry.roster.jobs.map some = u.registry.roster.ids.map u.registry.roster.find? := by
  have hu := (consistent_of_empty hsink hroster hrecurring).of_run hrun
  obtain ⟨m', hsink', hstored⟩ := hu.stored
  refine ⟨?_, hu.keyed, hu.last, hu.ascending, hu.ascending.jobs_eq⟩
  simp only [stored?, hsink', hstored]

/-- Two registrations begin, then a removal. The storage refuses the first of the registrations, takes the removal, and
    then takes the second registration. -/
theorem roster_of_usage_seasonal : ∃ u : Usage,
    ReflTransGen Step ⟨⟨{}, some (.memory {})⟩, [], []⟩ u ∧ u.begun = [] ∧ u.taken.length = 2 ∧
      u.registry.stored? = some u.registry.roster ∧ u.registry.roster.find? "daily" = some seasonalMidnight ∧
      u.registry.roster.jobs.map some = u.registry.roster.ids.map u.registry.roster.find? := by
  have hbegin : ReflTransGen Step ⟨⟨{}, some (.memory {})⟩, [], []⟩ ⟨⟨{}, some (.memory {})⟩,
      [.removal (.text "daily"), .registration "daily" seasonalMidnight, .registration "daily" seasonalMidnight], []⟩ :=
    .tail (.tail (.single (.registration prepare_seasonalMidnight)) (.registration prepare_seasonalMidnight))
      (.removal (.text "daily"))
  have hrefused := (hbegin.tail (.refusal rfl (some (.timedOut "storage failed")))).tail
    (.failed [_] 0 [] rfl)
  have hremoved := (hrefused.tail (.refusal rfl none)).tail (.taken [] 0 [] rfl)
  have hrun := hremoved.tail (.taken [] 0 [] rfl)
  obtain ⟨hstored, -, hlast, -, hjobs⟩ := roster_of_usage rfl rfl rfl hrun
  exact ⟨_, hrun, rfl, rfl, hstored, hlast "daily", hjobs⟩

end BackedRegistry
end JobScheduling
