import Mathlib
import JobScheduling.Proofs.Activity
import JobScheduling.Proofs.Job.Batch
import JobScheduling.Proofs.Job.Failure
import JobScheduling.Proofs.Outcome
import JobScheduling.Scheduler.Basic

/-! What calls on a scheduler leave in its storage. A call asks for jobs that run once, and may fail before the first of
    them or, where its items come from a source that fails, behind the last; the storage takes them in their order and
    gives each an identifier. So calls that follow one another leave what each of them asks for, one behind the other.
    A job is described for the log when the storage has taken it: where an argument cannot be written, it is the last one
    that its call stores. -/

namespace JobScheduling

theorem Stamp.exists_text_ofInstant (u : Int) : ∃ text, (Stamp.ofInstant u).text = .ok text := ⟨_, rfl⟩

namespace JobScheduler

open Activity

/-! ### Calls -/

/-- A call that asks for jobs that run once. It finds the clock at `now`, and a time without a zone is read on the
    machine `h`. -/
inductive OnceCall where
  | enqueue (now : Int) (w : Work) (args : List Value)
  | enqueueEach (now : Int) (items : Items) (w : Work)
  | schedule (h : Host) (now : Int) (w : Work) (time : TimeValue) (args : List Value) (zone : ZoneHint)

namespace OnceCall

/-- What a call does; the identifiers of its jobs. -/
def act : OnceCall → Activity JobScheduler (List String)
  | enqueue now w args => do return [← JobScheduler.enqueue now w args]
  | enqueueEach now items w => JobScheduler.enqueueEach now items w
  | schedule h now w time args zone => do return [← JobScheduler.schedule h now w time args zone]

/-- The instant that is meant by a time: a length of time counts from the present, and any other time is read in the
    zone that is said, or else in the default one. -/
def instantOf (h : Host) (now : Int) (default : Zone) : TimeValue → ZoneHint → Outcome Int
  | .span d, _ => Calendar.checked (now + d)
  | t, .unsaid => h.toInstant t (.zone default)
  | t, said => h.toInstant t said

/-- The jobs that a call asks for, in their order, and its failure if it fails. -/
def asked (default : Zone) : OnceCall → List ScheduledJob × Option Fault
  | enqueue now w args =>
    match w.capture args with
    | .ok d => ([⟨d, .ofInstant now⟩], none)
    | .error f => ([], some f)
  | enqueueEach now items w =>
    match items.coming?, w.toTarget with
    | none, _ => ([], some (.problem (.input .noWorkItems)))
    | some _, .error f => ([], some f)
    | some (items, ending), .ok r => (items.map fun item => ⟨⟨r.1, r.2 ++ [item]⟩, .ofInstant now⟩, ending)
  | schedule h now w time args zone =>
    match instantOf h now default time zone, w.capture args with
    | .error f, _ => ([], some f)
    | .ok _, .error f => ([], some f)
    | .ok u, .ok d => ([⟨d, .ofInstant u⟩], none)

/-- A call is served by a batch of stored jobs. They are those that it asks for, and it answers with their identifiers
    unless it fails, as long as all of them can be described; else the first that cannot is the last to be stored. -/
structure Served (default : Zone) (c : OnceCall) (answer : Outcome (List String)) (batch : List (String × ScheduledJob)) :
    Prop where
  all : (∀ job ∈ (c.asked default).1, Value.areWritable job.definition.args = true) →
    batch.map (·.2) = (c.asked default).1 ∧
      answer = match (c.asked default).2 with
        | none => .ok (batch.map (·.1))
        | some f => .error f
  upTo : ∀ before job after, (c.asked default).1 = before ++ job :: after →
    (∀ earlier ∈ before, Value.areWritable earlier.definition.args = true) →
      Value.areWritable job.definition.args = false →
        batch.map (·.2) = before ++ [job] ∧ answer = .error Value.overlong

end OnceCall

/-- Calls one after the other, each with its answer, and where they lead. -/
def serve : List OnceCall → Progress JobScheduler → List (OnceCall × Outcome (List String)) × Progress JobScheduler
  | [], p => ([], p)
  | c :: calls, p =>
    let rest := serve calls (c.act.perform p).2
    ((c, (c.act.perform p).1) :: rest.1, rest.2)

/-! ### Jobs one behind the other -/

/-- What is stored of jobs that are put into a storage one behind the other, and the answer. -/
inductive Taken : List ScheduledJob → List (String × ScheduledJob) → Outcome (List String) → Prop
  | nothing : Taken [] [] (.ok [])
  | last {job : ScheduledJob} (hjob : Value.areWritable job.definition.args = false) (id : String)
      (after : List ScheduledJob) : Taken (job :: after) [(id, job)] (.error Value.overlong)
  | more {job : ScheduledJob} {jobs : List ScheduledJob} {batch : List (String × ScheduledJob)}
      {answer : Outcome (List String)} (hjob : Value.areWritable job.definition.args = true) (id : String)
      (hrest : Taken jobs batch answer) : Taken (job :: jobs) ((id, job) :: batch) (answer.map (id :: ·))

/-- What is answered once the items have ended, with a failure of their source or without one. -/
def answerAt (answer : Outcome (List String)) : Option Fault → Outcome (List String)
  | none => answer
  | some f => do
    let _ ← answer
    .error f

section Taken
variable {jobs : List ScheduledJob} {batch : List (String × ScheduledJob)} {answer : Outcome (List String)}
  (h : Taken jobs batch answer)
include h

theorem Taken.all (hwritten : ∀ job ∈ jobs, Value.areWritable job.definition.args = true) :
    batch.map (·.2) = jobs ∧ answer = .ok (batch.map (·.1)) := by
  induction h with
  | nothing => exact ⟨rfl, rfl⟩
  | last hjob id after =>
    rw [hwritten _ List.mem_cons_self] at hjob
    cases hjob
  | more _ id _ ih =>
    obtain ⟨rfl, rfl⟩ := ih fun job hjob => hwritten job (List.mem_cons_of_mem _ hjob)
    exact ⟨rfl, rfl⟩

theorem Taken.upTo {before after : List ScheduledJob} {job : ScheduledJob} (hjobs : jobs = before ++ job :: after)
    (hbefore : ∀ earlier ∈ before, Value.areWritable earlier.definition.args = true)
    (hjob : Value.areWritable job.definition.args = false) :
    batch.map (·.2) = before ++ [job] ∧ answer = .error Value.overlong := by
  induction h generalizing before with
  | nothing => exact absurd hjobs (by simp)
  | last hlast id rest =>
    cases before with
    | nil =>
      cases hjobs
      exact ⟨rfl, rfl⟩
    | cons earlier before =>
      cases hjobs
      rw [hbefore _ List.mem_cons_self] at hlast
      cases hlast
  | more hmore id hrest ih =>
    cases before with
    | nil =>
      cases hjobs
      rw [hmore] at hjob
      cases hjob
    | cons earlier before =>
      cases hjobs
      obtain ⟨hbatch, rfl⟩ := ih rfl fun j hj => hbefore j (List.mem_cons_of_mem _ hj)
      exact ⟨congrArg _ hbatch, rfl⟩

/-- What is taken of the jobs that a call asks for serves the call. -/
theorem Taken.served {default : Zone} {c : OnceCall} {ending : Option Fault} (hasked : c.asked default = (jobs, ending)) :
    c.Served default (answerAt answer ending) batch where
  all := by
    rw [hasked]
    intro hwritten
    obtain ⟨hjobs, rfl⟩ := h.all hwritten
    exact ⟨hjobs, by cases ending <;> rfl⟩
  upTo := by
    rw [hasked]
    intro before job after hjobs hbefore hjob
    obtain ⟨hbatch, rfl⟩ := h.upTo hjobs hbefore hjob
    exact ⟨hbatch, by cases ending <;> rfl⟩

end Taken

/-! ### Storing -/

/-- The scheduler with more jobs in its storage in memory. -/
def storing (m : MemoryStorage) (batch : List (String × ScheduledJob)) (s : JobScheduler) : JobScheduler :=
  { s with storage := some (.memory { m with jobs := m.jobs ++ batch }) }

theorem storing_storing (m : MemoryStorage) (batch rest : List (String × ScheduledJob)) (s : JobScheduler) :
    storing { m with jobs := m.jobs ++ batch } rest (storing m batch s) = storing m (batch ++ rest) s := by
  simp only [storing, List.append_assoc]

theorem storing_nil {m : MemoryStorage} {s : JobScheduler} (hstorage : s.storage = some (.memory m)) :
    storing m [] s = s := by
  rw [storing, List.append_nil, ← hstorage]

section Storing
variable {p : Progress JobScheduler} {m : MemoryStorage} (hstorage : p.state.storage = some (.memory m))
  (hm : m.refusal = none)
include hstorage hm

theorem perform_persist (event : String) (d : JobDefinition) (u : Int) :
    ((persist event ⟨d, .ofInstant u⟩).perform p).1 = d.describe.map (fun _ => JobId.ofNumber (p.issued + 1)) ∧
      ((persist event ⟨d, .ofInstant u⟩).perform p).2.state =
        storing m [(JobId.ofNumber (p.issued + 1), ⟨d, .ofInstant u⟩)] p.state := by
  obtain ⟨text, htext⟩ := Stamp.exists_text_ofInstant u
  simp only [persist, JobStorage.persist, JobStorage.split, MemoryStorage.persist, MemoryStorage.guardWrite, perform_bind,
    perform_state, perform_within, perform_pure, perform_issue, perform_put, perform_of, perform_log, hstorage, hm, htext]
  cases d.describe <;> exact ⟨rfl, by simp only [storing, hm]⟩

omit hstorage hm in
theorem perform_persistAll_cons {id : String} {u : Int} {d : JobDefinition}
    (hid : ((persist "job.enqueued" ⟨d, .ofInstant u⟩).perform p).1 = .ok id) (ds : List JobDefinition) :
    let q := ((persist "job.enqueued" ⟨d, .ofInstant u⟩).perform p).2
    (persistAll u (d :: ds)).perform p =
      (((persistAll u ds).perform q).1.map (id :: ·), ((persistAll u ds).perform q).2) := by
  intro q
  simp only [persistAll, perform_bind, hid]
  cases ((persistAll u ds).perform q).1 <;> rfl

/-- Definitions are stored one behind the other, all of them for one instant, up to the first that cannot be
    described. -/
theorem perform_persistAll (u : Int) (ds : List JobDefinition) : ∃ batch : List (String × ScheduledJob),
    Taken (ds.map (⟨·, .ofInstant u⟩)) batch ((persistAll u ds).perform p).1 ∧
      ((persistAll u ds).perform p).2.state = storing m batch p.state := by
  induction ds generalizing p m with
  | nil => exact ⟨[], .nothing, (storing_nil hstorage).symm⟩
  | cons d ds ih =>
    obtain ⟨hid, hstate⟩ := perform_persist hstorage hm "job.enqueued" d u
    rw [JobDefinition.describe_eq] at hid
    cases hd : Value.areWritable d.args with
    | false =>
      rw [if_neg (Bool.eq_false_iff.mp hd)] at hid
      refine ⟨[(JobId.ofNumber (p.issued + 1), ⟨d, .ofInstant u⟩)], ?_, ?_⟩
      · simp only [persistAll, perform_bind, hid]
        exact .last hd _ _
      · simp only [persistAll, perform_bind, hid]
        exact hstate
    | true =>
      rw [if_pos hd] at hid
      obtain ⟨batch, htaken, hrest⟩ := ih (p := ((persist "job.enqueued" ⟨d, .ofInstant u⟩).perform p).2)
        (m := { m with jobs := m.jobs ++ [(JobId.ofNumber (p.issued + 1), ⟨d, .ofInstant u⟩)] })
        (by rw [hstate]; rfl) hm
      rw [hstate, storing_storing] at hrest
      rw [perform_persistAll_cons hid]
      exact ⟨(JobId.ofNumber (p.issued + 1), ⟨d, .ofInstant u⟩) :: batch, .more hd _ htaken, hrest⟩

/-! ### One call -/

/-- A job that is stored at once serves a call that asks for it alone. -/
theorem served_of_persist {default : Zone} {c : OnceCall} (event : String) {d : JobDefinition} {u : Int}
    (hact : c.act.perform p = ((do return [← persist event ⟨d, .ofInstant u⟩] : Activity JobScheduler _)).perform p)
    (hasked : c.asked default = ([⟨d, .ofInstant u⟩], none)) :
    ∃ batch, c.Served default (c.act.perform p).1 batch ∧ (c.act.perform p).2.state = storing m batch p.state := by
  obtain ⟨hid, hstate⟩ := perform_persist hstorage hm event d u
  rw [JobDefinition.describe_eq] at hid
  refine ⟨[(JobId.ofNumber (p.issued + 1), ⟨d, .ofInstant u⟩)], ?_, ?_⟩
  · rw [hact, perform_bind, hid]
    cases hd : Value.areWritable d.args with
    | true => exact (Taken.more hd _ .nothing).served hasked
    | false => exact (Taken.last hd _ []).served hasked
  · rw [hact, perform_bind, hid]
    cases Value.areWritable d.args <;> exact hstate

omit hm in
/-- A call that fails before it stores anything is served by no job. -/
theorem served_of_failure {default : Zone} {c : OnceCall} {f : Fault} (hact : c.act.perform p = (.error f, p))
    (hasked : c.asked default = ([], some f)) :
    ∃ batch, c.Served default (c.act.perform p).1 batch ∧ (c.act.perform p).2.state = storing m batch p.state := by
  rw [hact]
  exact ⟨[], Taken.nothing.served hasked, (storing_nil hstorage).symm⟩

/-- The jobs of a batch are stored as they come, also if their source fails behind the last of them. -/
theorem served_of_batch {default : Zone} {c : OnceCall} {u : Int} (ds : List JobDefinition) (ending : Option Fault)
    (hact : c.act.perform p =
      (answerAt ((persistAll u ds).perform p).1 ending, ((persistAll u ds).perform p).2))
    (hasked : c.asked default = (ds.map (⟨·, .ofInstant u⟩), ending)) :
    ∃ batch, c.Served default (c.act.perform p).1 batch ∧ (c.act.perform p).2.state = storing m batch p.state := by
  obtain ⟨batch, htaken, hstate⟩ := perform_persistAll hstorage hm u ds
  rw [hact]
  exact ⟨batch, htaken.served hasked, hstate⟩

theorem perform_enqueue (now : Int) (w : Work) (args : List Value) :
    ∃ batch, (OnceCall.enqueue now w args).Served p.state.zone ((OnceCall.enqueue now w args).act.perform p).1 batch ∧
      ((OnceCall.enqueue now w args).act.perform p).2.state = storing m batch p.state := by
  cases hcapture : w.capture args with
  | error f =>
    refine served_of_failure hstorage (f := f) ?_ (by simp only [OnceCall.asked, hcapture])
    simp only [OnceCall.act, JobScheduler.enqueue, perform_bind, perform_of, hcapture]
  | ok d =>
    refine served_of_persist hstorage hm "job.enqueued" (d := d) (u := now) ?_
      (by simp only [OnceCall.asked, hcapture])
    simp only [OnceCall.act, JobScheduler.enqueue, perform_bind, perform_of, hcapture]

/-- The items of a source are asked for before the work is looked at. -/
theorem perform_enqueueEach (now : Int) (items : Items) (w : Work) :
    ∃ batch, (OnceCall.enqueueEach now items w).Served p.state.zone
        ((OnceCall.enqueueEach now items w).act.perform p).1 batch ∧
      ((OnceCall.enqueueEach now items w).act.perform p).2.state = storing m batch p.state := by
  cases hitems : items.coming? with
  | none =>
    refine served_of_failure hstorage (f := .problem (.input .noWorkItems)) ?_ (by simp only [OnceCall.asked, hitems])
    simp only [OnceCall.act, JobScheduler.enqueueEach, perform_bind, perform_of, Work.captureEach_of_none hitems]
  | some coming =>
    cases htarget : w.toTarget with
    | error f =>
      refine served_of_failure hstorage (f := f) ?_ (by simp only [OnceCall.asked, hitems, htarget])
      simp only [OnceCall.act, JobScheduler.enqueueEach, perform_bind, perform_of,
        Work.captureEach_of_error hitems htarget]
    | ok r =>
      obtain ⟨batch, hbatch, hall⟩ := Work.captureEach_of_ok hitems htarget
      refine served_of_batch hstorage hm (u := now) (coming.1.map fun item => ⟨r.1, r.2 ++ [item]⟩) coming.2 ?_
        (by simp only [OnceCall.asked, hitems, htarget, List.map_map]; rfl)
      simp only [OnceCall.act, JobScheduler.enqueueEach, perform_bind, perform_of, hbatch, hall]
      cases ((persistAll now (coming.1.map fun item => ⟨r.1, r.2 ++ [item]⟩)).perform p).1 <;>
        cases coming.2 <;> rfl

/-- The time is found before the work is looked at. -/
theorem perform_schedule (h : Host) (now : Int) (w : Work) (time : TimeValue) (args : List Value) (zone : ZoneHint) :
    ∃ batch, (OnceCall.schedule h now w time args zone).Served p.state.zone
        ((OnceCall.schedule h now w time args zone).act.perform p).1 batch ∧
      ((OnceCall.schedule h now w time args zone).act.perform p).2.state = storing m batch p.state := by
  have hinstant : p.state.runAt h now time zone = OnceCall.instantOf h now p.state.zone time zone := by
    cases time with
    | span d => rfl
    | stamp s => cases zone <;> rfl
    | value v => cases zone <;> rfl
  cases hu : OnceCall.instantOf h now p.state.zone time zone with
  | error f =>
    refine served_of_failure hstorage (f := f) ?_ (by simp only [OnceCall.asked, hu])
    simp only [OnceCall.act, JobScheduler.schedule, perform_bind, perform_state, perform_of, hinstant, hu]
  | ok u =>
    cases hcapture : w.capture args with
    | error f =>
      refine served_of_failure hstorage (f := f) ?_ (by simp only [OnceCall.asked, hu, hcapture])
      simp only [OnceCall.act, JobScheduler.schedule, perform_bind, perform_state, perform_of, hinstant, hu, hcapture]
    | ok d =>
      refine served_of_persist hstorage hm "job.scheduled" (d := d) (u := u) ?_
        (by simp only [OnceCall.asked, hu, hcapture])
      simp only [OnceCall.act, JobScheduler.schedule, perform_bind, perform_state, perform_of, hinstant, hu, hcapture]

/-- A call stores the jobs that it asks for behind those that are there, and touches nothing else. -/
theorem perform_act (c : OnceCall) : ∃ batch, c.Served p.state.zone (c.act.perform p).1 batch ∧
    (c.act.perform p).2.state = storing m batch p.state := by
  cases c with
  | enqueue now w args => exact perform_enqueue hstorage hm now w args
  | enqueueEach now items w => exact perform_enqueueEach hstorage hm now items w
  | schedule h now w time args zone => exact perform_schedule hstorage hm h now w time args zone

/-! ### Calls one after the other -/

/-- Calls leave their batches behind what is there, in the order of the calls. -/
theorem perform_serve (calls : List OnceCall) : ∃ batches : List (List (String × ScheduledJob)),
    List.Forall₂ (fun answered batch => answered.1.Served p.state.zone answered.2 batch) (serve calls p).1 batches ∧
      (serve calls p).2.state = storing m batches.flatten p.state := by
  induction calls generalizing p m with
  | nil => exact ⟨[], .nil, (storing_nil hstorage).symm⟩
  | cons c calls ih =>
    obtain ⟨batch, hserved, hstate⟩ := perform_act hstorage hm c
    obtain ⟨batches, hrest, hfinal⟩ := ih (p := (c.act.perform p).2) (m := { m with jobs := m.jobs ++ batch })
      (by rw [hstate]; rfl) hm
    rw [hstate] at hrest hfinal
    exact ⟨batch :: batches, .cons hserved hrest, hfinal.trans (storing_storing m batch batches.flatten p.state)⟩

end Storing

/-- A scheduler whose settings name no zone, on a machine that is set to UTC. -/
def unsetScheduler : JobScheduler where
  storage := some (.memory {})
  settings := {}
  zone := .utc
  own := { defaultZone := .zone .utc, lookahead := .int 5 }
  given := none
  usesGiven := false

/-- At noon one job; a second later one for each item of a source that fails behind its second; after another second
    one for a minute later. -/
def mixedCalls : List OnceCall :=
  [.enqueue 63902952000000000 (.target (.static "shop:count")) [.int 1],
    .enqueueEach 63902952001000000 (.lazy [.int 2, .int 3] (some (.jobFailed "source failed")))
      (.target (.static "shop:count")),
    .schedule default 63902952002000000 (.target (.static "shop:count")) (.span 60000000) [] .unsaid]

end JobScheduler
end JobScheduling
