import JobScheduling.Proofs.Activity
import JobScheduling.Proofs.Job.Batch
import JobScheduling.Proofs.Job.Failure
import JobScheduling.Proofs.Recurring.Failure
import JobScheduling.Scheduler.Basic

/-! How calls on a scheduler can fail. A call that is at fault fails with one of a few kinds of error, or with a general
    failure. All else comes from outside: from a storage that refuses to be written to, and from a source of items that
    breaks off. No call changes in which ways a storage refuses. -/

namespace JobScheduling

open Activity

/-- The kinds of error that a call on a scheduler can itself be at fault for. -/
def callKinds : List ErrorKind := [.validation, .scheduleExpression, .scheduleUnreachable, .jobTarget, .emptyWorkItems]

/-! ### Refusals -/

/-- If a storage refuses to be written to, it does so with an allowed failure. -/
def JobStorage.RefusesWith (allowed : Fault → Prop) : JobStorage → Prop
  | memory m => ∀ f, m.refusal = some f → allowed f
  | dispatcher _ => True

/-- The storage that a registry writes to refuses with allowed failures only. -/
def BackedRegistry.RefusesWith (allowed : Fault → Prop) (b : BackedRegistry) : Prop :=
  ∀ t, b.sink = some t → t.RefusesWith allowed

/-- The storage of a scheduler refuses with allowed failures only, and so does that of a registry that was handed in. -/
structure JobScheduler.RefusesWith (allowed : Fault → Prop) (s : JobScheduler) : Prop where
  storage : ∀ t, s.storage = some t → t.RefusesWith allowed
  given : ∀ b, s.given = some b → b.RefusesWith allowed

section Allowed
variable {allowed : Fault → Prop} (hallowed : ∀ f : Fault, f.Among callKinds → allowed f)
include hallowed

theorem keeps_of_failsAmong {σ α : Type} {kept : σ → Prop} {kinds : List ErrorKind} {r : Outcome α}
    (hr : r.FailsAmong kinds) (hkinds : kinds ⊆ callKinds) : Keeps kept allowed (Activity.of r) :=
  keeps_of fun f hf => hallowed f ((hr f hf).mono hkinds)

/-! ### Storages -/

namespace MemoryStorage

omit hallowed in
theorem guardWrite_keeps (name : String) :
    Keeps (fun m => ∀ f, MemoryStorage.refusal m = some f → allowed f) allowed (guardWrite name) := by
  refine keeps_state fun m hm => ?_
  split
  · rename_i f hf
    exact Keeps.bind (keeps_put hm) fun _ => keeps_throw (hm f hf)
  · exact keeps_pure ()

end MemoryStorage

namespace JobStorage

omit hallowed in
theorem split_keeps {α : Type} {inMemory : Activity MemoryStorage α} {dispatched : Activity Dispatcher α}
    (hmemory : Keeps (fun m => ∀ f, MemoryStorage.refusal m = some f → allowed f) allowed inMemory)
    (hdispatched : Keeps (fun _ => True) allowed dispatched) :
    Keeps (RefusesWith allowed) allowed (split inMemory dispatched) := by
  refine keeps_state fun t ht => ?_
  cases t with
  | memory m => exact Keeps.within hmemory (fun _ _ => ht) fun _ _ _ hm => hm
  | dispatcher d => exact Keeps.within hdispatched (fun _ _ => trivial) fun _ _ _ _ => trivial

theorem persist_keeps (job : ScheduledJob) : Keeps (RefusesWith allowed) allowed (persist job) := by
  refine split_keeps ?_ ?_
  · exact Keeps.bind (MemoryStorage.guardWrite_keeps _) fun _ => Keeps.bind keeps_issue fun _ =>
      keeps_state fun _ hm => Keeps.bind (keeps_put hm) fun _ => keeps_pure _
  · exact Keeps.bind keeps_issue fun _ =>
      Keeps.bind (keeps_of_failsAmong hallowed (job.definition.describe_failsAmong []) (List.nil_subset _)) fun _ =>
      keeps_state fun _ _ => Keeps.bind (keeps_put trivial) fun _ => keeps_pure _

theorem persistRecurring_keeps (id : String) (job : RecurringJob) :
    Keeps (RefusesWith allowed) allowed (persistRecurring id job) := by
  refine split_keeps ?_ ?_
  · exact Keeps.bind (MemoryStorage.guardWrite_keeps _) fun _ => keeps_state fun _ hm => keeps_put hm
  · exact Keeps.bind (keeps_of_failsAmong hallowed (job.job.describe_failsAmong []) (List.nil_subset _)) fun _ =>
      keeps_state fun _ _ => keeps_put trivial

theorem removeRecurring_keeps (id : Value) : Keeps (RefusesWith allowed) allowed (removeRecurring id) := by
  refine split_keeps ?_ ?_
  · exact Keeps.bind (MemoryStorage.guardWrite_keeps _) fun _ => keeps_state fun m hm =>
      Keeps.bind (keeps_of_failsAmong hallowed (m.recurring.pop_failsAmong id) (List.nil_subset _)) fun _ => keeps_put hm
  · refine Keeps.bind (keeps_of_failsAmong hallowed (id.printed_failsAmong []) (List.nil_subset _)) fun _ =>
      keeps_state fun d _ => ?_
    split
    · exact keeps_put trivial
    · exact keeps_log _ _ _

end JobStorage

/-! ### Registries -/

namespace BackedRegistry

omit hallowed in
theorem throughSink_keeps {a : Activity JobStorage Unit} (ha : Keeps (JobStorage.RefusesWith allowed) allowed a) :
    Keeps (RefusesWith allowed) allowed (throughSink a) := by
  refine keeps_state fun b hb => ?_
  split
  · rename_i sink hsink
    refine Keeps.within ha (fun _ _ => hb sink hsink) fun _ t _ ht t' ht' => ?_
    cases ht'
    exact ht
  · exact keeps_pure ()

theorem schedule_keeps (h : Host) (now : Int) (job : JobDefinition) (cron given : Value) (zone : ZoneHint) :
    Keeps (RefusesWith allowed) allowed (schedule h now job cron given zone) :=
  keeps_state fun b _ =>
  Keeps.bind (keeps_of_failsAmong hallowed (prepare_failsAmong h now b.registry job cron given zone) (by simp [callKinds]))
    fun _ => Keeps.bind (throughSink_keeps (JobStorage.persistRecurring_keeps hallowed _ _)) fun _ =>
    keeps_state fun _ hb => Keeps.bind (keeps_put hb) fun _ =>
    Keeps.bind (keeps_of_failsAmong hallowed (job.describe_failsAmong []) (List.nil_subset _)) fun _ =>
    Keeps.bind (keeps_of_failsAmong hallowed (h.zoneId_failsAmong _) (by simp [callKinds])) fun _ =>
    Keeps.bind (keeps_log _ _ _) fun _ => keeps_pure _

theorem delete_keeps (id : Value) : Keeps (RefusesWith allowed) allowed (delete id) :=
  Keeps.bind (throughSink_keeps (JobStorage.removeRecurring_keeps hallowed id)) fun _ =>
  keeps_state fun b hb =>
  Keeps.bind (keeps_of_failsAmong hallowed (b.roster.pop_failsAmong id) (List.nil_subset _)) fun _ =>
  Keeps.bind (keeps_put hb) fun _ => keeps_log _ _ _

end BackedRegistry

/-! ### Schedulers -/

namespace JobScheduler

theorem persist_keeps (event : String) (job : ScheduledJob) :
    Keeps (RefusesWith allowed) allowed (persist event job) := by
  refine keeps_state fun s hs => ?_
  split
  · exact keeps_throw (hallowed _ trivial)
  · rename_i storage hstorage
    have hpersist : Keeps (RefusesWith allowed) allowed (Activity.within (fun _ => storage)
        (fun storage s => { s with storage := some storage }) (JobStorage.persist job)) :=
      Keeps.within (JobStorage.persist_keeps hallowed job) (fun _ _ => hs.storage storage hstorage) fun _ _ hs' ht =>
        ⟨fun _ ht' => Option.some.inj ht' ▸ ht, hs'.given⟩
    exact Keeps.bind hpersist fun _ =>
      Keeps.bind (keeps_of_failsAmong hallowed (job.definition.describe_failsAmong []) (List.nil_subset _)) fun _ =>
      Keeps.bind (keeps_of_failsAmong hallowed job.runAt.text_failsAmong (List.nil_subset _)) fun _ =>
      Keeps.bind (keeps_log _ _ _) fun _ => keeps_pure _

theorem persistAll_keeps (now : Int) (ds : List JobDefinition) : Keeps (RefusesWith allowed) allowed (persistAll now ds) := by
  induction ds with
  | nil => exact keeps_pure []
  | cons d ds ih => exact Keeps.bind (persist_keeps hallowed _ _) fun _ => Keeps.bind ih fun _ => keeps_pure _

theorem enqueue_keeps (now : Int) (w : Work) (args : List Value) :
    Keeps (RefusesWith allowed) allowed (enqueue now w args) :=
  Keeps.bind (keeps_of_failsAmong hallowed (w.capture_failsAmong args) (by simp [callKinds])) fun _ =>
    persist_keeps hallowed _ _

/-- What a batch stores before its source breaks off leaves the storage as ready as it was. -/
theorem enqueueEach_keeps (now : Int) {items : Items} (w : Work) (hitems : ∀ f, items.ending? = some f → allowed f) :
    Keeps (RefusesWith allowed) allowed (enqueueEach now items w) := by
  refine keeps_of_bind (fun f hf => ?_) fun batch hbatch => ?_
  · exact hallowed f ((w.captureEach_failsAmong items false f hf).mono (by simp [callKinds]))
  · refine Keeps.bind (persistAll_keeps hallowed now _) fun ids => ?_
    split
    · rename_i f hf
      exact keeps_throw (hitems f ((Work.ending_of_captureEach hbatch).symm.trans hf))
    · exact keeps_pure ids

omit hallowed in
theorem runAt_failsAmong (h : Host) (now : Int) (s : JobScheduler) (time : TimeValue) (zone : ZoneHint) :
    (s.runAt h now time zone).FailsAmong [.validation] := by
  unfold runAt
  split
  · exact (Calendar.checked_failsAmong _).mono (List.nil_subset _)
  · exact h.toInstant_failsAmong _ _

theorem schedule_keeps (h : Host) (now : Int) (w : Work) (time : TimeValue) (args : List Value) (zone : ZoneHint) :
    Keeps (RefusesWith allowed) allowed (schedule h now w time args zone) :=
  keeps_state fun s _ =>
  Keeps.bind (keeps_of_failsAmong hallowed (s.runAt_failsAmong h now time zone) (by simp [callKinds])) fun _ =>
  Keeps.bind (keeps_of_failsAmong hallowed (w.capture_failsAmong args) (by simp [callKinds])) fun _ =>
    persist_keeps hallowed _ _

omit hallowed in
theorem onRegistry_keeps {α : Type} {a : Activity BackedRegistry α}
    (ha : Keeps (BackedRegistry.RefusesWith allowed) allowed a) : Keeps (RefusesWith allowed) allowed (onRegistry a) := by
  refine Keeps.within ha (fun s hs => ?_) fun s b hs hb => ?_
  · unfold registry
    split
    · rename_i b _ hb
      exact hs.given b hb
    · exact hs.storage
  · unfold withRegistry
    split
    · exact ⟨hs.storage, fun _ hb' => Option.some.inj hb' ▸ hb⟩
    · exact ⟨hb, hs.given⟩

theorem scheduleRecurringly_keeps (h : Host) (now : Int) (w : Work) (cron : Value) (args : List Value) (id : Value)
    (zone : ZoneHint) : Keeps (RefusesWith allowed) allowed (scheduleRecurringly h now w cron args id zone) :=
  Keeps.bind (keeps_of_failsAmong hallowed (w.capture_failsAmong args) (by simp [callKinds])) fun d =>
    onRegistry_keeps (BackedRegistry.schedule_keeps hallowed h now d cron id zone)

theorem deleteRecurringly_keeps (id : Value) : Keeps (RefusesWith allowed) allowed (deleteRecurringly id) :=
  onRegistry_keeps (BackedRegistry.delete_keeps hallowed id)

end JobScheduler

end Allowed
end JobScheduling
